import DiagnosticLens.Proofs.Lines

/-!
# The lines of a text

What the lines of a text are, said without going through the text: every line but the last ends in
a line end, the last one has none, and no content has a carriage return or a line feed in it. A
carriage return is a line end of its own only if no line feed follows it. A text has such lines in
one way only, and these are the lines that the index lays out.

## Implementation notes

`TextLine.LinesOf` is a relation, so it cannot share a mistake with a function that takes lines
apart. `TextLine.linesOf_iff` ties it to `TextLine.split` once, and proofs about lines can follow
either of them from there on.
-/

namespace DiagnosticLens

/-- A character that a line may have in its content. -/
def IsContent (c : Char) : Prop := c ≠ '\r' ∧ c ≠ '\n'

/-- A line end, in front of what follows it in the text. -/
inductive IsLineEnd : List Char → List Char → Prop
  /-- A line feed. -/
  | feed (rest : List Char) : IsLineEnd ['\n'] rest
  /-- A carriage return and the line feed behind it, which are one line end. -/
  | pair (rest : List Char) : IsLineEnd ['\r', '\n'] rest
  /-- A carriage return that no line feed follows. -/
  | lone {rest : List Char} (h : rest.head? ≠ some '\n') : IsLineEnd ['\r'] rest

namespace TextLine

/-- The lines of a text. -/
inductive LinesOf : List Char → List TextLine → Prop
  /-- The last line is what is left of the text when there is no more line end in it. -/
  | last {content : List Char} (hcontent : ∀ c ∈ content, IsContent c) :
      LinesOf content [⟨content, []⟩]
  /-- Any other line stands in front of the lines of the rest. -/
  | more {content ending rest : List Char} {lines : List TextLine}
      (hcontent : ∀ c ∈ content, IsContent c) (hending : IsLineEnd ending rest)
      (hrest : LinesOf rest lines) :
      LinesOf (content ++ (ending ++ rest)) (⟨content, ending⟩ :: lines)

/-- Going through a text gives its lines, the open one included. -/
theorem linesOf_split (cs opened : List Char) (h : ∀ c ∈ opened, IsContent c) :
    LinesOf (opened ++ cs) (split cs opened) := by
  have hnone : ∀ c ∈ ([] : List Char), IsContent c := by simp
  fun_induction split cs opened with
  | case1 opened =>
      rw [List.append_nil]
      exact LinesOf.last h
  | case2 rest opened ih => exact LinesOf.more h (IsLineEnd.pair rest) (ih hnone)
  | case3 rest opened ih => exact LinesOf.more h (IsLineEnd.feed rest) (ih hnone)
  | case4 rest opened hlone ih =>
      have hhead : rest.head? ≠ some '\n' := by
        intro hhead
        obtain ⟨tail, rfl⟩ := List.head?_eq_some_iff.mp hhead
        exact hlone tail rfl
      exact LinesOf.more h (IsLineEnd.lone hhead) (ih hnone)
  | case5 c rest opened _ hfeed hreturn ih =>
      have hopened : ∀ x ∈ opened ++ [c], IsContent x := by
        intro x hx
        rcases List.mem_append.mp hx with hx | hx
        · exact h x hx
        · obtain rfl := List.mem_singleton.mp hx
          exact ⟨hreturn, hfeed⟩
      simpa using ih hopened

/-- Content is taken into the open line. -/
theorem split_content {content : List Char} (h : ∀ c ∈ content, IsContent c)
    (rest opened : List Char) :
    split (content ++ rest) opened = split rest (opened ++ content) := by
  induction content generalizing opened with
  | nil => simp
  | cons c content ih =>
      obtain ⟨hreturn, hfeed⟩ := h c (List.mem_cons_self ..)
      have hlater : ∀ x ∈ content, IsContent x := fun x hx => h x (List.mem_cons_of_mem c hx)
      rw [List.cons_append, split.eq_5 _ _ _ (fun _ hc _ => hreturn hc) hfeed hreturn,
        ih hlater (opened ++ [c])]
      simp

/-- A line end closes the open line. -/
theorem split_ending {ending rest : List Char} (h : IsLineEnd ending rest) (opened : List Char) :
    split (ending ++ rest) opened = ⟨opened, ending⟩ :: split rest [] := by
  cases h with
  | feed => rfl
  | pair => rfl
  | lone hhead =>
      have hlone : ∀ tail, rest = '\n' :: tail → False := by
        rintro tail rfl
        exact hhead rfl
      exact split.eq_4 _ _ hlone

/-- A text has its lines in one way only, and going through the text finds them. -/
theorem linesOf_iff {cs : List Char} {lines : List TextLine} :
    LinesOf cs lines ↔ lines = split cs [] := by
  constructor
  · intro h
    induction h with
    | @last content hcontent =>
        have hall := split_content hcontent [] []
        rw [List.append_nil, List.nil_append] at hall
        exact hall.symm
    | more hcontent hending _ ih =>
        rw [split_content hcontent, List.nil_append, split_ending hending, ih]
  · rintro rfl
    exact linesOf_split cs [] (by simp)

/-- The lines of a text have nothing but content in their contents. -/
theorem LinesOf.isContent {cs : List Char} {lines : List TextLine} (h : LinesOf cs lines)
    {line : TextLine} (hline : line ∈ lines) : ∀ c ∈ line.content, IsContent c := by
  induction h with
  | last hcontent =>
      obtain rfl := List.mem_singleton.mp hline
      exact hcontent
  | more hcontent _ _ ih =>
      rcases List.mem_cons.mp hline with rfl | hlater
      · exact hcontent
      · exact ih hlater

end TextLine

/-- The lines that the index lays out are the lines of the text. -/
theorem linesOf_textLines (text : String) : TextLine.LinesOf text.toList (textLines text) :=
  TextLine.linesOf_iff.mpr rfl

end DiagnosticLens
