import DiagnosticLens.Proofs.Delivery
import DiagnosticLens.Proofs.LineDivision
import Mathlib.Data.List.Count
import Mathlib.Order.Monotone.Basic
import Mathlib.Order.Nat

/-!
# Line feeds with and without a carriage return

A text may end its lines in a line feed, or in a carriage return and a line feed. The two differ in
every offset behind the first line, and in nothing else: the same diagnostics cover some text, in
the same order, and what each of them covers differs only in its line ends.

## Implementation notes

The text with carriage returns is made from the one without them, so there is one direction only.
`crlfOffset` says where an offset of the one text is found in the other. All that is known about it
comes from `Text.crlf_append`: a text is cut at an offset before or after it is changed.
-/

namespace DiagnosticLens

variable {σ ε : Type}

namespace Text

/-- Some characters with a carriage return put in front of every line feed. -/
def crlf (cs : List Char) : List Char := cs.flatMap fun c => if c = '\n' then ['\r', '\n'] else [c]

@[simp] theorem crlf_nil : crlf [] = [] := rfl

@[simp] theorem crlf_append (front back : List Char) :
    crlf (front ++ back) = crlf front ++ crlf back := by
  simp [crlf]

/-- One character is added for every line feed. -/
theorem length_crlf (cs : List Char) : (crlf cs).length = cs.length + cs.count '\n' := by
  induction cs with
  | nil => rfl
  | cons c cs ih =>
      rw [← List.singleton_append, crlf_append, List.length_append, ih, List.count_append,
        List.length_append]
      by_cases hc : c = '\n'
      · subst hc
        simp [crlf]
        omega
      · simp [crlf, hc]
        omega

/-- A part that is cut out first and changed then can also be cut out of the changed whole. -/
theorem crlf_slice (cs : List Char) (i n : Nat) :
    ((crlf cs).drop (crlf (cs.take i)).length).take (crlf ((cs.drop i).take n)).length =
      crlf ((cs.drop i).take n) := by
  have hcut : crlf cs =
      crlf (cs.take i) ++ (crlf ((cs.drop i).take n) ++ crlf ((cs.drop i).drop n)) := by
    rw [← crlf_append, List.take_append_drop, ← crlf_append, List.take_append_drop]
  rw [hcut, List.drop_left, List.take_left]

/-- Characters without a line feed among them stay as they are. -/
theorem crlf_of_notMem {cs : List Char} (h : '\n' ∉ cs) : crlf cs = cs := by
  induction cs with
  | nil => rfl
  | cons c cs ih =>
      rw [List.mem_cons, not_or] at h
      obtain ⟨hc, hcs⟩ := h
      rw [← List.singleton_append, crlf_append, ih hcs]
      simp [crlf, Ne.symm hc]

end Text

/-- A text with a carriage return put in front of every line feed. -/
def crlfText (text : String) : String := String.ofList (Text.crlf text.toList)

/-- The place of an offset when a carriage return is put in front of every line feed. -/
def crlfOffset (text : String) (offset : Nat) : Nat :=
  offset + (text.toList.take offset).count '\n'

/-- An offset moves by as much as the text in front of it grows. -/
theorem length_crlf_take {text : String} {offset : Nat} (h : offset ≤ text.length) :
    (Text.crlf (text.toList.take offset)).length = crlfOffset text offset := by
  rw [Text.length_crlf, List.length_take_of_le (by rwa [String.length_toList]), crlfOffset]

theorem length_crlfText (text : String) : (crlfText text).length = crlfOffset text text.length := by
  rw [← length_crlf_take (Nat.le_refl _), crlfText, ← String.length_toList, ← String.length_toList,
    String.toList_ofList, List.take_length]

/-- Behind the last line feed in front of it, an offset moves by as much as this line feed does. -/
theorem crlfOffset_of_append {text : String} {front part rest : List Char}
    (htext : text.toList = front ++ part ++ rest) (hpart : '\n' ∉ part) :
    crlfOffset text (front.length + part.length) = (Text.crlf front).length + part.length := by
  have hcount : part.count '\n' = 0 := List.count_eq_zero.mpr hpart
  rw [crlfOffset, htext, ← List.length_append, List.take_left, List.count_append, hcount,
    Text.length_crlf, List.length_append]
  omega

/-- Offsets stay in their order, and different ones stay different. -/
theorem crlfOffset_strictMono (text : String) : StrictMono (crlfOffset text) := by
  intro offset later h
  have hcount : (text.toList.take offset).count '\n' ≤ (text.toList.take later).count '\n' :=
    (List.take_sublist_take_left (Nat.le_of_lt h)).count_le _
  rw [crlfOffset, crlfOffset]
  omega

namespace TextLine

/-- A line with a carriage return put in front of its line feed. -/
def crlf (line : TextLine) : TextLine := ⟨line.content, Text.crlf line.ending⟩

theorem feed_notMem {content : List Char} (h : ∀ c ∈ content, IsContent c) : '\n' ∉ content := by
  intro hmem
  exact (h _ hmem).2 rfl

/-- There is no line feed in the content of a line. -/
theorem LinesOf.feed_notMem_content {cs : List Char} {lines : List TextLine} (h : LinesOf cs lines)
    {line : TextLine} (hline : line ∈ lines) : '\n' ∉ line.content :=
  feed_notMem (h.isContent hline)

/-- A text without carriage returns keeps its lines when they are put in. -/
theorem LinesOf.crlf {cs : List Char} {lines : List TextLine} (h : LinesOf cs lines)
    (hplain : '\r' ∉ cs) : LinesOf (Text.crlf cs) (lines.map TextLine.crlf) := by
  induction h with
  | last hcontent =>
      rw [Text.crlf_of_notMem (feed_notMem hcontent)]
      exact LinesOf.last hcontent
  | more hcontent hending _ ih =>
      rw [Text.crlf_append, Text.crlf_append, Text.crlf_of_notMem (feed_notMem hcontent)]
      -- the text has no carriage return, so only a line feed can have ended the line
      cases hending with
      | feed =>
          apply LinesOf.more hcontent (IsLineEnd.pair _)
          apply ih
          intro hmem
          exact hplain (by simp [hmem])
      | pair => simp at hplain
      | lone => simp at hplain

/-- Lines put together with or without carriage returns are the same text with or without them. -/
theorem join_map_crlf {lines : List TextLine} (h : ∀ line ∈ lines, '\n' ∉ line.content) :
    join (lines.map crlf) = Text.crlf (join lines) := by
  induction lines with
  | nil => rfl
  | cons line lines ih =>
      have hfirst := Text.crlf_of_notMem (h line (List.mem_cons_self ..))
      have hlater := ih fun later hlater => h later (List.mem_cons_of_mem _ hlater)
      rw [List.map_cons, join_cons, join_cons, hlater, Text.crlf_append, Text.crlf_append, hfirst]
      rfl

end TextLine

section Endings

variable {text : String} (hplain : '\r' ∉ text.toList)
include hplain

theorem textLines_crlfText : textLines (crlfText text) = (textLines text).map TextLine.crlf := by
  have hlines := (linesOf_textLines text).crlf hplain
  rw [TextLine.linesOf_iff] at hlines
  rw [hlines, textLines, crlfText, String.toList_ofList]

namespace Document

/-- What is in front of a line is the same text with carriage returns. -/
theorem before_crlfText (version : UInt64) (i : Nat) :
    (ofText (crlfText text) version).before i = Text.crlf ((ofText text version).before i) := by
  simp only [before, text_ofText]
  rw [textLines_crlfText hplain, ← List.map_take, TextLine.join_map_crlf]
  intro line hline
  exact (linesOf_textLines text).feed_notMem_content (List.mem_of_mem_take hline)

/-- A place in the content of a line moves with the start of the line. -/
theorem crlfOffset_in_line (version : UInt64) {i : Nat} {line : TextLine}
    (hline : (textLines text)[i]? = some line) {k : Nat} (hk : k ≤ line.content.length) :
    crlfOffset text (((ofText text version).before i).length + k) =
      ((ofText (crlfText text) version).before i).length + k := by
  have htext : text.toList = (ofText text version).before i ++ line.content.take k ++
      (line.content.drop k ++ (line.ending ++ TextLine.join ((textLines text).drop (i + 1)))) := by
    calc
      text.toList = (ofText text version).before i ++ line.content ++
          (line.ending ++ TextLine.join ((textLines text).drop (i + 1))) :=
        toList_eq_of_line (d := ofText text version) hline
      _ = (ofText text version).before i ++ (line.content.take k ++ line.content.drop k) ++
          (line.ending ++ TextLine.join ((textLines text).drop (i + 1))) := by
        rw [List.take_append_drop]
      _ = _ := by simp only [List.append_assoc]
  have hpart : '\n' ∉ line.content.take k := by
    intro hmem
    exact (linesOf_textLines text).feed_notMem_content (List.mem_of_getElem? hline)
      (List.mem_of_mem_take hmem)
  have hmoved := crlfOffset_of_append htext hpart
  rwa [List.length_take_of_le hk, ← before_crlfText hplain] at hmoved

/-- A position has the offset that its offset without carriage returns moves to. -/
theorem offsetOf_crlfText (version : UInt64) (p : Position) :
    (ofText (crlfText text) version).offsetOf p =
      crlfOffset text ((ofText text version).offsetOf p) := by
  rw [offsetOf_eq, offsetOf_eq, text_ofText, text_ofText, textLines_crlfText hplain,
    List.getElem?_map]
  cases hline : (textLines text)[p.line.toNat]? with
  | none => exact length_crlfText text
  | some line => exact (crlfOffset_in_line hplain version hline (charsReaching_le _ _)).symm

end Document

end Endings

/-- The place of a span when a carriage return is put in front of every line feed. -/
def TextSpan.crlf (span : TextSpan) (text : String) : TextSpan :=
  ⟨crlfOffset text span.start, crlfOffset text span.stop,
    crlfOffset_strictMono text span.start_lt_stop⟩

/-- What a moved span covers is what the span covered, with carriage returns. -/
theorem excerpt_crlfText {text : String} {span : TextSpan} (h : span.stop ≤ text.length) :
    excerpt (crlfText text) (span.crlf text) = crlfText (excerpt text span) := by
  have hlt := span.start_lt_stop
  have hfront : (span.crlf text).start = (Text.crlf (text.toList.take span.start)).length :=
    (length_crlf_take (by omega)).symm
  have htake : text.toList.take span.stop =
      text.toList.take span.start ++ (text.toList.drop span.start).take span.charLen := by
    rw [TextSpan.charLen, ← List.take_add, Nat.add_sub_cancel' (Nat.le_of_lt hlt)]
  have hmiddle : (span.crlf text).charLen =
      (Text.crlf ((text.toList.drop span.start).take span.charLen)).length := by
    have hstop : (span.crlf text).stop = (Text.crlf (text.toList.take span.stop)).length :=
      (length_crlf_take h).symm
    rw [htake, Text.crlf_append, List.length_append, ← hfront] at hstop
    rw [TextSpan.charLen, hstop, Nat.add_sub_cancel_left]
  rw [excerpt, excerpt, crlfText, crlfText, String.toList_ofList, String.toList_ofList, hfront,
    hmiddle, Text.crlf_slice]

/-- An anchor in a text, in the text with a carriage return put in front of every line feed. -/
def Anchor.crlf (text : String) (anchor : Anchor) : Anchor :=
  { anchor with text := crlfText anchor.text, span := anchor.span.crlf text }

/-- A problem in a text, in the text with a carriage return put in front of every line feed. -/
def Problem.crlf (text : String) (problem : Problem) : Problem :=
  { problem with anchor := problem.anchor.crlf text }

/-- A diagnostic has an anchor in both texts or in none, and at the same place. -/
theorem Document.anchor?_crlfText {text : String} (hplain : '\r' ∉ text.toList) (version : UInt64)
    (file : Path) (d : Diagnostic) :
    (ofText (crlfText text) version).anchor? file d =
      ((ofText text version).anchor? file d).map (Anchor.crlf text) := by
  have hmoved : crlfOffset text ((ofText text version).offsetOf d.range.start) <
        crlfOffset text ((ofText text version).offsetOf d.range.stop) ↔
      (ofText text version).offsetOf d.range.start < (ofText text version).offsetOf d.range.stop :=
    (crlfOffset_strictMono text).lt_iff_lt
  rw [anchor?, anchor?]
  simp only [offsetOf_crlfText hplain, text_ofText]
  by_cases h : (ofText text version).offsetOf d.range.start <
      (ofText text version).offsetOf d.range.stop
  · have htext : excerpt (crlfText text) (TextSpan.crlf ⟨_, _, h⟩ text) =
        crlfText (excerpt text ⟨_, _, h⟩) := excerpt_crlfText ((ofText text version).offsetOf_le _)
    rw [dif_pos h, dif_pos (hmoved.mpr h), Option.map_some, Anchor.crlf, ← htext]
    rfl
  · rw [dif_neg h, dif_neg (hmoved.not.mpr h)]
    rfl

/-- The same diagnostics are visible in both texts. -/
theorem Document.visible_crlfText {text : String} (hplain : '\r' ∉ text.toList) (version : UInt64)
    (file : Path) (ds : List Diagnostic) :
    (ofText (crlfText text) version).visible file ds =
      ((ofText text version).visible file ds).map fun v => (v.1, v.2.crlf text) := by
  rw [visible, visible, List.map_filterMap]
  apply List.filterMap_congr
  intro d _
  rw [anchor?_crlfText hplain, Option.map_map, Option.map_map]
  rfl

/-- Every anchor of a visible diagnostic is valid, in either text. -/
theorem Document.check_of_mem_visible {text : String} (hplain : '\r' ∉ text.toList)
    {version : UInt64} {file : Path} {ds : List Diagnostic} {v : Diagnostic × Anchor}
    (hv : v ∈ (ofText text version).visible file ds) :
    v.2.check = .ok () ∧ (v.2.crlf text).check = .ok () := by
  have hanchor : (ofText text version).anchor? file v.1 = some v.2 := (Pass.mem_visible.mp hv).2
  have hanchor' : (ofText (crlfText text) version).anchor? file v.1 = some (v.2.crlf text) := by
    rw [anchor?_crlfText hplain, hanchor, Option.map_some]
  exact ⟨check_of_anchor? hanchor, check_of_anchor? hanchor'⟩

/-- Without fixes, the problem of a diagnostic is the same in both texts. -/
theorem Document.problem?_crlfText {text : String} (hplain : '\r' ∉ text.toList)
    (version : UInt64) (file : Path) (isPreview : Bool) (d : Diagnostic) :
    (ofText (crlfText text) version).problem? file isPreview d =
      ((ofText text version).problem? file isPreview d).map (Problem.crlf text) := by
  rw [problem?, problem?, anchor?_crlfText hplain, Option.map_map, Option.map_map]
  rfl

/-- Two sessions that differ in their text only, where the second has a carriage return in front of
every line feed. They answer alike, also when they are asked for fixes at one place. -/
structure Session.SameButEndings (session other : Session σ) (text : String) : Prop where
  isDisposed : other.isDisposed = session.isDisposed
  diagnostics : other.diagnostics = session.diagnostics
  verify : other.verify = session.verify
  documentVersion : other.documentVersion = session.documentVersion
  document : ∀ s, ∃ version s', session.document.run s = (.ofText text version, s') ∧
    other.document.run s = (.ofText (crlfText text) version, s')
  codeAction : ∀ anchor, other.codeAction (anchor.crlf text) = session.codeAction anchor

namespace Pass

/-- In a turn at a valid anchor the plain factory takes the problem that is asked for. -/
theorem taken_turns_cons {ctx : Context σ} (hfactory : ctx.factory = ProblemFactory.plain σ)
    {anchor : Anchor} (hcheck : anchor.check = .ok ()) (d : Diagnostic)
    (rest : List (Diagnostic × Anchor)) (s : σ) :
    taken (turns ctx ((d, anchor) :: rest) s).1 =
        (ctx.submission d anchor ((ctx.session.codeAction anchor).run s).1).problem ::
          taken (turns ctx rest ((ctx.session.codeAction anchor).run s).2).1 ∧
      (turns ctx ((d, anchor) :: rest) s).2 =
        (turns ctx rest ((ctx.session.codeAction anchor).run s).2).2 := by
  have hmade : ∀ answer s', (ctx.factory.submit (ctx.submission d anchor answer)).run s' =
      (.ok (ctx.submission d anchor answer).problem, s') := by
    intro answer s'
    have hvalid : (ctx.submission d anchor answer).anchor.check = .ok () := hcheck
    rw [hfactory]
    exact ProblemFactory.submit_plain hvalid s'
  simp only [turns, hmade, taken, List.filterMap_cons]
  exact ⟨rfl, trivial⟩

section Endings

variable {ctx : Context σ} (hfactory : ctx.factory = ProblemFactory.plain σ) {other : Session σ}
  {text : String} (hsame : ctx.session.SameButEndings other text)
include hfactory hsame

/-- In every turn the same question is asked and the same problem is taken. -/
theorem taken_turns_crlf {visible : List (Diagnostic × Anchor)}
    (hvalid : ∀ v ∈ visible, v.2.check = .ok () ∧ (v.2.crlf text).check = .ok ()) (s : σ) :
    taken (turns { ctx with session := other } (visible.map fun v => (v.1, v.2.crlf text)) s).1 =
        (taken (turns ctx visible s).1).map (Problem.crlf text) ∧
      (turns { ctx with session := other } (visible.map fun v => (v.1, v.2.crlf text)) s).2 =
        (turns ctx visible s).2 := by
  induction visible generalizing s with
  | nil => exact ⟨rfl, rfl⟩
  | cons v visible ih =>
      obtain ⟨d, anchor⟩ := v
      obtain ⟨hcheck, hcheck'⟩ := hvalid (d, anchor) (List.mem_cons_self ..)
      have hlater := ih fun w hw => hvalid w (List.mem_cons_of_mem _ hw)
      obtain ⟨htaken, hstate⟩ := taken_turns_cons hfactory hcheck d visible s
      have hfactory' : { ctx with session := other }.factory = ProblemFactory.plain σ := hfactory
      obtain ⟨htaken', hstate'⟩ := taken_turns_cons hfactory' hcheck' d
        (visible.map fun v => (v.1, v.2.crlf text)) s
      obtain ⟨hrest, hend⟩ := hlater ((ctx.session.codeAction anchor).run s).2
      rw [List.map_cons, htaken, hstate, htaken', hstate', hsame.codeAction, hrest, hend]
      exact ⟨rfl, rfl⟩

omit hfactory in
/-- The checks at the end are the same. -/
theorem confirm_crlf (snapshot : Snapshot) (version : UInt64) :
    confirm other snapshot (.ofText (crlfText text) version) =
      confirm ctx.session snapshot (.ofText text version) := by
  rw [confirm, confirm, hsame.verify, hsame.documentVersion]
  rfl

/-- A pass over either text comes to the same end, with the same problems. -/
theorem run_crlf (hplain : '\r' ∉ text.toList) (s : σ) :
    ((run { ctx with session := other }).run s).result =
        ((run ctx).run s).result.map (List.map (Problem.crlf text)) ∧
      ((run { ctx with session := other }).run s).state = ((run ctx).run s).state := by
  cases hlive : (ctx.session.isDisposed.run s).1 with
  | true => simp [run, hsame.isDisposed, hlive, Except.map]
  | false =>
      rcases hdiagnostics : ctx.session.diagnostics.run (ctx.session.isDisposed.run s).2 with
        ⟨error | snapshot, s₁⟩
      · simp [run, hsame.isDisposed, hsame.diagnostics, hlive, hdiagnostics, Except.map]
      obtain ⟨version, s₂, hdocument, hdocument'⟩ := hsame.document s₁
      have hlive' : ({ ctx with session := other }.session.isDisposed.run s).1 = false := by
        rw [hsame.isDisposed, hlive]
      have hdiagnostics' : other.diagnostics.run (other.isDisposed.run s).2 =
          (.ok snapshot, s₁) := by
        rw [hsame.isDisposed, hsame.diagnostics, hdiagnostics]
      obtain ⟨hresult, hstate⟩ := run_of_readings hlive hdiagnostics hdocument
      obtain ⟨hresult', hstate'⟩ := run_of_readings hlive' hdiagnostics' hdocument'
      obtain ⟨htaken, hend⟩ := taken_turns_crlf hfactory hsame
        (fun v => Document.check_of_mem_visible hplain) s₂
      rw [Document.visible_crlfText hplain, htaken, hend, confirm_crlf hsame] at hresult'
      rw [Document.visible_crlfText hplain, hend, confirm_crlf hsame] at hstate'
      rw [hresult', hresult, hstate', hstate]
      refine ⟨?_, rfl⟩
      set ts := turns ctx ((Document.ofText text version).visible ctx.file snapshot.items) s₂
      cases ((confirm ctx.session snapshot (.ofText text version)).run ts.2).result with
      | error error => rfl
      | ok u => rfl

end Endings

/-- It makes no difference to what is reported how the lines of a text end. Every position moves by
the number of line feeds in front of it. Sessions that differ in nothing but the text come to the
same result, problem for problem. Quiet ones do report, one problem for each diagnostic that covers
some text. -/
theorem line_ends_make_no_difference {text : String} (hplain : '\r' ∉ text.toList) (uri : String)
    (file : Path) (isPreview : Bool) :
    (∀ version p, (Document.ofText (crlfText text) version).offsetOf p =
        (Document.ofText text version).offsetOf p +
          (text.toList.take ((Document.ofText text version).offsetOf p)).count '\n') ∧
      (∀ (session other : Session σ), session.SameButEndings other text → ∀ s,
        ((run ⟨uri, file, other, .plain σ, isPreview⟩).run s).result =
          ((run ⟨uri, file, session, .plain σ, isPreview⟩).run s).result.map
            (List.map (Problem.crlf text))) ∧
      ∀ (session other : Session (World ε)) own version w,
        session.Quiet own text version w → other.Quiet own (crlfText text) version w →
        ∃ problems, problems = (w.store.entry own).items.filterMap
            ((Document.ofText text version).problem? file isPreview) ∧
          ((run ⟨uri, file, session, .plain (World ε), isPreview⟩).run w).result = .ok problems ∧
          ((run ⟨uri, file, other, .plain (World ε), isPreview⟩).run w).result =
            .ok (problems.map (Problem.crlf text)) := by
  refine ⟨?_, ?_, ?_⟩
  · intro version p
    exact Document.offsetOf_crlfText hplain version p
  · intro session other hsame s
    let ctx : Context σ := ⟨uri, file, session, .plain σ, isPreview⟩
    have hfactory : ctx.factory = .plain σ := rfl
    exact (run_crlf hfactory hsame hplain s).1
  · intro session other own version w hquiet hquiet'
    refine ⟨_, rfl, run_of_quiet rfl hquiet, ?_⟩
    rw [run_of_quiet rfl hquiet', List.map_filterMap]
    simp only [Document.problem?_crlfText hplain]

/-- Three lines. -/
def threeLines : String := "ab\n😀c\nd"

/-- Three diagnostics for them. The first goes on in the next line, the second lies behind the end
of a line and covers nothing, the third ends behind the text. -/
def threeLinesWorld : World Unit :=
  ⟨Store.empty.publish "file:///a.c"
    [⟨⟨⟨0, 1⟩, ⟨1, 2⟩⟩, some .error, "long", none, none⟩,
      ⟨⟨⟨0, 2⟩, ⟨0, 9⟩⟩, none, "behind", none, none⟩,
      ⟨⟨⟨1, 2⟩, ⟨7, 0⟩⟩, none, "last", none, none⟩], ()⟩

/-- What is reported for them, with the text and the span of each. -/
def threeLinesProblems (long : String) (longSpan : TextSpan) (last : String) (lastSpan : TextSpan) :
    List Problem :=
  [⟨⟨long, longSpan, ⟨⟨0, 1⟩, ⟨1, 2⟩⟩, 1, Manager.sourceFile⟩, "long", some .genericError, [],
      false⟩,
    ⟨⟨last, lastSpan, ⟨⟨1, 2⟩, ⟨7, 0⟩⟩, 1, Manager.sourceFile⟩, "last", none, [], false⟩]

/-- A pass over the three lines in one of the two texts. -/
def threeLinesContext (text : String) : Context (World Unit) :=
  ⟨"file:///a.c", Manager.sourceFile, Manager.quietSession "file:///a.c" text 1, .plain _, false⟩

/-- The passes over both texts report the same two diagnostics. -/
theorem line_ends_make_no_difference_three_lines :
    '\r' ∉ threeLines.toList ∧ crlfText threeLines = "ab\r\n😀c\r\nd" ∧
      (Document.ofText (crlfText threeLines) 1).offsetOf ⟨2, 1⟩ = 7 + 2 ∧
      (threeLinesContext threeLines).session.SameButEndings
        (threeLinesContext (crlfText threeLines)).session threeLines ∧
      ((run (threeLinesContext threeLines)).run threeLinesWorld).result =
        .ok (threeLinesProblems "b\n😀" ⟨1, 4, by decide⟩ "c\nd" ⟨4, 7, by decide⟩) ∧
      ((run (threeLinesContext (crlfText threeLines))).run threeLinesWorld).result =
        .ok (threeLinesProblems "b\r\n😀" ⟨1, 5, by decide⟩ "c\r\nd" ⟨5, 9, by decide⟩) := by
  have hplain : '\r' ∉ threeLines.toList := by decide
  have hsame : (threeLinesContext threeLines).session.SameButEndings
      (threeLinesContext (crlfText threeLines)).session threeLines :=
    ⟨rfl, rfl, rfl, rfl, fun s => ⟨1, s, rfl, rfl⟩, fun _ => rfl⟩
  obtain ⟨hoffset, hlockstep, hquiet⟩ :=
    line_ends_make_no_difference hplain "file:///a.c" Manager.sourceFile false
  obtain ⟨problems, hproblems, hresult, -⟩ := hquiet _ _ _ _ threeLinesWorld
    (Manager.quiet_quietSession _ threeLines 1 _) (Manager.quiet_quietSession _ _ 1 _)
  have hwithout : ((run (threeLinesContext threeLines)).run threeLinesWorld).result =
      .ok (threeLinesProblems "b\n😀" ⟨1, 4, by decide⟩ "c\nd" ⟨4, 7, by decide⟩) := by
    rw [threeLinesContext, hresult, hproblems]
    rfl
  refine ⟨hplain, rfl, ?_, hsame, hwithout, ?_⟩
  · rw [hoffset]
    rfl
  · apply (hlockstep _ _ hsame threeLinesWorld).trans
    exact congrArg (Except.map _) hwithout

end Pass

end DiagnosticLens
