import DiagnosticLens.Proofs.LineDivision
import DiagnosticLens.Proofs.Offsets

/-!
# The table of lines

The index of a text is a table with one entry for each line, and everything that is looked up in it
later relies on what all entries have in common: they begin one behind the other, bytes and
characters agree, every bound lies between two characters, and from one entry to the next there is a
content and a line end and nothing else. So the text can be put together again from what the table
cuts out of it.

The other way round, lines can be written down with any of the three line ends, and the table of the
resulting text cuts out these lines again. There is one exception: a carriage return in front of an
empty line that ends in a line feed is taken for the first half of a single line end.

## Implementation notes

`Text.IsTable` speaks of bytes and of cuts, as those do who use the table, and does not mention the
lines from which the table is laid out. The lines come back in through `Text.linesCut`.
-/

namespace DiagnosticLens

namespace Text

/-- A byte of a text at which a character starts, or the end of the text. -/
def IsBound (text : String) (byte : Nat) : Prop := (⟨byte⟩ : String.Pos.Raw).IsValid text

/-- Where a text is divided into two, there is a bound. -/
theorem isBound_of_append {text : String} {front back : List Char}
    (h : text.toList = front ++ back) : IsBound text (byteLen front) := by
  apply String.Pos.Raw.isValid_iff_exists_append.mpr
  refine ⟨String.ofList front, String.ofList back, ?_, ?_⟩
  · rw [← String.ofList_append, ← h, String.ofList_toList]
  · have hsize : byteLen front = (String.ofList front).utf8ByteSize := by
      rw [utf8ByteSize_eq_byteLen, String.toList_ofList]
    rw [hsize]
    rfl

/-- What a table of the lines of a text, with the number of characters, has to satisfy. -/
structure IsTable (text : String) (lines : Array LineBounds) (count : Nat) : Prop where
  /-- All characters of the text are counted. -/
  count_eq : count = text.length
  /-- There is a first line, and it begins at the start of the text. -/
  starts : ∃ first, lines[0]? = some first ∧ first.startByte = 0 ∧ first.startChar = 0
  /-- Later lines begin later, in bytes and in characters. -/
  increases : ∀ (i j : Nat) (earlier later : LineBounds), i < j → lines[i]? = some earlier →
    lines[j]? = some later →
      earlier.startByte < later.startByte ∧ earlier.startChar < later.startChar
  /-- A line has as many bytes in front of it as the characters in front of it take. -/
  aligned : ∀ (i : Nat) (line : LineBounds), lines[i]? = some line →
    line.startChar ≤ text.length ∧
      line.startByte = (String.ofList (text.toList.take line.startChar)).utf8ByteSize
  /-- Neither the start of a line nor the end of its content lies inside a character, and the start
  comes first. -/
  bounded : ∀ (i : Nat) (line : LineBounds), lines[i]? = some line →
    line.startByte ≤ line.contentEndByte ∧ IsBound text line.startByte ∧
      IsBound text line.contentEndByte
  /-- In a content there are no carriage returns and line feeds. -/
  content : ∀ (i : Nat) (line : LineBounds), lines[i]? = some line → ∃ content,
    sliceBytes? line.startByte line.contentEndByte text.toList = some content ∧
      ∀ c ∈ content, IsContent c
  /-- Between a content and the next line there is a line end. -/
  ending : ∀ (i : Nat) (line next : LineBounds), lines[i]? = some line →
    lines[i + 1]? = some next → ∃ ending rest,
      sliceBytes? line.contentEndByte next.startByte text.toList = some ending ∧
        dropBytes? next.startByte text.toList = some rest ∧ IsLineEnd ending rest
  /-- The content of the last line ends with the text. -/
  ends : ∀ last, lines.back? = some last → last.contentEndByte = text.utf8ByteSize

/-- The lines that a table cuts out of a text: a content up to its end, and a line end up to the
start of the next line, or up to the end of the text. -/
def linesCut (text : String) : List LineBounds → Option (List TextLine)
  | [] => some []
  | line :: rest => do
    let next := rest.head?.elim text.utf8ByteSize LineBounds.startByte
    let content ← sliceBytes? line.startByte line.contentEndByte text.toList
    let ending ← sliceBytes? line.contentEndByte next text.toList
    return ⟨content, ending⟩ :: (← linesCut text rest)

end Text

open Text

namespace TextLine

/-- The first line of a layout begins behind what is in front of it, and so does the end of the text
if there are no lines. -/
theorem start_of_layout {text : String} {front : List Char} (char : Nat) {lines : List TextLine}
    (h : text.toList = front ++ join lines) :
    (layout (byteLen front) char lines).head?.elim text.utf8ByteSize LineBounds.startByte =
      byteLen front := by
  cases lines with
  | nil => simp [layout, utf8ByteSize_eq_byteLen, h]
  | cons line lines => rfl

/-- A table cuts out the lines from which it is laid out. -/
theorem linesCut_layout {text : String} {front : List Char} (char : Nat) {lines : List TextLine}
    (h : text.toList = front ++ join lines) :
    linesCut text (layout (byteLen front) char lines) = some lines := by
  induction lines generalizing front char with
  | nil => rfl
  | cons line lines ih =>
      have hbehind : text.toList = front ++ line.chars ++ join lines := by
        simpa [chars] using h
      have hcontent : sliceBytes? (byteLen front) (byteLen front + byteLen line.content)
          text.toList = some line.content := by
        rw [hbehind, chars, ← List.append_assoc, List.append_assoc _ line.ending]
        exact sliceBytes?_append front line.content (line.ending ++ join lines)
      have hending : sliceBytes? (byteLen front + byteLen line.content)
          (byteLen (front ++ line.chars)) text.toList = some line.ending := by
        rw [hbehind, chars, ← List.append_assoc, byteLen_append, byteLen_append]
        rw [← byteLen_append front line.content]
        exact sliceBytes?_append (front ++ line.content) line.ending (join lines)
      rw [layout, linesCut, ← byteLen_append front line.chars, start_of_layout _ hbehind,
        ih _ hbehind]
      simp only [hcontent, hending]
      rfl

theorem LinesOf.join_eq {cs : List Char} {lines : List TextLine} (h : LinesOf cs lines) :
    join lines = cs := by
  rw [linesOf_iff.mp h, join_split, List.nil_append]

/-- A line in front of another one ends in a line end. -/
theorem LinesOf.isLineEnd {cs : List Char} {lines : List TextLine} (h : LinesOf cs lines) {i : Nat}
    {line next : TextLine} (hline : lines[i]? = some line) (hnext : lines[i + 1]? = some next) :
    IsLineEnd line.ending (join (lines.drop (i + 1))) := by
  induction h generalizing i with
  | last hcontent => simp at hnext
  | more hcontent hending hrest ih =>
      cases i with
      | zero =>
          obtain rfl := Option.some.inj hline
          rw [List.drop_succ_cons, List.drop_zero, hrest.join_eq]
          exact hending
      | succ i => exact ih hline hnext

/-- The last line has no line end. -/
theorem LinesOf.ending_eq_nil {cs : List Char} {lines : List TextLine} (h : LinesOf cs lines)
    {i : Nat} {line : TextLine} (hline : lines[i]? = some line) (hlast : lines[i + 1]? = none) :
    line.ending = [] := by
  induction h generalizing i with
  | last hcontent =>
      obtain rfl := List.mem_singleton.mp (List.mem_of_getElem? hline)
      rfl
  | more hcontent hending hrest ih =>
      cases i with
      | zero =>
          -- the rest of a text has a line, and so this is not the last one
          cases hrest <;> simp at hlast
      | succ i => exact ih hline hlast

end TextLine

theorem IsLineEnd.ne_nil {ending rest : List Char} (h : IsLineEnd ending rest) : ending ≠ [] := by
  cases h <;> simp

theorem Text.byteLen_pos {cs : List Char} (h : cs ≠ []) : 0 < byteLen cs := by
  obtain ⟨c, cs, rfl⟩ := List.exists_cons_of_ne_nil h
  have := c.utf8Size_pos
  rw [byteLen_cons]
  omega

namespace Document

variable {d : Document} {i : Nat} {bounds : LineBounds}

/-- An entry of the table bounds a line of the text. -/
theorem exists_textLine (h : d.lines[i]? = some bounds) :
    ∃ line, (textLines d.text)[i]? = some line ∧ bounds =
      ⟨byteLen (d.before i), byteLen (d.before i) + byteLen line.content, (d.before i).length⟩ := by
  rw [lines_getElem?, Option.map_eq_some_iff] at h
  obtain ⟨line, hline, rfl⟩ := h
  exact ⟨line, hline, rfl⟩

/-- In front of a later line there is more of the text. -/
theorem exists_before_eq {j : Nat} {line later : TextLine} (hlt : i < j)
    (hline : (textLines d.text)[i]? = some line) (hlater : (textLines d.text)[j]? = some later) :
    ∃ between, d.before j = d.before i ++ between ∧ between ≠ [] := by
  obtain ⟨hsize, -⟩ := List.getElem?_eq_some_iff.mp hlater
  obtain ⟨next, hnext⟩ : ∃ next, (textLines d.text)[i + 1]? = some next :=
    ⟨_, List.getElem?_eq_getElem (by omega)⟩
  have hending := (linesOf_textLines d.text).isLineEnd hline hnext
  obtain ⟨more, hmore⟩ := d.exists_before_append (Nat.succ_le_of_lt hlt)
  refine ⟨line.content ++ line.ending ++ more, ?_, ?_⟩
  · rw [hmore, before_succ hline]
    simp only [List.append_assoc]
  · simp [hending.ne_nil]

/-- The bounds of a line cut out its content, and the next line begins behind the line end. -/
theorem cut_of_line {line : TextLine} (h : (textLines d.text)[i]? = some line) :
    sliceBytes? (byteLen (d.before i)) (byteLen (d.before i) + byteLen line.content)
        d.text.toList = some line.content ∧
      sliceBytes? (byteLen (d.before i) + byteLen line.content) (byteLen (d.before (i + 1)))
        d.text.toList = some line.ending ∧
      dropBytes? (byteLen (d.before (i + 1))) d.text.toList =
        some (TextLine.join ((textLines d.text).drop (i + 1))) := by
  have htext := toList_eq_of_line h
  rw [before_succ h]
  refine ⟨?_, ?_, ?_⟩
  · rw [htext]
    exact sliceBytes?_append _ _ _
  · rw [htext, byteLen_append, ← byteLen_append _ line.content, ← List.append_assoc]
    exact sliceBytes?_append _ _ _
  · rw [htext, ← List.append_assoc]
    exact dropBytes?_append _ _

/-- Behind the content of the last line there is nothing. -/
theorem toList_eq_of_last {line : TextLine} (hline : (textLines d.text)[i]? = some line)
    (hlast : (textLines d.text)[i + 1]? = none) : d.text.toList = d.before i ++ line.content := by
  have hbehind : (textLines d.text).drop (i + 1) = [] :=
    List.drop_eq_nil_of_le (List.getElem?_eq_none_iff.mp hlast)
  rw [toList_eq_of_line hline, (linesOf_textLines d.text).ending_eq_nil hline hlast, hbehind]
  simp

/-- The table of a document is a table of the lines of its text. -/
theorem isTable (d : Document) : IsTable d.text d.lines d.charLen where
  count_eq := d.charLen_eq
  starts := by
    obtain ⟨line, lines, hlines⟩ := List.exists_cons_of_ne_nil
      (TextLine.split_ne_nil d.text.toList [])
    refine ⟨⟨0, byteLen line.content, 0⟩, ?_, rfl, rfl⟩
    simp [lines_getElem?, textLines, hlines, before]
  increases := by
    intro i j earlier later hlt hearlier hlater
    obtain ⟨line, hline, rfl⟩ := exists_textLine hearlier
    obtain ⟨line', hline', rfl⟩ := exists_textLine hlater
    obtain ⟨between, hbetween, hsome⟩ := exists_before_eq hlt hline hline'
    have hbytes := byteLen_pos hsome
    have hchars := List.length_pos_iff.mpr hsome
    simp only [hbetween, byteLen_append, List.length_append]
    omega
  aligned := by
    intro i bounds hbounds
    obtain ⟨line, hline, rfl⟩ := exists_textLine hbounds
    have htext := (toList_eq_of_line hline).trans (List.append_assoc _ _ _)
    refine ⟨?_, ?_⟩
    · rw [← String.length_toList, htext, List.length_append]
      exact Nat.le_add_right _ _
    · rw [utf8ByteSize_eq_byteLen, String.toList_ofList, htext, List.take_left]
  bounded := by
    intro i bounds hbounds
    obtain ⟨line, hline, rfl⟩ := exists_textLine hbounds
    have htext := toList_eq_of_line hline
    refine ⟨Nat.le_add_right _ _, ?_, ?_⟩
    · exact isBound_of_append (htext.trans (List.append_assoc _ _ _))
    · rw [← byteLen_append]
      exact isBound_of_append htext
  content := by
    intro i bounds hbounds
    obtain ⟨line, hline, rfl⟩ := exists_textLine hbounds
    refine ⟨line.content, (cut_of_line hline).1, ?_⟩
    exact (linesOf_textLines d.text).isContent (List.mem_of_getElem? hline)
  ending := by
    intro i bounds next hbounds hnext
    obtain ⟨line, hline, rfl⟩ := exists_textLine hbounds
    obtain ⟨line', hline', rfl⟩ := exists_textLine hnext
    obtain ⟨-, hending, hrest⟩ := cut_of_line hline
    exact ⟨line.ending, _, hending, hrest, (linesOf_textLines d.text).isLineEnd hline hline'⟩
  ends := by
    intro last hlast
    rw [Array.back?_eq_getElem?] at hlast
    obtain ⟨line, hline, rfl⟩ := exists_textLine hlast
    obtain ⟨hsize, -⟩ := Array.getElem?_eq_some_iff.mp hlast
    have hbehind : (textLines d.text)[d.lines.size - 1 + 1]? = none := by
      have hnone : d.lines[d.lines.size - 1 + 1]? = none := Array.getElem?_eq_none (by omega)
      rwa [lines_getElem?, Option.map_eq_none_iff] at hnone
    rw [utf8ByteSize_eq_byteLen, toList_eq_of_last hline hbehind, byteLen_append]

end Document

namespace TextLine

/-- The three line ends. -/
def lineEnds : List (List Char) := [['\n'], ['\r', '\n'], ['\r']]

/-- Lines as they can be written down: each has a content, and all but the last have one of the
three line ends. -/
inductive IsWritten : List TextLine → Prop
  /-- The last line. -/
  | last {content : List Char} (hcontent : ∀ c ∈ content, IsContent c) :
      IsWritten [⟨content, []⟩]
  /-- A line in front of others. -/
  | more {content ending : List Char} {lines : List TextLine}
      (hcontent : ∀ c ∈ content, IsContent c) (hending : ending ∈ lineEnds)
      (hrest : IsWritten lines) : IsWritten (⟨content, ending⟩ :: lines)

/-- Some line ends in a carriage return alone, and the next one is empty and ends in a line feed. -/
def HasSplitEnd (lines : List TextLine) : Prop :=
  ∃ (i : Nat) (line : TextLine), lines[i]? = some line ∧ line.ending = ['\r'] ∧
    lines[i + 1]? = some ⟨[], ['\n']⟩

theorem not_hasSplitEnd_nil : ¬HasSplitEnd [] := by
  rintro ⟨i, line, hline, -⟩
  cases hline

theorem hasSplitEnd_cons {line : TextLine} {lines : List TextLine} :
    HasSplitEnd (line :: lines) ↔
      line.ending = ['\r'] ∧ lines[0]? = some ⟨[], ['\n']⟩ ∨ HasSplitEnd lines := by
  constructor
  · rintro ⟨i, found, hline, hending, hnext⟩
    cases i with
    | zero =>
        obtain rfl := Option.some.inj hline
        exact Or.inl ⟨hending, hnext⟩
    | succ i => exact Or.inr ⟨i, found, hline, hending, hnext⟩
  · rintro (⟨hending, hnext⟩ | ⟨i, found, hline, hending, hnext⟩)
    · exact ⟨0, line, rfl, hending, hnext⟩
    · exact ⟨i + 1, found, hline, hending, hnext⟩

/-- Written lines begin with a line feed only if the first of them is empty and ends in one. -/
theorem IsWritten.head?_eq_feed_iff {lines : List TextLine} (h : IsWritten lines) :
    (join lines).head? = some '\n' ↔ lines[0]? = some ⟨[], ['\n']⟩ := by
  have hcontent {c : Char} {content : List Char} (h : ∀ x ∈ c :: content, IsContent x)
      (rest : List Char) : (c :: content ++ rest).head? ≠ some '\n' := by
    intro hfeed
    exact (h c List.mem_cons_self).2 (Option.some.inj hfeed)
  cases h with
  | @last content hlast =>
      cases content with
      | nil => simp
      | cons c content => simpa using hcontent hlast []
  | @more content ending lines hmore hending hrest =>
      cases content with
      | nil =>
          simp only [lineEnds, List.mem_cons, List.not_mem_nil, or_false] at hending
          rcases hending with rfl | rfl | rfl <;> simp
      | cons c content => simpa using hcontent hmore (ending ++ join lines)

/-- Which of the three line ends are line ends in front of a text. -/
theorem isLineEnd_iff {ending rest : List Char} (h : ending ∈ lineEnds) :
    IsLineEnd ending rest ↔ ¬(ending = ['\r'] ∧ rest.head? = some '\n') := by
  simp only [lineEnds, List.mem_cons, List.not_mem_nil, or_false] at h
  constructor
  · rintro hending ⟨rfl, hfeed⟩
    cases hending with
    | lone hhead => exact hhead hfeed
  · intro hnot
    rcases h with rfl | rfl | rfl
    · exact IsLineEnd.feed rest
    · exact IsLineEnd.pair rest
    · exact IsLineEnd.lone fun hfeed => hnot ⟨rfl, hfeed⟩

/-- Written lines are the lines of what is written, unless a line end is split. -/
theorem IsWritten.linesOf_join_iff {lines : List TextLine} (h : IsWritten lines) :
    LinesOf (join lines) lines ↔ ¬HasSplitEnd lines := by
  induction h with
  | @last content hcontent =>
      apply iff_of_true
      · have hlines := LinesOf.last hcontent
        simpa using hlines
      · rintro ⟨i, line, -, -, hnext⟩
        simp at hnext
  | @more content ending lines hcontent hending hrest ih =>
      rw [hasSplitEnd_cons, not_or, ← hrest.head?_eq_feed_iff, ← isLineEnd_iff hending, ← ih,
        join_cons]
      constructor
      · intro hlines
        generalize htext : content ++ (ending ++ join lines) = cs at hlines
        cases hlines with
        | last => cases hrest
        | more _ hend hlines =>
            rw [List.append_cancel_left_eq, List.append_cancel_left_eq] at htext
            rw [htext]
            exact ⟨hend, hlines⟩
      · rintro ⟨hend, hlines⟩
        exact LinesOf.more hcontent hend hlines

end TextLine

/-- The table of a text cuts out its lines. -/
theorem linesCut_indexLines (text : String) :
    linesCut text (indexLines text).1.toList = some (textLines text) := by
  have htext : text.toList = [] ++ TextLine.join (textLines text) := (join_textLines text).symm
  rw [indexLines_eq]
  exact TextLine.linesCut_layout 0 htext

/-- The index of a text is a table of its lines. What it cuts out of the text is the text when it is
put together again, and lines that were written down are cut out again as they were, unless one of
them splits a line end. -/
theorem index_is_table_of_lines (text : String) :
    IsTable text (indexLines text).1 (indexLines text).2 ∧
      (∃ lines, linesCut text (indexLines text).1.toList = some lines ∧
        TextLine.join lines = text.toList) ∧
      ∀ lines, TextLine.IsWritten lines → text.toList = TextLine.join lines →
        (linesCut text (indexLines text).1.toList = some lines ↔ ¬TextLine.HasSplitEnd lines) := by
  refine ⟨(Document.ofText text 0).isTable, ?_, ?_⟩
  · exact ⟨textLines text, linesCut_indexLines text, join_textLines text⟩
  · intro lines hwritten htext
    rw [linesCut_indexLines, Option.some_inj, ← hwritten.linesOf_join_iff, ← htext,
      TextLine.linesOf_iff, eq_comm]
    rfl

/-- All three line ends, a carriage return in front of an empty line among them. -/
def allEnds : List TextLine :=
  [⟨['a'], ['\r']⟩, ⟨[], ['\r', '\n']⟩, ⟨['é'], ['\n']⟩, ⟨[], []⟩]

/-- A carriage return in front of an empty line that ends in a line feed. -/
def splitEnd : List TextLine := [⟨['a'], ['\r']⟩, ⟨[], ['\n']⟩, ⟨['b'], []⟩]

/-- The lines of the first text are cut out as they were written. In the second text the two halves
of the line end are joined. -/
theorem index_is_table_of_lines_written :
    TextLine.IsWritten allEnds ∧ ¬TextLine.HasSplitEnd allEnds ∧
      linesCut "a\r\r\né\n" (indexLines "a\r\r\né\n").1.toList = some allEnds ∧
      TextLine.IsWritten splitEnd ∧ TextLine.HasSplitEnd splitEnd ∧
      linesCut "a\r\nb" (indexLines "a\r\nb").1.toList ≠ some splitEnd := by
  have hall : TextLine.IsWritten allEnds := by
    refine .more ?_ ?_ (.more ?_ ?_ (.more ?_ ?_ (.last ?_))) <;>
      simp [IsContent, TextLine.lineEnds]
  have hnone : ¬TextLine.HasSplitEnd allEnds := by
    simp [allEnds, TextLine.hasSplitEnd_cons, TextLine.not_hasSplitEnd_nil]
  have hsplit : TextLine.IsWritten splitEnd := by
    refine .more ?_ ?_ (.more ?_ ?_ (.last ?_)) <;> simp [IsContent, TextLine.lineEnds]
  have hsome : TextLine.HasSplitEnd splitEnd := ⟨0, _, rfl, rfl, rfl⟩
  obtain ⟨-, -, hfirst⟩ := index_is_table_of_lines "a\r\r\né\n"
  obtain ⟨-, -, hsecond⟩ := index_is_table_of_lines "a\r\nb"
  refine ⟨hall, hnone, (hfirst allEnds hall (by decide)).mpr hnone, hsplit, hsome, ?_⟩
  intro hcut
  exact (hsecond splitEnd hsplit (by decide)).mp hcut hsome

end DiagnosticLens
