import DiagnosticLens.Proofs.Columns
import Mathlib.Data.Nat.Count

/-!
# The offsets that positions address

Every offset of a text has a position, except the one between a carriage return and the line feed
behind it, and no position is mapped to that one. The position of an offset is read off the text
around it: its line is the number of line ends that are complete there, and its column the number of
code units since the last of them.

## Implementation notes

Whether a line end is complete at an offset is decided by the two characters next to the offset. So
line, start and column of an offset are defined without dividing the text into lines. The lines come
in through `TextLine.LinesOf`: behind the first line everything is as in the rest of the text.
-/

namespace DiagnosticLens.Text

/-- The character in front of an offset. -/
def charBefore (cs : List Char) : Nat → Option Char
  | 0 => none
  | i + 1 => cs[i]?

/-- A line end is complete at an offset: a line feed stands in front of it, or a carriage return
that no line feed follows. -/
def LineEndsAt (cs : List Char) (offset : Nat) : Prop :=
  charBefore cs offset = some '\n' ∨ charBefore cs offset = some '\r' ∧ cs[offset]? ≠ some '\n'

instance (cs : List Char) : DecidablePred (LineEndsAt cs) :=
  fun _ => inferInstanceAs (Decidable (_ ∨ _))

/-- An offset lies between a carriage return and the line feed directly behind it. -/
def InsideLineEnd (cs : List Char) (offset : Nat) : Prop :=
  charBefore cs offset = some '\r' ∧ cs[offset]? = some '\n'

instance (cs : List Char) : DecidablePred (InsideLineEnd cs) :=
  fun _ => inferInstanceAs (Decidable (_ ∧ _))

/-- How many line ends are complete at an offset or before it. -/
def lineAt (cs : List Char) (offset : Nat) : Nat := Nat.count (LineEndsAt cs) (offset + 1)

/-- Where the line of an offset begins: at the last line end that is complete by then, or else at
the start of the text. -/
def lineStartAt (cs : List Char) (offset : Nat) : Nat := Nat.findGreatest (LineEndsAt cs) offset

/-- How many code units there are between the start of its line and an offset. -/
def columnAt (cs : List Char) (offset : Nat) : Nat :=
  utf16Units ((cs.take offset).drop (lineStartAt cs offset))

/-- Where a line end is complete, none has its inside. -/
theorem LineEndsAt.not_insideLineEnd {cs : List Char} {offset : Nat} (h : LineEndsAt cs offset) :
    ¬InsideLineEnd cs offset := by
  rintro ⟨hreturn, hfeed⟩
  rcases h with hother | ⟨-, hother⟩
  · rw [hreturn] at hother
    cases hother
  · exact hother hfeed

theorem getElem?_append_add (front rest : List Char) (i : Nat) :
    (front ++ rest)[front.length + i]? = rest[i]? := by
  rw [List.getElem?_append_right (Nat.le_add_right _ _), Nat.add_sub_cancel_left]

theorem charBefore_append_add {offset : Nat} (h : 0 < offset) (front rest : List Char) :
    charBefore (front ++ rest) (front.length + offset) = charBefore rest offset := by
  obtain ⟨i, rfl⟩ := Nat.exists_eq_succ_of_ne_zero (Nat.ne_of_gt h)
  exact getElem?_append_add front rest i

/-- Behind its front a text has the line ends of the rest. -/
theorem lineEndsAt_append {offset : Nat} (h : 0 < offset) (front rest : List Char) :
    LineEndsAt (front ++ rest) (front.length + offset) ↔ LineEndsAt rest offset := by
  rw [LineEndsAt, LineEndsAt, charBefore_append_add h, getElem?_append_add]

/-- Behind its front a text has the insides of line ends of the rest. -/
theorem insideLineEnd_append {offset : Nat} (h : 0 < offset) (front rest : List Char) :
    InsideLineEnd (front ++ rest) (front.length + offset) ↔ InsideLineEnd rest offset := by
  rw [InsideLineEnd, InsideLineEnd, charBefore_append_add h, getElem?_append_add]

/-- What is in front of an offset in the content of a line belongs to the content. -/
theorem isContent_of_charBefore {content : List Char} (h : ∀ c ∈ content, IsContent c)
    {offset : Nat} (hle : offset ≤ content.length) {rest : List Char} {c : Char}
    (hc : charBefore (content ++ rest) offset = some c) : IsContent c := by
  cases offset with
  | zero => cases hc
  | succ i =>
      change (content ++ rest)[i]? = some c at hc
      rw [List.getElem?_append_left hle] at hc
      exact h c (List.mem_of_getElem? hc)

/-- No line ends in its content. -/
theorem not_lineEndsAt_content {content : List Char} (h : ∀ c ∈ content, IsContent c)
    {offset : Nat} (hle : offset ≤ content.length) (rest : List Char) :
    ¬LineEndsAt (content ++ rest) offset := by
  rintro (hfeed | ⟨hreturn, -⟩)
  · exact (isContent_of_charBefore h hle hfeed).2 rfl
  · exact (isContent_of_charBefore h hle hreturn).1 rfl

/-- An offset in the content of the first line belongs to that line, and to no line end. -/
theorem address_content {content : List Char} (h : ∀ c ∈ content, IsContent c)
    {offset : Nat} (hle : offset ≤ content.length) (rest : List Char) :
    lineAt (content ++ rest) offset = 0 ∧
      columnAt (content ++ rest) offset = utf16Units (content.take offset) ∧
      ¬InsideLineEnd (content ++ rest) offset := by
  have hnone : ∀ e ≤ offset, ¬LineEndsAt (content ++ rest) e :=
    fun e he => not_lineEndsAt_content h (Nat.le_trans he hle) rest
  have hstart : lineStartAt (content ++ rest) offset = 0 := by
    rw [lineStartAt, Nat.findGreatest_eq_zero_iff]
    intro e _ he
    exact hnone e he
  refine ⟨?_, ?_, ?_⟩
  · rw [lineAt, Nat.count_iff_forall_not]
    intro e he
    exact hnone e (Nat.le_of_lt_succ he)
  · rw [columnAt, hstart, List.drop_zero, List.take_append_of_le_length hle]
  · rintro ⟨hreturn, -⟩
    exact (isContent_of_charBefore h hle hreturn).1 rfl

/-- A line end is complete behind its last character, and one of two characters has an inside. -/
theorem lineEnd_iff {ending rest : List Char} (h : IsLineEnd ending rest) {offset : Nat}
    (hpos : 0 < offset) (hle : offset ≤ ending.length) :
    (LineEndsAt (ending ++ rest) offset ↔ offset = ending.length) ∧
      (InsideLineEnd (ending ++ rest) offset ↔ offset < ending.length) := by
  cases h with
  | feed =>
      obtain rfl : offset = 1 := Nat.le_antisymm hle hpos
      simp [LineEndsAt, InsideLineEnd, charBefore]
  | pair =>
      obtain rfl | rfl : offset = 1 ∨ offset = 2 := by
        simp only [List.length_cons, List.length_nil] at hle
        omega
      · simp [LineEndsAt, InsideLineEnd, charBefore]
      · simp [LineEndsAt, InsideLineEnd, charBefore]
  | lone hhead =>
      obtain rfl : offset = 1 := Nat.le_antisymm hle hpos
      rw [List.head?_eq_getElem?] at hhead
      simp [LineEndsAt, InsideLineEnd, charBefore, hhead]

/-- Behind the first line of a text, lines end where they do in the rest. -/
theorem lineEndsAt_behind {content ending rest : List Char} {offset : Nat} (hpos : 0 < offset) :
    LineEndsAt (content ++ (ending ++ rest)) ((content ++ ending).length + offset) ↔
      LineEndsAt rest offset := by
  rw [← List.append_assoc]
  exact lineEndsAt_append hpos _ _

section FirstLine

variable {content ending rest : List Char} (hcontent : ∀ c ∈ content, IsContent c)
  (hending : IsLineEnd ending rest)

include hcontent hending

/-- The first line of a text ends behind its line end. -/
theorem lineEndsAt_first {offset : Nat} (hle : offset ≤ (content ++ ending).length) :
    LineEndsAt (content ++ (ending ++ rest)) offset ↔ offset = (content ++ ending).length := by
  have hsome : 0 < ending.length := by cases hending <;> decide
  rw [List.length_append] at hle ⊢
  rcases Nat.lt_or_ge content.length offset with hbehind | hin
  · obtain ⟨j, rfl⟩ := Nat.exists_eq_add_of_lt hbehind
    rw [Nat.add_assoc, lineEndsAt_append (Nat.succ_pos j),
      (lineEnd_iff hending (Nat.succ_pos j) (by omega)).1]
    omega
  · have hnot := not_lineEndsAt_content hcontent hin (ending ++ rest)
    exact iff_of_false hnot (by omega)

theorem lineEndsAt_length_first :
    LineEndsAt (content ++ (ending ++ rest)) (content ++ ending).length :=
  (lineEndsAt_first hcontent hending (Nat.le_refl _)).mpr rfl

/-- Behind the first line of a text there is one line end more than in the rest. -/
theorem lineAt_behind (offset : Nat) :
    lineAt (content ++ (ending ++ rest)) ((content ++ ending).length + offset) =
      lineAt rest offset + 1 := by
  have hnone : Nat.count (LineEndsAt (content ++ (ending ++ rest)))
      (content ++ ending).length = 0 := by
    rw [Nat.count_iff_forall_not]
    intro e he hends
    exact Nat.ne_of_lt he ((lineEndsAt_first hcontent hending (Nat.le_of_lt he)).mp hends)
  have hrest : ∀ k, LineEndsAt (content ++ (ending ++ rest)) ((content ++ ending).length + 1 + k) ↔
      LineEndsAt rest (k + 1) := by
    intro k
    rw [Nat.add_assoc, Nat.add_comm 1 k]
    exact lineEndsAt_behind (Nat.succ_pos k)
  have hzero : ¬LineEndsAt rest 0 := by simp [LineEndsAt, charBefore]
  rw [lineAt, lineAt, Nat.add_right_comm, Nat.count_add, Nat.count_succ, hnone,
    if_pos (lineEndsAt_length_first hcontent hending), Nat.count_succ', if_neg hzero]
  simp only [hrest]
  omega

/-- Behind the first line of a text, lines begin where they do in the rest. -/
theorem lineStartAt_behind (offset : Nat) :
    lineStartAt (content ++ (ending ++ rest)) ((content ++ ending).length + offset) =
      (content ++ ending).length + lineStartAt rest offset := by
  rw [lineStartAt, Nat.findGreatest_eq_iff]
  refine ⟨Nat.add_le_add_left (Nat.findGreatest_le offset) _, ?_, ?_⟩
  · intro _
    rcases Nat.eq_zero_or_pos (lineStartAt rest offset) with hzero | hpos
    · rw [hzero]
      exact lineEndsAt_length_first hcontent hending
    · rw [lineEndsAt_behind hpos]
      exact Nat.findGreatest_of_ne_zero rfl (Nat.ne_of_gt hpos)
  · intro e hlt hle hends
    obtain ⟨k, rfl⟩ := Nat.exists_eq_add_of_lt hlt
    have hlater : lineStartAt rest offset < lineStartAt rest offset + (k + 1) := by omega
    rw [Nat.add_assoc, Nat.add_assoc, lineEndsAt_behind (Nat.zero_lt_of_lt hlater)] at hends
    exact Nat.findGreatest_is_greatest hlater (by omega) hends

/-- Behind the first line of a text, columns are those of the rest. -/
theorem columnAt_behind (offset : Nat) :
    columnAt (content ++ (ending ++ rest)) ((content ++ ending).length + offset) =
      columnAt rest offset := by
  rw [columnAt, columnAt, lineStartAt_behind hcontent hending, ← List.append_assoc,
    List.take_length_add_append, List.drop_length_add_append]

/-- Behind the first line of a text, line ends have an inside where they do in the rest. -/
theorem insideLineEnd_behind (offset : Nat) :
    InsideLineEnd (content ++ (ending ++ rest)) ((content ++ ending).length + offset) ↔
      InsideLineEnd rest offset := by
  rcases Nat.eq_zero_or_pos offset with rfl | hpos
  · -- the two characters here belong to different lines, so the rest alone does not decide
    apply iff_of_false
    · exact (lineEndsAt_length_first hcontent hending).not_insideLineEnd
    · rintro ⟨hreturn, -⟩
      cases hreturn
  · rw [← List.append_assoc]
    exact insideLineEnd_append hpos _ _

end FirstLine

end DiagnosticLens.Text

namespace DiagnosticLens

open Text

namespace TextLine

/-- An offset in the content of a line has the number of this line and the units in front of it
there. It is not inside a line end. -/
theorem LinesOf.address_place {cs : List Char} {lines : List TextLine} (h : LinesOf cs lines)
    {i : Nat} {line : TextLine} (hline : lines[i]? = some line) {k : Nat}
    (hk : k ≤ line.content.length) :
    lineAt cs ((join (lines.take i)).length + k) = i ∧
      columnAt cs ((join (lines.take i)).length + k) = utf16Units (line.content.take k) ∧
      ¬InsideLineEnd cs ((join (lines.take i)).length + k) := by
  induction h generalizing i with
  | @last content hcontent =>
      -- there is no other line than the last
      obtain ⟨rfl, rfl⟩ : i = 0 ∧ ⟨content, []⟩ = line := by
        simpa [List.getElem?_singleton] using hline
      simpa using address_content hcontent hk []
  | @more content ending rest lines hcontent hending hrest ih =>
      cases i with
      | zero =>
          obtain rfl : ⟨content, ending⟩ = line := Option.some.inj hline
          simpa using address_content hcontent hk (ending ++ rest)
      | succ i =>
          obtain ⟨hat, hcolumn, houtside⟩ := ih hline
          have hbehind : (join ((⟨content, ending⟩ :: lines).take (i + 1))).length + k =
              (content ++ ending).length + ((join (lines.take i)).length + k) := by
            simp [Nat.add_assoc]
          rw [hbehind, lineAt_behind hcontent hending, columnAt_behind hcontent hending,
            insideLineEnd_behind hcontent hending, hat]
          exact ⟨rfl, hcolumn, houtside⟩

/-- Every offset of a text lies in the content of a line or inside a line end. -/
theorem LinesOf.exists_place {cs : List Char} {lines : List TextLine} (h : LinesOf cs lines)
    {offset : Nat} (hle : offset ≤ cs.length) (houtside : ¬InsideLineEnd cs offset) :
    ∃ i line k, lines[i]? = some line ∧ k ≤ line.content.length ∧
      offset = (join (lines.take i)).length + k := by
  induction h generalizing offset with
  | last hcontent => exact ⟨0, _, offset, rfl, hle, by simp⟩
  | @more content ending rest lines hcontent hending hrest ih =>
      rcases Nat.lt_or_ge content.length offset with hbehind | hin
      · rcases Nat.lt_or_ge offset (content ++ ending).length with hinside | hlater
        · -- between the content and the next line there is only the inside of the line end
          obtain ⟨j, rfl⟩ := Nat.exists_eq_add_of_lt hbehind
          rw [List.length_append] at hinside
          have hpair := (lineEnd_iff hending (Nat.succ_pos j) (by omega)).2.mpr (by omega)
          rw [Nat.add_assoc, insideLineEnd_append (Nat.succ_pos j)] at houtside
          exact absurd hpair houtside
        · obtain ⟨o, rfl⟩ := Nat.exists_eq_add_of_le hlater
          rw [insideLineEnd_behind hcontent hending] at houtside
          have hrestle : o ≤ rest.length := by
            simp only [List.length_append] at hle
            omega
          obtain ⟨i, line, k, hline, hk, rfl⟩ := ih hrestle houtside
          exact ⟨i + 1, line, k, hline, hk, by simp [Nat.add_assoc]⟩
      · exact ⟨0, _, offset, rfl, hin, by simp⟩

end TextLine

/-- The units of some characters at the front of a content lead back behind these characters. -/
theorem charsReaching_utf16Units_take {cs : List Char} {k : Nat} (h : k ≤ cs.length) :
    charsReaching (utf16Units (cs.take k)) cs = k := by
  induction cs generalizing k with
  | nil => exact (Nat.le_zero.mp h).symm
  | cons c cs ih =>
      cases k with
      | zero => rfl
      | succ k =>
          have hsome : utf16Len c + utf16Units (cs.take k) ≠ 0 := by
            have := utf16Len_pos c
            omega
          rw [List.take_succ_cons, utf16Units_cons, charsReaching, if_neg hsome,
            Nat.add_sub_cancel_left, ih (Nat.le_of_succ_le_succ h)]

namespace Document

/-- A position whose column counts the units of some characters of its line leads behind these. -/
theorem offsetOf_place (d : Document) {p : Position} {line : TextLine}
    (hline : (textLines d.text)[p.line.toNat]? = some line) {k : Nat}
    (hk : k ≤ line.content.length)
    (hcolumn : p.character.toNat = utf16Units (line.content.take k)) :
    d.offsetOf p = (d.before p.line.toNat).length + k := by
  rw [offsetOf_eq, hline]
  simp only [hcolumn, charsReaching_utf16Units_take hk]

/-- Every offset but those inside a line end is the offset of the position with its line and column,
and no position has an offset inside a line end. -/
theorem addressable_unless_inside_line_end (text : String) (version : UInt64) :
    (∀ offset ≤ text.length, ¬InsideLineEnd text.toList offset →
      lineAt text.toList offset < UInt32.size → columnAt text.toList offset < UInt32.size →
        (ofText text version).offsetOf ⟨.ofNat (lineAt text.toList offset),
          .ofNat (columnAt text.toList offset)⟩ = offset) ∧
      ∀ p : Position, (ofText text version).offsetOf p ≤ text.length ∧
        ¬InsideLineEnd text.toList ((ofText text version).offsetOf p) := by
  have hlines := linesOf_textLines text
  constructor
  · intro offset hle houtside hlineFits hcolumnFits
    rw [← String.length_toList] at hle
    obtain ⟨i, line, k, hline, hk, hoffset⟩ := hlines.exists_place hle houtside
    obtain ⟨hat, hcolumn, -⟩ := hlines.address_place hline hk
    rw [← hoffset] at hat hcolumn
    generalize hp : (⟨.ofNat (lineAt text.toList offset),
      .ofNat (columnAt text.toList offset)⟩ : Position) = p
    have hpline : p.line.toNat = i := by
      rw [← hp, UInt32.toNat_ofNat_of_lt' hlineFits, hat]
    have hpcolumn : p.character.toNat = utf16Units (line.content.take k) := by
      rw [← hp, UInt32.toNat_ofNat_of_lt' hcolumnFits, hcolumn]
    rw [← hpline] at hline hoffset
    rw [hoffset]
    exact (ofText text version).offsetOf_place hline hk hpcolumn
  · intro p
    refine ⟨(ofText text version).offsetOf_le p, ?_⟩
    rw [offsetOf_eq, text_ofText]
    cases hline : (textLines text)[p.line.toNat]? with
    | none =>
        rintro ⟨-, hfeed⟩
        rw [← String.length_toList] at hfeed
        simp at hfeed
    | some line => exact (hlines.address_place hline (charsReaching_le _ _)).2.2

/-- A text with a line end of two characters, a character of two units and a lone carriage
return. -/
def mixedEnds : String := "a\r\n😀\rb"

/-- The offset behind the wide character is that of its line and column; the one inside the first
line end is out of reach. -/
theorem addressable_unless_inside_line_end_mixed :
    ¬InsideLineEnd mixedEnds.toList 4 ∧ lineAt mixedEnds.toList 4 = 1 ∧
      columnAt mixedEnds.toList 4 = 2 ∧ (ofText mixedEnds 1).offsetOf ⟨1, 2⟩ = 4 ∧
      InsideLineEnd mixedEnds.toList 2 ∧ ∀ p, (ofText mixedEnds 1).offsetOf p ≠ 2 := by
  have houtside : ¬InsideLineEnd mixedEnds.toList 4 := by decide
  have hline : lineAt mixedEnds.toList 4 = 1 := by decide
  have hcolumn : columnAt mixedEnds.toList 4 = 2 := by decide
  have hinside : InsideLineEnd mixedEnds.toList 2 := by decide
  obtain ⟨haddressed, hreached⟩ := addressable_unless_inside_line_end mixedEnds 1
  have hlineFits : lineAt mixedEnds.toList 4 < UInt32.size := by decide
  have hcolumnFits : columnAt mixedEnds.toList 4 < UInt32.size := by decide
  have hoffset := haddressed 4 (by decide) houtside hlineFits hcolumnFits
  rw [hline, hcolumn] at hoffset
  refine ⟨houtside, hline, hcolumn, hoffset, hinside, ?_⟩
  intro p hp
  rw [← hp] at hinside
  exact (hreached p).2 hinside

end Document

end DiagnosticLens
