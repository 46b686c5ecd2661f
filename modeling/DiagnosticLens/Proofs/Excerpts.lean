import DiagnosticLens.Proofs.OffsetOrder

/-!
# Excerpts by way of the index

Cutting a span out of a text goes through the line index: the line of an offset is searched for, the
rest of the way is counted in characters, and the text is cut at the bytes that this gives. The
result is as if the characters had been counted from the start of the text. No span gets lost on the
way: the only ones without a text are those that run past the end.

## Implementation notes

The search halves the table, and what it finds means something only because lines begin in
increasing order. This is used in `Document.lt_partitionPoint_iff` and nowhere else.
-/

namespace DiagnosticLens

open Text

/-- In a table that passes a test first and fails it afterwards, the search ends behind the entries
that pass. -/
theorem Text.lt_partitionPoint_iff {α : Type} {test : α → Bool} {xs : Array α}
    (hsorted : ∀ i j : Nat, i ≤ j → xs[j]?.any test = true → xs[i]?.any test = true) (i : Nat) :
    i < partitionPoint test xs ↔ xs[i]?.any test = true := by
  obtain ⟨hpass, hfail⟩ :=
    bisect_between test xs 0 xs.size (Nat.zero_le _) (Or.inl rfl) (Or.inl rfl)
  rw [← partitionPoint] at hpass hfail
  constructor
  · intro hlt
    apply hsorted i (partitionPoint test xs - 1) (by omega)
    exact hpass.resolve_left (Nat.ne_zero_of_lt hlt)
  · intro hi
    by_contra hnot
    have hend := hsorted _ i (Nat.not_lt.mp hnot) hi
    rcases hfail with hsize | hfail
    · rw [hsize] at hend
      simp at hend
    · rw [hend] at hfail
      cases hfail

/-- An excerpt has the characters that its span numbers. -/
theorem getElem?_excerpt (text : String) (span : TextSpan) {i : Nat} (h : i < span.charLen) :
    (excerpt text span).toList[i]? = text.toList[span.start + i]? := by
  rw [excerpt, String.toList_ofList, List.getElem?_take_of_lt h, List.getElem?_drop]

namespace Document

/-- Lines begin in the order in which the table lists them. -/
theorem startChar_mono {d : Document} {i j : Nat} (h : i ≤ j) {a b : LineBounds}
    (ha : d.lines[i]? = some a) (hb : d.lines[j]? = some b) : a.startChar ≤ b.startChar := by
  rw [lines_getElem?, Option.map_eq_some_iff] at ha hb
  obtain ⟨-, -, rfl⟩ := ha
  obtain ⟨-, -, rfl⟩ := hb
  exact d.length_before_mono h

/-- The search for an offset ends behind the lines that begin at or before it. -/
theorem lt_partitionPoint_iff (d : Document) (offset i : Nat) :
    i < partitionPoint (fun line => decide (line.startChar ≤ offset)) d.lines ↔
      ∃ line, d.lines[i]? = some line ∧ line.startChar ≤ offset := by
  have hpasses : ∀ i : Nat, d.lines[i]?.any (fun line => decide (line.startChar ≤ offset)) = true ↔
      ∃ line, d.lines[i]? = some line ∧ line.startChar ≤ offset := by
    intro i
    simp [Option.any_eq_true]
  rw [Text.lt_partitionPoint_iff, hpasses]
  intro i j hij hj
  obtain ⟨later, hlater, hle⟩ := (hpasses j).mp hj
  obtain ⟨hsize, -⟩ := Array.getElem?_eq_some_iff.mp hlater
  have hline : d.lines[i]? = some d.lines[i] := Array.getElem?_eq_getElem (by omega)
  exact (hpasses i).mpr ⟨_, hline, Nat.le_trans (startChar_mono hij hline hlater) hle⟩

/-- Cutting a span out of a text through the index gives the characters that the span numbers, and
nothing only if the span runs past the end. The byte of an offset is the number of bytes in front of
it, and the search for its line finds how many lines begin at or before it. -/
theorem excerpts_by_index (text : String) (version : UInt64) :
    (∀ span, (ofText text version).textIn span = none ↔ text.length < span.stop) ∧
      (∀ span, span.stop ≤ text.length → ∃ cut : String,
        (ofText text version).textIn span = some cut ∧ cut.length = span.charLen ∧
          ∀ i < span.charLen, cut.toList[i]? = text.toList[span.start + i]?) ∧
      (∀ offset ≤ text.length, (ofText text version).checkedByte offset =
        .ok (String.ofList (text.toList.take offset)).utf8ByteSize) ∧
      ∀ offset i, i < partitionPoint (fun line => decide (line.startChar ≤ offset))
          (ofText text version).lines ↔
        ∃ line, (ofText text version).lines[i]? = some line ∧ line.startChar ≤ offset := by
  refine ⟨?_, ?_, ?_, ?_⟩
  · intro span
    rw [textIn_eq, text_ofText]
    by_cases hstop : span.stop ≤ text.length
    · rw [if_pos hstop]
      exact iff_of_false (Option.some_ne_none _) (Nat.not_lt.mpr hstop)
    · rw [if_neg hstop]
      exact iff_of_true rfl (Nat.lt_of_not_le hstop)
  · intro span hstop
    refine ⟨excerpt text span, ?_, length_excerpt hstop, ?_⟩
    · rw [textIn_eq, text_ofText, if_pos hstop]
    · intro i hi
      exact getElem?_excerpt text span hi
  · intro offset _
    rw [checkedByte_eq, text_ofText, utf8ByteSize_eq_byteLen, String.toList_ofList]
  · exact (ofText text version).lt_partitionPoint_iff

/-- A text with characters of one, two and four bytes and a line end of two characters. -/
def wideText : String := "é👋\r\nzz"

/-- A span over the line end, a span past the end, and the byte between the two characters of the
line end. -/
theorem excerpts_by_index_wide :
    5 ≤ wideText.length ∧
      (∃ cut : String, (ofText wideText 1).textIn ⟨1, 5, by decide⟩ = some cut ∧ cut.length = 4 ∧
        cut.toList[0]? = some '👋' ∧ cut.toList[3]? = some 'z') ∧
      (ofText wideText 1).textIn ⟨4, 7, by decide⟩ = none ∧
      (ofText wideText 1).checkedByte 3 = .ok 7 := by
  obtain ⟨hnone, hsome, hbyte, -⟩ := excerpts_by_index wideText 1
  have hlength : 5 ≤ wideText.length := by decide
  obtain ⟨cut, hcut, hcutLength, hchars⟩ := hsome ⟨1, 5, by decide⟩ hlength
  refine ⟨hlength, ⟨cut, hcut, hcutLength, ?_, ?_⟩, ?_, ?_⟩
  · rw [hchars 0 (by decide)]
    decide
  · rw [hchars 3 (by decide)]
    decide
  · exact (hnone _).mpr (by decide)
  · rw [hbyte 3 (by decide)]
    decide

end Document

end DiagnosticLens
