import DiagnosticLens.Proofs.RequestContext

/-!
# Ranges and the order of offsets

Offsets go from the start of a text to its end in the order of positions. So a range whose end does
not lie behind its start covers nothing, and two ranges of which one ends before the other starts
cover no character together, wherever their ends are clamped to.
-/

namespace DiagnosticLens

namespace Document

/-- The first position of a document is the start of its text. -/
theorem offsetOf_zero (d : Document) : d.offsetOf .zero = 0 := by
  obtain ⟨line, lines, hlines⟩ := List.exists_cons_of_ne_nil
    (TextLine.split_ne_nil d.text.toList [])
  have hfirst : (textLines d.text)[Position.zero.line.toNat]? = some line := by
    rw [textLines, hlines]
    rfl
  rw [offsetOf_eq, hfirst]
  cases hcontent : line.content <;> simp [before, Position.zero, charsReaching, hcontent]

/-- A line that the document does not have is the end of its text. -/
theorem offsetOf_of_lineCount_le {d : Document} {p : Position} (h : d.lineCount ≤ p.line.toNat) :
    d.offsetOf p = d.charLen := by
  have hline : d.lines[p.line.toNat]? = none := Array.getElem?_eq_none h
  rw [offsetOf, checkedOffset, hline]
  rfl

/-- A range whose end does not lie behind its start covers nothing. -/
theorem spanOf?_of_stop_le_start (d : Document) {range : Range} (h : range.stop ≤ range.start) :
    d.spanOf? range = none := by
  have hoffsets : ¬d.offsetOf range.start < d.offsetOf range.stop :=
    Nat.not_lt.mpr (d.offsetOf_mono h)
  rw [spanOf?, TextSpan.ofBounds?, dif_neg hoffsets]

/-- Of two ranges of which one ends before the other starts, the spans have no character in
common. -/
theorem not_meets_of_stop_le_start {d : Document} {a b : Range} (h : a.stop ≤ b.start)
    {s t : TextSpan} (hs : d.spanOf? a = some s) (ht : d.spanOf? b = some t) : ¬s.Meets t := by
  obtain ⟨-, hstop⟩ := bounds_of_spanOf? hs
  obtain ⟨hstart, -⟩ := bounds_of_spanOf? ht
  have hoffsets := d.offsetOf_mono h
  rintro ⟨offset, ⟨-, hbefore⟩, hbehind, -⟩
  omega

end Document

/-- A pass skips a diagnostic whose range does not end behind its start. -/
theorem Pass.anchorOf_of_stop_le_start (uri : String) (file : Path) (document : Document)
    {d : Diagnostic} (h : d.range.stop ≤ d.range.start) :
    anchorOf uri file document d = .error (.emptyRange uri d.range.start) := by
  have hspan := document.spanOf?_of_stop_le_start h
  rw [Document.spanOf?] at hspan
  rw [anchorOf, hspan]

namespace Document

/-- Positions are mapped in their order from the start of the text to its end. So reversed ranges
cover nothing, which a pass skips, and ranges that lie one behind the other share no character. -/
theorem offsets_keep_order (document : Document) :
    document.offsetOf .zero = 0 ∧
      (∀ p q : Position, p ≤ q → document.offsetOf p ≤ document.offsetOf q) ∧
      (∀ q : Position, document.offsetOf q ≤ document.charLen) ∧
      (∀ q : Position, document.lineCount ≤ q.line.toNat →
        document.offsetOf q = document.charLen) ∧
      (∀ range : Range, range.stop ≤ range.start → document.spanOf? range = none ∧
        ∀ uri file (d : Diagnostic), d.range = range →
          Pass.anchorOf uri file document d = .error (.emptyRange uri range.start)) ∧
      ∀ a b : Range, a.stop ≤ b.start → ∀ s t, document.spanOf? a = some s →
        document.spanOf? b = some t → ¬s.Meets t := by
  refine ⟨document.offsetOf_zero, ?_, ?_, ?_, ?_, ?_⟩
  · intro p q hle
    exact document.offsetOf_mono hle
  · intro q
    rw [charLen_eq]
    exact document.offsetOf_le q
  · intro q hlines
    exact offsetOf_of_lineCount_le hlines
  · intro range hreversed
    refine ⟨document.spanOf?_of_stop_le_start hreversed, ?_⟩
    rintro uri file d rfl
    exact Pass.anchorOf_of_stop_le_start uri file document hreversed
  · intro a b hle s t hs ht
    exact not_meets_of_stop_le_start hle hs ht

/-- A text of two lines whose second one starts with a character of two units. -/
def twoLines : Document := .ofText "ab\r\n😀c" 1

/-- A column past the end of the first line, and one inside the wide character of the second. -/
theorem offsets_keep_order_clamped :
    (⟨0, 99⟩ : Position) ≤ ⟨1, 1⟩ ∧ twoLines.offsetOf ⟨0, 99⟩ ≤ twoLines.offsetOf ⟨1, 1⟩ ∧
      twoLines.offsetOf ⟨7, 0⟩ = twoLines.charLen ∧
      twoLines.spanOf? ⟨⟨1, 1⟩, ⟨0, 99⟩⟩ = none ∧
      twoLines.spanOf? ⟨⟨0, 1⟩, ⟨0, 99⟩⟩ = some ⟨1, 2, by decide⟩ ∧
      twoLines.spanOf? ⟨⟨1, 1⟩, ⟨7, 0⟩⟩ = some ⟨5, 6, by decide⟩ ∧
      ¬(⟨1, 2, by decide⟩ : TextSpan).Meets ⟨5, 6, by decide⟩ := by
  have hle : (⟨0, 99⟩ : Position) ≤ ⟨1, 1⟩ := by decide
  have hfirst : twoLines.spanOf? ⟨⟨0, 1⟩, ⟨0, 99⟩⟩ = some ⟨1, 2, by decide⟩ := rfl
  have hsecond : twoLines.spanOf? ⟨⟨1, 1⟩, ⟨7, 0⟩⟩ = some ⟨5, 6, by decide⟩ := rfl
  obtain ⟨-, hmono, -, hbehind, hreversed, hapart⟩ := offsets_keep_order twoLines
  refine ⟨hle, hmono _ _ hle, hbehind ⟨7, 0⟩ (by decide), ?_, hfirst, hsecond, ?_⟩
  · exact (hreversed ⟨⟨1, 1⟩, ⟨0, 99⟩⟩ hle).1
  · exact hapart _ _ hle _ _ hfirst hsecond

end Document

end DiagnosticLens
