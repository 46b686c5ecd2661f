import DiagnosticLens.Proofs.OffsetOrder
import DiagnosticLens.Proofs.Turns
import DiagnosticLens.Wire.Request

/-!
# What a request for fixes shows

A request for fixes at an anchor shows the server the diagnostics there. Which ones these are is
decided by comparing ranges as the server named them, while the anchor was accepted by the offsets
that its range has in the text. The two never disagree to the user's loss: a diagnostic that covers
a character of the anchor is shown, and so is the diagnostic that the anchor is for.

## Implementation notes

Offsets keep the order of positions. So a range that lies behind another one as a whole has no
character in common with it, however far both are clamped, and it is enough to know this.
-/

namespace DiagnosticLens

/-- Two spans that have a character in common. -/
def TextSpan.Meets (a b : TextSpan) : Prop :=
  ∃ offset, (a.start ≤ offset ∧ offset < a.stop) ∧ b.start ≤ offset ∧ offset < b.stop

/-- A span is not empty, so it has a character in common with itself. -/
theorem TextSpan.meets_self (span : TextSpan) : span.Meets span :=
  ⟨span.start, ⟨Nat.le_refl _, span.start_lt_stop⟩, Nat.le_refl _, span.start_lt_stop⟩

namespace Document

/-- The span that a range covers in a document, if it covers some text. -/
def spanOf? (document : Document) (range : Range) : Option TextSpan :=
  TextSpan.ofBounds? (document.offsetOf range.start) (document.offsetOf range.stop)

/-- The span of a range lies between the offsets of its ends. -/
theorem bounds_of_spanOf? {document : Document} {range : Range} {span : TextSpan}
    (h : document.spanOf? range = some span) :
    span.start = document.offsetOf range.start ∧ span.stop = document.offsetOf range.stop := by
  rw [spanOf?, TextSpan.ofBounds?] at h
  split at h
  · obtain rfl := Option.some.inj h
    exact ⟨rfl, rfl⟩
  · cases h

/-- Ranges that have a character in common overlap. -/
theorem overlaps_of_meets {document : Document} {a b : Range} {s t : TextSpan}
    (hs : document.spanOf? a = some s) (ht : document.spanOf? b = some t) (hmeets : s.Meets t) :
    a.overlaps b = true := by
  obtain ⟨hsStart, hsStop⟩ := bounds_of_spanOf? hs
  obtain ⟨htStart, htStop⟩ := bounds_of_spanOf? ht
  obtain ⟨offset, ⟨hsFrom, hsTo⟩, htFrom, htTo⟩ := hmeets
  have hleft : a.start ≤ b.stop := document.le_of_offsetOf_lt (by omega)
  have hright : b.start ≤ a.stop := document.le_of_offsetOf_lt (by omega)
  simp [Range.overlaps, hleft, hright]

end Document

/-- An anchor has the range of its diagnostic, and the span of this range. -/
theorem Pass.spanOf?_of_anchorOf {uri : String} {file : Path} {document : Document} {d : Diagnostic}
    {anchor : Anchor} (h : anchorOf uri file document d = .ok anchor) :
    anchor.range = d.range ∧ document.spanOf? d.range = some anchor.span := by
  rw [anchorOf] at h
  rw [Document.spanOf?]
  cases hspan : TextSpan.ofBounds? (document.offsetOf d.range.start)
      (document.offsetOf d.range.stop) with
  | none => simp [hspan] at h
  | some span =>
      cases htext : document.textIn span with
      | none => simp [hspan, htext] at h
      | some text =>
          simp only [hspan, htext, Except.ok.injEq] at h
          subst h
          exact ⟨rfl, rfl⟩

namespace Anchor

/-- Of the diagnostics that overlap an anchor a request shows every copy. -/
theorem count_context {anchor : Anchor} {e : Diagnostic}
    (h : e.range.overlaps anchor.range = true) (ds : List Diagnostic) :
    (anchor.context ds).count e = ds.count e := by
  rw [context]
  exact List.count_filter h

/-- A request at the anchor of a diagnostic shows this diagnostic, and every other one that covers a
character of the anchor, as often as it is there. -/
theorem request_shows_diagnostics_under_anchor {uri : String} {file : Path} {document : Document}
    {ds : List Diagnostic} {d : Diagnostic} {anchor : Anchor} (hmem : d ∈ ds)
    (hanchor : Pass.anchorOf uri file document d = .ok anchor) (own : String) :
    ∃ shown : List Diagnostic,
      ((anchor.requestParams own ds).member? "context").bind (Json.member? "diagnostics") =
          some (.arr (shown.map Diagnostic.encode)) ∧
        shown.Sublist ds ∧ d ∈ shown ∧
        ∀ e ∈ ds, ∀ span, document.spanOf? e.range = some span → span.Meets anchor.span →
          e ∈ shown ∧ shown.count e = ds.count e := by
  obtain ⟨hrange, hspan⟩ := Pass.spanOf?_of_anchorOf hanchor
  have hoverlaps : ∀ e : Diagnostic, ∀ span, document.spanOf? e.range = some span →
      span.Meets anchor.span → e.range.overlaps anchor.range = true := by
    intro e span hcovers hmeets
    rw [hrange]
    exact Document.overlaps_of_meets hcovers hspan hmeets
  refine ⟨anchor.context ds, rfl, List.filter_sublist, ?_, ?_⟩
  · exact List.mem_filter.mpr ⟨hmem, hoverlaps d _ hspan anchor.span.meets_self⟩
  · intro e he span hcovers hmeets
    have hshown := hoverlaps e span hcovers hmeets
    exact ⟨List.mem_filter.mpr ⟨he, hshown⟩, count_context hshown ds⟩

/-- A text of two lines with a character that takes two units. -/
def waveText : Document := .ofText "a😀b\ncd" 3

/-- A diagnostic from the middle of the two units to far behind the end of the line. -/
def cutting : Diagnostic := ⟨⟨⟨0, 2⟩, ⟨0, 99⟩⟩, some .error, "cutting", none, none⟩

/-- A diagnostic from the third character to a line that is not there. -/
def trailing : Diagnostic := ⟨⟨⟨0, 3⟩, ⟨7, 0⟩⟩, some .hint, "trailing", none, none⟩

/-- A diagnostic in the second line. -/
def elsewhere : Diagnostic := ⟨⟨⟨1, 0⟩, ⟨1, 1⟩⟩, none, "elsewhere", none, none⟩

/-- The anchor of the first diagnostic covers the third character only. -/
def cuttingAnchor : Anchor :=
  ⟨"b", ⟨2, 3, by decide⟩, ⟨⟨0, 2⟩, ⟨0, 99⟩⟩, 3, .ofString "/a.c"⟩

/-- A request there shows the first two diagnostics, both copies of the second included. -/
theorem request_shows_diagnostics_under_anchor_cut :
    Pass.anchorOf "file:///a.c" (.ofString "/a.c") waveText cutting = .ok cuttingAnchor ∧
      waveText.spanOf? trailing.range = some ⟨2, 6, by decide⟩ ∧
      ∃ shown : List Diagnostic,
        ((cuttingAnchor.requestParams "file:///a.c"
            [trailing, cutting, elsewhere, trailing]).member? "context").bind
              (Json.member? "diagnostics") =
          some (.arr (shown.map Diagnostic.encode)) ∧
        cutting ∈ shown ∧ shown.count trailing = 2 := by
  have hanchor : Pass.anchorOf "file:///a.c" (.ofString "/a.c") waveText cutting =
      .ok cuttingAnchor := by
    rw [Pass.anchorOf_eq]
    rfl
  have hspan : waveText.spanOf? trailing.range = some ⟨2, 6, by decide⟩ := rfl
  have hmem : cutting ∈ [trailing, cutting, elsewhere, trailing] := by decide
  obtain ⟨shown, hparams, -, hown, hothers⟩ :=
    request_shows_diagnostics_under_anchor hmem hanchor "file:///a.c"
  obtain ⟨-, hcount⟩ := hothers trailing (by decide) _ hspan ⟨2, by decide, by decide⟩
  exact ⟨hanchor, hspan, shown, hparams, hown, hcount.trans (by decide)⟩

end Anchor

end DiagnosticLens
