import DiagnosticLens.Proofs.Offsets

/-!
# Offsets keep the order of positions

A position that comes later is never mapped to an earlier offset. Within a line this is so because
a larger column takes no fewer characters; between lines, because what a position takes of its line
ends before the next line begins. Columns past the end of their line, columns inside a surrogate
pair and lines past the end of the text are no exception.
-/

namespace DiagnosticLens

/-- More units take no fewer characters. -/
theorem charsReaching_mono {units more : Nat} (h : units ≤ more) (cs : List Char) :
    charsReaching units cs ≤ charsReaching more cs := by
  induction cs generalizing units more with
  | nil => simp [charsReaching]
  | cons c cs ih =>
      rw [charsReaching, charsReaching]
      by_cases hunits : units = 0
      · simp [hunits]
      · have hmore : more ≠ 0 := by omega
        have hleft : units - utf16Len c ≤ more - utf16Len c := by omega
        rw [if_neg hunits, if_neg hmore]
        exact Nat.succ_le_succ (ih hleft)

namespace Document

/-- There is no less before a later line. -/
theorem length_before_mono (d : Document) {i j : Nat} (h : i ≤ j) :
    (d.before i).length ≤ (d.before j).length := by
  obtain ⟨between, hbetween⟩ := d.exists_before_append h
  rw [hbetween, List.length_append]
  exact Nat.le_add_right _ _

/-- The content of a line is before the next line. -/
theorem length_before_succ {d : Document} {i : Nat} {line : TextLine}
    (h : (textLines d.text)[i]? = some line) :
    (d.before i).length + line.content.length ≤ (d.before (i + 1)).length := by
  rw [before_succ h, List.length_append, List.length_append]
  exact Nat.le_add_right _ _

/-- The offsets of positions in earlier lines do not lie behind those in later lines. -/
theorem offsetOf_le_of_line_lt (d : Document) {p q : Position} (h : p.line < q.line) :
    d.offsetOf p ≤ d.offsetOf q := by
  have hlt : p.line.toNat < q.line.toNat := UInt32.lt_iff_toNat_lt.mp h
  cases hp : (textLines d.text)[p.line.toNat]? with
  | none =>
      -- if the text has no such line, it has no later one
      have hq : (textLines d.text)[q.line.toNat]? = none := by
        rw [List.getElem?_eq_none_iff] at hp ⊢
        omega
      simp only [offsetOf_eq, hp, hq]
      exact Nat.le_refl _
  | some line =>
      have hreach := charsReaching_le p.character.toNat line.content
      have hnext := length_before_succ hp
      cases hq : (textLines d.text)[q.line.toNat]? with
      | none =>
          have hend := d.offsetOf_le p
          simp only [offsetOf_eq d q, hq]
          exact hend
      | some later =>
          have hbefore := d.length_before_mono (Nat.succ_le_of_lt hlt)
          simp only [offsetOf_eq, hp, hq]
          calc
            (d.before p.line.toNat).length + charsReaching p.character.toNat line.content
                ≤ (d.before p.line.toNat).length + line.content.length :=
                  Nat.add_le_add_left hreach _
            _ ≤ (d.before (p.line.toNat + 1)).length := hnext
            _ ≤ (d.before q.line.toNat).length := hbefore
            _ ≤ (d.before q.line.toNat).length +
                  charsReaching q.character.toNat later.content := Nat.le_add_right _ _

/-- Positions are mapped to offsets in their order. -/
theorem offsetOf_mono (d : Document) {p q : Position} (h : p ≤ q) :
    d.offsetOf p ≤ d.offsetOf q := by
  rcases (Position.le_iff p q).mp h with hline | ⟨hline, hcolumn⟩
  · exact d.offsetOf_le_of_line_lt hline
  · have hunits : p.character.toNat ≤ q.character.toNat := UInt32.le_iff_toNat_le.mp hcolumn
    rw [offsetOf_eq, offsetOf_eq, hline]
    cases (textLines d.text)[q.line.toNat]? with
    | none => exact Nat.le_refl _
    | some line => exact Nat.add_le_add_left (charsReaching_mono hunits line.content) _

/-- A position that is mapped in front of another one does not come behind it. -/
theorem le_of_offsetOf_lt (d : Document) {p q : Position} (h : d.offsetOf p < d.offsetOf q) :
    p ≤ q := by
  by_contra hnot
  have hback := d.offsetOf_mono (Std.le_of_not_ge hnot)
  omega

end Document

end DiagnosticLens
