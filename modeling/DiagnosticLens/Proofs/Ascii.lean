/-!
# ASCII characters

Lower case is meant for the letters of ASCII only: each letter from A to Z has its small letter
thirty-two places further on, and no other character changes. `asciiLower` writes this down, and
`Char.toLower` does the same.

## Implementation notes

Characters are compared by their numbers. What lower case does to the number of a character is said
once, and the rest is arithmetic.
-/

namespace DiagnosticLens

theorem toNat_ofNat_of_lt {n : Nat} (h : n < 0x80) : (Char.ofNat n).toNat = n := by
  have hvalid : n.isValidChar := .inl (by omega)
  rw [Char.ofNat, dif_pos hvalid]
  rfl

/-- The small letter for a letter from A to Z. Every other character is left as it is. -/
def asciiLower (c : Char) : Char :=
  if 'A' ≤ c ∧ c ≤ 'Z' then Char.ofNat (c.toNat + 32) else c

theorem isCapital_iff (c : Char) : 'A' ≤ c ∧ c ≤ 'Z' ↔ 65 ≤ c.toNat ∧ c.toNat ≤ 90 := by
  rw [Char.le_def, Char.le_def, UInt32.le_iff_toNat_le, UInt32.le_iff_toNat_le]
  rfl

theorem toNat_asciiLower (c : Char) :
    (asciiLower c).toNat = if 65 ≤ c.toNat ∧ c.toNat ≤ 90 then c.toNat + 32 else c.toNat := by
  simp only [asciiLower, isCapital_iff]
  split
  · exact toNat_ofNat_of_lt (by omega)
  · rfl

theorem toNat_toLower (c : Char) :
    c.toLower.toNat = if 65 ≤ c.toNat ∧ c.toNat ≤ 90 then c.toNat + 32 else c.toNat := by
  by_cases hcapital : c.val ≥ 'A'.val ∧ c.val ≤ 'Z'.val
  · have hlower : c.toLower = ⟨c.val + ('a'.val - 'A'.val), _⟩ := dif_pos hcapital
    have hshift : 'a'.val - 'A'.val = (32 : UInt32) := rfl
    have hbounds := (isCapital_iff c).mp hcapital
    rw [if_pos hbounds, hlower, Char.toNat_mk, hshift, UInt32.toNat_add, Char.toNat_val]
    exact Nat.mod_eq_of_lt (by simp; omega)
  · have hlower : c.toLower = c := dif_neg hcapital
    rw [if_neg (mt (isCapital_iff c).mpr hcapital), hlower]

/-- The library's lower case is that of ASCII. -/
theorem toLower_eq_asciiLower (c : Char) : c.toLower = asciiLower c := by
  rw [← Char.toNat_inj, toNat_toLower, toNat_asciiLower]

/-- No lower case of a character is a capital letter. -/
theorem asciiLower_asciiLower (c : Char) : asciiLower (asciiLower c) = asciiLower c := by
  rw [← Char.toNat_inj, toNat_asciiLower (asciiLower c), toNat_asciiLower]
  grind

/-- A character in front of the small letters is the lower case of nothing but itself. -/
theorem eq_of_asciiLower_eq {c d : Char} (hd : d.toNat < 97) (h : asciiLower c = d) : c = d := by
  have hnat := toNat_asciiLower c
  rw [h] at hnat
  apply Char.toNat_inj.mp
  grind

theorem eq_of_asciiLower_eq_e {c : Char} (h : asciiLower c = 'e') : c = 'e' ∨ c = 'E' := by
  have hnat := toNat_asciiLower c
  rw [h] at hnat
  rw [← Char.toNat_inj, ← Char.toNat_inj]
  change 101 = _ at hnat
  change c.toNat = 101 ∨ c.toNat = 69
  grind

end DiagnosticLens
