import DiagnosticLens.Text.Utf8
import Mathlib.Data.String.Basic

/-!
# The order of texts is the order of their bytes

Texts are compared character by character. Compared byte by byte they come in the same order, for
the bytes of a greater character are greater at the first place where they differ, whatever follows.

## Implementation notes

All characters are spelled alike: a first byte with a mark and the leading bits, and behind it bytes
of six bits each. Two characters with equally many bytes differ first where their numbers do, and
otherwise the mark already decides.
-/

namespace DiagnosticLens.Utf8

/-- A number spelled with some bytes of six bits behind a first byte, which has a mark and the rest
of the bits. -/
def spell (mark : Nat) : Nat → Nat → List UInt8
  | 0, v => [UInt8.ofNat (v + mark)]
  | behind + 1, v => spell mark behind (v / 64) ++ [UInt8.ofNat (v % 64 + 128)]

/-- How many bytes a character has behind its first one. -/
def bytesBehind (v : Nat) : Nat :=
  if v ≤ 127 then 0 else if v ≤ 2047 then 1 else if v ≤ 65535 then 2 else 3

/-- The mark of a first byte. -/
def markOf : Nat → Nat
  | 0 => 0
  | 1 => 192
  | 2 => 224
  | _ => 240

theorem toNat_lt (c : Char) : c.toNat < 0x110000 := by
  have hvalid := c.valid
  simp only [UInt32.isValidChar, Nat.isValidChar, Char.toNat_val] at hvalid
  omega

/-- Every character is spelled in this way. -/
theorem utf8EncodeChar_eq_spell (c : Char) :
    String.utf8EncodeChar c =
      spell (markOf (bytesBehind c.toNat)) (bytesBehind c.toNat) c.toNat := by
  have hbound := toNat_lt c
  simp only [String.utf8EncodeChar, bytesBehind, Char.toNat_val]
  split_ifs with h1 h2 h3
  · simp [spell, markOf]
  · have hfirst : c.toNat / 64 % 32 = c.toNat / 64 := Nat.mod_eq_of_lt (by omega)
    simp [spell, markOf, hfirst]
  · have hfirst : c.toNat / 4096 % 16 = c.toNat / 4096 := Nat.mod_eq_of_lt (by omega)
    simp [spell, markOf, hfirst, Nat.div_div_eq_div_mul]
  · have hfirst : c.toNat / 262144 % 8 = c.toNat / 262144 := Nat.mod_eq_of_lt (by omega)
    simp [spell, markOf, hfirst, Nat.div_div_eq_div_mul]

/-- Bytes are compared as the numbers that they are made from. -/
theorem ofNat_cons_lt_iff {a b : Nat} (ha : a < 256) (hb : b < 256) (as bs : List UInt8) :
    UInt8.ofNat a :: as < UInt8.ofNat b :: bs ↔ a < b ∨ a = b ∧ as < bs := by
  have hbyte : ∀ n < 256, (UInt8.ofNat n).toNat = n := by
    intro n hn
    exact Nat.mod_eq_of_lt hn
  rw [List.cons_lt_cons_iff, UInt8.lt_iff_toNat_lt, ← UInt8.toNat_inj, hbyte a ha, hbyte b hb]

/-- Of two numbers with equally many bytes, the smaller has the smaller bytes. -/
theorem spell_append_lt {mark behind v w : Nat} (hlt : v < w)
    (hfirst : w / 64 ^ behind + mark < 256) (as bs : List UInt8) :
    spell mark behind v ++ as < spell mark behind w ++ bs := by
  induction behind generalizing v w as bs with
  | zero =>
      rw [Nat.pow_zero, Nat.div_one] at hfirst
      exact (ofNat_cons_lt_iff (by omega) hfirst as bs).mpr (.inl (by omega))
  | succ behind ih =>
      rw [spell, spell, List.append_assoc, List.append_assoc]
      have hhigh : v / 64 ≤ w / 64 := Nat.div_le_div_right (Nat.le_of_lt hlt)
      rcases Nat.lt_or_eq_of_le hhigh with hless | hsame
      · apply ih hless
        rwa [Nat.div_div_eq_div_mul, ← Nat.pow_succ']
      · -- all but the last six bits are the same, so it is these that differ
        rw [hsame]
        apply List.append_left_lt
        exact (ofNat_cons_lt_iff (by omega) (by omega) as bs).mpr (.inl (by omega))

/-- The first byte of a number. -/
theorem exists_spell_eq_cons (mark behind v : Nat) :
    ∃ rest, spell mark behind v = UInt8.ofNat (v / 64 ^ behind + mark) :: rest := by
  induction behind generalizing v with
  | zero => exact ⟨[], by simp [spell]⟩
  | succ behind ih =>
      obtain ⟨rest, hrest⟩ := ih (v / 64)
      refine ⟨rest ++ [UInt8.ofNat (v % 64 + 128)], ?_⟩
      rw [spell, hrest, Nat.div_div_eq_div_mul, ← Nat.pow_succ', List.cons_append]

/-- A first byte is a byte, and it is smaller for a character with fewer bytes. -/
theorem first_byte_lt {v w : Nat} (hw : w < 0x110000) :
    w / 64 ^ bytesBehind w + markOf (bytesBehind w) < 256 ∧
      (bytesBehind v < bytesBehind w → v / 64 ^ bytesBehind v + markOf (bytesBehind v) <
        w / 64 ^ bytesBehind w + markOf (bytesBehind w)) := by
  unfold bytesBehind
  split_ifs <;> simp [markOf] <;> omega

/-- The bytes of a smaller character are smaller, whatever follows. -/
theorem utf8EncodeChar_append_lt {c d : Char} (h : c < d) (as bs : List UInt8) :
    String.utf8EncodeChar c ++ as < String.utf8EncodeChar d ++ bs := by
  have hlt : c.toNat < d.toNat := h
  obtain ⟨hbyte, hless⟩ := first_byte_lt (v := c.toNat) (toNat_lt d)
  have hle : bytesBehind c.toNat ≤ bytesBehind d.toNat := by
    unfold bytesBehind
    split_ifs <;> omega
  rw [utf8EncodeChar_eq_spell, utf8EncodeChar_eq_spell]
  rcases Nat.lt_or_eq_of_le hle with hfewer | hsame
  · obtain ⟨rest, hrest⟩ := exists_spell_eq_cons (markOf (bytesBehind c.toNat))
      (bytesBehind c.toNat) c.toNat
    obtain ⟨rest', hrest'⟩ := exists_spell_eq_cons (markOf (bytesBehind d.toNat))
      (bytesBehind d.toNat) d.toNat
    rw [hrest, hrest', List.cons_append, List.cons_append]
    exact (ofNat_cons_lt_iff ((hless hfewer).trans hbyte) hbyte _ _).mpr (.inl (hless hfewer))
  · rw [hsame]
    exact spell_append_lt hlt hbyte as bs

/-- A smaller text has smaller bytes. -/
theorem flatMap_lt {cs ds : List Char} (h : cs < ds) :
    cs.flatMap String.utf8EncodeChar < ds.flatMap String.utf8EncodeChar := by
  induction h with
  | @nil d ds =>
      obtain ⟨rest, hrest⟩ := exists_spell_eq_cons (markOf (bytesBehind d.toNat))
        (bytesBehind d.toNat) d.toNat
      rw [List.flatMap_cons, utf8EncodeChar_eq_spell, hrest]
      exact List.nil_lt_cons _ _
  | rel hlt => exact utf8EncodeChar_append_lt hlt _ _
  | cons _ ih => exact List.append_left_lt ih

theorem encode_lt_of_lt {a b : String} (h : a < b) : encode a < encode b :=
  flatMap_lt (String.lt_iff_toList_lt.mp h)

/-- Texts are in the order of their bytes. -/
theorem encode_le_iff {a b : String} : encode a ≤ encode b ↔ a ≤ b := by
  constructor
  · intro hbytes
    by_contra hnot
    exact hbytes (encode_lt_of_lt (lt_of_not_ge hnot))
  · intro hle hbytes
    rcases lt_or_eq_of_le hle with hlt | rfl
    · exact List.lt_asymm hbytes (encode_lt_of_lt hlt)
    · exact List.lt_irrefl _ hbytes

end DiagnosticLens.Utf8
