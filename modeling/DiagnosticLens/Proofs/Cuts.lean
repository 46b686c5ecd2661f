import DiagnosticLens.Text.Bytes
import Mathlib.Data.List.Basic

/-!
# Cuts at the bounds of characters

A cut succeeds where characters begin and end. If a text is `front ++ middle ++ back`, the bytes
behind `front` and before `back` cut out `middle`, and the byte at which a character starts is the
length in bytes of what precedes it.

## Implementation notes

Cuts are described by the lists they cut at instead of by byte offsets, so no lemma below has to say
that an offset lies on a bound. The last section is about the search in a table: it ends next to an
entry that passes its test, which is all that is ever needed of it.
-/

namespace DiagnosticLens.Text

@[simp] theorem byteLen_nil : byteLen [] = 0 := rfl

@[simp] theorem byteLen_cons (c : Char) (cs : List Char) :
    byteLen (c :: cs) = c.utf8Size + byteLen cs := rfl

@[simp] theorem byteLen_append (front back : List Char) :
    byteLen (front ++ back) = byteLen front + byteLen back := by
  induction front with
  | nil => simp
  | cons c front ih => rw [List.cons_append, byteLen_cons, byteLen_cons, ih, Nat.add_assoc]

/-- The size of a text in bytes is that of its characters. -/
theorem utf8ByteSize_eq_byteLen (s : String) : s.utf8ByteSize = byteLen s.toList := by
  rw [← String.size_toByteArray, ← String.utf8Encode_toList]
  generalize s.toList = cs
  induction cs with
  | nil => rfl
  | cons c cs ih =>
      rw [List.utf8Encode_cons, ByteArray.size_append, ih]
      simp [List.utf8Encode_singleton]

theorem dropBytes?_cons_of_pos {n : Nat} (hn : 0 < n) (c : Char) (cs : List Char) :
    dropBytes? n (c :: cs) = if c.utf8Size ≤ n then dropBytes? (n - c.utf8Size) cs else none := by
  cases n with
  | zero => exact absurd hn (Nat.lt_irrefl 0)
  | succ n => rfl

theorem takeBytes?_cons_of_pos {n : Nat} (hn : 0 < n) (c : Char) (cs : List Char) :
    takeBytes? n (c :: cs) =
      if c.utf8Size ≤ n then (takeBytes? (n - c.utf8Size) cs).map (c :: ·) else none := by
  cases n with
  | zero => exact absurd hn (Nat.lt_irrefl 0)
  | succ n => rfl

/-- What follows the bytes of the front is the back. -/
theorem dropBytes?_append (front back : List Char) :
    dropBytes? (byteLen front) (front ++ back) = some back := by
  induction front with
  | nil => simp [dropBytes?]
  | cons c front ih =>
      have hpos : 0 < byteLen (c :: front) := by
        have := c.utf8Size_pos
        simp only [byteLen_cons]
        omega
      rw [List.cons_append, dropBytes?_cons_of_pos hpos, byteLen_cons, if_pos (Nat.le_add_right _ _),
        Nat.add_sub_cancel_left]
      exact ih

/-- The bytes of the front hold the front. -/
theorem takeBytes?_append (front back : List Char) :
    takeBytes? (byteLen front) (front ++ back) = some front := by
  induction front with
  | nil => simp [takeBytes?]
  | cons c front ih =>
      have hpos : 0 < byteLen (c :: front) := by
        have := c.utf8Size_pos
        simp only [byteLen_cons]
        omega
      rw [List.cons_append, takeBytes?_cons_of_pos hpos, byteLen_cons, if_pos (Nat.le_add_right _ _),
        Nat.add_sub_cancel_left, ih]
      rfl

/-- A cut between two bounds gives what lies between them. -/
theorem sliceBytes?_append (front middle back : List Char) :
    sliceBytes? (byteLen front) (byteLen front + byteLen middle) (front ++ middle ++ back) =
      some middle := by
  rw [sliceBytes?, if_pos (Nat.le_add_right _ _), List.append_assoc, dropBytes?_append,
    Option.bind_some, Nat.add_sub_cancel_left, takeBytes?_append]

/-- A character starts at the byte behind those that precede it. -/
theorem byteOfChar?_eq (k : Nat) (cs : List Char) :
    byteOfChar? k cs = if k < cs.length then some (byteLen (cs.take k)) else none := by
  induction cs generalizing k with
  | nil => simp [byteOfChar?]
  | cons c cs ih =>
      cases k with
      | zero => simp [byteOfChar?]
      | succ k =>
          rw [byteOfChar?, ih]
          by_cases h : k < cs.length <;> simp [h]

section Search

variable {α : Type} (test : α → Bool) (xs : Array α)

/-- The search ends behind an entry that passes, or at the front of the table, and in front of an
entry that fails, or at the end of the table. -/
theorem bisect_between (lo hi : Nat) (hle : lo ≤ hi)
    (hlo : lo = 0 ∨ xs[lo - 1]?.any test = true)
    (hhi : hi = xs.size ∨ xs[hi]?.any test = false) :
    (bisect test xs lo hi = 0 ∨ xs[bisect test xs lo hi - 1]?.any test = true) ∧
      (bisect test xs lo hi = xs.size ∨ xs[bisect test xs lo hi]?.any test = false) := by
  fun_induction bisect test xs lo hi with
  | case1 lo hi hlt mid hpass ih =>
      apply ih (by omega) _ hhi
      right
      simpa using hpass
  | case2 lo hi hlt mid hfail ih =>
      apply ih (by omega) hlo
      right
      simpa using hfail
  | case3 lo hi hnot =>
      obtain rfl : lo = hi := by omega
      exact ⟨hlo, hhi⟩

/-- If the first entry of a table passes, the search ends right behind an entry that passes. -/
theorem any_partitionPoint_sub_one (hfirst : xs[0]?.any test = true) :
    xs[partitionPoint test xs - 1]?.any test = true := by
  have hsize : xs.size ≠ 0 := by
    intro h
    simp [Array.getElem?_eq_none (by omega : xs.size ≤ 0)] at hfirst
  obtain ⟨hpass | hpass, hfail⟩ :=
    bisect_between test xs 0 xs.size (Nat.zero_le _) (Or.inl rfl) (Or.inl rfl)
  · -- at the front of the table the search would have stopped in front of an entry that passes
    rw [hpass, hfirst] at hfail
    rcases hfail with h | h
    · exact absurd h.symm hsize
    · cases h
  · exact hpass

end Search

end DiagnosticLens.Text
