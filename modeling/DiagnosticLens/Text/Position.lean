/-!
# Places in a text

A language server names a place by its line and by a column counted in UTF-16 code units; the editor
names it by the number of characters before it. The first are `Position` and `Range`, the second is
`TextSpan`, and the two never mix.

## Implementation notes

Lines and columns are 32-bit words, the width they have on the wire. A `TextSpan` carries the proof
that it is not empty, so a diagnostic that covers nothing has no span at all.
-/

namespace DiagnosticLens

/-- A place named by a server: a line from zero and a column in UTF-16 code units. -/
structure Position where
  line : UInt32
  character : UInt32
  deriving DecidableEq, Repr, Inhabited

namespace Position

/-- The start of a document. -/
def zero : Position := ⟨0, 0⟩

/-- Places are ordered by line, and within a line by column. -/
protected def le (p q : Position) : Prop :=
  p.line < q.line ∨ (p.line = q.line ∧ p.character ≤ q.character)

instance : LE Position := ⟨Position.le⟩

instance (p q : Position) : Decidable (p ≤ q) :=
  inferInstanceAs (Decidable (p.line < q.line ∨ (p.line = q.line ∧ p.character ≤ q.character)))

/-- The order of places, spelled out on their lines and columns. -/
theorem le_iff (p q : Position) :
    p ≤ q ↔ p.line < q.line ∨ (p.line = q.line ∧ p.character ≤ q.character) :=
  Iff.rfl

theorem le_iff_toNat (p q : Position) :
    p ≤ q ↔ p.line.toNat < q.line.toNat ∨
      (p.line.toNat = q.line.toNat ∧ p.character.toNat ≤ q.character.toNat) := by
  rw [le_iff, UInt32.lt_iff_toNat_lt, UInt32.le_iff_toNat_le, UInt32.toNat_inj]

/-- Of two places one is not behind the other, and both are not behind each other only if they are
the same. -/
instance : Std.IsLinearOrder Position where
  le_refl p := (le_iff p p).mpr (Or.inr ⟨rfl, UInt32.le_refl _⟩)
  le_trans p q r hpq hqr := by
    rw [le_iff_toNat] at hpq hqr ⊢
    omega
  le_antisymm p q hpq hqp := by
    rw [le_iff_toNat] at hpq hqp
    have hline : p.line = q.line := UInt32.toNat_inj.mp (by omega)
    have hcharacter : p.character = q.character := UInt32.toNat_inj.mp (by omega)
    cases p
    cases q
    rw [mk.injEq]
    exact ⟨hline, hcharacter⟩
  le_total p q := by
    rw [le_iff_toNat, le_iff_toNat]
    omega

end Position

/-- A stretch between two places named by a server. Nothing forces `start` before `stop`. -/
structure Range where
  start : Position
  stop : Position
  deriving DecidableEq, Repr, Inhabited

namespace Range

/-- The empty range at the start of a document. -/
def zero : Range := ⟨Position.zero, Position.zero⟩

/-- Two ranges overlap when neither ends before the other starts, so touching ranges overlap. -/
def overlaps (a b : Range) : Bool :=
  decide (a.start ≤ b.stop) && decide (b.start ≤ a.stop)

/-- Overlap does not depend on which range is named first. -/
theorem overlaps_comm (a b : Range) : a.overlaps b = b.overlaps a := by
  simp only [overlaps, Bool.and_comm]

end Range

/-- A nonempty half-open stretch of character offsets. -/
structure TextSpan where
  start : Nat
  stop : Nat
  start_lt_stop : start < stop
  deriving DecidableEq, Repr

namespace TextSpan

/-- The span from `start` to `stop`, which exists only if something lies between them. -/
def ofBounds? (start stop : Nat) : Option TextSpan :=
  if h : start < stop then some ⟨start, stop, h⟩ else none

/-- How many characters a span covers. -/
def charLen (span : TextSpan) : Nat := span.stop - span.start

/-- A span exists exactly between bounds in increasing order. -/
theorem isSome_ofBounds? (start stop : Nat) : (ofBounds? start stop).isSome ↔ start < stop := by
  unfold ofBounds?
  split <;> simp_all

/-- Every span covers at least one character. -/
theorem charLen_pos (span : TextSpan) : 0 < span.charLen :=
  Nat.sub_pos_of_lt span.start_lt_stop

end TextSpan

end DiagnosticLens
