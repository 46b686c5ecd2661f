/-!
# Finite binary64 numbers

The finite magnitudes of the binary64 format, in increasing order, are numbered from zero; a
number is such a magnitude with a sign. Rounding a quotient of natural numbers to the nearest
magnitude is done in exact arithmetic, ties going to the even neighbour.

## Implementation notes

The number of a magnitude is its 63-bit code: the exponent field times `2 ^ 52` plus the fraction.
So `Binary64` holds neither infinities nor a not-a-number, and two values are equal only if their
words are. Zero has both signs.
-/

namespace DiagnosticLens

/-- A finite binary64 number. -/
structure Binary64 where
  negative : Bool
  code : Fin 0x7FF0000000000000
  deriving DecidableEq, Repr

namespace Binary64

/-- Zero with the given sign. -/
def zero (negative : Bool) : Binary64 := ⟨negative, 0⟩

/-- Whether this is zero, of either sign. -/
def isZero (x : Binary64) : Bool := x.code.val == 0

/-- The number `2 ^ 52` of fractions, which is also the bit that stands in front of a fraction. -/
def fractions : Nat := 0x10000000000000

/-- The integer by which the power of two is multiplied. -/
def mantissa (x : Binary64) : Nat :=
  let field := x.code.val / fractions
  let fraction := x.code.val % fractions
  if field = 0 then fraction else fractions + fraction

/-- The exponent of two: the magnitude is `mantissa * 2 ^ scale`. -/
def scale (x : Binary64) : Int := (max (x.code.val / fractions) 1 : Nat) - 1075

/-- The magnitude as a quotient of natural numbers. -/
def ratio (x : Binary64) : Nat × Nat :=
  (x.mantissa * Nat.pow 2 x.scale.toNat, Nat.pow 2 (-x.scale).toNat)

/-- The quotient `num / den` rounded to the nearest integer, a half going to the even neighbour. -/
def roundHalfEven (num den : Nat) : Nat :=
  let low := num / den
  let rest := num % den
  if den < 2 * rest ∨ (den = 2 * rest ∧ low % 2 = 1) then low + 1 else low

/-- The scale at which `num / den` has 53 bits before the point, or the least scale there is. -/
def scaleFor (num den : Nat) : Int :=
  let guess : Int := (num.log2 : Int) - (den.log2 : Int) - 53
  let wide := num * Nat.pow 2 (-guess).toNat / (den * Nat.pow 2 guess.toNat)
  max (if 2 * fractions ≤ wide then guess + 1 else guess) (-1074)

/-- The magnitude nearest to `num / den`, or `none` if that lies beyond the largest one. -/
def ofRatio? (negative : Bool) (num den : Nat) : Option Binary64 :=
  if num = 0 then some (zero negative) else
  let scale := scaleFor num den
  let rounded :=
    roundHalfEven (num * Nat.pow 2 (-scale).toNat) (den * Nat.pow 2 scale.toNat)
  let code := (scale + 1074).toNat * fractions + rounded
  if h : code < 0x7FF0000000000000 then some ⟨negative, code, h⟩ else none

/-- The natural number nearest to `n`, or `none` if that is too large. -/
def ofNat? (negative : Bool) (n : Nat) : Option Binary64 := ofRatio? negative n 1

/-- The product of two magnitudes under the sign of the first, rounded; `none` if it is too large.
-/
def mul? (x y : Binary64) : Option Binary64 :=
  let (a, b) := x.ratio
  let (c, d) := y.ratio
  ofRatio? x.negative (a * c) (b * d)

/-- The quotient of two magnitudes under the sign of the first, rounded; `none` if it is too large
or the divisor is zero. -/
def div? (x y : Binary64) : Option Binary64 :=
  let (a, b) := x.ratio
  let (c, d) := y.ratio
  if y.isZero then none else ofRatio? x.negative (a * d) (b * c)

end Binary64

end DiagnosticLens
