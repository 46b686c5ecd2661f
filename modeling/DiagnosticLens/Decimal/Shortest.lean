import DiagnosticLens.Decimal.Binary64

/-!
# The fewest digits that identify a number

A decimal identifies a binary64 number if it lies closer to it than to any other, an even mantissa
taking the midpoints for itself. `Decimal.shortest` picks, among the decimals with the fewest
digits that do, the one nearest to the number. `NumberLayout.render` lays the digits out.

## Implementation notes

For one, two, and so on up to seventeen digits the two neighbours of the number on that decimal
grid are tested in exact arithmetic, and the first grid with a hit ends the search.
-/

namespace DiagnosticLens

/-- The number `digits * 10 ^ exponent`. -/
structure Decimal where
  digits : Nat
  exponent : Int
  deriving DecidableEq, Repr

namespace Decimal

/-- The sign of `a * 10 ^ i - b * 2 ^ j`, by bringing both sides to natural numbers. -/
def compareScaled (a : Nat) (i : Int) (b : Nat) (j : Int) : Ordering :=
  compare (a * Nat.pow 10 i.toNat * Nat.pow 2 (-j).toNat)
    (b * Nat.pow 2 j.toNat * Nat.pow 10 (-i).toNat)

/-- Whether a decimal lies in the interval of numbers that round to `x`. In quarters of its last
bit, `x` is `4 * mantissa`, and the interval reaches two quarters up and two down, or one down
where the numbers below lie twice as close. -/
def identifies (d : Decimal) (x : Binary64) : Bool :=
  let quarters := 4 * x.mantissa
  let down := if x.mantissa = Binary64.fractions ∧ -1074 < x.scale then 1 else 2
  let low := compareScaled d.digits d.exponent (quarters - down) (x.scale - 2)
  let high := compareScaled d.digits d.exponent (quarters + 2) (x.scale - 2)
  if x.mantissa % 2 = 0 then low != .lt && high != .gt else low == .gt && high == .lt

/-- The exponent of ten of the leading digit of a number other than zero. -/
def leadingExponent (x : Binary64) : Int :=
  let (num, den) := x.ratio
  ((Nat.toDigits 10 (num * Nat.pow 10 400 / den)).length : Int) - 401

/-- The nearer to `x` of its two neighbours on the grid of multiples of `10 ^ exponent`, if it
identifies `x`, or else the farther, if that one does. -/
def onGrid? (x : Binary64) (exponent : Int) : Option Decimal :=
  let (num, den) := x.ratio
  let top := num * Nat.pow 10 (-exponent).toNat
  let unit := den * Nat.pow 10 exponent.toNat
  let near : Decimal := ⟨Binary64.roundHalfEven top unit, exponent⟩
  let below := top / unit
  let far : Decimal := ⟨if near.digits = below then below + 1 else below, exponent⟩
  if near.identifies x then some near else if far.identifies x then some far else none

/-- Moves trailing zeros of the digits into the exponent; `fuel` bounds their number. -/
def stripZeros : Nat → Decimal → Decimal
  | 0, d => d
  | fuel + 1, d =>
    if d.digits ≠ 0 ∧ d.digits % 10 = 0 then stripZeros fuel ⟨d.digits / 10, d.exponent + 1⟩ else d

/-- The decimal with the fewest digits that identifies the magnitude of `x`. -/
def shortest (x : Binary64) : Decimal :=
  if x.isZero then ⟨0, 0⟩ else
  let lead := leadingExponent x
  let found := (List.range 17).findSome? fun (n : Nat) => onGrid? x (lead - (n : Int))
  stripZeros 20 (found.getD ⟨0, 0⟩)

end Decimal

/-- How a number is laid out: which exponents of the leading digit are written without an exponent
mark. -/
structure NumberLayout where
  plainFrom : Int
  plainBelow : Int
  deriving DecidableEq, Repr

namespace NumberLayout

/-- The digits with a point in them, at least one digit standing on either side. -/
def plain (digits : List Char) (exponent : Int) : List Char :=
  if 0 ≤ exponent then digits ++ List.replicate exponent.toNat '0' ++ ['.', '0']
  else
    let places := (-exponent).toNat
    let padded := List.replicate (places + 1 - digits.length) '0' ++ digits
    padded.take (padded.length - places) ++ '.' :: padded.drop (padded.length - places)

/-- One digit, the others behind a point if there are any, and a signed exponent. -/
def scientific (digits : List Char) (lead : Int) : List Char :=
  let fraction := if digits.length ≤ 1 then [] else '.' :: digits.drop 1
  let sign := if lead < 0 then '-' else '+'
  digits.take 1 ++ fraction ++ 'e' :: sign :: Nat.toDigits 10 lead.natAbs

/-- The text of a number in its fewest digits. -/
def render (layout : NumberLayout) (x : Binary64) : String :=
  let d := Decimal.shortest x
  let digits := Nat.toDigits 10 d.digits
  let lead := d.exponent + (digits.length : Int) - 1
  let body :=
    if layout.plainFrom ≤ lead ∧ lead < layout.plainBelow then plain digits d.exponent
    else scientific digits lead
  String.ofList (if x.negative then '-' :: body else body)

end NumberLayout

end DiagnosticLens
