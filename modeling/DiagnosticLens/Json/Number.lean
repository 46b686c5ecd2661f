import DiagnosticLens.Json.Scan
import DiagnosticLens.Json.Value

/-!
# The value of a number as written

An integer that fits is exact. Any other number is the binary64 number reached from its leading
digits, as many as fit into 64 bits, by one multiplication or division by a power of ten; each
step rounds to the nearest. The result may differ in its last bit from the number nearest to the
text.

## Implementation notes

A digit that no longer fits is dropped, and with it all that follow; dropped digits before the
point are made up for by the exponent. A minus sign before a zero gives the negative zero, which
is not an integer.
-/

namespace DiagnosticLens.Json

/-- Appends digits to a number for as long as it fits into 64 bits, and gives the digits left. -/
def appendFitting : Nat → List Char → Nat × List Char
  | n, [] => (n, [])
  | n, c :: cs =>
    let longer := n * 10 + Text.digitValue c
    if longer < 0x10000000000000000 then appendFitting longer cs else (n, c :: cs)

/-- The power of ten, rounded. -/
def powerOfTen? (k : Nat) : Option Binary64 := Binary64.ofNat? false (Nat.pow 10 k)

/-- Divides by `10 ^ k`, in steps of `10 ^ 308` where that is not a number of the format. -/
def divideByPower (x : Binary64) (k : Nat) : Option Binary64 :=
  if k ≤ 308 then do x.div? (← powerOfTen? k)
  else if x.isZero then some x
  else do
    let y ← x.div? (← powerOfTen? 308)
    divideByPower y (k - 308)
termination_by k
decreasing_by omega

/-- The number `significand * 10 ^ exponent`, or `none` if it is too large. -/
def scaled? (negative : Bool) (significand : Nat) (exponent : Int) : Option Binary64 := do
  let x ← Binary64.ofNat? negative significand
  if 0 ≤ exponent then
    if exponent ≤ 308 then x.mul? (← powerOfTen? exponent.toNat)
    else if x.isZero then some x else none
  else divideByPower x (-exponent).toNat

/-- The largest exponent that is looked at as a number. -/
def largestExponent : Nat := 0x7FFFFFFF

/-- The binary64 number that a text stands for, or `none` if it is too large. -/
def NumberText.toFloat? (t : NumberText) : Option Binary64 :=
  let (significand, dropped) := appendFitting 0 t.whole
  let fraction := t.fraction.getD []
  let (significand, unread) := appendFitting significand fraction
  let start : Int := (dropped.length : Int) - ((fraction.length - unread.length : Nat) : Int)
  match t.exponent with
  | none => scaled? t.negative significand start
  | some (down, ds) =>
    let size := Text.digitsValue ds
    if size ≤ largestExponent then
      scaled? t.negative significand (if down then start - (size : Int) else start + (size : Int))
    else if significand ≠ 0 ∧ !down then none
    else some (Binary64.zero t.negative)

/-- The number that a text stands for, or `none` if it is too large. -/
def NumberText.value? (t : NumberText) : Option JsonNumber :=
  let plain := t.fraction.isNone && t.exponent.isNone
  let size := Text.digitsValue t.whole
  let value : Int := if t.negative then -(size : Int) else size
  if h : (-0x8000000000000000 ≤ value ∧ value < 0x10000000000000000) ∧ plain ∧
      ¬(t.negative ∧ size = 0) then
    some (.int value h.1)
  else t.toFloat?.map .float

end DiagnosticLens.Json
