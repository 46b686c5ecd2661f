import DiagnosticLens.Decimal.Binary64
import DiagnosticLens.Toml.Value

/-!
# Numbers out of range

The grammar sets no bounds to numbers. Whoever reads a value takes integers that fit into 128 bits,
signed or not, and other numbers that do not round to infinity in binary64.
-/

namespace DiagnosticLens.Toml

/-- Whether a whole number fits into 128 bits, with a sign or without. -/
def fitsWord (n : Int) : Bool :=
  -0x80000000000000000000000000000000 ≤ n && n < 0x100000000000000000000000000000000

/-- Whether a number is finite after rounding, unless it is not meant to be. Only a number with 309
digits before the point has to be rounded to tell. -/
def Scientific.isInRange : Scientific → Bool
  | .finite significand exponent =>
    let digits : Int := (Nat.toDigits 10 significand).length
    if significand = 0 || digits + exponent < 309 then true
    else if 309 < digits + exponent then false
    else (Binary64.ofRatio? false (significand * Nat.pow 10 exponent.toNat)
      (Nat.pow 10 (-exponent).toNat)).isSome
  | .infinite => true
  | .notANumber => true

mutual

/-- Whether all numbers in a value are in range. -/
def Node.isInRange : Node → Bool
  | .text _ => true
  | .flag _ => true
  | .integer value => fitsWord value
  | .scientific value => value.isInRange
  | .moment _ => true
  | .array items => itemsInRange items
  | .tables latest earlier => membersInRange latest && tablesInRange earlier
  | .table _ members => membersInRange members

/-- Whether all numbers in a list of values are in range. -/
def itemsInRange : List Node → Bool
  | [] => true
  | item :: rest => item.isInRange && itemsInRange rest

/-- Whether all numbers in a table are in range. -/
def membersInRange : List (String × Node) → Bool
  | [] => true
  | (_, value) :: rest => value.isInRange && membersInRange rest

/-- Whether all numbers in several tables are in range. -/
def tablesInRange : List (List (String × Node)) → Bool
  | [] => true
  | members :: rest => membersInRange members && tablesInRange rest

end

end DiagnosticLens.Toml
