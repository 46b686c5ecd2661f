import DiagnosticLens.Decimal.Shortest

/-!
# JSON values

The values that travel between server and editor. Integers from `-2 ^ 63` to `2 ^ 64 - 1` are
exact; any other number is a finite binary64 number. The members of an object are kept in
increasing order of their keys, each key once.

## Implementation notes

An object is a plain list of pairs; `Json.insertMember` keeps the order, and every object that is
read or built goes through it or lists its keys in order to begin with.
-/

namespace DiagnosticLens

/-- A number in a JSON value. -/
inductive JsonNumber where
  | int (value : Int) (bounds : -0x8000000000000000 ≤ value ∧ value < 0x10000000000000000)
  | float (value : Binary64)
  deriving DecidableEq, Repr

/-- A JSON value. -/
inductive Json where
  | null
  | bool (value : Bool)
  | num (value : JsonNumber)
  | str (value : String)
  | arr (items : List Json)
  | obj (members : List (String × Json))
  deriving Repr, Inhabited

namespace JsonNumber

/-- The natural number of a 32-bit word. -/
def ofUInt32 (n : UInt32) : JsonNumber :=
  .int n.toNat ⟨by omega, by have := n.toNat_lt; omega⟩

/-- The natural number of a 64-bit word. -/
def ofUInt64 (n : UInt64) : JsonNumber :=
  .int n.toNat ⟨by omega, by have := n.toNat_lt; omega⟩

/-- The integer of a signed 64-bit word. -/
def ofInt64 (n : Int64) : JsonNumber :=
  .int n.toInt ⟨by have := n.le_toInt; omega, by have := n.toInt_lt; omega⟩

/-- Numbers are laid out without an exponent from `1e-5` up to, but not including, `1e16`. -/
def layout : NumberLayout := ⟨-5, 16⟩

/-- The text of a number. -/
def render : JsonNumber → String
  | .int value _ => toString value
  | .float value => layout.render value

end JsonNumber

namespace Json

/-- Puts a member where its key belongs, in place of any member with that key. -/
def insertMember (key : String) (value : Json) : List (String × Json) → List (String × Json)
  | [] => [(key, value)]
  | (k, v) :: rest =>
    if key < k then (key, value) :: (k, v) :: rest
    else if key = k then (key, value) :: rest
    else (k, v) :: insertMember key value rest

/-- The object with these members; of two members with one key the later counts. -/
def object (members : List (String × Json)) : Json :=
  .obj (members.foldl (fun sorted (k, v) => insertMember k v sorted) [])

/-- The member of an object under a key. -/
def member? (key : String) : Json → Option Json
  | .obj members => members.lookup key
  | _ => none

/-- A string, or null for none. -/
def ofOptionString : Option String → Json
  | some s => .str s
  | none => .null

/-- A natural number that fits into 64 bits, or null. -/
def ofNat (n : Nat) : Json :=
  if h : n < 0x10000000000000000 then .num (.int n ⟨by omega, by omega⟩) else .null

end Json

end DiagnosticLens
