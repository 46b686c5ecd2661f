import DiagnosticLens.Wire.Error

/-!
# Decoding records

A record comes as an object or as an array. In an object the members may stand in any order, and
those with an unknown name are passed over; in an array the fields stand in the order of their
declaration. Decoding visits what is there in its order, and the first value that is wrong is the
error; after that, the first required field that is missing is.

## Implementation notes

Fields are collected into a draft whose fields are all optional; `Layout.decode` is given the step
that adds one value to the draft and the step that turns the draft into the record.
-/

namespace DiagnosticLens

/-- What it means for a field not to be there. -/
inductive Presence where
  /-- It has to be there. -/
  | required
  /-- It may be missing from an object, but not from an array. -/
  | nullable
  /-- It may be missing from both. -/
  | defaulted
  deriving DecidableEq, Repr

/-- The name of a record and its fields in the order of their declaration. -/
structure Layout where
  name : String
  fields : List (String × Presence)
  deriving DecidableEq, Repr

/-- A decoder of one kind of value. -/
abbrev Decoder (α : Type) := Json → Except WireError α

namespace Layout

/-- Whether `count` elements can stand for the record. -/
def checkCount (layout : Layout) (count : Nat) : Except WireError Unit :=
  match (layout.fields.drop count).findIdx? (fun field => field.2 != .defaulted) with
  | some index => .error (.tooFew (count + index) layout.name layout.fields.length)
  | none => if layout.fields.length < count then .error (.tooMany count) else .ok ()

/-- Decodes a record from an object or an array. -/
def decode {δ α : Type} (layout : Layout) (put : δ → String → Json → Except WireError δ) (start : δ)
    (finish : δ → Except WireError α) : Decoder α
  | .obj members => do
    finish (← members.foldlM (fun draft (name, value) => put draft name value) start)
  | .arr items => do
    let draft ← (layout.fields.zip items).foldlM
      (fun draft (field, value) => put draft field.1 value) start
    layout.checkCount items.length
    finish draft
  | value => .error (.wrongType (Found.ofJson value) (.record layout.name))

end Layout

namespace Wire

/-- The value of a required field. -/
def need {α : Type} (name : String) : Option α → Except WireError α
  | some value => .ok value
  | none => .error (.missingField name)

/-- A natural number below `2 ^ 32`. -/
def word32 : Decoder UInt32
  | .num (.int v _) =>
    if h : 0 ≤ v ∧ v < 0x100000000 then
      .ok (UInt32.ofNatLT v.toNat (by simp only [UInt32.size]; omega))
    else .error (.outOfRange (.integer v) .word32)
  | value => .error (.wrongType (Found.ofJson value) .word32)

/-- A natural number below `2 ^ 64`. -/
def word64 : Decoder UInt64
  | .num (.int v _) =>
    if h : 0 ≤ v ∧ v < 0x10000000000000000 then
      .ok (UInt64.ofNatLT v.toNat (by simp only [UInt64.size]; omega))
    else .error (.outOfRange (.integer v) .word64)
  | value => .error (.wrongType (Found.ofJson value) .word64)

/-- An integer from `-2 ^ 63` to `2 ^ 63 - 1`. -/
def signed64 : Decoder Int64
  | .num (.int v _) =>
    if -0x8000000000000000 ≤ v ∧ v < 0x8000000000000000 then .ok (Int64.ofInt v)
    else .error (.outOfRange (.integer v) .signed64)
  | value => .error (.wrongType (Found.ofJson value) .signed64)

/-- A string. -/
def text : Decoder String
  | .str s => .ok s
  | value => .error (.wrongType (Found.ofJson value) .text)

/-- A truth value. -/
def boolean : Decoder Bool
  | .bool b => .ok b
  | value => .error (.wrongType (Found.ofJson value) .boolean)

/-- Any value. -/
def anything : Decoder Json := fun value => .ok value

/-- An array of values of one kind. -/
def list {α : Type} (item : Decoder α) : Decoder (List α)
  | .arr items => items.mapM item
  | value => .error (.wrongType (Found.ofJson value) .sequence)

/-- An object whose members are all of one kind. -/
def map {α : Type} (item : Decoder α) : Decoder (List (String × α))
  | .obj members => members.mapM fun (name, value) => do return (name, ← item value)
  | value => .error (.wrongType (Found.ofJson value) .map)

/-- A value of one kind, or null for none. -/
def nullable {α : Type} (item : Decoder α) : Decoder (Option α)
  | .null => .ok none
  | value => (item value).map some

/-- A member that is there only if it has a value. -/
def optional (name : String) (value : Option Json) : List (String × Json) :=
  match value with
  | some v => [(name, v)]
  | none => []

end Wire

end DiagnosticLens
