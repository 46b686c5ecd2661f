import DiagnosticLens.Json.Value
import DiagnosticLens.Text.Quoted

/-!
# Why a value does not decode

Each way in which a JSON value can fail to be what was expected, and the message for it.
-/

namespace DiagnosticLens

/-- What was found instead of the expected. -/
inductive Found where
  | null
  | boolean (value : Bool)
  | integer (value : Int)
  | float (value : Binary64)
  | text (value : String)
  | sequence
  | map
  deriving DecidableEq, Repr

/-- What was expected. -/
inductive Expected where
  | word32
  | word64
  | signed64
  | text
  | boolean
  | sequence
  | map
  | record (name : String)
  deriving DecidableEq, Repr

/-- Why a value does not decode. -/
inductive WireError where
  | missingField (name : String)
  | wrongType (found : Found) (expected : Expected)
  /-- An integer, but not one in range. -/
  | outOfRange (found : Found) (expected : Expected)
  /-- A record given by its fields in order breaks off before the field at `index`. -/
  | tooFew (index : Nat) (name : String) (size : Nat)
  /-- A record given by its fields in order goes on after the last one. -/
  | tooMany (count : Nat)
  /-- Neither kind of proposal. -/
  | noProposal
  deriving DecidableEq, Repr

namespace Found

/-- What a value is, for a message. -/
def ofJson : Json → Found
  | .null => .null
  | .bool b => .boolean b
  | .num (.int v _) => .integer v
  | .num (.float v) => .float v
  | .str s => .text s
  | .arr _ => .sequence
  | .obj _ => .map

/-- The words for what was found. -/
def describe : Found → String
  | .null => "null"
  | .boolean true => "boolean `true`"
  | .boolean false => "boolean `false`"
  | .integer v => "integer `" ++ toString v ++ "`"
  | .float v => "floating point `" ++ JsonNumber.layout.render v ++ "`"
  | .text s => "string " ++ Text.quoted s
  | .sequence => "sequence"
  | .map => "map"

end Found

/-- The words for what was expected. -/
def Expected.describe : Expected → String
  | .word32 => "u32"
  | .word64 => "u64"
  | .signed64 => "i64"
  | .text => "a string"
  | .boolean => "a boolean"
  | .sequence => "a sequence"
  | .map => "a map"
  | .record name => "struct " ++ name

/-- The message for a value that does not decode. -/
def WireError.message : WireError → String
  | .missingField name => "missing field `" ++ name ++ "`"
  | .wrongType found expected =>
    "invalid type: " ++ found.describe ++ ", expected " ++ expected.describe
  | .outOfRange found expected =>
    "invalid value: " ++ found.describe ++ ", expected " ++ expected.describe
  | .tooFew index name size =>
    "invalid length " ++ toString index ++ ", expected struct " ++ name ++ " with " ++
      toString size ++ " elements"
  | .tooMany count =>
    "invalid length " ++ toString count ++ ", expected fewer elements in array"
  | .noProposal => "data did not match any variant of untagged enum CodeActionOrCommand"

end DiagnosticLens
