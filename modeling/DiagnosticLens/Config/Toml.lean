import DiagnosticLens.Config
import DiagnosticLens.Toml.Magnitude
import DiagnosticLens.Toml.Reader

/-!
# Settings in TOML

The settings of a server may be written as a table or as an array of its fields in order. Keys
that are not known count for nothing, but the numbers under them must not be out of range; what
stands in an array behind the last field is not looked at.
-/

namespace DiagnosticLens.Config

open Toml (Node)

/-- A string. -/
def textOf : Node → Option String
  | .text s => some s
  | _ => none

/-- A list of strings. -/
def textsOf : Node → Option (List String)
  | .array items => items.mapM textOf
  | _ => none

/-- A truth value. -/
def flagOf : Node → Option Bool
  | .flag b => some b
  | _ => none

/-- A field that may be missing. -/
def fieldOr {α : Type} (default : α) (read : Node → Option α) : Option Node → Option α
  | some node => read node
  | none => some default

/-- The settings of a server, given its fields. -/
def serverOfFields (languageId fileExtensions : Option Node) : Option ServerConfig := do
  return ⟨← textOf (← languageId), ← fieldOr [] textsOf fileExtensions⟩

/-- Whether all members are in range, those under known names aside. -/
def othersInRange (known : List String) (members : Entries Node) : Bool :=
  members.all fun (name, node) => known.contains name || node.isInRange

/-- The settings of a server. -/
def serverOf : Node → Option ServerConfig
  | .table _ members => do
    guard (othersInRange ["language_id", "file_extensions"] members)
    serverOfFields (members.lookup "language_id") (members.lookup "file_extensions")
  | .array items => serverOfFields items[0]? items[1]?
  | _ => none

/-- The servers by name. -/
def serversOf : Node → Option (Registry ServerConfig)
  | .table _ members => do
    return .ofEntries (← members.mapM fun (name, node) => (serverOf node).map (name, ·))
  | _ => none

/-- Reads settings from a TOML text. -/
def ofTomlText (text : String) : Option Config := do
  let root ← Toml.parse text
  guard (othersInRange ["enabled", "servers"] root)
  return ⟨← fieldOr true flagOf (root.lookup "enabled"),
    ← fieldOr {} serversOf (root.lookup "servers")⟩

end DiagnosticLens.Config
