import DiagnosticLens.Config.Json
import DiagnosticLens.Config.Toml
import DiagnosticLens.Path

/-!
# Settings from a file

A file with the extension `json`, in capitals or not, holds settings in JSON; any other file holds
them in TOML. What is found under a name is handed in as a `Stored`, so that loading itself
touches no disk.
-/

namespace DiagnosticLens

/-- What is found under the name of a file. -/
inductive Stored where
  | absent
  | directory
  | file (bytes : List UInt8)
  deriving DecidableEq, Repr

/-- Why the text of a file cannot be had. -/
inductive AccessError where
  | absent
  | directory
  | notUtf8
  deriving DecidableEq, Repr

/-- The reason in words. -/
def AccessError.message : AccessError → String
  | .absent => "No such file or directory (os error 2)"
  | .directory => "Is a directory (os error 21)"
  | .notUtf8 => "stream did not contain valid UTF-8"

/-- The text that is found under a name. -/
def Stored.text : Stored → Except AccessError String
  | .absent => .error .absent
  | .directory => .error .directory
  | .file bytes =>
    match Utf8.decode? bytes with
    | some text => .ok text
    | none => .error .notUtf8

/-- Why settings cannot be had. -/
inductive ConfigError where
  | read (path : Path) (error : AccessError)
  | toml
  | json (error : Json.ReadError)
  deriving DecidableEq, Repr

namespace ConfigError

/-- The message for a file that cannot be read. What is wrong inside a text is told by its kind
alone. -/
def message? : ConfigError → Option String
  | .read path error => some ("reading " ++ path.display ++ ": " ++ error.message)
  | .toml => none
  | .json _ => none

end ConfigError

namespace Config

/-- The two forms in which settings are written. -/
inductive Format where
  | json
  | toml
  deriving DecidableEq, Repr

/-- The form that the name of a file tells. -/
def Format.ofPath (path : Path) : Format :=
  let isJson (ext : String) : Bool := ext.toList.map Char.toLower = ['j', 's', 'o', 'n']
  if path.extensionText?.any isJson then .json else .toml

/-- Reads settings from a text. -/
def ofText (format : Format) (text : String) : Except ConfigError Config :=
  match format with
  | .json => (ofJsonText text).mapError .json
  | .toml =>
    match ofTomlText text with
    | some config => .ok config
    | none => .error .toml

/-- Reads settings from what is found under the name of a file. -/
def load (path : Path) (stored : Stored) : Except ConfigError Config := do
  let text ← stored.text.mapError (.read path)
  ofText (.ofPath path) text

end Config

end DiagnosticLens
