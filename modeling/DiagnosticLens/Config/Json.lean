import DiagnosticLens.Config
import DiagnosticLens.Json.Reader

/-!
# Settings in JSON

Settings are read straight off the text, and the first thing that is wrong is what is reported.
Both the settings and those of a server may be written as an object or as an array of their fields
in order. Unknown members are stepped over; a known member that comes twice is of the wrong kind,
and of two servers with one name the later counts.
-/

namespace DiagnosticLens.Config

open Json (ReadError Reader skipBlank word stringBody number value elements members afterColon
  endOfText)

/-- The error for a value of the wrong kind. A scalar has to be well-formed to be of a kind at
all. -/
def wrongKind (cs : List Char) : ReadError :=
  let scalar {α : Type} (read : Except ReadError α) : ReadError :=
    match read with
    | .ok _ => .mistyped
    | .error e => e
  match cs with
  | [] => .truncated
  | '[' :: _ => .mistyped
  | '\x7b' :: _ => .mistyped
  | 'n' :: rest => scalar (word ['u', 'l', 'l'] rest)
  | 't' :: rest => scalar (word ['r', 'u', 'e'] rest)
  | 'f' :: rest => scalar (word ['a', 'l', 's', 'e'] rest)
  | '"' :: rest => scalar (stringBody .keeping rest)
  | c :: rest =>
    if c = '-' ∨ c.isDigit then
      scalar (do
        let (text, _) ← number .keeping (c :: rest)
        if text.value?.isSome then .ok () else .error .malformed)
    else .malformed

/-- A truth value. -/
def readBool : Reader Bool := fun cs =>
  match skipBlank cs with
  | 't' :: rest => (word ['r', 'u', 'e'] rest).map (true, ·)
  | 'f' :: rest => (word ['a', 'l', 's', 'e'] rest).map (false, ·)
  | cs => .error (wrongKind cs)

/-- A string. -/
def readString : Reader String := fun cs =>
  match skipBlank cs with
  | '"' :: rest => (stringBody .keeping rest).map fun (s, rest) => (String.ofList s, rest)
  | cs => .error (wrongKind cs)

/-- An array of strings. -/
def readStrings : Reader (List String) := fun cs =>
  match skipBlank cs with
  | '[' :: rest => elements readString (rest.length + 1) true rest
  | cs => .error (wrongKind cs)

/-- The next element of a record that is written as an array, unless the array is at its end. -/
def readElement {α : Type} (first : Bool) (item : Reader α) : Reader (Option α) := fun cs =>
  let element := fun (cs : List Char) => (item cs).map fun (x, rest) => (some x, rest)
  match skipBlank cs with
  | [] => .error .truncated
  | ']' :: rest => .ok (none, ']' :: rest)
  | c :: rest =>
    if first then element (c :: rest)
    else if c = ',' then
      match skipBlank rest with
      | [] => .error .truncated
      | ']' :: _ => .error .malformed
      | cs => element cs
    else .error .malformed

/-- The end of a record that is written as an array. -/
def closeArray (cs : List Char) : Except ReadError (List Char) :=
  match skipBlank cs with
  | [] => .error .truncated
  | ']' :: rest => .ok rest
  | _ => .error .malformed

/-- Reads the value of a member, which must not have come before. -/
def readOnce {α : Type} (seen : Option α) (item : Reader α) : Reader α := fun cs =>
  if seen.isSome then .error .mistyped else do item (← afterColon cs)

/-- Steps over the value of an unknown member. -/
def skipMember (cs : List Char) : Except ReadError (List Char) := do
  let cs ← afterColon cs
  return (← value .skipping (cs.length + 1) cs).2

/-- The settings of a server, as far as they have been read. -/
structure ServerDraft where
  languageId : Option String := none
  fileExtensions : Option (List String) := none

/-- The settings of a server, which have to name a language. -/
def ServerDraft.finish (d : ServerDraft) : Except ReadError ServerConfig :=
  match d.languageId with
  | some languageId => .ok ⟨languageId, d.fileExtensions.getD []⟩
  | none => .error .mistyped

/-- Reads one member of the settings of a server. -/
def ServerDraft.member (d : ServerDraft) (key : String) : Reader ServerDraft := fun cs => do
  match key with
  | "language_id" =>
    let (x, rest) ← readOnce d.languageId readString cs
    return ({ d with languageId := some x }, rest)
  | "file_extensions" =>
    let (x, rest) ← readOnce d.fileExtensions readStrings cs
    return ({ d with fileExtensions := some x }, rest)
  | _ => return (d, ← skipMember cs)

/-- The settings of a server. -/
def readServer : Reader ServerConfig := fun cs => do
  match skipBlank cs with
  | '\x7b' :: rest =>
    let (draft, rest) ← members .keeping ServerDraft.member (rest.length + 1) true {} rest
    return (← draft.finish, rest)
  | '[' :: rest =>
    let (languageId, rest) ← readElement true readString rest
    let (fileExtensions, rest) ← readElement false readStrings rest
    let server ← (⟨languageId, fileExtensions⟩ : ServerDraft).finish
    return (server, ← closeArray rest)
  | cs => .error (wrongKind cs)

/-- The servers by name. -/
def readServers : Reader (Registry ServerConfig) := fun cs =>
  let member := fun (servers : Registry ServerConfig) (name : String) (cs : List Char) => do
    let (server, rest) ← readServer (← afterColon cs)
    return (servers.set name server, rest)
  match skipBlank cs with
  | '\x7b' :: rest => members .keeping member (rest.length + 1) true {} rest
  | cs => .error (wrongKind cs)

/-- The settings, as far as they have been read. -/
structure Draft where
  enabled : Option Bool := none
  servers : Option (Registry ServerConfig) := none

/-- The settings, with the defaults for what is missing. -/
def Draft.finish (d : Draft) : Config := ⟨d.enabled.getD true, d.servers.getD {}⟩

/-- Reads one member of the settings. -/
def Draft.member (d : Draft) (key : String) : Reader Draft := fun cs => do
  match key with
  | "enabled" =>
    let (x, rest) ← readOnce d.enabled readBool cs
    return ({ d with enabled := some x }, rest)
  | "servers" =>
    let (x, rest) ← readOnce d.servers readServers cs
    return ({ d with servers := some x }, rest)
  | _ => return (d, ← skipMember cs)

/-- All settings. -/
def readConfig : Reader Config := fun cs => do
  match skipBlank cs with
  | '\x7b' :: rest =>
    let (draft, rest) ← members .keeping Draft.member (rest.length + 1) true {} rest
    return (draft.finish, rest)
  | '[' :: rest =>
    let (enabled, rest) ← readElement true readBool rest
    let (servers, rest) ← readElement false readServers rest
    let rest ← closeArray rest
    return ((⟨enabled, servers⟩ : Draft).finish, rest)
  | cs => .error (wrongKind cs)

/-- Reads settings from a JSON text. -/
def ofJsonText (text : String) : Except ReadError Config := do
  let (config, rest) ← readConfig text.toList
  endOfText rest
  return config

end DiagnosticLens.Config
