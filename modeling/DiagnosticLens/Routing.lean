import DiagnosticLens.Config
import DiagnosticLens.Event

/-!
# Which server looks after a file

Servers claim files by extension, without regard to case or leading dots. The servers are gone
through in increasing order of their names, and whoever claims an extension first gets it; every
later claim to it is reported.
-/

namespace DiagnosticLens

/-- The form in which extensions are compared: no leading dots, ASCII letters in lower case. -/
def normalizeExtension (ext : String) : String :=
  String.ofList ((ext.toList.dropWhile (· == '.')).map Char.toLower)

/-- Extensions and the servers that look after them. -/
structure ExtensionMap where
  enabled : Bool := false
  owners : Registry String := {}

namespace ExtensionMap

/-- One claim: the extension goes to the claimant, unless it has an owner. -/
def claim (claimant : String) (ext : String) (owners : Registry String) :
    Registry String × List Event :=
  let ext := normalizeExtension ext
  match owners.get? ext with
  | some owner => (owners, [.extensionTaken ext owner claimant])
  | none => (owners.set ext claimant, [])

/-- Claims, one after the other. -/
def claimAll : List (String × String) → Registry String → Registry String × List Event
  | [], owners => (owners, [])
  | (claimant, ext) :: rest, owners =>
    let (owners, events) := claim claimant ext owners
    let (owners, later) := claimAll rest owners
    (owners, events ++ later)

/-- The claims of all servers, in increasing order of their names. -/
def claims (config : Config) : List (String × String) :=
  config.servers.sortedNames.flatMap fun name =>
    ((config.servers.get? name).elim [] ServerConfig.fileExtensions).map (name, ·)

/-- The map that settings give, and a report of each claim that came too late. -/
def ofConfig (config : Config) : ExtensionMap × List Event :=
  let (owners, events) := claimAll (claims config) .empty
  (⟨config.enabled, owners⟩, events)

/-- The server for an extension. There is none for a file without one, or if nothing is inspected.
-/
def serverFor? (m : ExtensionMap) (ext : Option String) : Option String :=
  if m.enabled then ext.bind fun e => m.owners.get? (normalizeExtension e) else none

/-- Whether some server looks after an extension. -/
def supports (m : ExtensionMap) (ext : Option String) : Bool := (m.serverFor? ext).isSome

end ExtensionMap

end DiagnosticLens
