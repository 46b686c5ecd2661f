import DiagnosticLens.Pass
import DiagnosticLens.Routing
import DiagnosticLens.Wire.Diagnostic

/-!
# The manager

The manager knows which files are inspected, which editor sessions are open, and the diagnostics the
servers have sent. Servers report to it; the inspection looks sessions up in it.
-/

namespace DiagnosticLens

/-- What a server reports. -/
inductive ServerEvent where
  /-- The diagnostics of a document are these from now on. -/
  | diagnostics (uri : String) (items : List Diagnostic)
  /-- The document has been closed. -/
  | closed (uri : String)

/-- The sessions, the diagnostics, and the map from extensions to servers. Sessions act on the
store of the manager and on surroundings of type `ε`. -/
structure Manager (ε : Type) where
  extensions : ExtensionMap
  sessions : Registry (Session (World ε)) := {}
  store : Store := {}

namespace Manager

variable {ε : Type}

/-- The manager for some settings, with neither sessions nor diagnostics. -/
def ofConfig (config : Config) : Manager ε × List Event :=
  let (extensions, events) := ExtensionMap.ofConfig config
  ({ extensions := extensions }, events)

/-- Registers a session, in place of any other for the document. -/
def attach (m : Manager ε) (uri : String) (session : Session (World ε)) :
    Manager ε × List Event :=
  ({ m with sessions := m.sessions.set uri session }, [.sessionAttached uri])

/-- Takes away the session of a document, if there is one, and forgets its diagnostics. -/
def detach (m : Manager ε) (uri : String) : Manager ε × List Event :=
  ({ m with sessions := m.sessions.erase uri, store := m.store.forget uri },
    if m.sessions.contains uri then [.sessionDetached uri] else [])

/-- Takes note of what a server reports. Diagnostics of what is no file are ignored. -/
def handle (m : Manager ε) : ServerEvent → Manager ε × List Event
  | .diagnostics uri items =>
    match Uri.toPath? uri with
    | none => (m, [.notAFile uri])
    | some _ =>
      ({ m with store := m.store.publish uri items }, [.diagnosticsUpdated uri items.length])
  | .closed uri => m.detach uri

/-- Takes note of a notification. -/
def handlePublish (m : Manager ε) (params : PublishParams) : Manager ε × List Event :=
  m.handle (.diagnostics params.uri params.toDiagnostics)

/-- Whether files with an extension are inspected. -/
def supports (m : Manager ε) (ext : Option String) : Bool := m.extensions.supports ext

/-- The session of a document. -/
def sessionFor? (m : Manager ε) (uri : String) : Option (Session (World ε)) :=
  m.sessions.get? uri

end Manager

end DiagnosticLens
