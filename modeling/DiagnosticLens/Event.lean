import DiagnosticLens.Json.Value
import DiagnosticLens.Problem
import DiagnosticLens.Store
import DiagnosticLens.Uri.FilePath

/-!
# Events

What the library reports while it works. Each event is a value that says what happened;
`Event.level` and `Event.fields` give the form in which it is recorded.
-/

namespace DiagnosticLens

/-- Why a pass gives nothing rather than a part of its problems. -/
inductive PassError where
  | snapshot (error : SnapshotError)
  /-- The text was edited in the meantime. -/
  | documentChanged (expected found : UInt64)
  deriving DecidableEq, Repr

/-- The message for a pass that gives nothing. -/
def PassError.message : PassError → String
  | .snapshot error => error.message
  | .documentChanged expected found =>
    "document changed during the pass (version " ++ toString expected.toNat ++ " -> " ++
      toString found.toNat ++ ")"

/-- How much an event matters. -/
inductive Level where
  | warn
  | debug
  | trace
  deriving DecidableEq, Repr

/-- What happened. -/
inductive Event where
  /-- An extension is claimed again after a server got it. -/
  | extensionTaken (extension owner claimant : String)
  | sessionAttached (uri : String)
  | sessionDetached (uri : String)
  /-- Diagnostics came for something that is no file. -/
  | notAFile (uri : String)
  | diagnosticsUpdated (uri : String) (count : Nat)
  /-- A file has no URI and is left to others. -/
  | noUri (error : Uri.NotAbsolute)
  /-- A file has no session and is left to others. -/
  | noSession (uri : String)
  | editorDisposed (uri : String)
  /-- A diagnostic covers no text. -/
  | emptyRange (uri : String) (start : Position)
  /-- A diagnostic covers text that is not there. -/
  | outsideText (uri : String) (span : TextSpan)
  | requestFailed (uri error : String)
  | commandOffered (title : String)
  | actionOffered (title : String)
  /-- The editor did not take a problem. -/
  | problemRejected (uri message : String) (error : ConstructionError)
  | passComplete (uri : String) (diagnostics problems : Nat)
  | passAborted (uri : String) (error : PassError)
  deriving DecidableEq, Repr

namespace Event

/-- How much an event matters. -/
def level : Event → Level
  | .extensionTaken .. => .warn
  | .requestFailed .. => .warn
  | .problemRejected .. => .warn
  | .passAborted .. => .warn
  | .commandOffered .. => .trace
  | .actionOffered .. => .trace
  | _ => .debug

/-- The sentence that an event is recorded with. -/
def text : Event → String
  | .extensionTaken extension owner claimant =>
    "Multiple LSP servers configured for extension '" ++ extension ++ "': '" ++ owner ++
      "' and '" ++ claimant ++ "'. Using '" ++ owner ++ "'."
  | .sessionAttached _ => "Session attached"
  | .sessionDetached _ => "Session detached"
  | .notAFile _ => "Ignoring diagnostics for non-file URI"
  | .diagnosticsUpdated .. => "Diagnostics updated"
  | .noUri error => "Delegating inspection: " ++ error.message
  | .noSession _ => "No LSP session, delegating inspection"
  | .editorDisposed _ => "Editor disposed, skipping inspection"
  | .emptyRange .. => "Skipping empty diagnostic range"
  | .outsideText .. => "Skipping diagnostic outside the document text"
  | .requestFailed .. => "Code action request failed"
  | .commandOffered _ => "Command remedy"
  | .actionOffered _ => "Code action remedy"
  | .problemRejected .. => "Dropping problem the host rejected"
  | .passComplete .. => "Inspection pass complete"
  | .passAborted .. => "Inspection pass aborted"

/-- What an event is recorded with besides the sentence. -/
def details : Event → List (String × Json)
  | .extensionTaken .. => []
  | .sessionAttached uri => [("uri", .str uri)]
  | .sessionDetached uri => [("uri", .str uri)]
  | .notAFile uri => [("uri", .str uri)]
  | .diagnosticsUpdated uri count => [("uri", .str uri), ("count", .ofNat count)]
  | .noUri _ => []
  | .noSession uri => [("uri", .str uri)]
  | .editorDisposed uri => [("uri", .str uri)]
  | .emptyRange uri start =>
    [("uri", .str uri), ("line", .num (.ofUInt32 start.line)),
      ("character", .num (.ofUInt32 start.character))]
  | .outsideText uri span =>
    [("uri", .str uri), ("start", .ofNat span.start), ("end", .ofNat span.stop)]
  | .requestFailed uri error => [("uri", .str uri), ("error", .str error)]
  | .commandOffered title => [("title", .str title)]
  | .actionOffered title => [("title", .str title)]
  | .problemRejected uri message error =>
    [("uri", .str uri), ("message", .str message), ("error", .str error.message)]
  | .passComplete uri diagnostics problems =>
    [("uri", .str uri), ("diagnostics", .ofNat diagnostics), ("problems", .ofNat problems)]
  | .passAborted uri error => [("uri", .str uri), ("error", .str error.message)]

/-- All that an event is recorded with, the sentence first. -/
def fields (e : Event) : List (String × Json) := ("message", .str e.text) :: e.details

end Event

end DiagnosticLens
