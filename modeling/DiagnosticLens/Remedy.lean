import DiagnosticLens.Json.Value
import DiagnosticLens.Text.Position

/-!
# Remedies

What a server offers to mend a problem: a command for the server to run, or a code action that
carries edits, a command, or both. A `Proposal` is one entry of a server's answer; a `Remedy` is a
proposal bound to the document whose session it came from.
-/

namespace DiagnosticLens

/-- A command that is run by sending it back to the server. -/
structure Command where
  title : String
  command : String
  arguments : List Json

/-- The replacement of a range by a text. -/
structure TextEdit where
  range : Range
  newText : String
  deriving DecidableEq, Repr

/-- Edits by document, in increasing order of their URIs. `documentChanges` is passed on as it is.
-/
structure WorkspaceEdit where
  changes : List (String × List TextEdit)
  documentChanges : Option Json

/-- A fix that carries an edit, a command, or both. `data` is passed on as it is. -/
structure CodeAction where
  title : String
  kind : Option String
  edit : Option WorkspaceEdit
  command : Option Command
  isPreferred : Bool
  data : Option Json

/-- One entry of an answer to a request for fixes. -/
inductive Proposal where
  | command (command : Command)
  | action (action : CodeAction)

/-- An answer to a request for fixes: none at all, or entries that may be null each. -/
abbrev CodeActionAnswer := Option (List (Option Proposal))

/-- A proposal bound to the document it was made for. -/
inductive Remedy where
  | command (uri : String) (command : Command)
  | action (uri : String) (action : CodeAction)

namespace Proposal

/-- The command that an entry is, if it is one. -/
def command? : Proposal → Option Command
  | .command c => some c
  | .action _ => none

/-- The code action that an entry is, if it is one. -/
def action? : Proposal → Option CodeAction
  | .command _ => none
  | .action a => some a

end Proposal

namespace Remedy

/-- The document a remedy is for. -/
def uri : Remedy → String
  | .command uri _ => uri
  | .action uri _ => uri

/-- The label that is offered to the user. -/
def title : Remedy → String
  | .command _ c => c.title
  | .action _ a => a.title

/-- Whether a remedy is a command. -/
def isCommand : Remedy → Bool
  | .command _ _ => true
  | .action _ _ => false

/-- The remedies of an answer: its commands, then its code actions, each in the order they came in.
Null entries are left out. -/
def ofProposals (uri : String) (entries : List (Option Proposal)) : List Remedy :=
  let proposals := entries.filterMap id
  (proposals.filterMap Proposal.command?).map (.command uri) ++
    (proposals.filterMap Proposal.action?).map (.action uri)

end Remedy

end DiagnosticLens
