import DiagnosticLens.Remedy
import DiagnosticLens.Wire.Position

/-!
# Commands, code actions and answers on the wire

A code action answer is null or an array whose entries are null, commands or code actions. An
entry is tried as a command first. In encoding, what has its default value is left out.
-/

namespace DiagnosticLens

namespace TextEdit

/-- The fields of an edit. -/
def layout : Layout := ⟨"TextEdit", [("range", .required), ("newText", .required)]⟩

/-- An edit whose fields have not all been seen. -/
structure Draft where
  range : Option Range := none
  newText : Option String := none

/-- Adds the value of one field. -/
def Draft.put (d : Draft) (name : String) (value : Json) : Except WireError Draft :=
  match name with
  | "range" => do return { d with range := some (← Range.decode value) }
  | "newText" => do return { d with newText := some (← Wire.text value) }
  | _ => .ok d

/-- Decodes an edit. -/
def decode : Decoder TextEdit :=
  layout.decode Draft.put {} fun d => do
    return ⟨← Wire.need "range" d.range, ← Wire.need "newText" d.newText⟩

/-- Encodes an edit. -/
def encode (e : TextEdit) : Json := .obj [("newText", .str e.newText), ("range", e.range.encode)]

end TextEdit

namespace WorkspaceEdit

/-- The fields of a workspace edit. -/
def layout : Layout :=
  ⟨"WorkspaceEdit", [("changes", .defaulted), ("documentChanges", .defaulted)]⟩

/-- A workspace edit whose fields have not all been seen. -/
structure Draft where
  changes : Option (List (String × List TextEdit)) := none
  documentChanges : Option (Option Json) := none

/-- Adds the value of one field. -/
def Draft.put (d : Draft) (name : String) (value : Json) : Except WireError Draft :=
  match name with
  | "changes" => do
    return { d with changes := some (← Wire.map (Wire.list TextEdit.decode) value) }
  | "documentChanges" => do
    return { d with documentChanges := some (← Wire.nullable Wire.anything value) }
  | _ => .ok d

/-- Decodes a workspace edit. -/
def decode : Decoder WorkspaceEdit :=
  layout.decode Draft.put {} fun d =>
    .ok ⟨d.changes.getD [], d.documentChanges.getD none⟩

/-- Encodes the edits of one document. -/
def encodeChange (change : String × List TextEdit) : String × Json :=
  (change.1, .arr (change.2.map TextEdit.encode))

/-- Encodes a workspace edit. -/
def encode (e : WorkspaceEdit) : Json :=
  .obj (Wire.optional "changes"
      (if e.changes.isEmpty then none else some (.obj (e.changes.map encodeChange))) ++
    Wire.optional "documentChanges" e.documentChanges)

end WorkspaceEdit

namespace Command

/-- The fields of a command. -/
def layout : Layout :=
  ⟨"Command", [("title", .required), ("command", .required), ("arguments", .defaulted)]⟩

/-- A command whose fields have not all been seen. -/
structure Draft where
  title : Option String := none
  command : Option String := none
  arguments : Option (List Json) := none

/-- Adds the value of one field. -/
def Draft.put (d : Draft) (name : String) (value : Json) : Except WireError Draft :=
  match name with
  | "title" => do return { d with title := some (← Wire.text value) }
  | "command" => do return { d with command := some (← Wire.text value) }
  | "arguments" => do return { d with arguments := some (← Wire.list Wire.anything value) }
  | _ => .ok d

/-- Decodes a command. -/
def decode : Decoder Command :=
  layout.decode Draft.put {} fun d => do
    return ⟨← Wire.need "title" d.title, ← Wire.need "command" d.command, d.arguments.getD []⟩

/-- Encodes a command. -/
def encode (c : Command) : Json :=
  .obj (Wire.optional "arguments" (if c.arguments.isEmpty then none else some (.arr c.arguments)) ++
    [("command", .str c.command), ("title", .str c.title)])

end Command

namespace CodeAction

/-- The fields of a code action. -/
def layout : Layout :=
  ⟨"CodeAction",
    [("title", .required), ("kind", .defaulted), ("edit", .defaulted), ("command", .defaulted),
      ("isPreferred", .defaulted), ("data", .defaulted)]⟩

/-- A code action whose fields have not all been seen. -/
structure Draft where
  title : Option String := none
  kind : Option (Option String) := none
  edit : Option (Option WorkspaceEdit) := none
  command : Option (Option Command) := none
  isPreferred : Option Bool := none
  data : Option (Option Json) := none

/-- Adds the value of one field. -/
def Draft.put (d : Draft) (name : String) (value : Json) : Except WireError Draft :=
  match name with
  | "title" => do return { d with title := some (← Wire.text value) }
  | "kind" => do return { d with kind := some (← Wire.nullable Wire.text value) }
  | "edit" => do return { d with edit := some (← Wire.nullable WorkspaceEdit.decode value) }
  | "command" => do return { d with command := some (← Wire.nullable Command.decode value) }
  | "isPreferred" => do return { d with isPreferred := some (← Wire.boolean value) }
  | "data" => do return { d with data := some (← Wire.nullable Wire.anything value) }
  | _ => .ok d

/-- Decodes a code action. -/
def decode : Decoder CodeAction :=
  layout.decode Draft.put {} fun d => do
    return ⟨← Wire.need "title" d.title, d.kind.getD none, d.edit.getD none, d.command.getD none,
      d.isPreferred.getD false, d.data.getD none⟩

/-- Encodes a code action. -/
def encode (a : CodeAction) : Json :=
  .obj (Wire.optional "command" (a.command.map Command.encode) ++
    Wire.optional "data" a.data ++
    Wire.optional "edit" (a.edit.map WorkspaceEdit.encode) ++
    Wire.optional "isPreferred" (if a.isPreferred then some (.bool true) else none) ++
    Wire.optional "kind" (a.kind.map .str) ++
    [("title", .str a.title)])

end CodeAction

namespace Proposal

/-- Decodes an entry, which is a command if it can be read as one, and else a code action. -/
def decode : Decoder Proposal := fun value =>
  match Command.decode value with
  | .ok c => .ok (.command c)
  | .error _ =>
    match CodeAction.decode value with
    | .ok a => .ok (.action a)
    | .error _ => .error .noProposal

/-- Encodes an entry. -/
def encode : Proposal → Json
  | .command c => c.encode
  | .action a => a.encode

end Proposal

/-- Decodes an answer to a request for fixes. -/
def CodeActionAnswer.decode : Decoder CodeActionAnswer :=
  Wire.nullable (Wire.list (Wire.nullable Proposal.decode))

end DiagnosticLens
