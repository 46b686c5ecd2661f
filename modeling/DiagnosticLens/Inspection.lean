import DiagnosticLens.Manager

/-!
# The inspection

The inspection is what the editor calls for a file. If the file is of a kind that is looked after,
has a URI, and has an open session under it, a pass is run; otherwise the file is left to others.
A pass that cannot be relied on reports nothing.
-/

namespace DiagnosticLens

/-- What came of inspecting a file. -/
inductive Inspection where
  | reported (problems : List Problem)
  /-- The pass could not be relied on. -/
  | aborted
  /-- The file is left to others. -/
  | delegated

namespace Inspection

/-- The problems to show, if the pass came to an end. -/
def problems? : Inspection → Option (List Problem)
  | .reported problems => some problems
  | .aborted => none
  | .delegated => none

/-- Whether the file is left to others. -/
def isDelegated : Inspection → Bool
  | .delegated => true
  | _ => false

/-- How the inspection presents itself in the editor. -/
structure Metadata where
  id : String
  shortName : String
  displayName : String
  groupDisplayName : String
  staticDescription : String
  enabledByDefault : Bool
  deriving DecidableEq, Repr

/-- The entry of the inspection in the editor's list. -/
def metadata : Metadata :=
  ⟨"LSP", "LSP", "LSP", "LSP", "Reports errors by the LSP server", true⟩

end Inspection

namespace Manager

variable {ε : Type}

/-- Inspects a file, given what surrounds the manager. -/
def inspect (factory : ProblemFactory (World ε)) (file : Path) (isPreview : Bool) :
    Traced (Manager ε × ε) Inspection := fun (m, rest) =>
  if m.supports file.extensionText? then
    match Uri.ofPath file with
    | .error error => ⟨.delegated, [.noUri error], (m, rest)⟩
    | .ok uri =>
      match m.sessionFor? uri with
      | none => ⟨.delegated, [.noSession uri], (m, rest)⟩
      | some session =>
        let pass := (Pass.run ⟨uri, file, session, factory, isPreview⟩).run ⟨m.store, rest⟩
        let after := ({ m with store := pass.state.store }, pass.state.rest)
        match pass.result with
        | .ok problems => ⟨.reported problems, pass.events, after⟩
        | .error error => ⟨.aborted, pass.events ++ [.passAborted uri error], after⟩
  else ⟨.delegated, [], (m, rest)⟩

end Manager

end DiagnosticLens
