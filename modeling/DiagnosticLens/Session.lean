import DiagnosticLens.Problem
import DiagnosticLens.Store
import DiagnosticLens.Text.Document

/-!
# Sessions and factories

What a pass works with: the session of one open editor, and the factory with which the editor
builds its problems. Both belong to others, and anything may happen while they answer.

## Implementation notes

Every question is therefore an action on a state `σ` that stands for the whole surroundings: the
editor, the server, the store and whatever else changes. A `World` is such a state that holds the
store of diagnostics; the rest of it is left open.
-/

namespace DiagnosticLens

/-- What can be asked of the session of an open editor. -/
structure Session (σ : Type) where
  /-- Whether the editor is gone. -/
  isDisposed : StateM σ Bool
  /-- The current text. -/
  document : StateM σ Document
  /-- The version of the current text. -/
  documentVersion : StateM σ UInt64
  /-- A copy of the current diagnostics. -/
  diagnostics : StateM σ (Except SnapshotError Snapshot)
  /-- Whether a copy is still current. -/
  verify : Snapshot → StateM σ (Except SnapshotError Unit)
  /-- The fixes that the server has for an anchor, or the reason why the request failed. -/
  codeAction : Anchor → StateM σ (Except String CodeActionAnswer)

/-- How the editor builds problems, without fixes or with a list of them. -/
structure ProblemFactory (σ : Type) where
  create : Anchor → String → Option Highlight → Bool →
    StateM σ (Except ConstructionError Problem)
  createWithRemedies : Anchor → String → Option Highlight → Bool → List Remedy →
    StateM σ (Except ConstructionError Problem)

/-- The factory that takes every problem with a valid anchor. -/
def ProblemFactory.plain (σ : Type) : ProblemFactory σ where
  create anchor message highlight isPreview :=
    pure (Problem.build anchor message highlight isPreview [])
  createWithRemedies anchor message highlight isPreview remedies :=
    pure (Problem.build anchor message highlight isPreview remedies)

/-- The store of diagnostics and the rest of the surroundings. -/
structure World (ε : Type) where
  store : Store
  rest : ε

end DiagnosticLens
