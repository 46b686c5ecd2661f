import DiagnosticLens.Diagnostic
import DiagnosticLens.Path
import DiagnosticLens.Remedy

/-!
# Problems

A problem is what the editor shows for a diagnostic. It hangs off an `Anchor`, the stretch of text
that the diagnostic covers, in the coordinates of the editor and of the server.
-/

namespace DiagnosticLens

/-- The stretch of one version of a document that a problem hangs off. -/
structure Anchor where
  text : String
  span : TextSpan
  /-- The same stretch as the server named it. -/
  range : Range
  version : UInt64
  file : Path
  deriving DecidableEq, Repr

/-- A problem for the editor to show. -/
structure Problem where
  anchor : Anchor
  message : String
  highlight : Option Highlight
  remedies : List Remedy
  isPreview : Bool

/-- Why the editor does not take a problem. -/
inductive ConstructionError where
  | invalidAnchor (reason : String)
  | notReady
  deriving DecidableEq, Repr

/-- The message for a problem that is not taken. -/
def ConstructionError.message : ConstructionError → String
  | .invalidAnchor reason => "invalid anchor: " ++ reason
  | .notReady => "problem host is not ready"

/-- An anchor is valid if its text has as many characters as its span covers. -/
def Anchor.check (anchor : Anchor) : Except ConstructionError Unit :=
  let chars := anchor.text.length
  let covered := anchor.span.charLen
  if chars = covered then .ok ()
  else .error (.invalidAnchor
    ("text has " ++ toString chars ++ " chars but span covers " ++ toString covered))

namespace Problem

/-- A problem at a valid anchor. -/
def build (anchor : Anchor) (message : String) (highlight : Option Highlight) (isPreview : Bool)
    (remedies : List Remedy) : Except ConstructionError Problem := do
  anchor.check
  return ⟨anchor, message, highlight, remedies, isPreview⟩

end Problem

end DiagnosticLens
