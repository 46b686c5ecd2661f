import DiagnosticLens.Text.Position

/-!
# Diagnostics

What a language server has to say about a stretch of a document, and how serious it is. The editor
knows fewer styles than a server knows severities: `Severity.highlight` maps one onto the other.
-/

namespace DiagnosticLens

/-- How serious a diagnostic is. -/
inductive Severity where
  | error
  | warning
  | information
  | hint
  deriving DecidableEq, Repr

/-- How the editor styles a problem. -/
inductive Highlight where
  | genericError
  | genericErrorOrWarning
  | information
  deriving DecidableEq, Repr

namespace Severity

/-- The severity with this number on the wire. Only one to four are numbers of a severity. -/
def ofCode? (code : UInt64) : Option Severity :=
  if code = 1 then some .error
  else if code = 2 then some .warning
  else if code = 3 then some .information
  else if code = 4 then some .hint
  else none

/-- The number of a severity on the wire. -/
def code : Severity → UInt64
  | .error => 1
  | .warning => 2
  | .information => 3
  | .hint => 4

/-- The style for a severity. Hints share the style of information. -/
def highlight : Severity → Highlight
  | .error => .genericError
  | .warning => .genericErrorOrWarning
  | .information => .information
  | .hint => .information

/-- A severity is read back from its number. -/
theorem ofCode?_code (s : Severity) : ofCode? s.code = some s := by
  cases s <;> rfl

end Severity

/-- A diagnostic as the editor keeps it. -/
structure Diagnostic where
  range : Range
  /-- `none` if the server gave no severity or one it has no name for. -/
  severity : Option Severity
  message : String
  /-- The tool that found it. -/
  source : Option String
  code : Option String
  deriving DecidableEq, Repr

/-- The style for a diagnostic. Without a severity it is shown, but not styled. -/
def Diagnostic.highlight (d : Diagnostic) : Option Highlight := d.severity.map Severity.highlight

/-- The table of styles. Each severity has one style, and a style tells the severity but for
information and hints. -/
theorem Diagnostic.highlight_eq_some_iff (d : Diagnostic) (h : Highlight) :
    d.highlight = some h ↔
      (d.severity = some .error ∧ h = .genericError) ∨
        (d.severity = some .warning ∧ h = .genericErrorOrWarning) ∨
        ((d.severity = some .information ∨ d.severity = some .hint) ∧ h = .information) := by
  rw [highlight]
  rcases d.severity with _ | _ | _ | _ | _ <;> simp [Severity.highlight, eq_comm]

end DiagnosticLens
