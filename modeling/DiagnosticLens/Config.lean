import DiagnosticLens.Registry

/-!
# Settings

Which language servers there are and which files they look after.
-/

namespace DiagnosticLens

/-- The settings of one language server. -/
structure ServerConfig where
  languageId : String
  fileExtensions : List String := []
  deriving DecidableEq, Repr

/-- All settings. -/
structure Config where
  /-- Whether files are inspected at all. -/
  enabled : Bool := true
  servers : Registry ServerConfig := {}

end DiagnosticLens
