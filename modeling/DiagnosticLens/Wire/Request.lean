import DiagnosticLens.Problem
import DiagnosticLens.Wire.Diagnostic

/-!
# The request for fixes

A server is asked for fixes at an anchor and shown the diagnostics there again: all whose range
overlaps that of the anchor, in their order.
-/

namespace DiagnosticLens

/-- The diagnostics that a request at an anchor shows to the server. -/
def Anchor.context (anchor : Anchor) (diagnostics : List Diagnostic) : List Diagnostic :=
  diagnostics.filter fun d => d.range.overlaps anchor.range

/-- The parameters of a request for fixes. -/
def Anchor.requestParams (anchor : Anchor) (uri : String) (diagnostics : List Diagnostic) : Json :=
  .obj [("context",
      .obj [("diagnostics", .arr ((anchor.context diagnostics).map Diagnostic.encode))]),
    ("range", anchor.range.encode),
    ("textDocument", .obj [("uri", .str uri)])]

end DiagnosticLens
