import DiagnosticLens.Diagnostic
import DiagnosticLens.Wire.Position

/-!
# Diagnostics on the wire

A server publishes diagnostics with a numeric severity and a code of any kind. The editor keeps a
severity only if it is one of the four, and a code only if it is a string or a number.
`Diagnostic.encode` is what the server gets to see again when it is asked for fixes.
-/

namespace DiagnosticLens

/-- A diagnostic as a server sends it. -/
structure WireDiagnostic where
  range : Range
  severity : Option UInt64
  source : Option String
  code : Option Json
  message : String

/-- A notification of all diagnostics of one document. -/
structure PublishParams where
  uri : String
  version : Option Int64
  diagnostics : List WireDiagnostic

namespace WireDiagnostic

/-- The fields of a diagnostic. -/
def layout : Layout :=
  ⟨"LspDiagnostic",
    [("range", .required), ("severity", .nullable), ("source", .nullable), ("code", .nullable),
      ("message", .required)]⟩

/-- A diagnostic whose fields have not all been seen. -/
structure Draft where
  range : Option Range := none
  severity : Option (Option UInt64) := none
  source : Option (Option String) := none
  code : Option (Option Json) := none
  message : Option String := none

/-- Adds the value of one field. -/
def Draft.put (d : Draft) (name : String) (value : Json) : Except WireError Draft :=
  match name with
  | "range" => do return { d with range := some (← Range.decode value) }
  | "severity" => do return { d with severity := some (← Wire.nullable Wire.word64 value) }
  | "source" => do return { d with source := some (← Wire.nullable Wire.text value) }
  | "code" => do return { d with code := some (← Wire.nullable Wire.anything value) }
  | "message" => do return { d with message := some (← Wire.text value) }
  | _ => .ok d

/-- Decodes a diagnostic. -/
def decode : Decoder WireDiagnostic :=
  layout.decode Draft.put {} fun d => do
    return ⟨← Wire.need "range" d.range, d.severity.getD none, d.source.getD none,
      d.code.getD none, ← Wire.need "message" d.message⟩

/-- The text that is kept of a code. -/
def codeText? : Json → Option String
  | .str s => some s
  | .num n => some n.render
  | _ => none

/-- The diagnostic as the editor keeps it. -/
def toDiagnostic (w : WireDiagnostic) : Diagnostic :=
  ⟨w.range, w.severity.bind Severity.ofCode?, w.message, w.source, w.code.bind codeText?⟩

end WireDiagnostic

namespace PublishParams

/-- The fields of a notification. -/
def layout : Layout :=
  ⟨"PublishDiagnosticsParams",
    [("uri", .required), ("version", .defaulted), ("diagnostics", .required)]⟩

/-- A notification whose fields have not all been seen. -/
structure Draft where
  uri : Option String := none
  version : Option (Option Int64) := none
  diagnostics : Option (List WireDiagnostic) := none

/-- Adds the value of one field. -/
def Draft.put (d : Draft) (name : String) (value : Json) : Except WireError Draft :=
  match name with
  | "uri" => do return { d with uri := some (← Wire.text value) }
  | "version" => do return { d with version := some (← Wire.nullable Wire.signed64 value) }
  | "diagnostics" => do
    return { d with diagnostics := some (← Wire.list WireDiagnostic.decode value) }
  | _ => .ok d

/-- Decodes a notification. -/
def decode : Decoder PublishParams :=
  layout.decode Draft.put {} fun d => do
    return ⟨← Wire.need "uri" d.uri, d.version.getD none, ← Wire.need "diagnostics" d.diagnostics⟩

/-- The diagnostics as the editor keeps them, in the order they came in. -/
def toDiagnostics (p : PublishParams) : List Diagnostic :=
  p.diagnostics.map WireDiagnostic.toDiagnostic

end PublishParams

/-- Encodes a diagnostic for the server that sent it. -/
def Diagnostic.encode (d : Diagnostic) : Json :=
  .obj (Wire.optional "code" (d.code.map .str) ++
    [("message", .str d.message), ("range", d.range.encode)] ++
    Wire.optional "severity" (d.severity.map fun s => .num (.ofUInt64 s.code)) ++
    Wire.optional "source" (d.source.map .str))

end DiagnosticLens
