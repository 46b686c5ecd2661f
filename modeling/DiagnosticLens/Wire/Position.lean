import DiagnosticLens.Text.Position
import DiagnosticLens.Wire.Layout

/-!
# Positions and ranges on the wire
-/

namespace DiagnosticLens

namespace Position

/-- The fields of a position. -/
def layout : Layout := ⟨"Position", [("line", .required), ("character", .required)]⟩

/-- A position whose fields have not all been seen. -/
structure Draft where
  line : Option UInt32 := none
  character : Option UInt32 := none

/-- Adds the value of one field. -/
def Draft.put (d : Draft) (name : String) (value : Json) : Except WireError Draft :=
  match name with
  | "line" => do return { d with line := some (← Wire.word32 value) }
  | "character" => do return { d with character := some (← Wire.word32 value) }
  | _ => .ok d

/-- Decodes a position. -/
def decode : Decoder Position :=
  layout.decode Draft.put {} fun d => do
    return ⟨← Wire.need "line" d.line, ← Wire.need "character" d.character⟩

/-- Encodes a position. -/
def encode (p : Position) : Json :=
  .obj [("character", .num (.ofUInt32 p.character)), ("line", .num (.ofUInt32 p.line))]

end Position

namespace Range

/-- The fields of a range. -/
def layout : Layout := ⟨"Range", [("start", .required), ("end", .required)]⟩

/-- A range whose fields have not all been seen. -/
structure Draft where
  start : Option Position := none
  stop : Option Position := none

/-- Adds the value of one field. -/
def Draft.put (d : Draft) (name : String) (value : Json) : Except WireError Draft :=
  match name with
  | "start" => do return { d with start := some (← Position.decode value) }
  | "end" => do return { d with stop := some (← Position.decode value) }
  | _ => .ok d

/-- Decodes a range. -/
def decode : Decoder Range :=
  layout.decode Draft.put {} fun d => do
    return ⟨← Wire.need "start" d.start, ← Wire.need "end" d.stop⟩

/-- Encodes a range. -/
def encode (r : Range) : Json := .obj [("end", r.stop.encode), ("start", r.start.encode)]

end Range

end DiagnosticLens
