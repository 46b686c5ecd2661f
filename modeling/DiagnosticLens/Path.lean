import DiagnosticLens.Text.Pieces
import DiagnosticLens.Text.Utf8

/-!
# Paths

A path is a list of bytes, separated into components by slashes. Empty components and those that
consist of one dot do not count; two dots do, since what they lead to depends on the file system.
-/

namespace DiagnosticLens

/-- A path of a file. -/
structure Path where
  bytes : List UInt8
  deriving DecidableEq, Repr

namespace Path

/-- The byte that separates components. -/
def slash : UInt8 := 0x2F

/-- The byte that separates the extension. -/
def dot : UInt8 := 0x2E

/-- The path spelled by a text. -/
def ofString (s : String) : Path := ⟨Utf8.encode s⟩

/-- Whether a path starts at the root. -/
def isAbsolute (p : Path) : Bool := p.bytes.head? == some slash

/-- The components that count. -/
def components (p : Path) : List (List UInt8) :=
  (splitAll (· == slash) p.bytes).filter fun c => c ≠ [] && c ≠ [dot]

/-- The last component, unless it leads up. -/
def fileName? (p : Path) : Option (List UInt8) :=
  p.components.getLast?.filter (· ≠ [dot, dot])

/-- What follows the last dot of the file name, if something stands before it. -/
def extension? (p : Path) : Option (List UInt8) := do
  let name ← p.fileName?
  let behind := (name.reverse.takeWhile (· ≠ dot)).reverse
  if behind.length + 1 < name.length then some behind else none

/-- The extension as text, if it is UTF-8. -/
def extensionText? (p : Path) : Option String := p.extension?.bind Utf8.decode?

/-- The path for a message. -/
def display (p : Path) : String := Utf8.decodeLossy p.bytes

end Path

end DiagnosticLens
