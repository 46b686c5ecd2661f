import DiagnosticLens.Text.Bytes
import DiagnosticLens.Text.Position

/-!
# Documents and their lines

A `Document` is a text with a version and an index of its lines. Lines end at a line feed, a
carriage return followed by a line feed, or a carriage return alone, and after the last end there
is always one more line. `Document.offsetOf` maps a server's position to a character offset and
never fails: a line past the end is the end of the text, a column past the end of its line is the
end of that line, and a column inside a surrogate pair is the character after it.
`Document.textIn` cuts a span out of the text.

## Implementation notes

Both maps are first written as evaluations that stop with a `Fault` wherever they would leave the
text or the line table or count below zero: `checkedOffset` and `checkedText`. The index of a
document is fixed by its text, which the field `indexed` records, and with such an index no fault
arises.
-/

namespace DiagnosticLens

/-- One line of a text: where it starts, in bytes and in characters, and the byte at which its
content ends, before the line end. -/
structure LineBounds where
  startByte : Nat
  contentEndByte : Nat
  startChar : Nat
  deriving DecidableEq, Repr, Inhabited

/-- How far a scan for line ends has come: the start of the open line and the next character. -/
structure LineCursor where
  startByte : Nat := 0
  startChar : Nat := 0
  byte : Nat := 0
  char : Nat := 0
  deriving DecidableEq, Repr, Inhabited

namespace LineCursor

/-- The open line, closed at the current byte. -/
def close (cur : LineCursor) : LineBounds := ⟨cur.startByte, cur.byte, cur.startChar⟩

/-- Step over one character inside a line. -/
def step (cur : LineCursor) (c : Char) : LineCursor :=
  { cur with byte := cur.byte + c.utf8Size, char := cur.char + 1 }

/-- Step over a line end of `n` one-byte characters, and open the next line behind it. -/
def openNext (cur : LineCursor) (n : Nat) : LineCursor :=
  ⟨cur.byte + n, cur.char + n, cur.byte + n, cur.char + n⟩

end LineCursor

/-- The lines from the cursor on, and the number of characters up to the end of the text. -/
def indexLinesFrom : List Char → LineCursor → List LineBounds × Nat
  | [], cur => ([cur.close], cur.char)
  | '\r' :: '\n' :: rest, cur =>
    let (lines, count) := indexLinesFrom rest (cur.openNext 2)
    (cur.close :: lines, count)
  | '\n' :: rest, cur =>
    let (lines, count) := indexLinesFrom rest (cur.openNext 1)
    (cur.close :: lines, count)
  | '\r' :: rest, cur =>
    let (lines, count) := indexLinesFrom rest (cur.openNext 1)
    (cur.close :: lines, count)
  | c :: rest, cur => indexLinesFrom rest (cur.step c)

/-- The lines of a text and its number of characters. -/
def indexLines (text : String) : Array LineBounds × Nat :=
  let (lines, count) := indexLinesFrom text.toList {}
  (lines.toArray, count)

/-- A text at one version, with the index of its lines. -/
structure Document where
  text : String
  version : UInt64
  lines : Array LineBounds
  charLen : Nat
  indexed : indexLines text = (lines, charLen)
  deriving DecidableEq

/-- What could go wrong in an evaluation on a document whose index did not belong to its text. -/
inductive Fault where
  /-- A cut inside a character, past the end, or from a later to an earlier byte. -/
  | badCut
  /-- A line number outside the table. -/
  | noLine
  /-- A difference below zero. -/
  | negative
  deriving DecidableEq, Repr

/-- How many UTF-16 code units a character takes: two outside the basic plane. -/
def utf16Len (c : Char) : Nat := if c.toNat < 0x10000 then 1 else 2

/-- The number of leading characters that are needed to reach `units` UTF-16 code units, or all of
them if they do not reach that far. -/
def charsReaching (units : Nat) : List Char → Nat
  | [] => 0
  | c :: cs => if units = 0 then 0 else charsReaching (units - utf16Len c) cs + 1

namespace Document

/-- The document with this text and version. -/
def ofText (text : String) (version : UInt64) : Document :=
  ⟨text, version, (indexLines text).1, (indexLines text).2, rfl⟩

/-- The number of lines, which is one more than the number of line ends. -/
def lineCount (d : Document) : Nat := d.lines.size

/-- The cut from byte `start` to byte `stop`, or a fault. -/
def cut (d : Document) (start stop : Nat) : Except Fault (List Char) :=
  match Text.sliceBytes? start stop d.text.toList with
  | some cs => .ok cs
  | none => .error .badCut

/-- The character offset of a position, or a fault. -/
def checkedOffset (d : Document) (p : Position) : Except Fault Nat :=
  match d.lines[p.line.toNat]? with
  | none => .ok d.charLen
  | some line => do
    let content ← d.cut line.startByte line.contentEndByte
    return line.startChar + charsReaching p.character.toNat content

/-- The character offset of a position. -/
def offsetOf (d : Document) (p : Position) : Nat :=
  (d.checkedOffset p).toOption.getD d.charLen

/-- The byte at which character number `offset` starts, or a fault: the line that holds the offset
is searched for, and the rest is counted from the start of that line. -/
def checkedByte (d : Document) (offset : Nat) : Except Fault Nat := do
  let index := Text.partitionPoint (fun line => decide (line.startChar ≤ offset)) d.lines - 1
  let line ← match d.lines[index]? with
    | some line => .ok line
    | none => .error .noLine
  let behind ← d.cut line.startByte d.text.utf8ByteSize
  if line.startChar ≤ offset then
    match Text.byteOfChar? (offset - line.startChar) behind with
    | some byte => return line.startByte + byte
    | none => return d.text.utf8ByteSize
  else .error .negative

/-- The text a span covers, `none` if it runs past the end, or a fault. -/
def checkedText (d : Document) (span : TextSpan) : Except Fault (Option String) := do
  if span.stop > d.charLen then return none
  let start ← d.checkedByte span.start
  let stop ← d.checkedByte span.stop
  return some (String.ofList (← d.cut start stop))

/-- The text a span covers, or `none` if it runs past the end. -/
def textIn (d : Document) (span : TextSpan) : Option String :=
  (d.checkedText span).toOption.join

end Document

end DiagnosticLens
