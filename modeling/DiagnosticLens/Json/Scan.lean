import DiagnosticLens.Text.Bytes
import DiagnosticLens.Text.Digits

/-!
# Scanning JSON text

The leaves of the JSON grammar: blanks, words, strings and numbers. Each scanner takes what is
left of the text and gives what it found together with what is left after it. What goes wrong is
one of three things: the text ended too early, it is not JSON, or it is JSON of the wrong kind.

## Implementation notes

A text that is only skipped is held to less: it may hold unpaired surrogates, its numbers may be
of any size, and a number that breaks off at the end of the text counts as not JSON. `ScanMode`
says which.
-/

namespace DiagnosticLens.Json

/-- Why a text could not be read. -/
inductive ReadError where
  /-- The text ended inside a value. -/
  | truncated
  /-- The text is not JSON. -/
  | malformed
  /-- The text is JSON, but not of the expected kind. -/
  | mistyped
  deriving DecidableEq, Repr

/-- Whether a value is wanted or only stepped over. -/
inductive ScanMode where
  | keeping
  | skipping
  deriving DecidableEq, Repr

/-- A reader gives what it found and what is left of the text. -/
abbrev Reader (α : Type) := List Char → Except ReadError (α × List Char)

/-- The four blank characters. -/
def isBlank (c : Char) : Bool := c = ' ' || c = '\n' || c = '\t' || c = '\r'

/-- What follows the blanks at the front. -/
def skipBlank (cs : List Char) : List Char := cs.dropWhile isBlank

/-- Steps over the rest of a fixed word. -/
def word : List Char → List Char → Except ReadError (List Char)
  | [], cs => .ok cs
  | _ :: _, [] => .error .truncated
  | w :: ws, c :: cs => if w = c then word ws cs else .error .malformed

/-- The character that a short escape stands for. -/
def shortEscape? (c : Char) : Option Char :=
  match c with
  | '"' => some '"'
  | '\\' => some '\\'
  | '/' => some '/'
  | 'b' => some '\x08'
  | 'f' => some '\x0c'
  | 'n' => some '\n'
  | 'r' => some '\r'
  | 't' => some '\t'
  | _ => none

/-- Whether a UTF-16 unit opens a surrogate pair. -/
def isHighSurrogate (unit : Nat) : Bool := 0xD800 ≤ unit && unit < 0xDC00

/-- Whether a UTF-16 unit closes a surrogate pair. -/
def isLowSurrogate (unit : Nat) : Bool := 0xDC00 ≤ unit && unit < 0xE000

/-- What is wrong where four hexadecimal digits were due and there are not four characters. -/
def shortHexError (cs : List Char) : ReadError :=
  if Text.byteLen cs < 4 then .truncated else .malformed

/-- What is wrong behind the first half of a surrogate pair that is not followed by the second. -/
def unpairedError : List Char → ReadError
  | [] => .truncated
  | ['\\'] => .truncated
  | '\\' :: 'u' :: rest => shortHexError (rest.take 4)
  | _ => .malformed

/-- The content of a string up to its closing quote. When skipping, surrogates need no partner and
stand for nothing. -/
def stringBody (mode : ScanMode) : List Char → Except ReadError (List Char × List Char)
  | [] => .error .truncated
  | '"' :: rest => .ok ([], rest)
  | '\\' :: 'u' :: a :: b :: c :: d :: rest =>
    match Text.hexValues? [a, b, c, d] with
    | none => .error .malformed
    | some unit =>
      if mode = .skipping then stringBody mode rest
      else if isLowSurrogate unit then .error .malformed
      else if isHighSurrogate unit then
        match rest with
        | '\\' :: 'u' :: e :: f :: g :: h :: rest =>
          match Text.hexValues? [e, f, g, h] with
          | none => .error .malformed
          | some low =>
            if isLowSurrogate low then
              let c := Char.ofNat (0x10000 + (unit - 0xD800) * 0x400 + (low - 0xDC00))
              (stringBody mode rest).map fun (cs, rest) => (c :: cs, rest)
            else .error .malformed
        | rest => .error (unpairedError rest)
      else (stringBody mode rest).map fun (cs, rest) => (Char.ofNat unit :: cs, rest)
  | '\\' :: 'u' :: rest => .error (shortHexError rest)
  | ['\\'] => .error .truncated
  | '\\' :: c :: rest =>
    match shortEscape? c with
    | some c => (stringBody mode rest).map fun (cs, rest) => (c :: cs, rest)
    | none => .error .malformed
  | c :: rest =>
    if c.toNat < 0x20 then .error .malformed
    else (stringBody mode rest).map fun (cs, rest) => (c :: cs, rest)

/-- The parts of a number as written. -/
structure NumberText where
  negative : Bool
  whole : List Char
  fraction : Option (List Char)
  /-- Whether the exponent is negative, and its digits. -/
  exponent : Option (Bool × List Char)
  deriving DecidableEq, Repr

/-- The error for a number that breaks off: at the end of the text it depends on the mode. -/
def brokenNumber (mode : ScanMode) (rest : List Char) : ReadError :=
  if rest.isEmpty ∧ mode = .keeping then .truncated else .malformed

/-- At least one digit. -/
def digits (mode : ScanMode) : Reader (List Char) := fun cs =>
  match cs.takeWhile Char.isDigit with
  | [] => .error (brokenNumber mode cs)
  | ds => .ok (ds, cs.dropWhile Char.isDigit)

/-- The digits before the point: a single zero, or digits that do not start with one. -/
def wholePart (mode : ScanMode) : Reader (List Char) := fun cs =>
  match cs with
  | '0' :: rest => if rest.head?.any Char.isDigit then .error .malformed else .ok (['0'], rest)
  | cs => digits mode cs

/-- The digits behind a point, if there is one. -/
def fractionPart (mode : ScanMode) : Reader (Option (List Char)) := fun cs =>
  match cs with
  | '.' :: rest => (digits mode rest).map fun (ds, rest) => (some ds, rest)
  | cs => .ok (none, cs)

/-- The exponent, if there is one. -/
def exponentPart (mode : ScanMode) : Reader (Option (Bool × List Char)) := fun cs =>
  match cs with
  | c :: rest =>
    if c = 'e' ∨ c = 'E' then
      let (negative, rest) := match rest with
        | '+' :: rest => (false, rest)
        | '-' :: rest => (true, rest)
        | rest => (false, rest)
      (digits mode rest).map fun (ds, rest) => (some (negative, ds), rest)
    else .ok (none, c :: rest)
  | [] => .ok (none, [])

/-- A number. -/
def number (mode : ScanMode) : Reader NumberText := fun cs => do
  let (negative, cs) := match cs with
    | '-' :: rest => (true, rest)
    | cs => (false, cs)
  let (whole, cs) ← wholePart mode cs
  let (fraction, cs) ← fractionPart mode cs
  let (exponent, cs) ← exponentPart mode cs
  return (⟨negative, whole, fraction, exponent⟩, cs)

end DiagnosticLens.Json
