import DiagnosticLens.Text.Digits

/-!
# TOML strings

There are strings with escapes and strings without, and each kind may stand on one line or, in
triple quotes, on several. A string on several lines starts behind the first line break if that
comes at once, and up to two quotes may stand right before the closing three.
-/

namespace DiagnosticLens.Toml

/-- A reader gives what it found and what is left of the text. -/
abbrev Reader (α : Type) := List Char → Option (α × List Char)

/-- Whether a character is blank within a line. -/
def isBlank (c : Char) : Bool := c = ' ' || c = '\t'

/-- Whether a character may stand in a comment or a string: no control character but the tab. -/
def isPlain (c : Char) : Bool := c = '\t' || (0x20 ≤ c.toNat && c.toNat ≠ 0x7F)

/-- What follows a line break, if there is one at the front. -/
def lineBreak? : List Char → Option (List Char)
  | '\n' :: rest => some rest
  | '\r' :: '\n' :: rest => some rest
  | _ => none

/-- The character with a code point, if there is one. -/
def codePoint? (n : Nat) : Option Char := if n.isValidChar then some (Char.ofNat n) else none

/-- The character that so many hexadecimal digits at the front stand for, and how many that are. -/
def hexEscape (count : Nat) (cs : List Char) : Option (Char × Nat) :=
  if cs.length < count then none
  else ((Text.hexValues? (cs.take count)).bind codePoint?).map (·, count)

/-- The character that an escape stands for, and how many characters the escape has behind the
backslash. -/
def escape : List Char → Option (Char × Nat)
  | 'b' :: _ => some ('\x08', 1)
  | 't' :: _ => some ('\t', 1)
  | 'n' :: _ => some ('\n', 1)
  | 'f' :: _ => some ('\x0c', 1)
  | 'r' :: _ => some ('\r', 1)
  | 'e' :: _ => some ('\x1b', 1)
  | '"' :: _ => some ('"', 1)
  | '\\' :: _ => some ('\\', 1)
  | 'x' :: rest => (hexEscape 2 rest).map fun (c, n) => (c, n + 1)
  | 'u' :: rest => (hexEscape 4 rest).map fun (c, n) => (c, n + 1)
  | 'U' :: rest => (hexEscape 8 rest).map fun (c, n) => (c, n + 1)
  | _ => none

/-- The number of blanks and line breaks at the front. -/
def blankLength : List Char → Nat
  | ' ' :: rest => blankLength rest + 1
  | '\t' :: rest => blankLength rest + 1
  | '\n' :: rest => blankLength rest + 1
  | '\r' :: '\n' :: rest => blankLength rest + 2
  | _ => 0

/-- How many characters a backslash at the end of a line takes with it, if it stands there. -/
def foldLength? (cs : List Char) : Option Nat :=
  (lineBreak? (cs.dropWhile isBlank)).map fun _ => blankLength cs

/-- The content of a string on one line without escapes, up to its closing quote. -/
def literalLine : Reader (List Char)
  | [] => none
  | '\'' :: rest => some ([], rest)
  | c :: rest =>
    if isPlain c then (literalLine rest).map fun (cs, rest) => (c :: cs, rest) else none

/-- The content of a string on one line with escapes, up to its closing quote. The first `skip`
characters belong to an escape that has been read already. -/
def escapedLine : Nat → Reader (List Char)
  | _, [] => none
  | skip + 1, _ :: rest => escapedLine skip rest
  | 0, '"' :: rest => some ([], rest)
  | 0, '\\' :: rest => do
    let (c, length) ← escape rest
    let (cs, rest) ← escapedLine length rest
    return (c :: cs, rest)
  | 0, c :: rest =>
    if isPlain c then (escapedLine 0 rest).map fun (cs, rest) => (c :: cs, rest) else none

/-- The closing three quotes, behind the first of them: quotes that still belong to the content,
and what follows the string. -/
def closingQuotes (quote : Char) : Reader (List Char)
  | a :: b :: rest =>
    if a = quote ∧ b = quote then
      match rest with
      | [] => some ([], [])
      | [c] => if c = quote then some ([quote], []) else some ([], [c])
      | c :: d :: rest =>
        if c = quote then
          if d = quote then some ([quote, quote], rest) else some ([quote], d :: rest)
        else some ([], c :: d :: rest)
    else none
  | _ => none

/-- The content of a string on several lines without escapes, up to its closing quotes. -/
def literalBlock : Reader (List Char)
  | [] => none
  | '\n' :: rest => (literalBlock rest).map fun (cs, rest) => ('\n' :: cs, rest)
  | '\r' :: '\n' :: rest => (literalBlock rest).map fun (cs, rest) => ('\r' :: '\n' :: cs, rest)
  | c :: rest =>
    match if c = '\'' then closingQuotes '\'' rest else none with
    | some closing => some closing
    | none => if isPlain c then (literalBlock rest).map fun (cs, rest) => (c :: cs, rest) else none

/-- The content of a string on several lines with escapes, up to its closing quotes. The first
`skip` characters belong to an escape that has been read already. -/
def escapedBlock : Nat → Reader (List Char)
  | _, [] => none
  | skip + 1, _ :: rest => escapedBlock skip rest
  | 0, '\n' :: rest => (escapedBlock 0 rest).map fun (cs, rest) => ('\n' :: cs, rest)
  | 0, '\r' :: '\n' :: rest =>
    (escapedBlock 0 rest).map fun (cs, rest) => ('\r' :: '\n' :: cs, rest)
  | 0, '\\' :: rest =>
    match foldLength? rest with
    | some length => escapedBlock length rest
    | none => do
      let (c, length) ← escape rest
      let (cs, rest) ← escapedBlock length rest
      return (c :: cs, rest)
  | 0, c :: rest =>
    match if c = '"' then closingQuotes '"' rest else none with
    | some closing => some closing
    | none =>
      if isPlain c then (escapedBlock 0 rest).map fun (cs, rest) => (c :: cs, rest) else none

/-- What follows the opening quotes of a string on several lines. -/
def openBlock (cs : List Char) : List Char := (lineBreak? cs).getD cs

/-- A string on one line. -/
def quotedLine : Reader String
  | '"' :: rest => (escapedLine 0 rest).map fun (cs, rest) => (String.ofList cs, rest)
  | '\'' :: rest => (literalLine rest).map fun (cs, rest) => (String.ofList cs, rest)
  | _ => none

/-- A string on one line or on several. -/
def quoted : Reader String
  | '"' :: '"' :: '"' :: rest =>
    (escapedBlock 0 (openBlock rest)).map fun (cs, rest) => (String.ofList cs, rest)
  | '\'' :: '\'' :: '\'' :: rest =>
    (literalBlock (openBlock rest)).map fun (cs, rest) => (String.ofList cs, rest)
  | cs => quotedLine cs

end DiagnosticLens.Toml
