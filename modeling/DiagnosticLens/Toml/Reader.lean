import DiagnosticLens.Toml.Quoted
import DiagnosticLens.Toml.Scalar

/-!
# Reading TOML text

`Toml.parse` reads a whole document. Arrays and tables in braces may hold line breaks and comments,
in such a table also around the equals sign, and a comma behind the last item. They may be nested
eighty deep, and a key may have eighty parts.

## Implementation notes

Every step of the readers takes at least one character, so a budget of as many steps as there are
characters is never used up.
-/

namespace DiagnosticLens.Toml

/-- What follows blanks, line breaks and comments. Inside a comment every character up to the line
break is checked. -/
def skipGap (inComment : Bool) : List Char → Option (List Char)
  | [] => some []
  | '\n' :: rest => skipGap false rest
  | '\r' :: '\n' :: rest => skipGap false rest
  | c :: rest =>
    if inComment then if isPlain c then skipGap true rest else none
    else if c = '#' then skipGap true rest
    else if isBlank c then skipGap false rest
    else some (c :: rest)

/-- What follows the end of a line, on which only a comment may still stand. -/
def endLine (cs : List Char) : Option (List Char) :=
  match cs.dropWhile isBlank with
  | [] => some []
  | '#' :: rest => skipGap true rest
  | cs => (lineBreak? cs).bind (skipGap false)

/-- Whether a character may stand in a key without quotes. -/
def isBare (c : Char) : Bool := c.isAlphanum || c = '_' || c = '-'

/-- One part of a key. -/
def keyPart : Reader String
  | '"' :: rest => quotedLine ('"' :: rest)
  | '\'' :: rest => quotedLine ('\'' :: rest)
  | cs =>
    match cs.span isBare with
    | ([], _) => none
    | (part, rest) => some (String.ofList part, rest)

/-- How deep arrays and tables in braces may be nested, and how many parts a key may have. -/
def maxDepth : Nat := 80

/-- A key of at most so many parts, with the blanks around them. -/
def key : Nat → Reader Key
  | 0, _ => none
  | parts + 1, cs => do
    let (part, rest) ← keyPart (cs.dropWhile isBlank)
    match rest.dropWhile isBlank with
    | '.' :: rest =>
      let (k, rest) ← key parts rest
      return (⟨part :: k.path, k.name⟩, rest)
    | rest => return (⟨[], part⟩, rest)

/-- Items with commas between them, up to and including the closing bracket. -/
def items {α : Type} (close : Char) (item : Reader α) : Nat → Reader (List α)
  | 0, _ => none
  | budget + 1, cs => do
    match ← skipGap false cs with
    | [] => none
    | c :: rest =>
      if c = close then return ([], rest)
      let (x, rest) ← item (c :: rest)
      match ← skipGap false rest with
      | [] => none
      | c :: rest =>
        if c = close then return ([x], rest)
        if c = ',' then
          let (xs, rest) ← items close item budget rest
          return (x :: xs, rest)
        none

/-- A key, the equals sign, and a value. What may stand around the equals sign is passed over by
`skip`. -/
def assignment (skip : List Char → Option (List Char)) (value : Reader Node) :
    Reader (Key × Node) := fun cs => do
  let (k, rest) ← key maxDepth cs
  match ← skip rest with
  | '=' :: rest =>
    let (v, rest) ← value (← skip rest)
    return ((k, v), rest)
  | _ => none

/-- Whether a character ends a value without quotes. -/
def endsScalar (c : Char) : Bool :=
  isBlank c || c ∈ ['=', ',', '[', ']', '\x7b', '\x7d', '#', '\r', '\n', '\'', '"']

/-- A value without quotes. A single blank before a digit does not end it: a time may follow a
date. -/
def bareValue : Reader Node := fun cs => do
  let (first, rest) := cs.span fun c => !endsScalar c
  match rest with
  | ' ' :: c :: _ =>
    if c.isDigit then
      let (second, rest) := (rest.drop 1).span fun c => !endsScalar c
      return (← scalar (first ++ ' ' :: second), rest)
    else return (← scalar first, rest)
  | _ => return (← scalar first, rest)

/-- A value with at most so many arrays and tables in braces around each other. -/
def value : Nat → Reader Node
  | depth, '[' :: rest =>
    match depth with
    | 0 => none
    | depth + 1 =>
      (items ']' (value depth) (rest.length + 1) rest).map fun (xs, rest) => (.array xs, rest)
  | depth, '\x7b' :: rest =>
    match depth with
    | 0 => none
    | depth + 1 => do
      let (xs, rest) ←
        items '\x7d' (assignment (skipGap false) (value depth)) (rest.length + 1) rest
      return (← inlineTable xs, rest)
  | _, '"' :: rest => (quoted ('"' :: rest)).map fun (s, rest) => (.text s, rest)
  | _, '\'' :: rest => (quoted ('\'' :: rest)).map fun (s, rest) => (.text s, rest)
  | _, cs => bareValue cs

/-- A header or an assignment. -/
def statement : Reader Statement
  | '[' :: '[' :: rest => do
    let (k, rest) ← key maxDepth rest
    match rest with
    | ']' :: ']' :: rest => return (.nextHeader k, rest)
    | _ => none
  | '[' :: rest => do
    let (k, rest) ← key maxDepth rest
    match rest with
    | ']' :: rest => return (.tableHeader k, rest)
    | _ => none
  | cs => do
    let ((k, v), rest) ← assignment (some ∘ List.dropWhile isBlank) (value maxDepth) cs
    return (.assignment k v, rest)

/-- The statements that are left, added to what has been read before. -/
def statements : Nat → Draft → List Char → Option (Entries Node)
  | _, draft, [] => some draft.root
  | 0, _, _ :: _ => none
  | budget + 1, draft, c :: cs => do
    let (s, rest) ← statement (c :: cs)
    statements budget (← draft.add s) (← endLine rest)

/-- Reads a whole document. A byte order mark at its front is passed over. -/
def parse (text : String) : Option (Entries Node) := do
  let cs := match text.toList with
    | '\uFEFF' :: rest => rest
    | cs => cs
  let cs ← skipGap false cs
  statements (cs.length + 1) {} cs

end DiagnosticLens.Toml
