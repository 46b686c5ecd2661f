import DiagnosticLens.Json.Number

/-!
# Reading JSON text

`Json.parse` reads a whole text as one value. `elements` and `members` step through an array and an
object with a reader for what stands inside, so that a value of a known shape can be read without
building the JSON value first.

## Implementation notes

Every step of the readers takes at least one character, so a budget of as many steps as there are
characters is never used up.
-/

namespace DiagnosticLens.Json

/-- The elements of an array behind its opening bracket, up to and including the closing one. -/
def elements {α : Type} (item : Reader α) : Nat → Bool → Reader (List α)
  | 0, _, _ => .error .truncated
  | budget + 1, first, cs =>
    match skipBlank cs with
    | [] => .error .truncated
    | ']' :: rest => .ok ([], rest)
    | c :: rest => do
      let start ← if first then .ok (c :: rest) else if c = ',' then .ok rest else .error .malformed
      let (x, rest) ← item start
      let (xs, rest) ← elements item budget false rest
      return (x :: xs, rest)

/-- What follows the colon behind a key. -/
def afterColon (cs : List Char) : Except ReadError (List Char) :=
  match skipBlank cs with
  | [] => .error .truncated
  | ':' :: rest => .ok rest
  | _ => .error .malformed

/-- The members of an object behind its opening brace, up to and including the closing one. What has
been gathered is handed with each key to `member`, which reads on from behind the key. -/
def members {α : Type} (mode : ScanMode) (member : α → String → Reader α) :
    Nat → Bool → α → Reader α
  | 0, _, _, _ => .error .truncated
  | budget + 1, first, gathered, cs =>
    match skipBlank cs with
    | [] => .error .truncated
    | '\x7d' :: rest => .ok (gathered, rest)
    | c :: rest => do
      let start ← if first then .ok (c :: rest)
        else if c = ',' then .ok (skipBlank rest) else .error .malformed
      match start with
      | [] => .error .truncated
      | '"' :: rest =>
        let (key, rest) ← stringBody mode rest
        let (gathered, rest) ← member gathered (String.ofList key) rest
        members mode member budget false gathered rest
      | _ => .error .malformed

/-- A value. When skipping, numbers are not evaluated. -/
def value (mode : ScanMode) : Nat → Reader Json
  | 0, _ => .error .truncated
  | budget + 1, cs =>
    match skipBlank cs with
    | [] => .error .truncated
    | 'n' :: rest => (word ['u', 'l', 'l'] rest).map fun rest => (.null, rest)
    | 't' :: rest => (word ['r', 'u', 'e'] rest).map fun rest => (.bool true, rest)
    | 'f' :: rest => (word ['a', 'l', 's', 'e'] rest).map fun rest => (.bool false, rest)
    | '"' :: rest => (stringBody mode rest).map fun (s, rest) => (.str (String.ofList s), rest)
    | '[' :: rest =>
      (elements (value mode budget) budget true rest).map fun (items, rest) => (.arr items, rest)
    | '\x7b' :: rest =>
      let member := fun (sorted : List (String × Json)) (key : String) (cs : List Char) => do
        let (v, rest) ← value mode budget (← afterColon cs)
        return (insertMember key v sorted, rest)
      (members mode member budget true [] rest).map fun (sorted, rest) => (.obj sorted, rest)
    | c :: rest =>
      if c = '-' ∨ c.isDigit then do
        let (text, rest) ← number mode (c :: rest)
        if mode = .skipping then return (.null, rest)
        match text.value? with
        | some n => return (.num n, rest)
        | none => .error .malformed
      else .error .malformed

/-- The end of the text, blanks aside. -/
def endOfText (cs : List Char) : Except ReadError Unit :=
  if (skipBlank cs).isEmpty then .ok () else .error .malformed

/-- Reads a text that holds one value and nothing else. -/
def parse (text : String) : Except ReadError Json := do
  let cs := text.toList
  let (v, rest) ← value .keeping (cs.length + 1) cs
  endOfText rest
  return v

end DiagnosticLens.Json
