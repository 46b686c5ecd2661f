import DiagnosticLens.Text.Digits
import DiagnosticLens.Text.Pieces

/-!
# Tables of characters

A table says something about many characters in little space. It is written in rows of items with a
blank between them. An item names a code point or a run of code points, and behind an equals sign
may stand what the table gives for it: code points again, with plus signs between them. All numbers
are hexadecimal.

* `A8=20+308` gives two code points for one.
* `B2-B3=32` is a run in which what is given moves along: `B3` gives `33`.
* `100~12E=101` moves along too, but has only every second code point: `102` gives `103`.
* `132*133=69+6A` gives the same throughout.
* `600-605` gives nothing and only says which code points the table has.

## Implementation notes

A look-up takes the first run that has the code point. An item that is not of one of these forms
does not count.
-/

namespace DiagnosticLens.Text

/-- A run of code points and what a table gives for them. -/
structure Run where
  low : Nat
  high : Nat
  /-- The distance between neighbours. -/
  step : Nat
  /-- Whether what is given moves along with the code point. -/
  moves : Bool
  given : List Nat
  deriving DecidableEq, Repr

namespace Run

/-- What a run gives for a code point, if it has it. -/
def find? (r : Run) (code : Nat) : Option (List Nat) :=
  if r.low ≤ code && code ≤ r.high && (code - r.low) % r.step == 0 then
    some (if r.moves then r.given.map (· + (code - r.low)) else r.given)
  else none

/-- The run that an item describes. -/
def ofItem? (item : List Char) : Option Run := do
  let source := item.takeWhile (· ≠ '=')
  let given ← match item.dropWhile (· ≠ '=') with
    | [] | [_] => some []
    | _ :: behind => (splitAll (· == '+') behind).mapM hexValues?
  let low ← hexValues? (source.takeWhile Char.isAlphanum)
  match source.dropWhile Char.isAlphanum with
  | [] => some ⟨low, low, 1, false, given⟩
  | sign :: behind =>
    let high ← hexValues? behind
    match sign with
    | '-' => some ⟨low, high, 1, true, given⟩
    | '~' => some ⟨low, high, 2, true, given⟩
    | '*' => some ⟨low, high, 1, false, given⟩
    | _ => none

end Run

/-- What is known about characters, by runs. -/
structure Table where
  runs : List Run

namespace Table

/-- The table that rows of items describe. -/
def ofRows (rows : List String) : Table :=
  ⟨rows.flatMap fun row => (splitAll (· == ' ') row.toList).filterMap Run.ofItem?⟩

/-- What the table gives for a character. -/
def find? (t : Table) (c : Char) : Option (List Nat) := t.runs.findSome? (·.find? c.toNat)

/-- Whether the table has a character. -/
def contains (t : Table) (c : Char) : Bool := (t.find? c).isSome

end Table

end DiagnosticLens.Text
