/-!
# Cutting text by bytes

A line index keeps byte offsets, and a byte offset is only meaningful where a character starts. The
cuts below are defined exactly there: an offset inside a character or past the end gives `none`.

## Implementation notes

Text is handled as its list of characters, each of which takes `Char.utf8Size` bytes. `bisect` is
the usual search for the point where a test stops holding.
-/

namespace DiagnosticLens.Text

/-- How many bytes a list of characters takes in UTF-8. -/
def byteLen : List Char → Nat
  | [] => 0
  | c :: cs => c.utf8Size + byteLen cs

/-- What follows the first `n` bytes, if a character starts there or the text ends there. -/
def dropBytes? : Nat → List Char → Option (List Char)
  | 0, cs => some cs
  | _ + 1, [] => none
  | n + 1, c :: cs =>
    if c.utf8Size ≤ n + 1 then dropBytes? (n + 1 - c.utf8Size) cs else none

/-- The characters in the first `n` bytes, if those bytes are whole characters. -/
def takeBytes? : Nat → List Char → Option (List Char)
  | 0, _ => some []
  | _ + 1, [] => none
  | n + 1, c :: cs =>
    if c.utf8Size ≤ n + 1 then (takeBytes? (n + 1 - c.utf8Size) cs).map (c :: ·) else none

/-- The characters from byte `start` up to byte `stop`, if both bound whole characters. -/
def sliceBytes? (start stop : Nat) (cs : List Char) : Option (List Char) :=
  if start ≤ stop then (dropBytes? start cs).bind (takeBytes? (stop - start)) else none

/-- The byte at which character number `k` starts, if there is such a character. -/
def byteOfChar? : Nat → List Char → Option Nat
  | _, [] => none
  | 0, _ :: _ => some 0
  | k + 1, c :: cs => (byteOfChar? k cs).map (c.utf8Size + ·)

/-- Halves the stretch from `lo` to `hi` until it reaches the point where `test` stops holding. -/
def bisect {α : Type} (test : α → Bool) (xs : Array α) (lo hi : Nat) : Nat :=
  if lo < hi then
    let mid := lo + (hi - lo) / 2
    if xs[mid]?.any test then bisect test xs (mid + 1) hi else bisect test xs lo mid
  else lo
termination_by hi - lo
decreasing_by all_goals omega

/-- The number of leading elements that pass `test`, for an array that passes it first and fails
it afterwards. -/
def partitionPoint {α : Type} (test : α → Bool) (xs : Array α) : Nat := bisect test xs 0 xs.size

end DiagnosticLens.Text
