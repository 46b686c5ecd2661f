/-!
# Labels spelled in ASCII

A label with characters outside ASCII can be spelled with letters, digits and hyphens alone: first
the ASCII characters of the label, then, behind the last hyphen, a number for each of the others. A
number says how far it is from the place and code point of one insertion to those of the next,
counted through all places for one code point before the next code point comes up.

## Implementation notes

Numbers are written least digit first, and a digit below a threshold is the last one of its number.
The thresholds follow a bias, which is adapted to the size of the numbers before. Letters are the
digits up to twenty-five, and the ten digits come behind them.
-/

namespace DiagnosticLens.Uri.Domain.Punycode

/-- How many digits there are. -/
def base : Nat := 36

/-- The value of a digit. -/
def digit? (c : Char) : Option Nat :=
  if 'a' ≤ c ∧ c ≤ 'z' then some (c.toNat - 'a'.toNat)
  else if 'A' ≤ c ∧ c ≤ 'Z' then some (c.toNat - 'A'.toNat)
  else if c.isDigit then some (c.toNat - '0'.toNat + 26)
  else none

/-- A digit below this is the last one. The place of the first digit is `base`. -/
def threshold (bias place : Nat) : Nat := min 26 (max 1 (place - bias))

/-- Scales a number down until it is small, and says by how many places. -/
def scale (delta places : Nat) : Nat × Nat :=
  if 455 < delta then scale (delta / 35) (places + base) else (delta, places)
termination_by delta
decreasing_by omega

/-- The bias after a number that put a character into a text, which has `length` characters now. -/
def adapt (delta length : Nat) (first : Bool) : Nat :=
  let halved := if first then delta / 700 else delta / 2
  let (small, places) := scale (halved + halved / length) 0
  places + 36 * small / (small + 38)

/-- How far a label has been read. -/
structure Progress where
  text : List Char
  /-- The code point and the place of the next insertion, if the next number is zero. -/
  code : Nat
  index : Nat
  bias : Nat
  /-- The digits of the present number that have been read: their value, and the place and the
  weight of the next digit. -/
  value : Nat
  place : Nat
  weight : Nat

namespace Progress

/-- Nothing but the ASCII characters has been read. -/
def start (text : List Char) : Progress := ⟨text, 128, 0, 72, 0, base, 1⟩

/-- Puts a character into the text as the present number says. -/
def insert? (p : Progress) (delta : Nat) : Option Progress :=
  let length := p.text.length + 1
  let code := p.code + (p.index + delta) / length
  let index := (p.index + delta) % length
  if code.isValidChar then
    some ⟨p.text.insertIdx index (Char.ofNat code), code, index + 1,
      adapt delta length (p.index == 0), 0, base, 1⟩
  else none

/-- Reads a digit. -/
def read? (p : Progress) (c : Char) : Option Progress := do
  let d ← digit? c
  let value := p.value + d * p.weight
  let t := threshold p.bias p.place
  if d < t then p.insert? value
  else some { p with value, place := p.place + base, weight := p.weight * (base - t) }

/-- Whether no number has been begun. -/
def isAtEnd (p : Progress) : Bool := p.place == base

end Progress

/-- The label that an ASCII text spells. A hyphen in front of everything is no divider. -/
def decode? (cs : List Char) : Option (List Char) := do
  let tail := (cs.reverse.takeWhile (· ≠ '-')).reverse
  let front := cs.take (cs.length - tail.length - 1)
  let digits := if front.isEmpty then cs else tail
  let p ← digits.foldlM Progress.read? (Progress.start front)
  if p.isAtEnd then some p.text else none

end DiagnosticLens.Uri.Domain.Punycode
