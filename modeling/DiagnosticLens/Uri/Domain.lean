import DiagnosticLens.Uri.Domain.Direction
import DiagnosticLens.Uri.Domain.Excluded
import DiagnosticLens.Uri.Domain.Joining
import DiagnosticLens.Uri.Domain.Mapping
import DiagnosticLens.Uri.Domain.Punycode

/-!
# Domains

A domain consists of labels with dots between them. Different spellings stand for the same domain:
every character is replaced by what it stands for, and the result is composed. A label may also be
given in its ASCII spelling, behind `xn--`. `Domain.normalize?` finds the plain spelling of a domain
and refuses a text that is none.

## Implementation notes

Labels may be empty, and a hyphen may stand anywhere. A label in ASCII spelling has to need it: what
it stands for is a plain label with a character outside ASCII. It stays as it is, since no rule
compares it with anything else.
-/

namespace DiagnosticLens.Uri.Domain

/-- The most characters of a label that would need an ASCII spelling. -/
def maxLabel : Nat := 1000

/-- The most characters of an ASCII spelling. -/
def maxSpelling : Nat := 2000

/-- Whether a character is in ASCII. -/
def isAscii (c : Char) : Bool := c.toNat < 0x80

/-- What a character stands for, unless it may not be in a domain. -/
def spelling? (c : Char) : Option (List Char) :=
  if isAscii c then some [c.toLower]
  else match mapping.find? c with
    | some codes => some (codes.map Char.ofNat)
    | none => if excluded.contains c then none else some [c]

/-- Whether a character stands for itself. -/
def isPlain (c : Char) : Bool := spelling? c == some [c]

/-- The visible ASCII characters that a domain has not. -/
def forbidden : List Char := ['%', '#', '/', ':', '<', '>', '?', '@', '[', '\\', ']', '^', '|']

/-- Whether a character may be in a domain as far as ASCII goes. -/
def isPermitted (c : Char) : Bool := 0x20 < c.toNat && c.toNat ≠ 0x7F && !forbidden.contains c

/-- The label that a label in ASCII spelling stands for; every other label stands for itself, unless
it is too long. -/
def label? (cs : List Char) : Option (List Char) :=
  match cs with
  | 'x' :: 'n' :: '-' :: '-' :: spelling =>
    if spelling.length ≤ maxSpelling && spelling.all isAscii then do
      let label ← Punycode.decode? spelling
      if label.any (!isAscii ·) && label.all isPlain && Text.composed label == label then some label
      else none
    else none
  | _ => if cs.all isAscii || cs.length ≤ maxLabel then some cs else none

/-- Whether a label does not begin with a mark and has joiners only where they belong. -/
def isLabel (cs : List Char) : Bool :=
  !cs.head?.any Text.isMark && joinersFit [] cs

/-- The plain spelling of a domain. -/
def normalize? (cs : List Char) : Option (List Char) := do
  let text := Text.composed (← cs.mapM spelling?).flatten
  let labels ← (splitAll (· == '.') text).mapM label?
  let directed := labels.any (·.any isDirected)
  if text.all isPermitted && labels.all isLabel && (!directed || labels.all readsOneWay) then
    some text
  else none

end DiagnosticLens.Uri.Domain
