import DiagnosticLens.Uri.Domain
import DiagnosticLens.Uri.Percent

/-!
# Hosts

The host of a URI is a domain or an address. An address of four bytes is up to four numbers with
dots between them, of which the last one fills the bytes that are left; an address of sixteen bytes
stands in brackets as eight parts with colons between them. `Host.ofChars?` reads a host.

## Implementation notes

A domain whose last label looks like a number has to be an address, even if one empty label follows.
Numbers are decimal, octal behind a zero, and hexadecimal behind `0x`. Between brackets two colons
stand for one or more parts that are zero, and the last two parts may be written as four decimal
numbers.
-/

namespace DiagnosticLens.Uri

/-- The host of a URI. -/
inductive Host where
  | domain (name : List Char)
  | address (value : Nat)
  | longAddress (parts : List Nat)
  deriving DecidableEq, Repr

namespace Host

/-- The value of digits in a base, if all are digits in it. -/
def number? (base : Nat) (cs : List Char) : Option Nat :=
  cs.foldlM (fun n c => ((Text.hexValue? c).filter (· < base)).map (n * base + ·)) 0

/-- The value of a number in one of the three bases. -/
def anyNumber? : List Char → Option Nat
  | [] => none
  | '0' :: 'x' :: digits => number? 16 digits
  | ['0'] => some 0
  | '0' :: digits => number? 8 digits
  | digits => number? 10 digits

/-- The labels of a domain, without one empty label at the end. -/
def labels (name : List Char) : List (List Char) :=
  let all := splitAll (· == '.') name
  if all.getLast? == some [] && 1 < all.length then all.dropLast else all

/-- Whether a label looks like a number. -/
def looksNumeric (label : List Char) : Bool :=
  (!label.isEmpty && label.all Char.isDigit) || (anyNumber? label).isSome

/-- The address of four bytes that numbers stand for: bytes, and one number for those left. -/
def addressOf? (numbers : List Nat) : Option Nat :=
  match numbers.reverse with
  | [] => none
  | last :: bytes =>
    if bytes.length ≤ 3 && bytes.all (· < 256) && last < Nat.pow 256 (4 - bytes.length) then
      some (bytes.reverse.foldl (· * 256 + ·) 0 * Nat.pow 256 (4 - bytes.length) + last)
    else none

/-- A domain, or an address of four bytes. -/
def ofName? (name : List Char) : Option Host :=
  let parts := labels name
  if name.isEmpty then none
  else if parts.getLast?.any looksNumeric then
    ((parts.mapM anyNumber?).bind addressOf?).map .address
  else some (.domain name)

/-- The value of a decimal byte without a zero in front. -/
def byte? : List Char → Option Nat
  | ['0'] => some 0
  | cs => if cs.head? == some '0' || cs.isEmpty then none else (number? 10 cs).filter (· < 256)

/-- The value of a part of a long address: up to four hexadecimal digits. -/
def part? (cs : List Char) : Option Nat :=
  if cs.isEmpty || 4 < cs.length then none else number? 16 cs

/-- The two parts that four decimal bytes make up. -/
def bytePair? (cs : List Char) : Option (List Nat) :=
  match (splitAll (· == '.') cs).mapM byte? with
  | some [a, b, c, d] => some [a * 256 + b, c * 256 + d]
  | _ => none

/-- The parts of a long address up to its end. -/
def lastParts? : List (List Char) → Option (List Nat)
  | [] => some []
  | [cs] => (bytePair? cs).or ((part? cs).map ([·]))
  | cs :: rest => do
    let part ← part? cs
    let parts ← lastParts? rest
    some (part :: parts)

/-- The pieces between colons; an empty text has none. -/
def pieces (cs : List Char) : List (List Char) := if cs.isEmpty then [] else splitAll (· == ':') cs

/-- What stands before and behind the first two colons in a row. -/
def splitColons? : List Char → Option (List Char × List Char)
  | ':' :: ':' :: rest => some ([], rest)
  | c :: rest => (splitColons? rest).map fun (front, back) => (c :: front, back)
  | [] => none

/-- The parts of a long address. -/
def longParts? (cs : List Char) : Option (List Nat) :=
  match splitColons? cs with
  | none => (lastParts? (pieces cs)).filter (·.length = 8)
  | some (front, back) => do
    let high ← (pieces front).mapM part?
    let low ← lastParts? (pieces back)
    if high.length + low.length < 8 then
      some (high ++ List.replicate (8 - high.length - low.length) 0 ++ low)
    else none

/-- Reads a host. In brackets nothing is decoded; outside them the percent-encoded bytes have to be
text. -/
def ofChars? (cs : List Char) : Option Host :=
  match cs with
  | '[' :: rest =>
    if rest.getLast? == some ']' then (longParts? rest.dropLast).map .longAddress else none
  | _ => do
    let text ← Utf8.decode? (decodeText cs)
    ofName? (← Domain.normalize? text.toList)

/-- Whether a host is the local one. -/
def isLocal (h : Host) : Bool := h == .domain "localhost".toList

end Host

end DiagnosticLens.Uri
