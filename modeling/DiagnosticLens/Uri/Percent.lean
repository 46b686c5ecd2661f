import DiagnosticLens.Text.Digits
import DiagnosticLens.Text.Utf8

/-!
# Percent encoding

A byte that has a meaning of its own in a URI, or that is no visible ASCII character, is written
as a percent sign and two upper-case hexadecimal digits. Decoding takes such triples back and
leaves every other byte as it is, a percent sign without two hexadecimal digits included.
-/

namespace DiagnosticLens.Uri

/-- The ASCII characters that are encoded although they are visible. -/
def reserved : List Char := ['"', '#', '%', '/', '<', '>', '?', '\\', '\x60', '\x7b', '\x7d']

/-- Whether a byte of a path component has to be encoded. -/
def mustEncode (b : UInt8) : Bool :=
  b ≤ 0x20 || 0x7F ≤ b || reserved.any (fun c => c.toNat == b.toNat)

/-- The upper-case hexadecimal digit of a number below sixteen. -/
def hexDigit (n : Nat) : Char := Char.ofNat (if n < 10 then 48 + n else 55 + n)

/-- One byte of a path component. -/
def encodeByte (b : UInt8) : List Char :=
  if mustEncode b then ['%', hexDigit (b.toNat / 16), hexDigit (b.toNat % 16)]
  else [Char.ofNat b.toNat]

/-- A path component. -/
def encodeComponent (bytes : List UInt8) : List Char := bytes.flatMap encodeByte

/-- The value of a hexadecimal digit given as a byte. -/
def hexByte? (b : UInt8) : Option Nat := Text.hexValue? (Char.ofNat b.toNat)

/-- Takes back the encoded bytes. -/
def decodeBytes : List UInt8 → List UInt8
  | 0x25 :: a :: b :: rest =>
    match hexByte? a, hexByte? b with
    | some high, some low => UInt8.ofNat (high * 16 + low) :: decodeBytes rest
    | _, _ => 0x25 :: decodeBytes (a :: b :: rest)
  | a :: rest => a :: decodeBytes rest
  | [] => []

/-- The bytes that a piece of a URI stands for. -/
def decodeText (cs : List Char) : List UInt8 := decodeBytes (cs.flatMap String.utf8EncodeChar)

end DiagnosticLens.Uri
