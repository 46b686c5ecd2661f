/-!
# Bytes as text

Bytes that may or may not be UTF-8 are read character by character. A byte sequence that is no
character is reported once: the longest start of a character that it holds, or else its first
byte.

## Implementation notes

`decodeLossy` shows each such sequence as U+FFFD, and `decode?` refuses the text if there is one.
-/

namespace DiagnosticLens.Utf8

/-- The bytes of a text. -/
def encode (s : String) : List UInt8 := s.toList.flatMap String.utf8EncodeChar

/-- Whether a byte continues a character. -/
def isContinuation (b : UInt8) : Bool := 0x80 ≤ b && b < 0xC0

/-- Whether `b` can follow the first byte `a` of a character of three bytes. Overlong forms and
surrogates are ruled out here. -/
def isSecondOfThree (a b : UInt8) : Bool :=
  isContinuation b && (a != 0xE0 || 0xA0 ≤ b) && (a != 0xED || b < 0xA0)

/-- Whether `b` can follow the first byte `a` of a character of four bytes. Overlong forms and code
points past the last one are ruled out here. -/
def isSecondOfFour (a b : UInt8) : Bool :=
  isContinuation b && (a != 0xF0 || 0x90 ≤ b) && (a != 0xF4 || b < 0x90)

/-- The six low bits of a continuation byte. -/
def low6 (b : UInt8) : Nat := b.toNat % 64

/-- The characters of a text, with `none` for each sequence that is no character. -/
def chars : List UInt8 → List (Option Char)
  | [] => []
  | a :: rest =>
    if a < 0x80 then some (Char.ofNat a.toNat) :: chars rest
    else if 0xC2 ≤ a && a < 0xE0 then
      match rest with
      | b :: afterB =>
        if isContinuation b then some (Char.ofNat ((a.toNat % 32) * 64 + low6 b)) :: chars afterB
        else none :: chars (b :: afterB)
      | [] => [none]
    else if 0xE0 ≤ a && a < 0xF0 then
      match rest with
      | b :: afterB =>
        if isSecondOfThree a b then
          match afterB with
          | c :: afterC =>
            if isContinuation c then
              some (Char.ofNat (((a.toNat % 16) * 64 + low6 b) * 64 + low6 c)) :: chars afterC
            else none :: chars (c :: afterC)
          | [] => [none]
        else none :: chars (b :: afterB)
      | [] => [none]
    else if 0xF0 ≤ a && a < 0xF5 then
      match rest with
      | b :: afterB =>
        if isSecondOfFour a b then
          match afterB with
          | c :: afterC =>
            if isContinuation c then
              match afterC with
              | d :: afterD =>
                if isContinuation d then
                  some (Char.ofNat ((((a.toNat % 8) * 64 + low6 b) * 64 + low6 c) * 64 + low6 d)) ::
                    chars afterD
                else none :: chars (d :: afterD)
              | [] => [none]
            else none :: chars (c :: afterC)
          | [] => [none]
        else none :: chars (b :: afterB)
      | [] => [none]
    else none :: chars rest

/-- The text of the bytes, if they are UTF-8 throughout. -/
def decode? (bytes : List UInt8) : Option String := ((chars bytes).mapM id).map String.ofList

/-- The text of the bytes, with U+FFFD for each sequence that is no character. -/
def decodeLossy (bytes : List UInt8) : String :=
  String.ofList ((chars bytes).map (Option.getD · '\uFFFD'))

end DiagnosticLens.Utf8
