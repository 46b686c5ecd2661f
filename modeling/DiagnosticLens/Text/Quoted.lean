import DiagnosticLens.Text.Invisible

/-!
# Quoted text in messages

A message shows a text between double quotes with everything spelled out that a reader could not
make out otherwise: the quote and the backslash behind a backslash, the usual letters for tab,
line feed, carriage return and zero, and the code point in braces for every other character
without a shape.
-/

namespace DiagnosticLens.Text

/-- A code point in lower-case hexadecimal between braces. -/
def bracedCode (code : Nat) : List Char :=
  ['\\', 'u', '\x7b'] ++ Nat.toDigits 16 code ++ ['\x7d']

/-- One character of a quoted text. -/
def quotedChar (c : Char) : List Char :=
  match c with
  | '\x00' => ['\\', '0']
  | '\t' => ['\\', 't']
  | '\n' => ['\\', 'n']
  | '\r' => ['\\', 'r']
  | '"' => ['\\', '"']
  | '\\' => ['\\', '\\']
  | c => if c.toNat < 0x20 || isInvisible c then bracedCode c.toNat else [c]

/-- A text between double quotes. -/
def quoted (s : String) : String :=
  String.ofList ('"' :: s.toList.flatMap quotedChar ++ ['"'])

end DiagnosticLens.Text
