import DiagnosticLens.Text.Mark

/-!
# Labels in two directions

If a domain has a character that is written from right to left, every one of its labels has to read
in one direction: it begins with a letter and has only characters that fit the direction of that
letter, up to a last character that belongs to it as well.

## Implementation notes

Whatever no table has is a letter written from left to right. Only characters that a domain may have
are looked up, and the ranges run over the others.
-/

namespace DiagnosticLens.Uri.Domain

open Text (Table)

/-- Letters written from right to left. -/
def rightToLeft : Table := .ofRows
  ["5BE 5C0 5C3 5C6 5D0-5F4 608 60B 60D 61B-64A 66D-66F 671-6D5 6E5-6E6 6EE-6EF 6FA-710 712-72F",
   "74D-7A5 7B1-7EA 7F4-7F5 7FA 7FE-815 81A 824 828 830-858 85E-88F 8A0-8C9 FBB2-FBC2 FE73",
   "10800-1091B 10920-10A00 10A10-10A35 10A40-10AE4 10AEB-10B35 10B40-10D23 10D40-10D4F",
   "10D6F-10D85 10E80-10EA9 10EAD-10EC7 10F00-10F45 10F51-10F81 10F86-10FF6 1E800-1E8CF",
   "1E922-1E943 1E94B-1ED3D"]

/-- Digits that are at home in text written from right to left. -/
def arabicNumbers : Table := .ofRows
  ["660-669 66B-66C 10D30-10D39 10E60-10E7E"]

/-- Digits outside ASCII that are at home in either direction. -/
def numbers : Table := .ofRows
  ["6F0-6F9 102E1-102FB"]

/-- Characters outside ASCII without a direction. -/
def neutral : Table := .ofRows
  ["A1-D7 F7 2B9-2BA 2C2-2CF 2D2-2ED 2EF-2FF 375 3F6 58A-58F 606-607 609-60A 60C 60E-60F 66A 6DE",
   "6E9 7F6-7F9 9F2-9F3 9FB AF1 BF3-BFA C78-C7E E3F F3A-F3D 1390-1399 1400 169B-169C 17DB",
   "17F0-180A 1940-1945 19DE-19FF 1B4E-1B4F 1B7F 200C-20C1 2104-214D 218A-2335 237B-2394",
   "2396-26AB 26AD-27FF 2900-2BFF 2CE5-2CEA 2CF9-2CFF 2E00-3004 3008-3020 3030 3037 303D-303F",
   "30A0 30FB 31C0-31E5 4DC0-4DFF A490-A4C6 A60D-A60F A673 A67E-A67F A700-A721 A788 A828-A82B",
   "A838-A839 A874-A877 AB6A-AB6B FBC3-FDFF FE45-FE46 10101 10140-1018C 10190-101A0 1091F",
   "10B39-10B3F 10D6E 10D8E-10D8F 10ED0-10ED8 11052-11065 113D4-113D8 11660-1166C 11BE1",
   "11FD5-11FF1 16D6D-16D6F 16FE2 1CC00-1CEF0 1D1E9-1D241 1D245 1D300-1D356 1E2FF 1E5FF",
   "1EEF0-1F12F 1F16D-1F16F 1F1AD 1F260-1FBFA"]

/-- The part that a character has in the direction of a label. -/
inductive Direction where
  | left
  | right
  | arabicNumber
  | number
  | neutral
  | mark
  deriving DecidableEq, Repr

/-- Marks that take no space and are still written from left to right. -/
def leftMarks : List Nat := [0xCBF, 0xCC6, 0x11A07, 0x11A08, 0x11C3F]

/-- The direction of a character of a domain. -/
def direction (c : Char) : Direction :=
  if c.toNat < 0x80 then
    if c.isAlpha then .left else if c.isDigit then .number else .neutral
  else if rightToLeft.contains c then .right
  else if arabicNumbers.contains c then .arabicNumber
  else if numbers.contains c then .number
  else if neutral.contains c then .neutral
  else if Text.isNonspacing c && !leftMarks.contains c.toNat then .mark
  else .left

/-- Whether a character calls for one direction in every label. -/
def isDirected (c : Char) : Bool :=
  0x590 ≤ c.toNat && (direction c == .right || direction c == .arabicNumber)

/-- Whether the directions of a label's characters are those of text from right to left, which has
not both kinds of digits. -/
def readsRightToLeft (ds : List Direction) : Bool :=
  ds.all (· != .left) &&
    ((ds.reverse.dropWhile (· == .mark)).head?.any fun d =>
      d == .right || d == .number || d == .arabicNumber) &&
    !(ds.contains .number && ds.contains .arabicNumber)

/-- Whether the directions of a label's characters are those of text from left to right. -/
def readsLeftToRight (ds : List Direction) : Bool :=
  ds.all (fun d => d != .right && d != .arabicNumber) &&
    (ds.reverse.dropWhile (· == .mark)).head?.any fun d => d == .left || d == .number

/-- Whether a label reads in one direction. -/
def readsOneWay (label : List Char) : Bool :=
  let ds := label.map direction
  match ds with
  | [] => true
  | .right :: _ => readsRightToLeft ds
  | .left :: _ => readsLeftToRight ds
  | _ => false

end DiagnosticLens.Uri.Domain
