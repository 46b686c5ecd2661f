import DiagnosticLens.Text.Digits
import DiagnosticLens.Toml.Value

/-!
# TOML scalars without quotes

Truth values, numbers, and points in time. Digits may be set off by single underscores inside a
number, and a decimal number has no leading zero. A point in time is a day of the calendar, a time
of day, or both, and with both there may be a distance from universal time.
-/

namespace DiagnosticLens.Toml

/-- Whether what follows a digit is made up of digits, each with at most one underscore before it.
-/
def digitsFollow (isDigit : Char → Bool) : List Char → Bool
  | [] => true
  | '_' :: c :: rest => isDigit c && digitsFollow isDigit rest
  | c :: rest => isDigit c && digitsFollow isDigit rest

/-- Whether a text is made up of digits with single underscores between them. -/
def isDigitRun (isDigit : Char → Bool) : List Char → Bool
  | [] => false
  | c :: rest => isDigit c && digitsFollow isDigit rest

/-- The digits and underscores at the front, and what follows them. -/
def splitDigits (cs : List Char) : List Char × List Char :=
  cs.span fun c => c.isDigit || c = '_'

/-- The value of a run of digits in a base; underscores do not count. -/
def runValue (base : Nat) (ds : List Char) : Nat :=
  (ds.filterMap Text.hexValue?).foldl (fun n d => n * base + d) 0

/-- An exponent behind its letter. -/
def signedExponent : List Char → Option Int
  | '+' :: ds => if isDigitRun Char.isDigit ds then some (runValue 10 ds) else none
  | '-' :: ds => if isDigitRun Char.isDigit ds then some (-runValue 10 ds) else none
  | ds => if isDigitRun Char.isDigit ds then some (runValue 10 ds) else none

/-- An exponent with its letter, or zero for none. -/
def exponent : List Char → Option Int
  | [] => some 0
  | 'e' :: rest => signedExponent rest
  | 'E' :: rest => signedExponent rest
  | _ => none

/-- A decimal number behind its sign. -/
def decimal (negative : Bool) (cs : List Char) : Option Node := do
  let (whole, rest) := splitDigits cs
  guard (isDigitRun Char.isDigit whole && (whole = ['0'] || whole.head? ≠ some '0'))
  match rest with
  | [] =>
    let magnitude : Int := runValue 10 whole
    return .integer (if negative then -magnitude else magnitude)
  | '.' :: rest =>
    let (fraction, rest) := splitDigits rest
    guard (isDigitRun Char.isDigit fraction)
    let places := (fraction.filter Char.isDigit).length
    return .scientific (.finite (runValue 10 (whole ++ fraction)) ((← exponent rest) - places))
  | rest => return .scientific (.finite (runValue 10 whole) (← exponent rest))

/-- A number that may have a sign, behind it. -/
def signedNumber (negative : Bool) (cs : List Char) : Option Node :=
  if cs = ['i', 'n', 'f'] then some (.scientific .infinite)
  else if cs = ['n', 'a', 'n'] then some (.scientific .notANumber)
  else decimal negative cs

/-- A whole number in another base than ten, behind the letter for it. -/
def basedNumber (base : Nat) (isDigit : Char → Bool) (ds : List Char) : Option Node :=
  if isDigitRun isDigit ds then some (.integer (runValue base ds)) else none

/-- A number. Only decimal numbers have a sign. -/
def number : List Char → Option Node
  | '+' :: cs => signedNumber false cs
  | '-' :: cs => signedNumber true cs
  | '0' :: 'x' :: ds => basedNumber 16 (fun c => (Text.hexValue? c).isSome) ds
  | '0' :: 'o' :: ds => basedNumber 8 (fun c => '0' ≤ c && c ≤ '7') ds
  | '0' :: 'b' :: ds => basedNumber 2 (fun c => c = '0' || c = '1') ds
  | cs => signedNumber false cs

/-- The number of days in a month, which is zero for what is no month. -/
def daysIn (year month : Nat) : Nat :=
  if month = 2 then
    if year % 4 = 0 ∧ (year % 100 ≠ 0 ∨ year % 400 = 0) then 29 else 28
  else if month ∈ [4, 6, 9, 11] then 30
  else if 1 ≤ month ∧ month ≤ 12 then 31
  else 0

/-- Whether a text is two digits of a value up to a limit. -/
def isUpTo (limit : Nat) (ds : List Char) : Bool :=
  ds.length = 2 && ds.all Char.isDigit && Text.digitsValue ds ≤ limit

/-- Whether a text is a day of the calendar. -/
def isDate : List Char → Bool
  | [y₁, y₂, y₃, y₄, '-', m₁, m₂, '-', d₁, d₂] =>
    [y₁, y₂, y₃, y₄, m₁, m₂, d₁, d₂].all Char.isDigit &&
      let day := Text.digitsValue [d₁, d₂]
      1 ≤ day &&
        day ≤ daysIn (Text.digitsValue [y₁, y₂, y₃, y₄]) (Text.digitsValue [m₁, m₂])
  | _ => false

/-- Whether a text is hours and minutes. -/
def isHourMinute : List Char → Bool
  | [h₁, h₂, ':', m₁, m₂] => isUpTo 23 [h₁, h₂] && isUpTo 59 [m₁, m₂]
  | _ => false

/-- Whether a text is seconds behind minutes, or empty. The sixtieth second is for leap seconds. -/
def isOptionalSecond : List Char → Bool
  | [] => true
  | [':', s₁, s₂] => isUpTo 60 [s₁, s₂]
  | ':' :: s₁ :: s₂ :: '.' :: ds => isUpTo 60 [s₁, s₂] && !ds.isEmpty && ds.all Char.isDigit
  | _ => false

/-- Whether a text is a time of day. -/
def isTime (cs : List Char) : Bool := isHourMinute (cs.take 5) && isOptionalSecond (cs.drop 5)

/-- Whether a text is a distance from universal time. -/
def isOffset : List Char → Bool
  | ['Z'] => true
  | ['z'] => true
  | '+' :: cs => isHourMinute cs
  | '-' :: cs => isHourMinute cs
  | _ => false

/-- Whether a text is a time of day and then perhaps a distance from universal time. -/
def isTimeWithOffset (cs : List Char) : Bool :=
  let (time, offset) := cs.span fun c => c.isDigit || c = ':' || c = '.'
  isTime time && (offset.isEmpty || isOffset offset)

/-- Whether a text is a point in time. -/
def isMoment (cs : List Char) : Bool :=
  isTime cs ||
    (isDate (cs.take 10) &&
      match cs.drop 10 with
      | [] => true
      | c :: rest => (c = 'T' || c = 't' || c = ' ') && isTimeWithOffset rest)

/-- The value that is written without quotes. -/
def scalar (cs : List Char) : Option Node :=
  if cs = ['t', 'r', 'u', 'e'] then some (.flag true)
  else if cs = ['f', 'a', 'l', 's', 'e'] then some (.flag false)
  else if isMoment cs then some (.moment (String.ofList cs))
  else number cs

end DiagnosticLens.Toml
