import DiagnosticLens.Path
import DiagnosticLens.Uri.Percent

/-!
# Segments of a URI's path

The path of a URI is a list of segments. One that spells a single dot stands for nothing, and one
that spells two dots takes away the segment before it; a dot may also be percent-encoded. A
segment that looks like a drive, a letter with a colon or a bar, is never taken away.

In a `file` URI a drive at the very front is spelled with a colon, and it makes a host before it
meaningless.

## Implementation notes

Segments that have been gone through are kept last first. If the last segment of all spells dots,
an empty segment takes its place, so the path ends in a slash. Tabs and line ends do not count,
except that one behind the colon of a drive at the very front sets what follows apart as a
segment, whatever it spells.
-/

namespace DiagnosticLens.Uri

/-- A segment as written. -/
abbrev Segment := List Char

/-- Whether a character is a tab or a line end. -/
def isGap (c : Char) : Bool := c == '\t' || c == '\n' || c == '\r'

/-- What is left of a text without tabs and line ends. -/
def withoutGaps (cs : List Char) : List Char := cs.filter (!isGap ·)

/-- Whether a character is an ASCII letter. -/
def isLetter (c : Char) : Bool := ('a' ≤ c && c ≤ 'z') || ('A' ≤ c && c ≤ 'Z')

/-- Whether a segment spells a single dot. -/
def isCurrent (s : Segment) : Bool :=
  let t := s.map Char.toLower
  t = ['.'] || t = ['%', '2', 'e']

/-- Whether a segment spells two dots. -/
def isParent (s : Segment) : Bool :=
  let t := s.map Char.toLower
  t = ['.', '.'] || t = ['.', '%', '2', 'e'] || t = ['%', '2', 'e', '.'] ||
    t = ['%', '2', 'e', '%', '2', 'e']

/-- Whether a segment is a letter with a colon or a bar. -/
def isDrive : Segment → Bool
  | [letter, mark] => isLetter letter && (mark == ':' || mark == '|')
  | _ => false

/-- Whether a segment begins like a drive, so that two dots after it do not take it away. -/
def isKept : Segment → Bool
  | [letter, mark] => isDrive [letter, mark]
  | letter :: mark :: next :: _ => isDrive [letter, mark] && next == '\\'
  | _ => false

/-- Takes away the last of the segments gone through, unless it is kept. -/
def dropLast : List Segment → List Segment
  | [] => []
  | s :: done => if isKept s then s :: done else done

/-- A drive with a colon and what follows it in the same segment behind a tab or a line end. -/
def splitDrive? (s : List Char) : Option (Segment × Segment) :=
  match s.dropWhile isGap with
  | [] => none
  | letter :: rest =>
    match rest.dropWhile isGap with
    | ':' :: gap :: behind =>
      let next := withoutGaps behind
      if isLetter letter && isGap gap && !next.isEmpty then some ([letter, ':'], next) else none
    | _ => none

/-- How far a path has been gone through. -/
structure Trail where
  /-- The segments that are left, last first. -/
  done : List Segment
  /-- Whether there was a drive at the very front. -/
  drive : Bool
  deriving DecidableEq, Repr

namespace Trail

/-- Nothing has been gone through. -/
def start : Trail := ⟨[], false⟩

/-- Goes on to a segment that does not spell dots. -/
def enter (t : Trail) (file : Bool) (s : List Char) : Trail :=
  let plain := withoutGaps s
  if file && t.done.isEmpty then
    match splitDrive? s with
    | some (drive, next) => { t with done := [next, drive] }
    | none => if isDrive plain then ⟨[plain.take 1 ++ [':']], true⟩ else { t with done := [plain] }
  else { t with done := plain :: t.done }

/-- Goes through one segment that a slash follows. -/
def step (t : Trail) (file : Bool) (s : List Char) : Trail :=
  if isParent (withoutGaps s) then { t with done := dropLast t.done }
  else if isCurrent (withoutGaps s) then t
  else t.enter file s

/-- Goes through the last segment. -/
def lastStep (t : Trail) (file : Bool) (s : List Char) : Trail :=
  if isParent (withoutGaps s) then { t with done := [] :: dropLast t.done }
  else if isCurrent (withoutGaps s) then { t with done := [] :: t.done }
  else t.enter file s

/-- Goes through all segments. -/
def walk (t : Trail) (file : Bool) : List (List Char) → Trail
  | [] => t
  | [s] => t.lastStep file s
  | s :: rest => (t.step file s).walk file rest

end Trail

/-- Drops empty segments at the front, as long as others follow. -/
def dropLeadingEmpty : List Segment → List Segment
  | [] :: s :: rest => dropLeadingEmpty (s :: rest)
  | segments => segments

/-- Goes through a path behind its first slash. A query or a fragment ends the path. -/
def trail (file special : Bool) (cs : List Char) : Trail :=
  let path := cs.takeWhile fun c => c ≠ '?' && c ≠ '#'
  Trail.start.walk file (splitAll (fun c => c == '/' || (special && c == '\\')) path)

/-- The segments of a path behind its first slash. In a `file` URI, several slashes at the front
count as one. -/
def resolve (file special : Bool) (cs : List Char) : List Segment :=
  let segments := (trail file special cs).done.reverse
  if file then dropLeadingEmpty segments else segments

/-- Whether a path ends in a letter with a colon or a bar and has more than these. -/
def endsInDrive (bytes : List UInt8) : Bool :=
  match bytes.reverse with
  | mark :: letter :: _ :: _ =>
    isLetter (Char.ofNat letter.toNat) && (mark == 0x3A || mark == 0x7C)
  | _ => false

/-- The path with these segments, decoded. A path that ends like a drive gets a slash. -/
def pathOfSegments (segments : List Segment) : Path :=
  let bytes := segments.flatMap fun s => Path.slash :: decodeText s
  ⟨if endsInDrive bytes then bytes ++ [Path.slash] else bytes⟩

end DiagnosticLens.Uri
