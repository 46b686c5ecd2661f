import DiagnosticLens.Uri.Host
import DiagnosticLens.Uri.Segments

/-!
# Paths as URIs and back

`Uri.ofPath` names a file by its absolute path. `Uri.toPath?` finds the path that a URI names: its
host has to be absent or the local one, its path has to start at the root, and whatever follows
the path is passed over. The scheme is not looked at beyond that.

## Implementation notes

Blanks and controls around a URI do not count, nor do tabs and line ends inside it, apart from
those behind a drive. The schemes `file`, `http`, `https`, `ws`, `wss` and `ftp` read a backslash as
a slash and look at what their host stands for; the others take a host as it is spelled. In a `file`
URI nothing but a host stands between the slashes; in the others user information and a number may.
-/

namespace DiagnosticLens.Uri

/-- The path that has no URI, since it does not start at the root. -/
structure NotAbsolute where
  path : Path
  deriving DecidableEq, Repr

/-- The message for a path without a URI. -/
def NotAbsolute.message (e : NotAbsolute) : String :=
  "cannot convert path to file URI: " ++ e.path.display

/-- The URI of an absolute path: its components, encoded, each behind a slash. -/
def ofPath (p : Path) : Except NotAbsolute String :=
  if p.isAbsolute then
    let path := match p.components with
      | [] => ['/']
      | components => components.flatMap fun c => '/' :: encodeComponent c
    .ok (String.ofList ("file://".toList ++ path))
  else .error ⟨p⟩

/-- A URI without the blanks and controls around it. -/
def trim (uri : String) : List Char :=
  let outside := fun (c : Char) => c.toNat ≤ 0x20
  ((uri.toList.dropWhile outside).reverse.dropWhile outside).reverse

/-- Whether a character may stand in a scheme behind the first letter. -/
def isSchemeChar (c : Char) : Bool := isLetter c || c.isDigit || c == '+' || c == '-' || c == '.'

/-- The scheme in lower case and what follows its colon. -/
def splitScheme? (cs : List Char) : Option (List Char × List Char) :=
  let inScheme := fun c => isSchemeChar c || isGap c
  let name := withoutGaps (cs.takeWhile inScheme)
  match name, cs.dropWhile inScheme with
  | letter :: _, ':' :: rest => if isLetter letter then some (name.map Char.toLower, rest) else none
  | _, _ => none

/-- The schemes besides `file` that read a backslash as a slash. -/
def webSchemes : List (List Char) :=
  ["http".toList, "https".toList, "ws".toList, "wss".toList, "ftp".toList]

/-- Whether a character is a slash, or a backslash read as one. -/
def isSlash (c : Char) : Bool := c == '/' || c == '\\'

/-- Whether a character ends the authority. -/
def endsAuthority (special : Bool) (c : Char) : Bool :=
  c == '/' || c == '?' || c == '#' || (special && c == '\\')

/-- What follows the slash at the front, if there is one. -/
def afterSlash (cs : List Char) : List Char := if cs.head?.any isSlash then cs.drop 1 else cs

/-- The segments of a `file` URI behind two slashes. A drive in place of the host belongs to the
path, and a host in front of a drive does not count. -/
def fileAuthority? (cs : List Char) : Option (List Segment) :=
  let name := withoutGaps (cs.takeWhile fun c => !endsAuthority true c)
  let rest := cs.dropWhile fun c => !endsAuthority true c
  if isDrive name then some (resolve true true cs)
  else if name.isEmpty then some (resolve true true rest)
  else do
    let host ← Host.ofChars? name
    if host.isLocal then some (resolve true true rest)
    else if (trail true true (afterSlash rest)).drive then
      some (resolve true true (afterSlash rest))
    else none

/-- The segments of a `file` URI. -/
def fileSegments? (cs : List Char) : Option (List Segment) :=
  match cs.dropWhile isGap with
  | [] => some (resolve true true [])
  | a :: rest =>
    if isSlash a then
      match rest.dropWhile isGap with
      | b :: behind => if isSlash b then fileAuthority? behind else some (resolve true true rest)
      | [] => some (resolve true true [])
    else some (resolve true true (a :: rest))

/-- The user information, the host, and what follows the host. -/
structure Authority where
  user : Option (List Char)
  host : List Char
  /-- What stands behind the host, a colon included. -/
  behind : List Char

/-- Splits an authority at its last at sign and at the first colon behind it. -/
def Authority.ofChars (cs : List Char) : Authority :=
  let tail := (cs.reverse.takeWhile (· ≠ '@')).reverse
  let user := if tail.length < cs.length then some (cs.take (cs.length - tail.length - 1)) else none
  ⟨user, tail.takeWhile (· ≠ ':'), tail.dropWhile (· ≠ ':')⟩

/-- What follows the number behind a host, if there is nothing there or a colon with a number below
`2 ^ 16` or without one. -/
def afterNumber? : List Char → Option (List Char)
  | ':' :: rest =>
    let digits := rest.takeWhile Char.isDigit
    let behind := rest.dropWhile Char.isDigit
    if Text.digitsValue digits < 0x10000 && (behind.isEmpty || behind.head? == some '\\') then
      some behind
    else none
  | [] => some []
  | _ => none

/-- The segments of a URI of one of the web schemes. -/
def webSegments? (cs : List Char) : Option (List Segment) := do
  let cs := cs.dropWhile isSlash
  let authority := Authority.ofChars (cs.takeWhile fun c => !endsAuthority true c)
  let rest := cs.dropWhile fun c => !endsAuthority true c
  let _ ← afterNumber? authority.behind
  let host ← Host.ofChars? authority.host
  if host.isLocal then some (resolve false true (afterSlash rest)) else none

/-- The segments of a URI of any other scheme behind two slashes. Without a host there can be
neither user information nor a number. -/
def otherAuthority? (cs : List Char) : Option (List Segment) := do
  let authority := Authority.ofChars (cs.takeWhile fun c => !endsAuthority false c)
  let behind ← afterNumber? authority.behind
  let rest := behind ++ cs.dropWhile fun c => !endsAuthority false c
  let nameless := authority.behind.isEmpty &&
    (authority.user.isNone || authority.user == some [':'])
  if authority.host = "localhost".toList || (authority.host.isEmpty && nameless) then
    match rest with
    | [] => none
    | c :: behind =>
      if c == '?' || c == '#' then none
      else some (resolve false false (if c == '/' then behind else c :: behind))
  else none

/-- The segments of a URI of any other scheme. -/
def otherSegments? : List Char → Option (List Segment)
  | '/' :: '/' :: rest => otherAuthority? rest
  | '/' :: rest => some (resolve false false rest)
  | _ => none

/-- The path that a URI names. -/
def toPath? (uri : String) : Option Path := do
  let (scheme, rest) ← splitScheme? (trim uri)
  let segments ←
    if scheme = "file".toList then fileSegments? rest
    else if webSchemes.contains scheme then webSegments? (withoutGaps rest)
    else otherSegments? (withoutGaps rest)
  some (pathOfSegments segments)

end DiagnosticLens.Uri
