import DiagnosticLens.Registry

/-!
# TOML values

A TOML document is a table that is put together line by line: assignments add values to the table
of the last header, and headers open tables. How a table came to be decides what may still be
added to it, so each table carries its `Origin` along. Whatever is not allowed makes the whole
document wrong, and the operations here give nothing.
-/

namespace DiagnosticLens.Toml

/-- How a table came to be. -/
inductive Origin where
  /-- By a header of its own. -/
  | header
  /-- By a header of a table inside it. -/
  | implied
  /-- By a dotted key that leads through it. -/
  | dotted
  /-- By being written in braces. -/
  | inline
  deriving DecidableEq, Repr

/-- A number with a point or an exponent. -/
inductive Scientific where
  | finite (significand : Nat) (exponent : Int)
  | infinite
  | notANumber
  deriving DecidableEq, Repr

/-- A value. Signs of numbers with a point or an exponent are left out, and points in time stand
as they are written. -/
inductive Node where
  | text (s : String)
  | flag (b : Bool)
  | integer (value : Int)
  | scientific (value : Scientific)
  | moment (spelling : String)
  | array (items : List Node)
  /-- Tables opened one after the other by headers in double brackets; there is always a latest. -/
  | tables (latest : List (String × Node)) (earlier : List (List (String × Node)))
  | table (origin : Origin) (members : List (String × Node))

/-- A change to a table and its origin. -/
abbrev Change := Origin → Entries Node → Option (Origin × Entries Node)

/-- Makes a change to the table that a path leads to from another. Tables that are missing on the
way come to be as `made`. A path leads to the latest of several tables, never into braces, and a
dotted key leads through no table that has a header. -/
def changeAt (made : Origin) (change : Change) : List String → Change
  | [], origin, members => change origin members
  | key :: path, outer, members =>
    match members.lookup key with
    | none => do
      let (origin, inner) ← changeAt made change path made []
      return (outer, members.put key (.table origin inner))
    | some (.table origin inner) =>
      if origin = .inline ∨ (origin = .header ∧ made = .dotted) then none
      else do
        let (origin, inner) ← changeAt made change path origin inner
        return (outer, members.put key (.table origin inner))
    | some (.tables latest earlier) => do
      let (_, latest) ← changeAt made change path .header latest
      return (outer, members.put key (.tables latest earlier))
    | some _ => none

/-- A key as written, split at its dots: where it leads to and its last part. -/
structure Key where
  path : List String
  name : String
  deriving DecidableEq, Repr

/-- Gives a value to the last part of a dotted key. The table it is added to must not have a header
of its own, and counts from then on as made by a dotted key. -/
def assignDotted (name : String) (value : Node) : Change := fun origin members =>
  if origin = .header ∨ origin = .inline ∨ (members.lookup name).isSome then none
  else some (.dotted, members.put name value)

/-- Gives a value to a key without dots. -/
def assignPlain (name : String) (value : Node) : Change := fun origin members =>
  if (members.lookup name).isSome then none else some (origin, members.put name value)

/-- Adds a value to a table. A key is given a value only once. -/
def assign (key : Key) (value : Node) : Change :=
  if key.path.isEmpty then assignPlain key.name value
  else changeAt .dotted (assignDotted key.name value) key.path

/-- A table that is written in braces. -/
def inlineTable (assignments : List (Key × Node)) : Option Node := do
  let members ← assignments.foldlM
    (fun members (key, value) => (assign key value .header members).map Prod.snd) []
  return .table .inline members

/-- Opens a table by its header. -/
def openTable (name : String) : Change := fun origin members =>
  match members.lookup name with
  | none => some (origin, members.put name (.table .header []))
  | some (.table .implied inner) => some (origin, members.put name (.table .header inner))
  | some _ => none

/-- Opens one more of several tables by a header in double brackets. -/
def openNext (name : String) : Change := fun origin members =>
  match members.lookup name with
  | none => some (origin, members.put name (.tables [] []))
  | some (.tables latest earlier) =>
    some (origin, members.put name (.tables [] (latest :: earlier)))
  | some _ => none

/-- One line of a document, as far as it says something. -/
inductive Statement where
  | assignment (key : Key) (value : Node)
  | tableHeader (key : Key)
  | nextHeader (key : Key)

/-- A document as far as it has been read. -/
structure Draft where
  root : Entries Node := []
  /-- The path to the table of the last header. -/
  current : List String := []

/-- Makes a change to the table that a path leads to from the root. -/
def Draft.change (d : Draft) (change : Change) (path : List String) : Option (Entries Node) :=
  (changeAt .implied change path .header d.root).map Prod.snd

/-- Adds a statement to a document. -/
def Draft.add (d : Draft) : Statement → Option Draft
  | .assignment key value => do
    return { d with root := ← d.change (assign key value) d.current }
  | .tableHeader key => do
    return ⟨← d.change (openTable key.name) key.path, key.path ++ [key.name]⟩
  | .nextHeader key => do
    return ⟨← d.change (openNext key.name) key.path, key.path ++ [key.name]⟩

end DiagnosticLens.Toml
