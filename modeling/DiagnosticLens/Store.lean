import DiagnosticLens.Diagnostic
import DiagnosticLens.Registry

/-!
# The store of diagnostics

For each document the store keeps the diagnostics last heard of and the number of writes since the
document became known, its generation. A snapshot is a copy taken at some generation;
`Snapshot.verify` tells whether the store has been written to since.

## Implementation notes

Generations are 64-bit words. Forgetting a document forgets its generation with it, and a document
that was never written to is at generation zero with no diagnostics.
-/

namespace DiagnosticLens

/-- Why a snapshot cannot be had or relied on. -/
inductive SnapshotError where
  /-- A write to the diagnostics broke off halfway. -/
  | unreadable (uri : String)
  /-- The diagnostics have been written to in the meantime. -/
  | mutated (uri : String) (expected found : UInt64)
  deriving DecidableEq, Repr

/-- The message for a snapshot that cannot be had or relied on. -/
def SnapshotError.message : SnapshotError → String
  | .unreadable uri =>
    "diagnostics for " ++ uri ++ " are unreadable: a writer panicked mid-update"
  | .mutated uri expected found =>
    "diagnostics for " ++ uri ++ " changed during the pass (generation " ++
      toString expected.toNat ++ " -> " ++ toString found.toNat ++ ")"

/-- What is known about one document. -/
structure StoreEntry where
  items : List Diagnostic := []
  generation : UInt64 := 0
  deriving DecidableEq, Repr

/-- The diagnostics of all documents. -/
structure Store where
  entries : Registry StoreEntry := {}

/-- A copy of the diagnostics of one document. -/
structure Snapshot where
  uri : String
  items : List Diagnostic
  generation : UInt64
  deriving DecidableEq, Repr

namespace Store

/-- The store that knows no document. -/
def empty : Store := {}

/-- What is known about a document. -/
def entry (s : Store) (uri : String) : StoreEntry := (s.entries.get? uri).getD {}

/-- How often a document has been written to since it became known. -/
def generation (s : Store) (uri : String) : UInt64 := (s.entry uri).generation

/-- Replaces the diagnostics of a document by what `update` makes of them. -/
def write (s : Store) (uri : String) (update : List Diagnostic → List Diagnostic) : Store :=
  let old := s.entry uri
  ⟨s.entries.set uri ⟨update old.items, old.generation + 1⟩⟩

/-- Replaces the diagnostics of a document. -/
def publish (s : Store) (uri : String) (items : List Diagnostic) : Store :=
  s.write uri fun _ => items

/-- Adds one diagnostic behind the others. -/
def append (s : Store) (uri : String) (item : Diagnostic) : Store :=
  s.write uri fun items => items ++ [item]

/-- Removes the diagnostics of a document. -/
def clear (s : Store) (uri : String) : Store := s.write uri fun _ => []

/-- Forgets that a document was ever known. -/
def forget (s : Store) (uri : String) : Store := ⟨s.entries.erase uri⟩

/-- A copy of the diagnostics of a document. -/
def snapshot (s : Store) (uri : String) : Snapshot :=
  ⟨uri, (s.entry uri).items, (s.entry uri).generation⟩

/-- A write changes the entry of its document. -/
@[simp]
theorem entry_write_self (s : Store) (uri : String) (update : List Diagnostic → List Diagnostic) :
    (s.write uri update).entry uri =
      ⟨update (s.entry uri).items, (s.entry uri).generation + 1⟩ := by
  simp [write, entry]

/-- A write leaves the entries of other documents. -/
theorem entry_write_of_ne (s : Store) {uri other : String}
    (update : List Diagnostic → List Diagnostic) (hne : other ≠ uri) :
    (s.write uri update).entry other = s.entry other := by
  simp [write, entry, Registry.get?_set_of_ne _ _ hne]

/-- A forgotten document is like one never known. -/
@[simp]
theorem entry_forget_self (s : Store) (uri : String) : (s.forget uri).entry uri = {} := by
  simp [forget, entry]

/-- Forgetting one document leaves the entries of the others. -/
theorem entry_forget_of_ne (s : Store) {uri other : String} (hne : other ≠ uri) :
    (s.forget uri).entry other = s.entry other := by
  simp [forget, entry, Registry.get?_erase_of_ne _ hne]

end Store

namespace Snapshot

/-- A copy of diagnostics that are kept elsewhere. -/
def detached (uri : String) (items : List Diagnostic) : Snapshot := ⟨uri, items, 0⟩

/-- Whether the store is still at the generation of the snapshot. -/
def verify (snapshot : Snapshot) (store : Store) : Except SnapshotError Unit :=
  let found := store.generation snapshot.uri
  if found = snapshot.generation then .ok ()
  else .error (.mutated snapshot.uri snapshot.generation found)

end Snapshot

end DiagnosticLens
