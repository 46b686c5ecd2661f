import DiagnosticLens.Store
import Mathlib.Data.List.DropRight
import Mathlib.Data.List.Induction

/-!
# Histories of the store

A history is the list of the operations on a store, whoever issued them. What a history leaves of
one document depends only on the operations that are addressed to it, and of those only on the ones
since the document was last forgotten.

## Implementation notes

`StoreOp.onEntry` says once what an operation does to the entry of its own document. Everything else
about histories is derived from it: `Store.entry_replay` reduces a history of the whole store to a
history of one entry, and `StoreEntry.replay_eq` reduces that to the writes since the last time the
document was forgotten.
-/

namespace DiagnosticLens

/-- One operation on the store, with the document it is addressed to. -/
inductive StoreOp where
  | publish (uri : String) (items : List Diagnostic)
  | append (uri : String) (item : Diagnostic)
  | clear (uri : String)
  | forget (uri : String)
  deriving DecidableEq, Repr

namespace StoreOp

/-- The document that an operation is addressed to. -/
def uri : StoreOp → String
  | publish uri _ => uri
  | append uri _ => uri
  | clear uri => uri
  | forget uri => uri

/-- Whether an operation forgets its document; every other one writes to it. -/
def isForget : StoreOp → Bool
  | forget _ => true
  | _ => false

/-- What an operation makes of the diagnostics of its document. -/
def update : StoreOp → List Diagnostic → List Diagnostic
  | publish _ items, _ => items
  | append _ item, items => items ++ [item]
  | clear _, _ => []
  | forget _, _ => []

/-- Carries out an operation. -/
def apply : StoreOp → Store → Store
  | publish uri items, s => s.publish uri items
  | append uri item, s => s.append uri item
  | clear uri, s => s.clear uri
  | forget uri, s => s.forget uri

/-- What an operation makes of the entry of its document. -/
def onEntry (op : StoreOp) (entry : StoreEntry) : StoreEntry :=
  if op.isForget then {} else ⟨op.update entry.items, entry.generation + 1⟩

theorem eq_forget_iff (op : StoreOp) (uri : String) :
    op = forget uri ↔ op.uri = uri ∧ op.isForget = true := by
  cases op <;> simp [StoreOp.uri, isForget]

/-- An operation changes the entry of its own document and no other. -/
theorem entry_apply (op : StoreOp) (s : Store) (uri : String) :
    (op.apply s).entry uri = if op.uri = uri then op.onEntry (s.entry uri) else s.entry uri := by
  by_cases h : op.uri = uri
  · subst h
    cases op <;>
      simp [apply, onEntry, StoreOp.uri, isForget, update, Store.publish, Store.append, Store.clear]
  · have hne : uri ≠ op.uri := fun he => h he.symm
    rw [if_neg h]
    cases op with
    | publish other items => exact Store.entry_write_of_ne s _ hne
    | append other item => exact Store.entry_write_of_ne s _ hne
    | clear other => exact Store.entry_write_of_ne s _ hne
    | forget other => exact Store.entry_forget_of_ne s hne

/-- The operations of a history that are addressed to a document. -/
def addressed (uri : String) (ops : List StoreOp) : List StoreOp :=
  ops.filter fun op => op.uri = uri

/-- The operations at the end of a list, behind the last one that forgets. -/
def unforgotten (ops : List StoreOp) : List StoreOp := ops.rtakeWhile fun op => !op.isForget

/-- One more operation is kept behind the others, unless it forgets. -/
theorem unforgotten_concat (ops : List StoreOp) (op : StoreOp) :
    unforgotten (ops ++ [op]) = if op.isForget then [] else unforgotten ops ++ [op] := by
  rw [unforgotten, List.rtakeWhile_concat]
  cases op.isForget <;> rfl

/-- The writes to a document since it was last forgotten. -/
def recent (uri : String) (ops : List StoreOp) : List StoreOp := unforgotten (addressed uri ops)

/-- What a list of writes makes of the diagnostics of a document, starting from none. -/
def contents (ops : List StoreOp) : List Diagnostic := ops.foldl (fun items op => op.update items) []

end StoreOp

namespace StoreEntry

/-- What a history of one document makes of its entry. -/
def replay (entry : StoreEntry) (ops : List StoreOp) : StoreEntry :=
  ops.foldl (fun e op => op.onEntry e) entry

/-- What a list of writes makes of an entry. -/
def written (entry : StoreEntry) (ops : List StoreOp) : StoreEntry :=
  ⟨ops.foldl (fun items op => op.update items) entry.items,
    entry.generation + UInt64.ofNat ops.length⟩

@[simp] theorem written_nil (entry : StoreEntry) : entry.written [] = entry := by
  simp [written]

theorem replay_concat (entry : StoreEntry) (ops : List StoreOp) (op : StoreOp) :
    entry.replay (ops ++ [op]) = op.onEntry (entry.replay ops) := by
  simp [replay]

/-- One more write puts one more update on the diagnostics and counts one further. -/
theorem written_concat (entry : StoreEntry) (ops : List StoreOp) (op : StoreOp) :
    entry.written (ops ++ [op]) =
      ⟨op.update (entry.written ops).items, (entry.written ops).generation + 1⟩ := by
  simp [written, UInt64.add_assoc]

/-- A history of one document comes down to the writes since the document was last forgotten: to
the entry it started from, or to an empty one if it was forgotten on the way. -/
theorem replay_eq (entry : StoreEntry) (ops : List StoreOp) :
    entry.replay ops =
      (if ops.any StoreOp.isForget then {} else entry).written (StoreOp.unforgotten ops) := by
  induction ops using List.reverseRecOn with
  | nil => simp [replay, StoreOp.unforgotten]
  | append_singleton ops op ih =>
      rw [replay_concat, ih]
      cases hop : op.isForget with
      | true => simp [StoreOp.onEntry, StoreOp.unforgotten_concat, hop]
      | false => simp [StoreOp.onEntry, StoreOp.unforgotten_concat, hop, written_concat]

end StoreEntry

namespace Store

/-- The store that a history leaves. -/
def replay (s : Store) (ops : List StoreOp) : Store := ops.foldl (fun s op => op.apply s) s

/-- The entry of a document depends only on the operations addressed to it. -/
theorem entry_replay (s : Store) (ops : List StoreOp) (uri : String) :
    (s.replay ops).entry uri = (s.entry uri).replay (StoreOp.addressed uri ops) := by
  induction ops generalizing s with
  | nil => rfl
  | cons op ops ih =>
      change ((op.apply s).replay ops).entry uri = _
      rw [ih, StoreOp.entry_apply]
      by_cases h : op.uri = uri
      · simp [StoreOp.addressed, h, StoreEntry.replay]
      · simp [StoreOp.addressed, h]

@[simp] theorem entry_empty (uri : String) : empty.entry uri = {} := rfl

/-- From the empty store on, a document holds what was written to it since it was last forgotten,
and its generation counts these writes. -/
theorem entry_replay_empty (ops : List StoreOp) (uri : String) :
    (empty.replay ops).entry uri =
      ⟨StoreOp.contents (StoreOp.recent uri ops),
        UInt64.ofNat (StoreOp.recent uri ops).length⟩ := by
  rw [entry_replay, StoreEntry.replay_eq, entry_empty, ite_self]
  simp [StoreEntry.written, StoreOp.contents, StoreOp.recent]

end Store

namespace StoreOp

theorem mem_addressed_forget_iff (uri : String) (ops : List StoreOp) :
    (addressed uri ops).any isForget = true ↔ forget uri ∈ ops := by
  simp only [addressed, List.any_eq_true, List.mem_filter, decide_eq_true_eq]
  constructor
  · rintro ⟨op, ⟨hmem, huri⟩, hforget⟩
    rwa [← (eq_forget_iff op uri).mpr ⟨huri, hforget⟩]
  · intro hmem
    exact ⟨forget uri, ⟨hmem, rfl⟩, rfl⟩

theorem unforgotten_append (ops later : List StoreOp) :
    unforgotten (ops ++ later) =
      if later.any isForget then unforgotten later else unforgotten ops ++ later := by
  induction later using List.reverseRecOn with
  | nil => simp
  | append_singleton later op ih =>
      rw [← List.append_assoc, unforgotten_concat, ih, unforgotten_concat]
      cases hop : op.isForget with
      | true => simp [hop]
      | false =>
          -- the operation is kept in both lists, so what decides is whether an earlier one forgets
          cases hany : later.any isForget <;> simp [hop, hany]

/-- Forgetting a document sets its recent writes apart from all earlier ones; without it they only
grow. -/
theorem recent_append (uri : String) (ops later : List StoreOp) :
    recent uri (ops ++ later) =
      if forget uri ∈ later then recent uri later else recent uri ops ++ addressed uri later := by
  have hsplit : addressed uri (ops ++ later) = addressed uri ops ++ addressed uri later := by
    simp [addressed]
  rw [recent, hsplit, unforgotten_append]
  simp only [mem_addressed_forget_iff, recent]

theorem length_recent_le (uri : String) (ops : List StoreOp) :
    (recent uri ops).length ≤ ops.length :=
  calc
    (recent uri ops).length ≤ (addressed uri ops).length :=
      (List.rtakeWhile_suffix _ _).length_le
    _ ≤ ops.length := List.length_filter_le _ _

end StoreOp

end DiagnosticLens
