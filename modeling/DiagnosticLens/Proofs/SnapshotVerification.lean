import DiagnosticLens.Proofs.StoreHistory

/-!
# Verifying snapshots over histories

A snapshot is taken somewhere in a history of the store and verified somewhere later in it. The
verification compares generations, and a generation counts the writes since the document was last
forgotten. As long as the document is not forgotten in between, equal generations mean that nothing
was written: in this the store implements its history. Once the document is forgotten the count
starts again, and it may come back to the generation of the snapshot with other diagnostics.

## Implementation notes

The history is split at the moment of the snapshot into `before` and `later`. It has fewer than
`2 ^ 64` operations, so that generations do not wrap around.
-/

namespace DiagnosticLens

/-- Generations of fewer than `2 ^ 64` writes are equal only for equally many writes. -/
theorem ofNat_generation_inj {m n : Nat} (hm : m < UInt64.size) (hn : n < UInt64.size) :
    UInt64.ofNat m = UInt64.ofNat n ↔ m = n := by
  constructor
  · intro h
    have hnat := congrArg UInt64.toNat h
    rwa [UInt64.toNat_ofNat_of_lt' hm, UInt64.toNat_ofNat_of_lt' hn] at hnat
  · rintro rfl
    rfl

/-- A verification passes exactly if the store is at the generation of the snapshot. -/
theorem Snapshot.verify_eq_ok_iff (snapshot : Snapshot) (store : Store) :
    snapshot.verify store = .ok () ↔ store.generation snapshot.uri = snapshot.generation := by
  simp only [Snapshot.verify]
  split <;> simp_all

/-- A verification that does not pass names the document and the two generations. -/
theorem Snapshot.verify_eq_error {snapshot : Snapshot} {store : Store}
    (h : store.generation snapshot.uri ≠ snapshot.generation) :
    snapshot.verify store =
      .error (.mutated snapshot.uri snapshot.generation (store.generation snapshot.uri)) := by
  rw [Snapshot.verify, if_neg h]

namespace StoreOp

/-- Along a history, a snapshot passes exactly if its document has been written to as often since it
was last forgotten as it had been when the snapshot was taken. -/
theorem verify_replay_iff (before later : List StoreOp) (uri : String)
    (hlen : (before ++ later).length < UInt64.size) :
    ((Store.empty.replay before).snapshot uri).verify (Store.empty.replay (before ++ later)) =
        .ok () ↔
      (recent uri (before ++ later)).length = (recent uri before).length := by
  have hnow : (recent uri (before ++ later)).length < UInt64.size :=
    lt_of_le_of_lt (length_recent_le uri _) hlen
  have hthen : (recent uri before).length < UInt64.size := by
    refine lt_of_le_of_lt (length_recent_le uri _) (lt_of_le_of_lt ?_ hlen)
    simp
  rw [Snapshot.verify_eq_ok_iff]
  simp only [Store.generation, Store.snapshot, Store.entry_replay_empty]
  exact ofNat_generation_inj hnow hthen

/-- If the document is not forgotten after the snapshot, equally many writes are the same writes. -/
theorem recent_append_eq_of_length {before later : List StoreOp} {uri : String}
    (hkept : forget uri ∉ later)
    (hlen : (recent uri (before ++ later)).length = (recent uri before).length) :
    recent uri (before ++ later) = recent uri before := by
  rw [recent_append, if_neg hkept] at hlen ⊢
  have hnone : addressed uri later = [] := by
    apply List.eq_nil_of_length_eq_zero
    rw [List.length_append] at hlen
    omega
  rw [hnone, List.append_nil]

/-- If the document is not forgotten after the snapshot, the snapshot passes exactly as long as
nothing is addressed to the document. -/
theorem verify_replay_iff_of_kept {before later : List StoreOp} {uri : String}
    (hlen : (before ++ later).length < UInt64.size) (hkept : forget uri ∉ later) :
    ((Store.empty.replay before).snapshot uri).verify (Store.empty.replay (before ++ later)) =
        .ok () ↔
      ∀ op ∈ later, op.uri ≠ uri := by
  have hnone : addressed uri later = [] ↔ ∀ op ∈ later, op.uri ≠ uri := by
    simp [addressed, List.filter_eq_nil_iff]
  rw [verify_replay_iff before later uri hlen, recent_append, if_neg hkept, List.length_append,
    ← hnone, ← List.length_eq_zero_iff]
  omega

/-- The store implements its history, whoever wrote it. A document has what the writes since it was
last forgotten make of an empty list, its generation is the number of these writes, and as long as
it is not forgotten a snapshot tells whether it has been written to since. -/
theorem replay_implements_history (ops : List StoreOp) (uri : String)
    (hlen : ops.length < UInt64.size) :
    ((Store.empty.replay ops).snapshot uri).items = contents (recent uri ops) ∧
      ((Store.empty.replay ops).generation uri).toNat = (recent uri ops).length ∧
      ∀ before later, ops = before ++ later → forget uri ∉ later →
        (((Store.empty.replay before).snapshot uri).verify (Store.empty.replay ops) = .ok () ↔
            ∀ op ∈ later, op.uri ≠ uri) ∧
          ((∃ op ∈ later, op.uri = uri) →
            ((Store.empty.replay before).snapshot uri).verify (Store.empty.replay ops) =
              .error (.mutated uri ((Store.empty.replay before).snapshot uri).generation
                ((Store.empty.replay ops).generation uri))) := by
  refine ⟨?_, ?_, ?_⟩
  · rw [Store.snapshot, Store.entry_replay_empty]
  · rw [Store.generation, Store.entry_replay_empty]
    exact UInt64.toNat_ofNat_of_lt' ((length_recent_le uri ops).trans_lt hlen)
  · rintro before later rfl hkept
    have hpasses := verify_replay_iff_of_kept hlen hkept
    refine ⟨hpasses, ?_⟩
    rintro ⟨op, hmem, huri⟩
    -- what does not pass is at another generation, and then the error is laid down
    apply Snapshot.verify_eq_error
    intro hsame
    exact hpasses.mp ((Snapshot.verify_eq_ok_iff _ _).mpr hsame) op hmem huri

/-- A document with one diagnostic, which has this message. -/
def publishOne (message : String) : StoreOp :=
  publish "file:///a.c" [⟨⟨⟨0, 0⟩, ⟨0, 1⟩⟩, some .error, message, none, none⟩]

/-- Two documents are written to in turns. The first is forgotten once and written to twice after
that, and a snapshot taken between these two writes has noticed the second. -/
theorem replay_implements_history_shared :
    let before := [publishOne "old", clear "file:///b.c", forget "file:///a.c", publishOne "new"]
    let later := [forget "file:///b.c",
      append "file:///a.c" ⟨⟨⟨0, 0⟩, ⟨0, 1⟩⟩, none, "more", none, none⟩]
    (before ++ later).length < UInt64.size ∧ forget "file:///a.c" ∉ later ∧
      (((Store.empty.replay (before ++ later)).snapshot "file:///a.c").items.map
          Diagnostic.message) = ["new", "more"] ∧
      ((Store.empty.replay (before ++ later)).generation "file:///a.c").toNat = 2 ∧
      ((Store.empty.replay before).snapshot "file:///a.c").verify
          (Store.empty.replay (before ++ later)) = .error (.mutated "file:///a.c" 1 2) := by
  intro before later
  have hlen : (before ++ later).length < UInt64.size := by decide
  have hkept : forget "file:///a.c" ∉ later := by decide
  obtain ⟨hitems, hgeneration, hverify⟩ :=
    replay_implements_history (before ++ later) "file:///a.c" hlen
  refine ⟨hlen, hkept, ?_, ?_, ?_⟩
  · rw [hitems]
    decide
  · rw [hgeneration]
    decide
  · have hwritten : ∃ op ∈ later, op.uri = "file:///a.c" :=
      ⟨_, List.mem_cons_of_mem _ (List.mem_singleton_self _), rfl⟩
    exact (hverify before later rfl hkept).2 hwritten

/-- A verification that passes vouches for the diagnostics of the document, except if the document
has been forgotten since the snapshot and then written to exactly as often as before, to another
end. -/
theorem verified_items_current_iff (before later : List StoreOp) (uri : String)
    (hlen : (before ++ later).length < UInt64.size) :
    (((Store.empty.replay before).snapshot uri).verify (Store.empty.replay (before ++ later)) =
          .ok () →
        ((Store.empty.replay (before ++ later)).snapshot uri).items =
          ((Store.empty.replay before).snapshot uri).items) ↔
      ¬ (forget uri ∈ later ∧ (recent uri later).length = (recent uri before).length ∧
        contents (recent uri later) ≠ contents (recent uri before)) := by
  rw [verify_replay_iff before later uri hlen]
  simp only [Store.snapshot, Store.entry_replay_empty]
  by_cases hforget : forget uri ∈ later
  · rw [recent_append, if_pos hforget]
    simp only [hforget, true_and, not_and, not_not]
  · simp only [hforget, false_and, not_false_iff, iff_true]
    intro hcount
    rw [recent_append_eq_of_length hforget hcount]

/-- The exception occurs: one write before the snapshot, one after the document was forgotten. -/
theorem verified_items_current_iff_recounted :
    ([publishOne "old"] ++ [forget "file:///a.c", publishOne "new"]).length < UInt64.size ∧
      ¬ (((Store.empty.replay [publishOne "old"]).snapshot "file:///a.c").verify
            (Store.empty.replay
              ([publishOne "old"] ++ [forget "file:///a.c", publishOne "new"])) = .ok () →
          ((Store.empty.replay ([publishOne "old"] ++
              [forget "file:///a.c", publishOne "new"])).snapshot "file:///a.c").items =
            ((Store.empty.replay [publishOne "old"]).snapshot "file:///a.c").items) := by
  refine ⟨by decide, ?_⟩
  rw [verified_items_current_iff _ _ _ (by decide), not_not]
  decide

/-- In the same history the verification passes, although the diagnostics have changed. -/
theorem verify_passes_on_changed_items :
    ((Store.empty.replay [publishOne "old"]).snapshot "file:///a.c").verify
        (Store.empty.replay [publishOne "old", forget "file:///a.c", publishOne "new"]) =
          .ok () ∧
      ((Store.empty.replay [publishOne "old", forget "file:///a.c", publishOne "new"]).snapshot
          "file:///a.c").items ≠
        ((Store.empty.replay [publishOne "old"]).snapshot "file:///a.c").items := by
  constructor
  · rfl
  · decide

end StoreOp

end DiagnosticLens
