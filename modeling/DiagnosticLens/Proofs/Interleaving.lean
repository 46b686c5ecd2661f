import DiagnosticLens.Proofs.SnapshotVerification
import DiagnosticLens.Proofs.Turns

/-!
# Sessions amid changes

While a pass runs, its surroundings go on by themselves: the user edits the text, and servers write
to the store. A session in such surroundings answers every call from what is to be seen at that
moment, and any number of changes may come before and after each call.

## Implementation notes

All interleavings are covered by schedules. A state holds what the surroundings are going to do, in
batches; every call takes one batch off before it is answered and one after it, and writes down the
scene in which it was answered. A schedule that is used up has nothing more to add. `Later` relates
two moments of one schedule, and it is the only thing about the order of calls that proofs use.
-/

namespace DiagnosticLens.Interleaving

variable {ρ α : Type}

/-- What is to be seen at one moment. -/
structure Scene where
  store : Store
  text : String
  version : UInt64

/-- One change in the surroundings. -/
inductive Change where
  /-- The text is replaced, and has this version from now on. -/
  | edit (text : String) (version : UInt64)
  /-- The store is written to, or forgets a document. -/
  | write (op : StoreOp)

namespace Change

/-- Carries out a change. -/
def apply : Change → Scene → Scene
  | edit text version, scene => { scene with text := text, version := version }
  | write op, scene => { scene with store := op.apply scene.store }

/-- The operation on the store that a change is, if it is one. -/
def op? : Change → Option StoreOp
  | edit _ _ => none
  | write op => some op

/-- Edits come with a higher version than the text has, and a document is not forgotten while its
editor is open. -/
def Orderly (own : String) (scene : Scene) : Change → Prop
  | edit _ version => scene.version < version
  | write op => op ≠ .forget own

end Change

namespace Scene

/-- The scene behind some changes. -/
def after (scene : Scene) (changes : List Change) : Scene :=
  changes.foldl (fun scene change => change.apply scene) scene

@[simp] theorem after_nil (scene : Scene) : scene.after [] = scene := rfl

@[simp] theorem after_cons (scene : Scene) (change : Change) (changes : List Change) :
    scene.after (change :: changes) = (change.apply scene).after changes := rfl

theorem after_append (scene : Scene) (changes more : List Change) :
    scene.after (changes ++ more) = (scene.after changes).after more := by
  simp [after]

/-- What changes do to the store is a history of the store. -/
theorem store_after (scene : Scene) (changes : List Change) :
    (scene.after changes).store = scene.store.replay (changes.filterMap Change.op?) := by
  induction changes generalizing scene with
  | nil => rfl
  | cons change changes ih =>
      cases change with
      | edit text version => exact ih _
      | write op => exact ih _

end Scene

/-- Changes that are orderly one after the other. -/
def Orderly (own : String) : Scene → List Change → Prop
  | _, [] => True
  | scene, change :: changes => change.Orderly own scene ∧ Orderly own (change.apply scene) changes

/-- How often changes write to a document. -/
def writesTo (own : String) (changes : List Change) : Nat :=
  (StoreOp.addressed own (changes.filterMap Change.op?)).length

theorem orderly_append {own : String} {scene : Scene} {changes more : List Change} :
    Orderly own scene (changes ++ more) ↔
      Orderly own scene changes ∧ Orderly own (scene.after changes) more := by
  induction changes generalizing scene with
  | nil => simp [Orderly]
  | cons change changes ih => simp [Orderly, ih, and_assoc]

theorem writesTo_append (own : String) (changes more : List Change) :
    writesTo own (changes ++ more) = writesTo own changes + writesTo own more := by
  simp [writesTo, StoreOp.addressed]

/-- Orderly changes do not forget the document. -/
theorem Orderly.forget_notMem {own : String} {scene : Scene} {changes : List Change}
    (h : Orderly own scene changes) : StoreOp.forget own ∉ changes.filterMap Change.op? := by
  induction changes generalizing scene with
  | nil => simp
  | cons change changes ih =>
      cases change with
      | edit text version => exact ih h.2
      | write op =>
          intro hmem
          rcases List.mem_cons.mp hmem with heq | hlater
          · exact h.1 heq.symm
          · exact ih h.2 hlater

/-- Behind orderly changes the version has grown, unless nothing was edited at all. -/
theorem Orderly.version_after {own : String} {scene : Scene} {changes : List Change}
    (h : Orderly own scene changes) :
    scene.version < (scene.after changes).version ∨
      (scene.after changes).version = scene.version ∧ (scene.after changes).text = scene.text := by
  induction changes generalizing scene with
  | nil => exact Or.inr ⟨rfl, rfl⟩
  | cons change changes ih =>
      rw [Scene.after_cons]
      cases change with
      | edit text version =>
          left
          rcases ih h.2 with hgrown | ⟨hsame, -⟩
          · exact UInt64.lt_trans h.1 hgrown
          · rw [hsame]
            exact h.1
      | write op => exact ih h.2

/-- Behind orderly changes the entry of the document has taken in what was written to it. -/
theorem Orderly.entry_after {own : String} {scene : Scene} {changes : List Change}
    (h : Orderly own scene changes) :
    (scene.after changes).store.entry own = (scene.store.entry own).written
      (StoreOp.addressed own (changes.filterMap Change.op?)) := by
  have hkept : (StoreOp.addressed own (changes.filterMap Change.op?)).any StoreOp.isForget = false :=
    Bool.eq_false_iff.mpr fun hany =>
      h.forget_notMem ((StoreOp.mem_addressed_forget_iff own _).mp hany)
  rw [Scene.store_after, Store.entry_replay, StoreEntry.replay_eq, hkept]
  congr 1
  simpa [StoreOp.unforgotten, List.rtakeWhile_eq_self_iff] using hkept

/-- A moment of a schedule: the scene, and the changes that are still to come. -/
structure Moment where
  scene : Scene
  ahead : List Change

/-- Whether one moment of a schedule comes at or after another. -/
def Later (a b : Moment) : Prop :=
  ∃ changes, a.ahead = changes ++ b.ahead ∧ b.scene = a.scene.after changes

theorem Later.refl (a : Moment) : Later a a := ⟨[], rfl, rfl⟩

theorem Later.trans {a b c : Moment} (hab : Later a b) (hbc : Later b c) : Later a c := by
  obtain ⟨first, hahead, hscene⟩ := hab
  obtain ⟨second, hahead', hscene'⟩ := hbc
  refine ⟨first ++ second, ?_, ?_⟩
  · rw [hahead, hahead', List.append_assoc]
  · rw [hscene', hscene, Scene.after_append]

/-- What is still to come stays orderly. -/
theorem Later.orderly {own : String} {a b : Moment} (hab : Later a b)
    (h : Orderly own a.scene a.ahead) : Orderly own b.scene b.ahead := by
  obtain ⟨changes, hahead, hscene⟩ := hab
  rw [hahead, orderly_append] at h
  rw [hscene]
  exact h.2

/-- The number of writes to come does not grow. -/
theorem Later.writesTo_le {own : String} {a b : Moment} (hab : Later a b) :
    writesTo own b.ahead ≤ writesTo own a.ahead := by
  obtain ⟨changes, hahead, -⟩ := hab
  rw [hahead, writesTo_append]
  omega

/-- A later text with the version of an earlier one is that text, at every moment between the two. -/
theorem text_between {own : String} {a b c : Moment} (h : Orderly own a.scene a.ahead)
    (hab : Later a b) (hbc : Later b c) (hversion : c.scene.version = a.scene.version) :
    b.scene.version = a.scene.version ∧ b.scene.text = a.scene.text := by
  obtain ⟨second, hsecond, hc⟩ := hbc
  have hb := hab.orderly h
  rw [hsecond, orderly_append] at hb
  obtain ⟨first, hfirst, hb'⟩ := hab
  rw [hfirst, orderly_append] at h
  have hbetween := hb.1.version_after
  rw [← hc] at hbetween
  rcases h.1.version_after with hgrown | hsame
  · -- a version that has grown is never reached again
    rw [← hb'] at hgrown
    rcases hbetween with hmore | ⟨hstill, -⟩
    · exact absurd hversion (UInt64.ne_of_lt (UInt64.lt_trans hgrown hmore)).symm
    · exact absurd (hstill.symm.trans hversion) (UInt64.ne_of_lt hgrown).symm
  · rw [hb']
    exact hsame

/-- A snapshot that verifies against a later store still has the diagnostics of its document. -/
theorem snapshot_of_verified {own : String} {a b : Moment} (h : Orderly own a.scene a.ahead)
    (hwrites : writesTo own a.ahead < UInt64.size) (hab : Later a b)
    (hverify : (a.scene.store.snapshot own).verify b.scene.store = .ok ()) :
    b.scene.store.snapshot own = a.scene.store.snapshot own := by
  obtain ⟨changes, hahead, hb⟩ := hab
  rw [hahead, orderly_append] at h
  rw [hahead, writesTo_append] at hwrites
  have hentry := h.1.entry_after
  rw [← hb] at hentry
  -- equal generations leave no room for a write, since fewer than `2 ^ 64` of them do not wrap
  have hnone : StoreOp.addressed own (changes.filterMap Change.op?) = [] := by
    rw [Snapshot.verify_eq_ok_iff] at hverify
    simp only [Store.generation, Store.snapshot, hentry, StoreEntry.written,
      UInt64.add_eq_left] at hverify
    apply List.eq_nil_of_length_eq_zero
    exact (ofNat_generation_inj (by unfold writesTo at hwrites; omega) (by decide)).mp hverify
  rw [hnone, StoreEntry.written_nil] at hentry
  simp only [Store.snapshot, hentry]

/-- A call of a session. -/
inductive Call where
  | isDisposed
  | diagnostics
  | document
  | codeAction (anchor : Anchor)
  | verify (snapshot : Snapshot)
  | documentVersion

/-- The state of a session amid changes. -/
structure State (ρ : Type) where
  scene : Scene
  /-- What the surroundings are going to do, in batches. -/
  ahead : List (List Change)
  /-- The calls so far, each with the scene in which it was answered. -/
  seen : List (Call × Scene)
  /-- What belongs to the session and the factory alone. -/
  rest : ρ

namespace State

/-- The moment at which a state is. -/
def moment (s : State ρ) : Moment := ⟨s.scene, s.ahead.flatten⟩

/-- Lets the surroundings have their next batch of changes. -/
def advance (s : State ρ) : State ρ :=
  match s.ahead with
  | [] => s
  | batch :: ahead => { s with scene := s.scene.after batch, ahead := ahead }

/-- Changes come between a state and the next one, and nothing else does. -/
theorem later_advance (s : State ρ) : Later s.moment s.advance.moment := by
  rcases s with ⟨scene, _ | ⟨batch, ahead⟩, seen, rest⟩
  · exact Later.refl _
  · exact ⟨batch, rfl, rfl⟩

@[simp] theorem seen_advance (s : State ρ) : s.advance.seen = s.seen := by
  rcases s with ⟨scene, _ | ⟨batch, ahead⟩, seen, rest⟩ <;> rfl

/-- The state behind a call that was answered in the next scene and left `rest` behind. -/
def behind (s : State ρ) (call : Call) (rest : ρ) : State ρ :=
  { s.advance with seen := s.seen ++ [(call, s.advance.scene)], rest := rest }.advance

@[simp] theorem seen_behind (s : State ρ) (call : Call) (rest : ρ) :
    (s.behind call rest).seen = s.seen ++ [(call, s.advance.scene)] := by
  simp [behind]

/-- The state behind a call comes after the moment at which the call was answered. -/
theorem later_behind (s : State ρ) (call : Call) (rest : ρ) :
    Later s.advance.moment (s.behind call rest).moment :=
  later_advance { s.advance with seen := s.seen ++ [(call, s.advance.scene)], rest := rest }

end State

/-- A call, with changes before and after it, and its answer from the scene in between. -/
def answered (call : Call) (answer : Scene → StateM ρ α) : StateM (State ρ) α := fun s =>
  let given := (answer s.advance.scene).run s.rest
  (given.1, s.behind call given.2)

/-- A call that only reads. -/
def reading (call : Call) (answer : Scene → α) : StateM (State ρ) α :=
  answered call fun scene => pure (answer scene)

/-- A call that was answered at a moment between the states in front of and behind it, and that was
written down with the scene of this moment. -/
structure Answered (s : State ρ) (call : Call) (moment : Moment) (s' : State ρ) : Prop where
  before : Later s.moment moment
  behind : Later moment s'.moment
  seen : s'.seen = s.seen ++ [(call, moment.scene)]

theorem answered_behind (s : State ρ) (call : Call) (rest : ρ) :
    Answered s call s.advance.moment (s.behind call rest) :=
  ⟨s.later_advance, s.later_behind call rest, s.seen_behind call rest⟩

/-- A call that only reads gives what is to be seen at the moment at which it is answered. -/
theorem reading_eq {call : Call} {answer : Scene → α} {s s' : State ρ} {a : α}
    (h : (reading call answer).run s = (a, s')) :
    ∃ moment, a = answer moment.scene ∧ Answered s call moment s' := by
  obtain ⟨rfl, rfl⟩ := Prod.mk.inj h
  exact ⟨s.advance.moment, rfl, answered_behind s call s.rest⟩

/-- The session of an open editor amid changes. It has its diagnostics from the store, under its own
URI, and it may answer requests for fixes in any way. -/
def session (own : String)
    (ask : Anchor → Scene → StateM ρ (Except String CodeActionAnswer)) : Session (State ρ) where
  isDisposed := reading .isDisposed fun _ => false
  document := reading .document fun scene => .ofText scene.text scene.version
  documentVersion := reading .documentVersion fun scene => scene.version
  diagnostics := reading .diagnostics fun scene => .ok (scene.store.snapshot own)
  verify snapshot := reading (.verify snapshot) fun scene => snapshot.verify scene.store
  codeAction anchor := answered (.codeAction anchor) (ask anchor)

/-- An action on what belongs to the session and the factory alone. -/
def aside (action : StateM ρ α) : StateM (State ρ) α := fun s =>
  ((action.run s.rest).1, { s with rest := (action.run s.rest).2 })

/-- A factory amid changes. -/
def factory (f : ProblemFactory ρ) : ProblemFactory (State ρ) where
  create anchor message highlight isPreview :=
    aside (f.create anchor message highlight isPreview)
  createWithRemedies anchor message highlight isPreview remedies :=
    aside (f.createWithRemedies anchor message highlight isPreview remedies)

/-- Either way of calling the factory is left to the factory by itself. -/
theorem submit_factory (f : ProblemFactory ρ) (sub : Submission) :
    (factory f).submit sub = aside (f.submit sub) := by
  obtain ⟨anchor, message, highlight, isPreview, _ | remedies⟩ := sub <;> rfl

end DiagnosticLens.Interleaving
