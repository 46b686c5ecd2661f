import DiagnosticLens.Proofs.AbortConditions
import DiagnosticLens.Proofs.StoreHistory

/-!
# Files do not interfere

All documents share one manager and one store. Still, what there is of one document at the end of a
history depends only on the operations that were addressed to it: delete all others from the history,
and the document has the same session, the same diagnostics and the same generation. An inspection of
a file sees no more than this, if the session of the file does not.

## Implementation notes

A history here mixes operations on the manager with operations that go to the store directly. Two
steps are enough to unwind it: an operation keeps two managers in agreement on a document, and one
that is addressed to another document leaves a manager in agreement with what it was.
-/

namespace DiagnosticLens

variable {ε : Type}

/-- The document that an event is about. -/
def ServerEvent.uri : ServerEvent → String
  | .diagnostics uri _ => uri
  | .closed uri => uri

/-- What an event does to the store. Diagnostics of what is no file do nothing. -/
def ServerEvent.storeOp? : ServerEvent → Option StoreOp
  | .diagnostics uri items => (Uri.toPath? uri).map fun _ => .publish uri items
  | .closed uri => some (.forget uri)

theorem ServerEvent.uri_storeOp? {e : ServerEvent} {op : StoreOp} (h : e.storeOp? = some op) :
    op.uri = e.uri := by
  cases e with
  | diagnostics uri items =>
      obtain ⟨path, -, rfl⟩ := Option.map_eq_some_iff.mp h
      rfl
  | closed uri =>
      obtain rfl := Option.some.inj h
      rfl

theorem Manager.store_handle (m : Manager ε) (e : ServerEvent) :
    (m.handle e).1.store = m.store.replay e.storeOp?.toList := by
  cases e with
  | diagnostics uri items =>
      rw [handle, ServerEvent.storeOp?]
      cases Uri.toPath? uri <;> rfl
  | closed uri => rfl

namespace ManagerOp

/-- The document that an operation is addressed to. -/
def uri : ManagerOp ε → String
  | attach uri _ => uri
  | detach uri => uri
  | publish params => params.uri
  | event e => e.uri

/-- What an operation does to the store. -/
def storeOp? : ManagerOp ε → Option StoreOp
  | attach _ _ => none
  | detach uri => some (.forget uri)
  | publish params => ServerEvent.storeOp? (.diagnostics params.uri params.toDiagnostics)
  | event e => e.storeOp?

theorem uri_storeOp? {op : ManagerOp ε} {write : StoreOp} (h : op.storeOp? = some write) :
    write.uri = op.uri := by
  cases op with
  | attach uri session => cases h
  | detach uri =>
      obtain rfl := Option.some.inj h
      rfl
  | publish params =>
      have hevent : ServerEvent.storeOp? (.diagnostics params.uri params.toDiagnostics) = some write := h
      exact ServerEvent.uri_storeOp? hevent
  | event e =>
      have hevent : e.storeOp? = some write := h
      exact ServerEvent.uri_storeOp? hevent

/-- Operations on the manager act on the store as operations on the store do, or not at all. -/
theorem store_apply (m : Manager ε) (op : ManagerOp ε) :
    (op.apply m).store = m.store.replay op.storeOp?.toList := by
  cases op with
  | attach uri session => rfl
  | detach uri => rfl
  | publish params => exact m.store_handle _
  | event e => exact m.store_handle e

/-- An operation that is addressed to one document neither closes another nor attaches a session to
it. -/
theorem idle_of_ne {op : ManagerOp ε} {uri : String} (h : op.uri ≠ uri) :
    op.closes uri = false ∧ op.attached? uri = none := by
  cases op with
  | attach other session => exact ⟨rfl, if_neg h⟩
  | detach other => exact ⟨decide_eq_false h, rfl⟩
  | publish params => exact ⟨rfl, rfl⟩
  | event e =>
      cases e with
      | diagnostics other items => exact ⟨rfl, rfl⟩
      | closed other => exact ⟨decide_eq_false h, rfl⟩

end ManagerOp

/-- One operation on the manager or, past it, on its store. -/
inductive HostOp (ε : Type) where
  | manager (op : ManagerOp ε)
  | store (op : StoreOp)

namespace HostOp

/-- Carries out an operation. -/
def apply (m : Manager ε) : HostOp ε → Manager ε
  | manager op => op.apply m
  | store op => { m with store := op.apply m.store }

/-- The document that an operation is addressed to. -/
def uri : HostOp ε → String
  | manager op => op.uri
  | store op => op.uri

/-- What an operation does to the store. -/
def storeOp? : HostOp ε → Option StoreOp
  | manager op => op.storeOp?
  | store op => some op

/-- The manager that settings and a history lead to. -/
def replay (config : Config) (ops : List (HostOp ε)) : Manager ε :=
  ops.foldl apply (Manager.ofConfig config).1

/-- The operations of a history that are addressed to a document. -/
def addressed (uri : String) (ops : List (HostOp ε)) : List (HostOp ε) :=
  ops.filter fun op => op.uri = uri

theorem uri_storeOp? {op : HostOp ε} {write : StoreOp} (h : op.storeOp? = some write) :
    write.uri = op.uri := by
  cases op with
  | manager op =>
      have hop : op.storeOp? = some write := h
      exact ManagerOp.uri_storeOp? hop
  | store op =>
      obtain rfl := Option.some.inj h
      rfl

/-- What an operation makes of the entry of a document is what it does to the store makes of it. -/
theorem entry_apply (m : Manager ε) (op : HostOp ε) (uri : String) :
    (op.apply m).store.entry uri =
      (m.store.entry uri).replay (StoreOp.addressed uri op.storeOp?.toList) := by
  have hstore : (op.apply m).store = m.store.replay op.storeOp?.toList := by
    cases op with
    | manager op => exact ManagerOp.store_apply m op
    | store op => rfl
  rw [hstore, Store.entry_replay]

/-- An operation that is addressed to one document does nothing to the entry of another. -/
theorem addressed_storeOp?_of_ne {op : HostOp ε} {uri : String} (h : op.uri ≠ uri) :
    StoreOp.addressed uri op.storeOp?.toList = [] := by
  cases hop : op.storeOp? with
  | none => rfl
  | some write =>
      have hne : write.uri ≠ uri := by
        rw [uri_storeOp? hop]
        exact h
      simp [StoreOp.addressed, hne]

end HostOp

/-- Two managers that have the same of a document. -/
structure Manager.AgreeOn (uri : String) (m m' : Manager ε) : Prop where
  extensions : m.extensions = m'.extensions
  session : m.sessionFor? uri = m'.sessionFor? uri
  entry : m.store.entry uri = m'.store.entry uri

namespace HostOp

/-- An operation keeps managers in agreement on a document, whichever document it is addressed to. -/
theorem agreeOn_apply {uri : String} {m m' : Manager ε} (h : m.AgreeOn uri m') (op : HostOp ε) :
    (op.apply m).AgreeOn uri (op.apply m') where
  extensions := by
    cases op with
    | manager op =>
        rw [apply, apply, ManagerOp.extensions_apply, ManagerOp.extensions_apply, h.extensions]
    | store op => exact h.extensions
  session := by
    cases op with
    | manager op =>
        rw [apply, apply, ManagerOp.sessionFor?_apply, ManagerOp.sessionFor?_apply, h.session]
    | store op => exact h.session
  entry := by rw [entry_apply, entry_apply, h.entry]

/-- An operation that is addressed to one document leaves everything as it was about another. -/
theorem agreeOn_apply_of_ne {uri : String} {op : HostOp ε} (hne : op.uri ≠ uri) (m : Manager ε) :
    (op.apply m).AgreeOn uri m where
  extensions := by
    cases op with
    | manager op => exact ManagerOp.extensions_apply m op
    | store op => rfl
  session := by
    cases op with
    | manager op =>
        obtain ⟨hcloses, hattached⟩ := ManagerOp.idle_of_ne hne
        rw [apply, ManagerOp.sessionFor?_apply, hcloses, hattached]
        rfl
    | store op => rfl
  entry := by
    rw [entry_apply, addressed_storeOp?_of_ne hne]
    rfl

/-- Of one document a history leaves what is left by the operations addressed to it. -/
theorem agreeOn_foldl {uri : String} {m m' : Manager ε} (h : m.AgreeOn uri m')
    (ops : List (HostOp ε)) :
    (ops.foldl apply m).AgreeOn uri ((addressed uri ops).foldl apply m') := by
  induction ops generalizing m m' with
  | nil => exact h
  | cons op ops ih =>
      by_cases hown : op.uri = uri
      · have hkept : addressed uri (op :: ops) = op :: addressed uri ops := by
          simp [addressed, hown]
        rw [hkept]
        exact ih (agreeOn_apply h op)
      · have hdropped : addressed uri (op :: ops) = addressed uri ops := by
          simp [addressed, hown]
        rw [hdropped]
        have hidle := agreeOn_apply_of_ne hown m
        exact ih ⟨hidle.extensions.trans h.extensions, hidle.session.trans h.session,
          hidle.entry.trans h.entry⟩

/-- Histories that are the same as far as a document goes leave the same of it. -/
theorem agreeOn_replay (config : Config) {uri : String} {ops ops' : List (HostOp ε)}
    (h : addressed uri ops = addressed uri ops') :
    (replay config ops).AgreeOn uri (replay config ops') := by
  have hstart : (Manager.ofConfig config : Manager ε × List Event).1.AgreeOn uri
      (Manager.ofConfig config).1 := ⟨rfl, rfl, rfl⟩
  have hleft := agreeOn_foldl hstart ops
  have hright := agreeOn_foldl hstart ops'
  rw [h] at hleft
  exact ⟨hleft.extensions.trans hright.extensions.symm, hleft.session.trans hright.session.symm,
    hleft.entry.trans hright.entry.symm⟩

end HostOp

/-- Managers that agree on the document of a file consult the same session about the file. -/
theorem Manager.AgreeOn.consulted? {m m' : Manager ε} {file : Path} {uri : String}
    (h : m.AgreeOn uri m') (huri : Uri.ofPath file = .ok uri) :
    m'.consulted? file = m.consulted? file := by
  rw [Manager.consulted?, Manager.consulted?, Manager.supports, Manager.supports, h.extensions, huri]
  simp only [Except.toOption, Option.bind_some, h.session]

/-- Surroundings that are the same to a session: the entry of its document, and its own state. -/
def SameFor {η : Type} (uri : String) (own : ε → η) (w w' : World ε) : Prop :=
  w.store.entry uri = w'.store.entry uri ∧ own w.rest = own w'.rest

/-- Whatever happened to other documents, two histories that are the same as far as the document of a
file goes leave the same session, diagnostics and generation of it. If what the session does, and
what the factory does, depends only on their own state and on what the store has of this document,
inspections of the file come to the same end. -/
theorem files_do_not_interfere (config : Config) {file : Path} (habsolute : file.isAbsolute) :
    ∃ uri, Uri.ofPath file = .ok uri ∧
      ∀ ops ops' : List (HostOp ε), HostOp.addressed uri ops = HostOp.addressed uri ops' →
        (HostOp.replay config ops).sessionFor? uri = (HostOp.replay config ops').sessionFor? uri ∧
          (HostOp.replay config ops).store.snapshot uri =
            (HostOp.replay config ops').store.snapshot uri ∧
          (HostOp.replay config ops).store.generation uri =
            (HostOp.replay config ops').store.generation uri ∧
          ∀ {η : Type} (own : ε → η) (factory : ProblemFactory (World ε)) (isPreview : Bool)
            (rest rest' : ε),
            (∀ session, (HostOp.replay config ops).sessionFor? uri = some session →
              session.Respects (SameFor uri own)) →
            factory.Respects (SameFor uri own) → own rest = own rest' →
            ((Manager.inspect factory file isPreview).run (HostOp.replay config ops, rest)).result =
              ((Manager.inspect factory file isPreview).run
                (HostOp.replay config ops', rest')).result := by
  obtain ⟨rest, huri⟩ := Uri.ofPath_eq_ok habsolute
  refine ⟨_, huri, ?_⟩
  intro ops ops' hsame
  have hagree := HostOp.agreeOn_replay config hsame
  refine ⟨hagree.session, ?_, ?_, ?_⟩
  · rw [Store.snapshot, Store.snapshot, hagree.entry]
  · rw [Store.generation, Store.generation, hagree.entry]
  · intro η own factory isPreview rest rest' hsession hfactory hown
    symm
    exact Manager.inspect_alike huri (hagree.consulted? huri) hsession hfactory isPreview
      ⟨hagree.entry, hown⟩

namespace Manager

open Interleaving (Scene Change)

/-- Changes make the same of a text and of one document, whatever else there is in the store. -/
theorem after_congr {uri : String} {a b : Scene} (htext : a.text = b.text)
    (hversion : a.version = b.version) (hentry : a.store.entry uri = b.store.entry uri)
    (changes : List Change) :
    (a.after changes).text = (b.after changes).text ∧
      (a.after changes).version = (b.after changes).version ∧
      (a.after changes).store.entry uri = (b.after changes).store.entry uri := by
  induction changes generalizing a b with
  | nil => exact ⟨htext, hversion, hentry⟩
  | cons change changes ih =>
      cases change with
      | edit text version => exact ih rfl rfl hentry
      | write op =>
          refine ih htext hversion ?_
          change (op.apply a.store).entry uri = (op.apply b.store).entry uri
          rw [StoreOp.entry_apply, StoreOp.entry_apply, hentry]

/-- A session whose server makes changes sees its own text and its own document only. -/
theorem respects_restlessSession (uri : String) (changes : List Change) :
    (restlessSession uri changes).Respects (SameFor uri id) where
  isDisposed _ _ h := ⟨rfl, h⟩
  document w w' h := by
    obtain ⟨hentry, hrest⟩ := h
    refine ⟨?_, hentry, hrest⟩
    exact congrArg (fun kept => Document.ofText kept.1 kept.2) hrest
  documentVersion _ _ h := ⟨congrArg Prod.snd h.2, h⟩
  diagnostics w w' h := by
    refine ⟨?_, h⟩
    change Except.ok (w.store.snapshot uri) = Except.ok (w'.store.snapshot uri)
    rw [Store.snapshot, Store.snapshot, h.1]
  verify s snapshot hsnapshot w w' h := by
    obtain rfl : s.store.snapshot uri = snapshot := Except.ok.inj hsnapshot
    -- the copy has the URI of the session, so no other entry is looked at
    have hgeneration : w.store.generation (s.store.snapshot uri).uri =
        w'.store.generation (s.store.snapshot uri).uri :=
      congrArg StoreEntry.generation h.1
    refine ⟨?_, h⟩
    change (s.store.snapshot uri).verify w.store = (s.store.snapshot uri).verify w'.store
    simp only [Snapshot.verify, hgeneration]
  codeAction anchor w w' h := by
    obtain ⟨hentry, hrest⟩ := h
    obtain ⟨htext, hversion, hafter⟩ := after_congr (a := ⟨w.store, w.rest.1, w.rest.2⟩)
      (b := ⟨w'.store, w'.rest.1, w'.rest.2⟩) (congrArg Prod.fst hrest) (congrArg Prod.snd hrest)
      hentry changes
    exact ⟨rfl, hafter, Prod.ext htext hversion⟩

/-- A file is attached and told of, while another document is written to and closed. -/
def sharedRun : List (HostOp (String × UInt64)) :=
  [.manager (.attach "file:///a.c" restlessContext.session),
    .store (.append "file:///b.c" ⟨⟨⟨0, 0⟩, ⟨0, 1⟩⟩, none, "other", none, none⟩),
    .store (StoreOp.publishOne "old"), .manager (.event (.closed "file:///b.c"))]

/-- The same, while the other document is attached, told of and cleared. -/
def sharedRun' : List (HostOp (String × UInt64)) :=
  [.manager (.event (.diagnostics "file:///b.c" [])),
    .manager (.attach "file:///a.c" restlessContext.session),
    .manager (.attach "file:///b.c" (restlessSession "file:///b.c" [])),
    .store (StoreOp.publishOne "old"), .store (.clear "file:///b.c")]

/-- At the end of both, inspections of the file with its restless session come to the same end. -/
theorem files_do_not_interfere_shared :
    sourceFile.isAbsolute ∧ Uri.ofPath sourceFile = .ok "file:///a.c" ∧
      HostOp.addressed "file:///a.c" sharedRun = HostOp.addressed "file:///a.c" sharedRun' ∧
      (HostOp.replay clangConfig sharedRun).store.generation "file:///a.c" = 1 ∧
      (HostOp.replay clangConfig sharedRun').store.generation "file:///a.c" = 1 ∧
      restlessContext.session.Respects (SameFor "file:///a.c" id) ∧
      ((inspect (ProblemFactory.plain _) sourceFile false).run
          (HostOp.replay clangConfig sharedRun, ("let x", 1))).result =
        ((inspect (ProblemFactory.plain _) sourceFile false).run
          (HostOp.replay clangConfig sharedRun', ("let x", 1))).result := by
  have habsolute : sourceFile.isAbsolute := rfl
  have huri : Uri.ofPath sourceFile = .ok "file:///a.c" := rfl
  have haddressed :
      HostOp.addressed "file:///a.c" sharedRun = HostOp.addressed "file:///a.c" sharedRun' := rfl
  have hrespects : restlessContext.session.Respects (SameFor "file:///a.c" id) :=
    respects_restlessSession _ _
  obtain ⟨uri, huri', hsame⟩ := files_do_not_interfere clangConfig habsolute
  obtain rfl := Except.ok.inj (huri.symm.trans huri')
  obtain ⟨-, -, hgeneration, hresult⟩ := hsame sharedRun sharedRun' haddressed
  refine ⟨habsolute, huri, haddressed, rfl, hgeneration.symm.trans rfl, hrespects, ?_⟩
  refine hresult id _ false _ _ ?_ ProblemFactory.respects_plain rfl
  intro session hsession
  obtain rfl : restlessContext.session = session := Option.some.inj hsession
  exact hrespects

end Manager

end DiagnosticLens
