import DiagnosticLens.Proofs.Alike
import DiagnosticLens.Proofs.Consulted
import DiagnosticLens.Proofs.Delivery
import DiagnosticLens.Proofs.Interleaving

/-!
# When a pass is aborted

While a pass asks for fixes, its server may do anything: edit the text, write to the store, close the
editor. At its end the pass compares the generation of its diagnostics and the version of its text
with those it started from, and nothing else. It is aborted exactly if one of the two is another one,
and what it is aborted with says which; the diagnostics come first. So where requests for fixes
change nothing, no inspection is ever aborted, and all inspections of a file come to the same end.

## Implementation notes

What a session shows is a function `see` of the state, and its readings leave the state as it is.
About requests for fixes, and about the factory, nothing is assumed until it comes to inspections
that repeat themselves. There `Unchanged` says what may not change: what the session shows, and the
store of the manager. Whatever a server or a factory keeps for itself may.
-/

namespace DiagnosticLens

open Interleaving (Scene Change)

variable {ε α : Type}

/-- What a session shows: a scene, and whether the editor is gone. -/
structure Sight extends Scene where
  isDisposed : Bool

namespace Sight

/-- The document that is shown. -/
def document (sight : Sight) : Document := .ofText sight.text sight.version

/-- The generation of the diagnostics that are shown. -/
def generation (sight : Sight) (own : String) : UInt64 := sight.store.generation own

end Sight

/-- A session that answers from what is to be seen, has its diagnostics from a store, under its own
URI, and verifies them against this store. How it answers requests for fixes is left open. -/
structure Session.Reads (session : Session (World ε)) (own : String) (see : World ε → Sight) :
    Prop where
  isDisposed : ∀ w, session.isDisposed.run w = ((see w).isDisposed, w)
  document : ∀ w, session.document.run w = ((see w).document, w)
  documentVersion : ∀ w, session.documentVersion.run w = ((see w).version, w)
  diagnostics : ∀ w, session.diagnostics.run w = (.ok ((see w).store.snapshot own), w)
  verify : ∀ snapshot w, (session.verify snapshot).run w = (snapshot.verify (see w).store, w)

namespace Pass

/-- The loop of a pass that has read its diagnostics and its text off a sight. -/
def loop (ctx : Context (World ε)) (own : String) (sight : Sight) : Traced (World ε) (List Problem) :=
  problemsOf ctx sight.document (sight.store.snapshot own).items

/-- How the end of a pass follows from what was shown when it read, from what was shown when its loop
ended, and from the problems that it had by then. -/
structure Ends (own : String) (before after : Sight) (problems : List Problem)
    (result : Except PassError (List Problem)) : Prop where
  /-- Writes to its own document abort the pass, whatever else has changed. -/
  mutated : result = .error
      (.snapshot (.mutated own (before.generation own) (after.generation own))) ↔
    before.generation own ≠ after.generation own
  /-- Without them it is aborted by edits. -/
  edited : result = .error (.documentChanged before.version after.version) ↔
    before.generation own = after.generation own ∧ before.version ≠ after.version
  /-- Without either it reports all of its problems. -/
  reported : result = .ok problems ↔
    before.generation own = after.generation own ∧ before.version = after.version

section Reading

variable (ctx : Context (World ε)) {own : String} {see : World ε → Sight}
  (hreads : ctx.session.Reads own see)
include hreads

/-- The checks at the end of a pass change nothing. -/
theorem confirm_state_of_reads (snapshot : Snapshot) (document : Document) (w : World ε) :
    ((confirm ctx.session snapshot document).run w).state = w := by
  rcases hverify : snapshot.verify (see w).store with error | ⟨⟩
  · simp [confirm, hreads.verify, hverify]
  · by_cases h : (see w).version = document.version <;>
      simp [confirm, hreads.verify, hverify, hreads.documentVersion, h]

/-- The checks at the end of a pass compare two generations first, and then two versions. -/
theorem confirm_of_reads (before : Sight) (w : World ε) (problems : List Problem) :
    Ends own before (see w) problems
      (((confirm ctx.session (before.store.snapshot own) before.document).run w).result.map
        fun _ => problems) := by
  have hversion : before.document.version = before.version := rfl
  by_cases hgeneration : before.generation own = (see w).generation own
  · have hverify : (before.store.snapshot own).verify (see w).store = .ok () :=
      (Snapshot.verify_eq_ok_iff _ _).mpr hgeneration.symm
    by_cases hsame : before.version = (see w).version
    · have hresult : ((confirm ctx.session (before.store.snapshot own) before.document).run w).result =
          .ok () := by
        simp [confirm, hreads.verify, hverify, hreads.documentVersion, hversion, hsame]
      rw [hresult]
      constructor <;> simp [Except.map, hgeneration, hsame]
    · have hresult : ((confirm ctx.session (before.store.snapshot own) before.document).run w).result =
          .error (.documentChanged before.version (see w).version) := by
        simp [confirm, hreads.verify, hverify, hreads.documentVersion, hversion, Ne.symm hsame]
      rw [hresult]
      constructor <;> simp [Except.map, hgeneration, hsame]
  · have hverify : (before.store.snapshot own).verify (see w).store =
        .error (.mutated own (before.generation own) ((see w).generation own)) :=
      Snapshot.verify_eq_error (Ne.symm hgeneration)
    have hresult : ((confirm ctx.session (before.store.snapshot own) before.document).run w).result =
        .error (.snapshot (.mutated own (before.generation own) ((see w).generation own))) := by
      simp [confirm, hreads.verify, hverify]
    rw [hresult]
    constructor <;> simp [Except.map, hgeneration]

/-- A pass for an open editor is its loop, and then its checks. -/
theorem run_of_reads {w : World ε} (hopen : (see w).isDisposed = false) :
    Ends own (see w) (see ((loop ctx own (see w)).run w).state) ((loop ctx own (see w)).run w).result
        ((run ctx).run w).result ∧
      ((run ctx).run w).state = ((loop ctx own (see w)).run w).state := by
  have hlive : (ctx.session.isDisposed.run w).1 = false := by
    rw [hreads.isDisposed, hopen]
  have hdiagnostics : ctx.session.diagnostics.run (ctx.session.isDisposed.run w).2 =
      (.ok ((see w).store.snapshot own), w) := by
    rw [hreads.isDisposed, hreads.diagnostics]
  obtain ⟨hresult, hstate⟩ := run_of_readings hlive hdiagnostics (hreads.document w)
  obtain ⟨hproblems, hbehind⟩ :=
    problemsOf_run ctx (see w).document ((see w).store.snapshot own).items w
  rw [← hproblems, ← hbehind] at hresult
  rw [← hbehind, confirm_state_of_reads ctx hreads] at hstate
  rw [hresult]
  exact ⟨confirm_of_reads ctx hreads _ _ _, hstate⟩

end Reading

end Pass

/-- Between two states, neither what the session shows nor the store of the manager has changed. -/
def Unchanged (see : World ε → Sight) (w w' : World ε) : Prop := see w' = see w ∧ w'.store = w.store

theorem Unchanged.refl (see : World ε → Sight) (w : World ε) : Unchanged see w w := ⟨rfl, rfl⟩

theorem Unchanged.trans {see : World ε → Sight} {a b c : World ε} (hab : Unchanged see a b)
    (hbc : Unchanged see b c) : Unchanged see a c :=
  ⟨hbc.1.trans hab.1, hbc.2.trans hab.2⟩

/-- An action that changes neither what the session shows nor the store of the manager. -/
def Discreet (see : World ε → Sight) (action : StateM (World ε) α) : Prop :=
  ∀ w, Unchanged see w (action.run w).2

/-- An action that also gives the same answer every time. -/
structure Steady (see : World ε → Sight) (action : StateM (World ε) α) : Prop where
  discreet : Discreet see action
  constant : ∃ answer, ∀ w, (action.run w).1 = answer

/-- The plain factory changes nothing, and what it gives depends only on what it is handed. -/
theorem ProblemFactory.steady_plain (see : World ε → Sight) (sub : Submission) :
    Steady see ((ProblemFactory.plain (World ε)).submit sub) := by
  obtain ⟨anchor, message, highlight, isPreview, _ | remedies⟩ := sub
  · exact ⟨fun w => Unchanged.refl see w, _, fun _ => rfl⟩
  · exact ⟨fun w => Unchanged.refl see w, _, fun _ => rfl⟩

/-- A reading gives the same as long as nothing has changed. -/
theorem answersAlike_of_reading {see : World ε → Sight} {action : StateM (World ε) α}
    (answer : Sight → α) (h : ∀ w, action.run w = (answer (see w), w)) :
    AnswersAlike (Unchanged see) action := by
  intro w w' hsame
  rw [h, h, hsame.1]
  exact ⟨rfl, hsame⟩

theorem Steady.answersAlike {see : World ε → Sight} {action : StateM (World ε) α}
    (h : Steady see action) : AnswersAlike (Unchanged see) action := by
  intro w w' hsame
  obtain ⟨answer, hanswer⟩ := h.constant
  refine ⟨(hanswer w).trans (hanswer w').symm, ?_⟩
  -- both states look like those they came from, which look alike
  have hleft := h.discreet w
  have hright := h.discreet w'
  exact ⟨hright.1.trans (hsame.1.trans hleft.1.symm), hright.2.trans (hsame.2.trans hleft.2.symm)⟩

/-- A session that reads, and answers requests for fixes steadily, answers alike throughout. -/
theorem Session.Reads.respects {session : Session (World ε)} {own : String} {see : World ε → Sight}
    (hreads : session.Reads own see) (hsteady : ∀ anchor, Steady see (session.codeAction anchor)) :
    session.Respects (Unchanged see) where
  isDisposed := answersAlike_of_reading Sight.isDisposed hreads.isDisposed
  document := answersAlike_of_reading Sight.document hreads.document
  documentVersion := answersAlike_of_reading (fun sight => sight.version) hreads.documentVersion
  diagnostics :=
    answersAlike_of_reading (fun sight => .ok (sight.store.snapshot own)) hreads.diagnostics
  verify _ snapshot _ :=
    answersAlike_of_reading (fun sight => snapshot.verify sight.store) (hreads.verify snapshot)
  codeAction anchor := (hsteady anchor).answersAlike

namespace Pass

/-- With discreet collaborators a pass changes nothing and is not aborted. -/
theorem run_of_discreet (ctx : Context (World ε)) {own : String} {see : World ε → Sight}
    (hreads : ctx.session.Reads own see) (hask : ∀ anchor, Discreet see (ctx.session.codeAction anchor))
    (hsubmit : ∀ sub, Discreet see (ctx.factory.submit sub)) (w : World ε) :
    (∃ problems, ((run ctx).run w).result = .ok problems) ∧
      Unchanged see w ((run ctx).run w).state := by
  cases hopen : (see w).isDisposed with
  | true =>
      have hgone : (run ctx).run w = ⟨.ok [], [.editorDisposed ctx.uri], w⟩ := by
        simp [run, hreads.isDisposed, hopen]
      rw [hgone]
      exact ⟨⟨[], rfl⟩, Unchanged.refl see w⟩
  | false =>
      obtain ⟨hends, hstate⟩ := run_of_reads ctx hreads hopen
      have hloop : Unchanged see w ((loop ctx own (see w)).run w).state := by
        rw [loop, (problemsOf_run ctx _ _ w).2]
        exact turns_preserve (Unchanged.refl see) Unchanged.trans hask hsubmit _ w
      refine ⟨⟨_, hends.reported.mpr ?_⟩, ?_⟩
      · rw [hloop.1]
        exact ⟨rfl, rfl⟩
      · rw [hstate]
        exact hloop

end Pass

namespace Manager

section Inspections

variable {m : Manager ε} {file : Path} {uri own : String} {session : Session (World ε)}
  {see : World ε → Sight} (huri : Uri.ofPath file = .ok uri)
  (hsession : m.sessionFor? uri = some session) (hreads : session.Reads own see)
  (factory : ProblemFactory (World ε)) (isPreview : Bool)
include huri hsession hreads

/-- One inspection with discreet collaborators is not aborted and leaves the manager as it was. -/
theorem inspect_of_discreet (hask : ∀ anchor, Discreet see (session.codeAction anchor))
    (hsubmit : ∀ sub, Discreet see (factory.submit sub)) (rest : ε) :
    ((inspect factory file isPreview).run (m, rest)).result ≠ .aborted ∧
      ∃ rest', ((inspect factory file isPreview).run (m, rest)).state = (m, rest') ∧
        Unchanged see ⟨m.store, rest⟩ ⟨m.store, rest'⟩ := by
  rcases consulted?_of_session huri hsession with hnone | hsome
  · obtain ⟨hresult, hstate⟩ := inspect_of_none factory isPreview rest hnone
    rw [hresult, hstate]
    exact ⟨nofun, rest, rfl, Unchanged.refl see _⟩
  · obtain ⟨hresult, hstate⟩ := inspect_of_some factory isPreview rest hsome
    obtain ⟨⟨problems, hok⟩, hunchanged⟩ :=
      Pass.run_of_discreet ⟨uri, file, session, factory, isPreview⟩ hreads hask hsubmit
        ⟨m.store, rest⟩
    rcases hpass : (Pass.run ⟨uri, file, session, factory, isPreview⟩).run ⟨m.store, rest⟩ with
      ⟨result, events, store, rest'⟩
    rw [hpass] at hresult hstate hok hunchanged
    obtain rfl : store = m.store := hunchanged.2
    rw [hresult, hok, hstate]
    exact ⟨nofun, rest', rfl, hunchanged⟩

/-- As long as nothing has changed, steady collaborators bring an inspection to the same end. -/
theorem inspect_of_steady (hask : ∀ anchor, Steady see (session.codeAction anchor))
    (hsubmit : ∀ sub, Steady see (factory.submit sub)) {rest rest' : ε}
    (hsame : Unchanged see ⟨m.store, rest⟩ ⟨m.store, rest'⟩) :
    ((inspect factory file isPreview).run (m, rest')).result =
      ((inspect factory file isPreview).run (m, rest)).result := by
  refine inspect_alike huri rfl ?_ (fun sub => (hsubmit sub).answersAlike) isPreview hsame
  intro found hfound
  obtain rfl := Option.some.inj (hsession.symm.trans hfound)
  exact hreads.respects hask

end Inspections

/-- The state behind some inspections of a file, one after the other. -/
def afterInspections (factory : ProblemFactory (World ε)) (file : Path) (isPreview : Bool) :
    Nat → Manager ε × ε → Manager ε × ε
  | 0, s => s
  | n + 1, s => ((inspect factory file isPreview).run (afterInspections factory file isPreview n s)).state

/-- Inspections with discreet collaborators leave the manager as it was, however many there are. -/
theorem afterInspections_of_discreet {m : Manager ε} {file : Path} {uri own : String}
    {session : Session (World ε)} {see : World ε → Sight} (huri : Uri.ofPath file = .ok uri)
    (hsession : m.sessionFor? uri = some session) (hreads : session.Reads own see)
    (hask : ∀ anchor, Discreet see (session.codeAction anchor))
    {factory : ProblemFactory (World ε)} (hsubmit : ∀ sub, Discreet see (factory.submit sub))
    (isPreview : Bool) (rest : ε) (n : Nat) :
    ∃ rest', afterInspections factory file isPreview n (m, rest) = (m, rest') ∧
      Unchanged see ⟨m.store, rest⟩ ⟨m.store, rest'⟩ := by
  induction n with
  | zero => exact ⟨rest, rfl, Unchanged.refl see _⟩
  | succ n ih =>
      obtain ⟨before, hbefore, hunchanged⟩ := ih
      obtain ⟨-, after, hafter, hstill⟩ :=
        inspect_of_discreet huri hsession hreads factory isPreview hask hsubmit before
      refine ⟨after, ?_, hunchanged.trans hstill⟩
      rw [afterInspections, hbefore, hafter]

/-- A pass of a session that reads from a store is aborted exactly if the generation of its
diagnostics or the version of its text is another one when its loop has ended, whatever its server
has done. If the server always answers alike and changes nothing, inspections of the file are never
aborted, leave the manager as it was, and all come to the same end. -/
theorem aborted_exactly_if_changed {session : Session (World ε)} {own : String}
    {see : World ε → Sight} (hreads : session.Reads own see) :
    (∀ (uri : String) (file : Path) (factory : ProblemFactory (World ε)) (isPreview : Bool)
        (w : World ε), (see w).isDisposed = false →
      let ctx : Pass.Context (World ε) := ⟨uri, file, session, factory, isPreview⟩
      let ended := (Pass.loop ctx own (see w)).run w
      Pass.Ends own (see w) (see ended.state) ended.result ((Pass.run ctx).run w).result) ∧
    ((∀ anchor, Steady see (session.codeAction anchor)) →
      ∀ (m : Manager ε) (file : Path) (uri : String) (factory : ProblemFactory (World ε))
        (isPreview : Bool) (rest : ε),
      Uri.ofPath file = .ok uri → m.sessionFor? uri = some session →
      (∀ sub, Discreet see (factory.submit sub)) →
      ∀ n, let s := afterInspections factory file isPreview n (m, rest)
        ((inspect factory file isPreview).run s).result ≠ .aborted ∧
          ((inspect factory file isPreview).run s).state.1 = m ∧
          ((∀ sub, Steady see (factory.submit sub)) →
            ((inspect factory file isPreview).run s).result =
              ((inspect factory file isPreview).run (m, rest)).result)) := by
  constructor
  · intro uri file factory isPreview w hopen ctx ended
    exact (Pass.run_of_reads ctx hreads hopen).1
  · intro hask m file uri factory isPreview rest huri hsession hsubmit n s
    have hdiscreet : ∀ anchor, Discreet see (session.codeAction anchor) :=
      fun anchor => (hask anchor).discreet
    obtain ⟨rest', hs, hunchanged⟩ :=
      afterInspections_of_discreet huri hsession hreads hdiscreet hsubmit isPreview rest n
    obtain ⟨hresult, after, hafter, -⟩ :=
      inspect_of_discreet huri hsession hreads factory isPreview hdiscreet hsubmit rest'
    have hstate : s = (m, rest') := hs
    rw [hstate]
    refine ⟨hresult, by rw [hafter], ?_⟩
    intro hsteady
    exact inspect_of_steady huri hsession hreads factory isPreview hask hsteady hunchanged

/-- A session whose server makes some changes whenever it is asked for fixes. The rest of its
surroundings is the text and its version. -/
def restlessSession (own : String) (changes : List Change) : Session (World (String × UInt64)) where
  isDisposed := pure false
  document w := (.ofText w.rest.1 w.rest.2, w)
  documentVersion w := (w.rest.2, w)
  diagnostics w := (.ok (w.store.snapshot own), w)
  verify snapshot w := (snapshot.verify w.store, w)
  codeAction _ w :=
    let scene := (Scene.mk w.store w.rest.1 w.rest.2).after changes
    (.ok none, ⟨scene.store, scene.text, scene.version⟩)

/-- What such a session shows. -/
def restlessSight (w : World (String × UInt64)) : Sight := ⟨⟨w.store, w.rest.1, w.rest.2⟩, false⟩

theorem reads_restlessSession (own : String) (changes : List Change) :
    (restlessSession own changes).Reads own restlessSight :=
  ⟨fun _ => rfl, fun _ => rfl, fun _ => rfl, fun _ => rfl, fun _ _ => rfl⟩

theorem reads_quietSession (uri text : String) (version : UInt64) :
    (quietSession uri text version : Session (World ε)).Reads uri
      fun w => ⟨⟨w.store, text, version⟩, false⟩ :=
  ⟨fun _ => rfl, fun _ => rfl, fun _ => rfl, fun _ => rfl, fun _ _ => rfl⟩

/-- The server of a document forgets the document, publishes one diagnostic and edits the text. -/
def restlessContext : Pass.Context (World (String × UInt64)) :=
  ⟨"file:///a.c", sourceFile,
    restlessSession "file:///a.c"
      [.write (.forget "file:///a.c"), .write (StoreOp.publishOne "new"), .edit "let xy" 3],
    ProblemFactory.plain _, false⟩

/-- The document has one diagnostic to begin with. -/
def restlessWorld : World (String × UInt64) :=
  ⟨(StoreOp.publishOne "old").apply Store.empty, ("let x", 1)⟩

/-- After that the generation is the same again, and the pass is aborted for the edit. With a quiet
session no inspection is aborted, and the second ends as the first. -/
theorem aborted_exactly_if_changed_restless :
    ((Pass.run restlessContext).run restlessWorld).result = .error (.documentChanged 1 3) ∧
      let check := inspect (ProblemFactory.plain (World Unit)) sourceFile true
      let again := afterInspections (ProblemFactory.plain (World Unit)) sourceFile true 1
        (replay clangConfig reopened, ())
      (check.run again).result ≠ .aborted ∧
        (check.run again).state.1.store = (replay clangConfig reopened).store ∧
        (check.run again).result = (check.run (replay clangConfig reopened, ())).result := by
  constructor
  · have hreads : restlessContext.session.Reads "file:///a.c" restlessSight :=
      reads_restlessSession _ _
    let ended := (Pass.loop restlessContext "file:///a.c" (restlessSight restlessWorld)).run
      restlessWorld
    -- the one turn of the loop ends with the changes of the server
    have hended : ended.state = ⟨(StoreOp.publishOne "new").apply Store.empty, ("let xy", 3)⟩ :=
      (Pass.problemsOf_run _ _ _ _).2.trans rfl
    have hends : Pass.Ends "file:///a.c" (restlessSight restlessWorld) (restlessSight ended.state)
        ended.result ((Pass.run restlessContext).run restlessWorld).result :=
      (aborted_exactly_if_changed hreads).1 _ _ _ _ restlessWorld rfl
    rw [hended] at hends
    refine hends.edited.mpr ⟨rfl, ?_⟩
    decide
  · obtain ⟨hresult, hstate, hsame⟩ := (aborted_exactly_if_changed (reads_quietSession _ _ _)).2
      (fun anchor => ⟨fun w => Unchanged.refl _ w, _, fun w => rfl⟩) (replay clangConfig reopened)
      sourceFile "file:///a.c" (ProblemFactory.plain (World Unit)) true () rfl rfl
      (fun sub => (ProblemFactory.steady_plain _ sub).discreet) 1
    refine ⟨hresult, ?_, hsame (ProblemFactory.steady_plain _)⟩
    rw [hstate]

end Manager

end DiagnosticLens
