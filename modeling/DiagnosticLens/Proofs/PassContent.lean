import DiagnosticLens.Proofs.Turns
import DiagnosticLens.Scripted

/-!
# What a pass reports

A pass works with a session and a factory that may change, fail or refuse at every call. To say what
it does with them, a journal is kept beside the state: every request for fixes with its answer, and
everything that was handed to the factory with what the factory said. What a pass reports, and the
whole of its journal apart from answers and verdicts, is fixed by the diagnostics and the document
that it read at its start.

## Implementation notes

The journal is kept by wrapping the session and the factory, so it is the pass itself that is
watched. The wrapped collaborators pass every call on and answer as the others do; `turns_noted`
says that the turns are the same with and without them, and that the journal holds these turns.
-/

namespace DiagnosticLens

variable {σ α : Type}

/-- What went on between a pass and its collaborators. -/
structure Journal where
  /-- The requests for fixes, each with its answer. -/
  requests : List (Anchor × Except String CodeActionAnswer) := []
  /-- What was handed to the factory, each with what the factory said. -/
  submissions : List (Submission × Except ConstructionError Problem) := []

/-- An action that leaves the journal as it is. -/
def unnoted (action : StateM σ α) : StateM (σ × Journal) α := fun w =>
  ((action.run w.1).1, (action.run w.1).2, w.2)

/-- An action whose outcome is noted in the journal. -/
def noting (note : α → Journal → Journal) (action : StateM σ α) : StateM (σ × Journal) α := fun w =>
  ((action.run w.1).1, (action.run w.1).2, note (action.run w.1).1 w.2)

/-- Notes a request and its answer. -/
def Journal.noteRequest (anchor : Anchor) (answer : Except String CodeActionAnswer) (j : Journal) :
    Journal :=
  { j with requests := j.requests ++ [(anchor, answer)] }

/-- Notes a submission and what the factory said. -/
def Journal.noteSubmission (sub : Submission) (verdict : Except ConstructionError Problem)
    (j : Journal) : Journal :=
  { j with submissions := j.submissions ++ [(sub, verdict)] }

/-- The session with its requests noted. -/
def Session.noted (session : Session σ) : Session (σ × Journal) where
  isDisposed := unnoted session.isDisposed
  document := unnoted session.document
  documentVersion := unnoted session.documentVersion
  diagnostics := unnoted session.diagnostics
  verify snapshot := unnoted (session.verify snapshot)
  codeAction anchor := noting (Journal.noteRequest anchor) (session.codeAction anchor)

/-- The factory with its calls noted, those without a list of remedies apart from those with one. -/
def ProblemFactory.noted (factory : ProblemFactory σ) : ProblemFactory (σ × Journal) where
  create anchor message highlight isPreview :=
    noting (Journal.noteSubmission ⟨anchor, message, highlight, isPreview, none⟩)
      (factory.create anchor message highlight isPreview)
  createWithRemedies anchor message highlight isPreview remedies :=
    noting (Journal.noteSubmission ⟨anchor, message, highlight, isPreview, some remedies⟩)
      (factory.createWithRemedies anchor message highlight isPreview remedies)

/-- A factory that either rejects what it is handed, or gives what the plain factory would give. -/
def ProblemFactory.Faithful (factory : ProblemFactory σ) : Prop :=
  ∀ sub s, (∃ error, ((factory.submit sub).run s).1 = .error error) ∨
    ((factory.submit sub).run s).1 = (((ProblemFactory.plain σ).submit sub).run s).1

@[simp] theorem run_unnoted (action : StateM σ α) (s : σ) (j : Journal) :
    (unnoted action).run (s, j) = ((action.run s).1, (action.run s).2, j) := rfl

@[simp] theorem run_noting (note : α → Journal → Journal) (action : StateM σ α) (s : σ)
    (j : Journal) :
    (noting note action).run (s, j) =
      ((action.run s).1, (action.run s).2, note (action.run s).1 j) := rfl

/-- Either way of calling the factory is noted as what it was. -/
theorem ProblemFactory.submit_noted (factory : ProblemFactory σ) (sub : Submission) :
    factory.noted.submit sub = noting (Journal.noteSubmission sub) (factory.submit sub) := by
  obtain ⟨anchor, message, highlight, isPreview, _ | remedies⟩ := sub <;> rfl

/-- The plain factory takes what is handed to it at a valid anchor. -/
theorem ProblemFactory.submit_plain {sub : Submission} (h : sub.anchor.check = .ok ()) (s : σ) :
    ((ProblemFactory.plain σ).submit sub).run s = (.ok sub.problem, s) := by
  obtain ⟨anchor, message, highlight, isPreview, _ | remedies⟩ := sub <;>
    simp [submit, plain, Problem.build, Submission.problem, bind, Except.bind, pure, Except.pure,
      h] <;> rfl

/-- At a valid anchor, all that a faithful factory takes is what it was handed. -/
theorem ProblemFactory.Faithful.submit_eq_ok {factory : ProblemFactory σ}
    (hfaithful : factory.Faithful) {sub : Submission} (hcheck : sub.anchor.check = .ok ()) {s : σ}
    {problem : Problem} (h : ((factory.submit sub).run s).1 = .ok problem) :
    problem = sub.problem := by
  rcases hfaithful sub s with ⟨error, herror⟩ | hplain
  · rw [h] at herror
    cases herror
  · rw [submit_plain hcheck, h] at hplain
    exact Except.ok.inj hplain

namespace Pass

/-- A pass with a journal beside its state. -/
def Context.noted (ctx : Context σ) : Context (σ × Journal) :=
  ⟨ctx.uri, ctx.file, ctx.session.noted, ctx.factory.noted, ctx.isPreview⟩

@[simp] theorem Context.noted_file (ctx : Context σ) : ctx.noted.file = ctx.file := rfl

@[simp] theorem Context.noted_session (ctx : Context σ) :
    ctx.noted.session = ctx.session.noted := rfl

/-- The journal with some turns of a pass added to it. -/
def Context.note (ctx : Context σ) (j : Journal) (ts : List Turn) : Journal where
  requests := j.requests ++ ts.map fun t => (t.anchor, t.answer)
  submissions := j.submissions ++
    ts.map fun t => (ctx.submission t.diagnostic t.anchor t.answer, t.verdict)

/-- With a journal beside them the turns are the same, and it is these that the journal holds. -/
theorem turns_noted (ctx : Context σ) (visible : List (Diagnostic × Anchor)) (s : σ)
    (j : Journal) :
    turns ctx.noted visible (s, j) =
      ((turns ctx visible s).1, (turns ctx visible s).2, ctx.note j (turns ctx visible s).1) := by
  induction visible generalizing s j with
  | nil => simp [turns, Context.note]
  | cons v visible ih =>
      simp only [turns, Context.noted, ProblemFactory.submit_noted, Session.noted, run_noting] at ih ⊢
      rw [ih]
      simp [Context.note, Journal.noteRequest, Journal.noteSubmission, Context.submission]

/-- The checks at the end of a pass leave the journal as it is. -/
theorem confirm_noted (session : Session σ) (snapshot : Snapshot) (document : Document) (s : σ)
    (j : Journal) :
    ((confirm session.noted snapshot document).run (s, j)).result =
        ((confirm session snapshot document).run s).result ∧
      ((confirm session.noted snapshot document).run (s, j)).state =
        (((confirm session snapshot document).run s).state, j) := by
  rcases hverify : (session.verify snapshot).run s with ⟨error | ⟨⟩, s'⟩
  · simp [confirm, Session.noted, hverify]
  · by_cases h : (session.documentVersion.run s').1 = document.version <;>
      simp [confirm, Session.noted, hverify, h]

/-- A pass that gets as far as its turns comes to the same end with a journal beside it, and leaves
its turns there. -/
theorem run_noted {ctx : Context σ} {s s₁ s₂ : σ} {snapshot : Snapshot} {document : Document}
    (hlive : (ctx.session.isDisposed.run s).1 = false)
    (hdiagnostics :
      ctx.session.diagnostics.run (ctx.session.isDisposed.run s).2 = (.ok snapshot, s₁))
    (hdocument : ctx.session.document.run s₁ = (document, s₂)) (j : Journal) :
    ((run ctx.noted).run (s, j)).result = ((run ctx).run s).result ∧
      ((run ctx.noted).run (s, j)).state = (((run ctx).run s).state,
        ctx.note j (turns ctx (document.visible ctx.file snapshot.items) s₂).1) := by
  have hlive' : (ctx.noted.session.isDisposed.run (s, j)).1 = false := hlive
  have hdiagnostics' :
      ctx.noted.session.diagnostics.run (ctx.noted.session.isDisposed.run (s, j)).2 =
        (.ok snapshot, s₁, j) := by
    simp [Session.noted, hdiagnostics]
  have hdocument' : ctx.noted.session.document.run (s₁, j) = (document, s₂, j) := by
    simp [Session.noted, hdocument]
  obtain ⟨hresult, hstate⟩ := run_of_readings hlive hdiagnostics hdocument
  obtain ⟨hresult', hstate'⟩ := run_of_readings hlive' hdiagnostics' hdocument'
  rw [Context.noted_file, Context.noted_session, turns_noted] at hresult' hstate'
  obtain ⟨hsame, hkept⟩ := confirm_noted ctx.session snapshot document
    (turns ctx (document.visible ctx.file snapshot.items) s₂).2
    (ctx.note j (turns ctx (document.visible ctx.file snapshot.items) s₂).1)
  constructor
  · rw [hresult', hresult, hsame]
  · rw [hstate', hstate, hkept]

/-- What a faithful factory takes in a turn is the problem that its submission asks for. -/
theorem toOption_verdict {ctx : Context σ} (hfaithful : ctx.factory.Faithful) {document : Document}
    {ds : List Diagnostic} {s : σ} {t : Turn}
    (ht : t ∈ (turns ctx (document.visible ctx.file ds) s).1) :
    t.verdict.toOption = t.verdict.toOption.map fun _ =>
      (ctx.submission t.diagnostic t.anchor t.answer).problem := by
  obtain ⟨s', hverdict⟩ := verdict_of_mem_turns ht
  obtain ⟨-, hanchor⟩ := mem_visible.mp (mem_visible_of_mem_turns ht)
  cases h : t.verdict with
  | error error => rfl
  | ok problem =>
      have hproblem : problem = (ctx.submission t.diagnostic t.anchor t.answer).problem :=
        hfaithful.submit_eq_ok (Document.check_of_anchor? hanchor) (hverdict.symm.trans h)
      rw [hproblem]
      rfl

/-- How the journal and the problems of a pass are made up from the snapshot and the document that
it read. -/
structure Content (ctx : Context σ) (snapshot : Snapshot) (document : Document) (journal : Journal)
    (problems : List Problem) : Prop where
  /-- The server is asked once for each diagnostic that covers some text, in their order. -/
  asked : journal.requests.map Prod.fst = snapshot.items.filterMap (document.anchor? ctx.file)
  /-- Each answer decides how the factory is called for its own diagnostic. -/
  submitted : journal.submissions.map Prod.fst =
    List.zipWith
      (fun v request => ⟨v.2, v.1.message, v.1.highlight, ctx.isPreview,
        remediesFor ctx.uri request.2⟩)
      (document.visible ctx.file snapshot.items) journal.requests
  /-- The problems are those that the calls asked for which the factory took. -/
  reported : problems = journal.submissions.filterMap fun call =>
    call.2.toOption.map fun _ => call.1.problem

/-- What a pass reports, and what it does with its collaborators on the way, follows from the
diagnostics and the document that it read at its start, from the answers and from the verdicts.
Nothing that the collaborators change in the meantime has a part in it. -/
theorem reported_content (ctx : Context σ) (hfaithful : ctx.factory.Faithful) {s : σ}
    (hlive : (ctx.session.isDisposed.run s).1 = false) {problems : List Problem}
    (hok : ((run ctx).run s).result = .ok problems) :
    ∃ snapshot document s₁ s₂ journal,
      ctx.session.diagnostics.run (ctx.session.isDisposed.run s).2 = (.ok snapshot, s₁) ∧
      ctx.session.document.run s₁ = (document, s₂) ∧
      ((run ctx.noted).run (s, {})).result = .ok problems ∧
      ((run ctx.noted).run (s, {})).state = (((run ctx).run s).state, journal) ∧
      Content ctx snapshot document journal problems := by
  obtain ⟨snapshot, document, s₁, s₂, s₃, hdiagnostics, hdocument, -, -, hproblems⟩ :=
    run_eq_ok hlive hok
  obtain ⟨hresult, hstate⟩ := run_noted hlive hdiagnostics hdocument {}
  have hvisible := turns_visible ctx (document.visible ctx.file snapshot.items) s₂
  set ts := (turns ctx (document.visible ctx.file snapshot.items) s₂).1
  refine ⟨snapshot, document, s₁, s₂, ctx.note {} ts, hdiagnostics, hdocument, hresult.trans hok,
    hstate, ?_, ?_, ?_⟩
  · rw [← Document.map_snd_visible, ← hvisible]
    simp [Context.note]
  · -- turn by turn, what is submitted is made of its own diagnostic, anchor and answer
    rw [← hvisible]
    simp [Context.note, Context.submission, List.zipWith_map, List.zipWith_self]
  · simp only [hproblems, taken, Context.note, List.nil_append, List.filterMap_map]
    exact List.filterMap_congr fun t ht => toOption_verdict hfaithful ht

end Pass

/-- A problem that a script decides on is rejected, or built after all. -/
theorem Scripted.consider_eq (call : Construction) (build : Except ConstructionError Problem)
    (w : Stage) :
    (∃ error, ((consider call build).run w).1 = .error error) ∨
      ((consider call build).run w).1 = build := by
  cases h : w.rest.admission with
  | accept =>
      right
      simp [consider, StateT.run, h]
  | notReady =>
      left
      exact ⟨.notReady, by simp [consider, StateT.run, h]⟩
  | refuse reason =>
      left
      exact ⟨.invalidAnchor reason, by simp [consider, StateT.run, h]⟩

/-- A factory that follows a script gives what the plain factory would give, or rejects. -/
theorem Scripted.factory_faithful : Scripted.factory.Faithful := by
  intro sub w
  obtain ⟨anchor, message, highlight, isPreview, _ | remedies⟩ := sub
  · exact consider_eq .create (Problem.build anchor message highlight isPreview []) w
  · exact consider_eq .createWithRemedies
      (Problem.build anchor message highlight isPreview remedies) w

namespace Pass

/-- Three diagnostics, of which the second covers nothing, in a text that the first answer changes.
The first request fails and the first problem is rejected. -/
def busyStage : Scripted.Stage where
  store := Store.empty.publish "file:///a.c"
    [⟨⟨⟨0, 0⟩, ⟨0, 3⟩⟩, some .error, "first", none, none⟩,
      ⟨⟨⟨0, 3⟩, ⟨0, 1⟩⟩, some .error, "second", none, none⟩,
      ⟨⟨⟨0, 4⟩, ⟨0, 9⟩⟩, none, "third", none, none⟩]
  rest :=
    { editors := Registry.empty.set "file:///a.c"
        { uri := "file:///a.c", text := "let x"
          reactions := [{ setText := some "", dispose := true, answer := .error "busy" },
            { answer := .ok (some [none, some (.command ⟨"Fix", "fix", []⟩)]) }] }
      admissions := [.notReady, .accept] }

/-- A pass over the diagnostics of the stage. -/
def busyContext : Context Scripted.Stage :=
  ⟨"file:///a.c", ⟨[0x2F, 0x61]⟩, Scripted.session "file:///a.c", Scripted.factory, true⟩

/-- The problem that is left over. -/
def busyProblem : Problem :=
  ⟨⟨"x", ⟨4, 5, by decide⟩, ⟨⟨0, 4⟩, ⟨0, 9⟩⟩, 1, ⟨[0x2F, 0x61]⟩⟩, "third", none,
    [.command "file:///a.c" ⟨"Fix", "fix", []⟩], true⟩

/-- The pass reports that problem, although the text was emptied and the editor closed on the way. -/
theorem reported_content_busy :
    Scripted.factory.Faithful ∧ (busyContext.session.isDisposed.run busyStage).1 = false ∧
      ((run busyContext).run busyStage).result = .ok [busyProblem] ∧
      ∃ journal, ((run busyContext.noted).run (busyStage, {})).state.2 = journal ∧
        Content busyContext (busyStage.store.snapshot "file:///a.c") (Document.ofText "let x" 1)
          journal [busyProblem] := by
  have hok : ((run busyContext).run busyStage).result = .ok [busyProblem] :=
    (run_of_readings rfl rfl rfl).1.trans rfl
  obtain ⟨snapshot, document, s₁, s₂, journal, hdiagnostics, hdocument, -, hstate, hcontent⟩ :=
    reported_content busyContext Scripted.factory_faithful rfl hok
  obtain ⟨hsnapshot, rfl⟩ := Prod.mk.inj hdiagnostics
  obtain rfl := Except.ok.inj hsnapshot
  obtain ⟨rfl, -⟩ := Prod.mk.inj hdocument
  exact ⟨Scripted.factory_faithful, rfl, hok, journal, by rw [hstate], hcontent⟩

end Pass

end DiagnosticLens
