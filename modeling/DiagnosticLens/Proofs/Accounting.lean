import DiagnosticLens.Proofs.PassContent
import Mathlib.Data.List.Forall2

/-!
# What becomes of every diagnostic

A diagnostic leaves the loop of a pass in one of three ways: it covers no text and is skipped, its
problem is rejected, or its problem is recorded. The first two are reported, so the diagnostics that
a pass has read can be counted up from its problems and its events. There is a fourth event, for a
diagnostic that covers text outside the document, but no diagnostic ever does.

## Implementation notes

Events are told apart by the sentence that they are recorded with. `Pass.problemOf_exits` says what
one diagnostic can lead to, events included, and everything about the loop is counted up from there.
-/

namespace DiagnosticLens

variable {σ : Type}

/-- How many of some events are recorded with a sentence. -/
def Event.count (sentence : String) (events : List Event) : Nat :=
  events.countP fun e => e.text = sentence

namespace Event

/-- The sentence for a diagnostic that covers no text. -/
def skipped : String := "Skipping empty diagnostic range"

/-- The sentence for a diagnostic that covers text outside the document. -/
def outside : String := "Skipping diagnostic outside the document text"

/-- The sentence for a problem that is not taken. -/
def rejected : String := "Dropping problem the host rejected"

theorem sentences_distinct : skipped ≠ rejected ∧ skipped ≠ outside ∧ rejected ≠ outside := by
  decide

@[simp]
theorem text_emptyRange (uri : String) (start : Position) :
    (emptyRange uri start).text = skipped := rfl

@[simp]
theorem text_problemRejected (uri message : String) (error : ConstructionError) :
    (problemRejected uri message error).text = rejected := rfl

/-- An event that says nothing about what becomes of a diagnostic. -/
def IsAside (e : Event) : Prop := e.text ≠ skipped ∧ e.text ≠ outside ∧ e.text ≠ rejected

/-- Events with another sentence are asides. -/
theorem isAside_of_text {e : Event} (sentence : String) (htext : e.text = sentence)
    (hother : sentence ≠ skipped ∧ sentence ≠ outside ∧ sentence ≠ rejected) : e.IsAside := by
  rwa [IsAside, htext]

@[simp]
theorem count_nil (sentence : String) : count sentence [] = 0 := rfl

@[simp]
theorem count_append (sentence : String) (es fs : List Event) :
    count sentence (es ++ fs) = count sentence es + count sentence fs :=
  List.countP_append

@[simp]
theorem count_singleton (sentence : String) (e : Event) :
    count sentence [e] = if e.text = sentence then 1 else 0 := by
  simp [count]

theorem count_eq_zero_iff {sentence : String} {events : List Event} :
    count sentence events = 0 ↔ ∀ e ∈ events, e.text ≠ sentence := by
  simp [count, List.countP_eq_zero]

/-- Events that say nothing about diagnostics count for nothing. -/
theorem count_of_isAside {events : List Event} (h : ∀ e ∈ events, e.IsAside) :
    count skipped events = 0 ∧ count outside events = 0 ∧ count rejected events = 0 := by
  simp only [count_eq_zero_iff]
  exact ⟨fun e he => (h e he).1, fun e he => (h e he).2.1, fun e he => (h e he).2.2⟩

end Event

/-- Whether a diagnostic covers some text of a document. -/
def Document.covers (document : Document) (d : Diagnostic) : Bool :=
  decide (document.offsetOf d.range.start < document.offsetOf d.range.stop)

/-- It is the diagnostics that cover some text which have an anchor. -/
theorem Document.exists_anchor?_iff {document : Document} (file : Path) {d : Diagnostic} :
    (∃ anchor, document.anchor? file d = some anchor) ↔ document.covers d = true := by
  rw [covers, anchor?, decide_eq_true_eq]
  split <;> simp_all

namespace Pass

/-- The text of an anchor has as many characters as its span covers. -/
theorem length_of_anchorOf {uri : String} {file : Path} {document : Document} {d : Diagnostic}
    {anchor : Anchor} (h : anchorOf uri file document d = .ok anchor) :
    anchor.text.length = anchor.span.charLen := by
  rw [anchorOf_eq] at h
  cases hanchor : document.anchor? file d with
  | none => simp [hanchor] at h
  | some found =>
      obtain rfl : found = anchor := by simpa [hanchor] using h
      obtain ⟨-, -, hstop, htext, -⟩ := Document.anchor?_eq_some hanchor
      rw [htext, length_excerpt hstop]

/-- While a problem is being built, nothing is reported but what the server offers, or that it could
not be asked. -/
theorem isAside_of_mem_construct {ctx : Context σ} {d : Diagnostic} {anchor : Anchor} {s : σ}
    {e : Event} (he : e ∈ ((construct ctx d anchor).run s).events) : e.IsAside := by
  rcases hasked : (ctx.session.codeAction anchor).run s with ⟨error | _ | entries, s'⟩
  · obtain rfl : e = .requestFailed ctx.uri error := by
      simpa [construct, resolveRemedies, hasked] using he
    exact Event.isAside_of_text "Code action request failed" rfl (by decide)
  · simp [construct, resolveRemedies, hasked] at he
  · obtain ⟨proposal, -, rfl⟩ : ∃ proposal ∈ entries.filterMap id, offerEvent proposal = e := by
      simpa [construct, resolveRemedies, remediesOf, hasked] using he
    cases proposal with
    | command c => exact Event.isAside_of_text "Command remedy" rfl (by decide)
    | action a => exact Event.isAside_of_text "Code action remedy" rfl (by decide)

/-- A diagnostic that covers no text is reported as that and nothing else happens. -/
theorem problemOf_of_not_covers (ctx : Context σ) {document : Document} {d : Diagnostic}
    (h : document.covers d = false) (s : σ) :
    (problemOf ctx document d).run s = ⟨none, [.emptyRange ctx.uri d.range.start], s⟩ := by
  have hanchor : document.anchor? ctx.file d = none := by
    rw [Option.eq_none_iff_forall_ne_some]
    intro anchor hanchor
    have hcovers : document.covers d = true :=
      (Document.exists_anchor?_iff ctx.file).mp ⟨anchor, hanchor⟩
    rw [h] at hcovers
    cases hcovers
  simp [problemOf, anchorOf_eq, hanchor]

/-- The ways in which a diagnostic can leave the loop. -/
inductive Exit (ctx : Context σ) (document : Document) (d : Diagnostic) :
    Option Problem → List Event → Prop where
  /-- It covers no text. -/
  | skipped (h : document.covers d = false) :
      Exit ctx document d none [.emptyRange ctx.uri d.range.start]
  /-- It covers some text, and its problem is not taken. -/
  | rejected (h : document.covers d = true) {asides : List Event}
      (hasides : ∀ e ∈ asides, e.IsAside) (error : ConstructionError) :
      Exit ctx document d none (asides ++ [.problemRejected ctx.uri d.message error])
  /-- It covers some text, and its problem is taken. -/
  | recorded (h : document.covers d = true) {asides : List Event}
      (hasides : ∀ e ∈ asides, e.IsAside) (problem : Problem) :
      Exit ctx document d (some problem) asides

/-- Every diagnostic leaves the loop in one of these ways. That no text lies outside the document is
part of `anchorOf_eq`. -/
theorem problemOf_exits (ctx : Context σ) (document : Document) (d : Diagnostic) (s : σ) :
    Exit ctx document d ((problemOf ctx document d).run s).result
      ((problemOf ctx document d).run s).events := by
  cases hcovers : document.covers d with
  | false =>
      rw [problemOf_of_not_covers ctx hcovers]
      exact .skipped hcovers
  | true =>
      obtain ⟨anchor, hanchor⟩ := (Document.exists_anchor?_iff ctx.file).mpr hcovers
      have hasides : ∀ e ∈ ((construct ctx d anchor).run s).events, e.IsAside :=
        fun e he => isAside_of_mem_construct he
      rcases hmade : ((construct ctx d anchor).run s).result with error | problem
      · simp only [problemOf, anchorOf_eq, hanchor, Traced.run_bind, hmade, Traced.run_emit,
          Traced.run_pure, List.append_nil]
        exact .rejected hcovers hasides error
      · simp only [problemOf, anchorOf_eq, hanchor, Traced.run_bind, hmade, Traced.run_pure,
          List.append_nil]
        exact .recorded hcovers hasides problem

/-- One diagnostic counts once, and as skipped if it covers no text. -/
theorem Exit.count {ctx : Context σ} {document : Document} {d : Diagnostic}
    {problem? : Option Problem} {events : List Event} (h : Exit ctx document d problem? events) :
    problem?.toList.length + Event.count Event.skipped events +
        Event.count Event.rejected events = 1 ∧
      Event.count Event.skipped events = (if document.covers d then 0 else 1) ∧
      Event.count Event.outside events = 0 := by
  obtain ⟨hskipped_rejected, hskipped_outside, hrejected_outside⟩ := Event.sentences_distinct
  cases h with
  | skipped h => simp [h, hskipped_rejected, hskipped_outside]
  | rejected h hasides error =>
      obtain ⟨hskipped, houtside, hrejected⟩ := Event.count_of_isAside hasides
      simp [h, hskipped, houtside, hrejected, hskipped_rejected.symm, hrejected_outside]
  | recorded h hasides problem =>
      obtain ⟨hskipped, houtside, hrejected⟩ := Event.count_of_isAside hasides
      simp [h, hskipped, houtside, hrejected]

/-- All diagnostics of a loop count once each, and those that cover no text as skipped. -/
theorem problemsOf_count (ctx : Context σ) (document : Document) (ds : List Diagnostic) (s : σ) :
    ((problemsOf ctx document ds).run s).result.length +
          Event.count Event.skipped ((problemsOf ctx document ds).run s).events +
          Event.count Event.rejected ((problemsOf ctx document ds).run s).events = ds.length ∧
      Event.count Event.skipped ((problemsOf ctx document ds).run s).events +
          (ds.filter document.covers).length = ds.length ∧
      Event.count Event.outside ((problemsOf ctx document ds).run s).events = 0 := by
  induction ds generalizing s with
  | nil => simp [problemsOf]
  | cons d ds ih =>
      obtain ⟨hone, hskipped, hinside⟩ := (problemOf_exits ctx document d s).count
      obtain ⟨hlater, hskipped', hinside'⟩ := ih ((problemOf ctx document d).run s).state
      have hcovers : (if document.covers d then 0 else 1) +
          ((d :: ds).filter document.covers).length = (ds.filter document.covers).length + 1 := by
        cases h : document.covers d
        · simp [h, Nat.add_comm]
        · simp [h]
      simp only [problemsOf, Traced.run_bind, Traced.run_pure, Event.count_append, Event.count_nil,
        List.length_append, List.length_cons]
      omega

/-- A problem that records a diagnostic, with whatever fixes there are. -/
structure Records (ctx : Context σ) (document : Document) (d : Diagnostic) (problem : Problem) :
    Prop where
  anchor : document.anchor? ctx.file d = some problem.anchor
  message : problem.message = d.message
  highlight : problem.highlight = d.highlight
  isPreview : problem.isPreview = ctx.isPreview

section Plain

variable {ctx : Context σ} (hfactory : ctx.factory = ProblemFactory.plain σ) (document : Document)
include hfactory

/-- The plain factory records a diagnostic that covers some text, since the anchor is valid. -/
theorem problemOf_plain {d : Diagnostic} (hcovers : document.covers d = true) (s : σ) :
    ∃ problem, ((problemOf ctx document d).run s).result = some problem ∧
      Records ctx document d problem := by
  obtain ⟨anchor, hanchor⟩ := (Document.exists_anchor?_iff ctx.file).mpr hcovers
  let sub := ctx.submission d anchor ((ctx.session.codeAction anchor).run s).1
  have hcheck : sub.anchor.check = .ok () := Document.check_of_anchor? hanchor
  have hmade : ((construct ctx d anchor).run s).result = .ok sub.problem := by
    rw [(construct_run ctx d anchor s).1, hfactory, ProblemFactory.submit_plain hcheck]
  have hproblem : ((problemOf ctx document d).run s).result = some sub.problem := by
    rw [(problemOf_run_of_some hanchor s).1, hmade]
    rfl
  exact ⟨sub.problem, hproblem, hanchor, rfl, rfl, rfl⟩

/-- With the plain factory a loop records all diagnostics that cover some text, in their order, and
rejects nothing. -/
theorem problemsOf_plain (ds : List Diagnostic) (s : σ) :
    List.Forall₂ (Records ctx document) (ds.filter document.covers)
        ((problemsOf ctx document ds).run s).result ∧
      Event.count Event.rejected ((problemsOf ctx document ds).run s).events = 0 := by
  induction ds generalizing s with
  | nil => exact ⟨.nil, rfl⟩
  | cons d ds ih =>
      obtain ⟨hone, -, -⟩ := (problemOf_exits ctx document d s).count
      obtain ⟨hlater, hnone⟩ := ih ((problemOf ctx document d).run s).state
      simp only [problemsOf, Traced.run_bind, Traced.run_pure, Event.count_append, Event.count_nil]
      cases hcovers : document.covers d with
      | true =>
          obtain ⟨problem, hproblem, hrecords⟩ := problemOf_plain hfactory document hcovers s
          rw [List.filter_cons_of_pos hcovers]
          rw [hproblem] at hone ⊢
          refine ⟨.cons hrecords hlater, ?_⟩
          simp only [Option.toList_some, List.length_singleton] at hone
          omega
      | false =>
          rw [List.filter_cons_of_neg (by simp [hcovers])]
          rw [problemOf_of_not_covers ctx hcovers] at hlater hnone ⊢
          refine ⟨hlater, ?_⟩
          simp [hnone, Event.sentences_distinct.1]

end Plain

/-- The checks at the end of a pass report nothing. -/
theorem events_confirm (session : Session σ) (snapshot : Snapshot) (document : Document) (s : σ) :
    ((confirm session snapshot document).run s).events = [] := by
  rcases hverify : (session.verify snapshot).run s with ⟨error | ⟨⟩, s'⟩
  · simp [confirm, hverify]
  · by_cases h : (session.documentVersion.run s').1 = document.version <;>
      simp [confirm, hverify, h]

section Readings

variable {ctx : Context σ} {s s₁ s₂ : σ} {snapshot : Snapshot} {document : Document}
  (hlive : (ctx.session.isDisposed.run s).1 = false)
  (hdiagnostics :
    ctx.session.diagnostics.run (ctx.session.isDisposed.run s).2 = (.ok snapshot, s₁))
  (hdocument : ctx.session.document.run s₁ = (document, s₂))
include hlive hdiagnostics hdocument

/-- Once it has its readings, a pass reports what its loop reports, and behind that no more than
that it is complete. -/
theorem events_of_readings :
    ∃ closing, ((run ctx).run s).events =
        ((problemsOf ctx document snapshot.items).run s₂).events ++ closing ∧
      ∀ e ∈ closing, e.IsAside := by
  simp only [run, Traced.run_bind, Traced.run_quiet, hlive, hdiagnostics, hdocument, events_confirm,
    Bool.false_eq_true, if_false, List.nil_append]
  refine ⟨_, rfl, ?_⟩
  intro e he
  split at he
  · simp at he
  · obtain rfl : e = .passComplete ctx.uri snapshot.items.length
        ((problemsOf ctx document snapshot.items).run s₂).result.length := by
      simpa using he
    exact Event.isAside_of_text "Inspection pass complete" rfl (by decide)

/-- A pass that reports problems reports those of its loop. -/
theorem problems_of_readings {problems : List Problem}
    (hok : ((run ctx).run s).result = .ok problems) :
    problems = ((problemsOf ctx document snapshot.items).run s₂).result := by
  rw [(run_of_readings hlive hdiagnostics hdocument).1] at hok
  rw [(problemsOf_run ctx document snapshot.items s₂).1]
  cases hconfirm : ((confirm ctx.session snapshot document).run
      (turns ctx (document.visible ctx.file snapshot.items) s₂).2).result with
  | error error => simp [hconfirm, Except.map] at hok
  | ok u =>
      rw [hconfirm] at hok
      exact (Except.ok.inj hok).symm

end Readings

/-- How the diagnostics that a pass has read are accounted for. -/
structure Accounts (ctx : Context σ) (document : Document) (ds : List Diagnostic)
    (loop : Outcome σ (List Problem)) (pass : Outcome σ (Except PassError (List Problem))) :
    Prop where
  /-- The events of the loop are those of the pass, up to asides behind them. -/
  events : ∃ closing, pass.events = loop.events ++ closing ∧ ∀ e ∈ closing, e.IsAside
  /-- A pass reports what its loop has recorded, or nothing. -/
  reported : ∀ problems, pass.result = .ok problems → problems = loop.result
  /-- Every diagnostic is recorded, skipped or rejected. -/
  total : ds.length = loop.result.length + Event.count Event.skipped loop.events +
    Event.count Event.rejected loop.events
  /-- It is those that cover no text which are skipped. -/
  skipped : Event.count Event.skipped loop.events +
    (ds.filter fun d => document.offsetOf d.range.start < document.offsetOf d.range.stop).length =
      ds.length
  /-- None is found to lie outside the text. -/
  inside : ∀ e ∈ pass.events, e.text ≠ Event.outside
  /-- Every anchor has as many characters as it covers. -/
  valid : ∀ d anchor, anchorOf ctx.uri ctx.file document d = .ok anchor →
    anchor.text.length = anchor.span.charLen
  /-- The plain factory rejects nothing, so that exactly those that cover some text are recorded. -/
  plain : ctx.factory = ProblemFactory.plain σ →
    (∀ e ∈ pass.events, e.text ≠ Event.rejected) ∧
      List.Forall₂ (Records ctx document)
        (ds.filter fun d => document.offsetOf d.range.start < document.offsetOf d.range.stop)
        loop.result

/-- Every diagnostic that a pass has read is accounted for exactly once. -/
theorem every_diagnostic_accounted_for {ctx : Context σ} {s s₁ s₂ : σ} {snapshot : Snapshot}
    {document : Document} (hlive : (ctx.session.isDisposed.run s).1 = false)
    (hdiagnostics :
      ctx.session.diagnostics.run (ctx.session.isDisposed.run s).2 = (.ok snapshot, s₁))
    (hdocument : ctx.session.document.run s₁ = (document, s₂)) :
    Accounts ctx document snapshot.items ((problemsOf ctx document snapshot.items).run s₂)
      ((run ctx).run s) := by
  obtain ⟨htotal, hskipped, hinside⟩ := problemsOf_count ctx document snapshot.items s₂
  obtain ⟨closing, hevents, hasides⟩ := events_of_readings hlive hdiagnostics hdocument
  obtain ⟨-, houtside, hrejected⟩ := Event.count_of_isAside hasides
  refine ⟨⟨closing, hevents, hasides⟩, ?_, htotal.symm, hskipped, ?_, ?_, ?_⟩
  · exact fun problems => problems_of_readings hlive hdiagnostics hdocument
  · rw [← Event.count_eq_zero_iff, hevents, Event.count_append, hinside, houtside]
  · exact fun d anchor => length_of_anchorOf
  · intro hfactory
    obtain ⟨hrecords, hnone⟩ := problemsOf_plain hfactory document snapshot.items s₂
    refine ⟨?_, hrecords⟩
    rw [← Event.count_eq_zero_iff, hevents, Event.count_append, hnone, hrejected]

/-- The diagnostics of the stage. -/
def busyItems : List Diagnostic := (busyStage.store.snapshot "file:///a.c").items

/-- The loop of a pass over them. -/
def busyLoop (ctx : Context Scripted.Stage) : Outcome Scripted.Stage (List Problem) :=
  (problemsOf ctx (.ofText "let x" 1) busyItems).run busyStage

/-- The same pass with the plain factory. -/
def admittingContext : Context Scripted.Stage :=
  { busyContext with factory := ProblemFactory.plain Scripted.Stage }

/-- Of three diagnostics one is recorded, one is skipped and one is rejected. With the plain factory
two are recorded, and there is no rejection. -/
theorem every_diagnostic_accounted_for_busy :
    (busyContext.session.isDisposed.run busyStage).1 = false ∧ busyItems.length = 3 ∧
      (busyLoop busyContext).result = [busyProblem] ∧
      Event.count Event.skipped (busyLoop busyContext).events = 1 ∧
      Event.count Event.rejected (busyLoop busyContext).events = 1 ∧
      (busyLoop admittingContext).result.length = 2 ∧
      ∀ e ∈ ((run admittingContext).run busyStage).events, e.text ≠ Event.rejected := by
  have haccounts : Accounts busyContext (.ofText "let x" 1) busyItems (busyLoop busyContext)
      ((run busyContext).run busyStage) :=
    every_diagnostic_accounted_for rfl rfl rfl
  have hadmitted : Accounts admittingContext (.ofText "let x" 1) busyItems
      (busyLoop admittingContext) ((run admittingContext).run busyStage) :=
    every_diagnostic_accounted_for rfl rfl rfl
  have hlength : busyItems.length = 3 := rfl
  have hresult : (busyLoop busyContext).result = [busyProblem] :=
    (problemsOf_run _ _ _ _).1.trans rfl
  have hskipped : Event.count Event.skipped (busyLoop busyContext).events + 2 = 3 :=
    haccounts.skipped
  have htotal := haccounts.total
  rw [hresult, hlength, List.length_singleton] at htotal
  obtain ⟨hnone, hrecords⟩ := hadmitted.plain rfl
  exact ⟨rfl, hlength, hresult, by omega, by omega, hrecords.length_eq.symm, hnone⟩

end Pass

end DiagnosticLens
