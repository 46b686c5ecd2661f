import DiagnosticLens.Pass
import DiagnosticLens.Proofs.Offsets

/-!
# The turns of a pass

The loop of a pass takes one turn for each diagnostic that covers some text. In a turn the server is
asked for fixes at the anchor of the diagnostic, and the factory is handed what the answer calls
for. Which turns there are, and at which anchors, depends only on the diagnostics and the document
that the pass started with; what was answered, and what the factory said, is written down in the
turns themselves.

## Implementation notes

`Pass.turns` runs the collaborators in the same order as the loop does, but leaves the events aside.
`Pass.problemsOf_run` says that the loop gives the problems of the turns and ends in the state
behind the last one, and `Pass.run_eq_ok` that a pass which reports is made up of its readings, its
turns and its two checks. Nothing later has to look into the loop again.
-/

namespace DiagnosticLens

variable {σ : Type}

/-- The anchor of a diagnostic in a document, if the diagnostic covers some text. -/
def Document.anchor? (document : Document) (file : Path) (d : Diagnostic) : Option Anchor :=
  if h : document.offsetOf d.range.start < document.offsetOf d.range.stop then
    some ⟨excerpt document.text ⟨_, _, h⟩, ⟨_, _, h⟩, d.range, document.version, file⟩
  else none

/-- The diagnostics that cover some text, each with its anchor. -/
def Document.visible (document : Document) (file : Path) (ds : List Diagnostic) :
    List (Diagnostic × Anchor) :=
  ds.filterMap fun d => (document.anchor? file d).map (d, ·)

/-- The anchors of the visible diagnostics are the anchors that diagnostics have. -/
theorem Document.map_snd_visible (document : Document) (file : Path) (ds : List Diagnostic) :
    (document.visible file ds).map Prod.snd = ds.filterMap (document.anchor? file) := by
  rw [Document.visible, List.map_filterMap]
  congr 1
  funext d
  cases document.anchor? file d <;> rfl

/-- A place that a document has an anchor for lies inside its text, and the anchor is taken from
there. -/
theorem Document.anchor?_eq_some {document : Document} {file : Path} {d : Diagnostic}
    {anchor : Anchor} (h : document.anchor? file d = some anchor) :
    anchor.span.start = document.offsetOf d.range.start ∧
      anchor.span.stop = document.offsetOf d.range.stop ∧
      anchor.span.stop ≤ document.text.length ∧
      anchor.text = excerpt document.text anchor.span ∧
      anchor.range = d.range ∧ anchor.version = document.version ∧ anchor.file = file := by
  rw [anchor?] at h
  split at h
  · obtain rfl := Option.some.inj h
    exact ⟨rfl, rfl, document.offsetOf_le _, rfl, rfl, rfl, rfl⟩
  · cases h

/-- Every anchor of a document is valid. -/
theorem Document.check_of_anchor? {document : Document} {file : Path} {d : Diagnostic}
    {anchor : Anchor} (h : document.anchor? file d = some anchor) : anchor.check = .ok () := by
  obtain ⟨-, -, hstop, htext, -⟩ := anchor?_eq_some h
  rw [Anchor.check, htext, length_excerpt hstop]
  simp

/-- What the factory is handed for a problem. Without an answer there is no list of remedies. -/
structure Submission where
  anchor : Anchor
  message : String
  highlight : Option Highlight
  isPreview : Bool
  remedies : Option (List Remedy)

/-- The problem that a submission asks for. -/
def Submission.problem (sub : Submission) : Problem :=
  ⟨sub.anchor, sub.message, sub.highlight, sub.remedies.getD [], sub.isPreview⟩

/-- Hands a submission to the factory: with its list of remedies, or without one. -/
def ProblemFactory.submit (factory : ProblemFactory σ) (sub : Submission) :
    StateM σ (Except ConstructionError Problem) :=
  match sub.remedies with
  | none => factory.create sub.anchor sub.message sub.highlight sub.isPreview
  | some remedies =>
      factory.createWithRemedies sub.anchor sub.message sub.highlight sub.isPreview remedies

/-- The remedies that an answer resolves to. A null answer and a failed request have none, which is
not the same as an empty list. -/
def remediesFor (uri : String) : Except String CodeActionAnswer → Option (List Remedy)
  | .ok (some entries) => some (Remedy.ofProposals uri entries)
  | .ok none => none
  | .error _ => none

/-- One turn of the loop. -/
structure Turn where
  diagnostic : Diagnostic
  anchor : Anchor
  answer : Except String CodeActionAnswer
  verdict : Except ConstructionError Problem

namespace Pass

/-- What the factory is handed for a diagnostic, given the answer of the server. -/
def Context.submission (ctx : Context σ) (d : Diagnostic) (anchor : Anchor)
    (answer : Except String CodeActionAnswer) : Submission :=
  ⟨anchor, d.message, d.highlight, ctx.isPreview, remediesFor ctx.uri answer⟩

/-- The turns for some diagnostics and their anchors, and the state behind them. -/
def turns (ctx : Context σ) : List (Diagnostic × Anchor) → σ → List Turn × σ
  | [], s => ([], s)
  | (d, anchor) :: rest, s =>
      let asked := (ctx.session.codeAction anchor).run s
      let made := (ctx.factory.submit (ctx.submission d anchor asked.1)).run asked.2
      let later := turns ctx rest made.2
      (⟨d, anchor, asked.1, made.1⟩ :: later.1, later.2)

/-- The problems that the factory took. -/
def taken (ts : List Turn) : List Problem := ts.filterMap fun t => t.verdict.toOption

/-- A diagnostic has the anchor of its document, and one without any is an empty range: no span
runs past the end of the text. -/
theorem anchorOf_eq (uri : String) (file : Path) (document : Document) (d : Diagnostic) :
    anchorOf uri file document d =
      match document.anchor? file d with
      | some anchor => .ok anchor
      | none => .error (.emptyRange uri d.range.start) := by
  simp only [anchorOf, TextSpan.ofBounds?, Document.anchor?]
  by_cases h : document.offsetOf d.range.start < document.offsetOf d.range.stop
  · simp [h, Document.textIn_eq, document.offsetOf_le d.range.stop]
  · simp [h]

/-- The answer of the server decides which way the factory is called, and nothing else does. -/
theorem construct_run (ctx : Context σ) (d : Diagnostic) (anchor : Anchor) (s : σ) :
    ((construct ctx d anchor).run s).result =
        ((ctx.factory.submit (ctx.submission d anchor ((ctx.session.codeAction anchor).run s).1)).run
          ((ctx.session.codeAction anchor).run s).2).1 ∧
      ((construct ctx d anchor).run s).state =
        ((ctx.factory.submit (ctx.submission d anchor ((ctx.session.codeAction anchor).run s).1)).run
          ((ctx.session.codeAction anchor).run s).2).2 := by
  rcases hasked : (ctx.session.codeAction anchor).run s with ⟨_ | _ | entries, s'⟩ <;>
    simp [construct, resolveRemedies, remediesOf, hasked, Context.submission, remediesFor,
      ProblemFactory.submit]

/-- A diagnostic without an anchor gets no turn. -/
theorem problemOf_run_of_none {ctx : Context σ} {document : Document} {d : Diagnostic}
    (h : document.anchor? ctx.file d = none) (s : σ) :
    ((problemOf ctx document d).run s).result = none ∧
      ((problemOf ctx document d).run s).state = s := by
  simp [problemOf, anchorOf_eq, h]

/-- A diagnostic with an anchor has the problem that the factory takes. -/
theorem problemOf_run_of_some {ctx : Context σ} {document : Document} {d : Diagnostic}
    {anchor : Anchor} (h : document.anchor? ctx.file d = some anchor) (s : σ) :
    ((problemOf ctx document d).run s).result =
        ((construct ctx d anchor).run s).result.toOption ∧
      ((problemOf ctx document d).run s).state = ((construct ctx d anchor).run s).state := by
  rcases hmade : ((construct ctx d anchor).run s).result with _ | problem <;>
    simp [problemOf, anchorOf_eq, h, hmade, Except.toOption]

/-- The loop gives the problems of its turns and ends in the state behind the last one. -/
theorem problemsOf_run (ctx : Context σ) (document : Document) (ds : List Diagnostic) (s : σ) :
    ((problemsOf ctx document ds).run s).result =
        taken (turns ctx (document.visible ctx.file ds) s).1 ∧
      ((problemsOf ctx document ds).run s).state =
        (turns ctx (document.visible ctx.file ds) s).2 := by
  induction ds generalizing s with
  | nil => simp [problemsOf, Document.visible, turns, taken]
  | cons d ds ih =>
      simp only [problemsOf, Traced.run_bind, Traced.run_pure]
      cases h : document.anchor? ctx.file d with
      | none =>
          obtain ⟨hresult, hstate⟩ := problemOf_run_of_none h s
          have hskip : document.visible ctx.file (d :: ds) = document.visible ctx.file ds := by
            simp [Document.visible, h]
          rw [hresult, hstate, hskip]
          exact ih s
      | some anchor =>
          obtain ⟨hresult, hstate⟩ := problemOf_run_of_some h s
          obtain ⟨hverdict, hbehind⟩ := construct_run ctx d anchor s
          have hturn : document.visible ctx.file (d :: ds) =
              (d, anchor) :: document.visible ctx.file ds := by
            simp [Document.visible, h]
          rw [hresult, hstate, hverdict, hbehind, hturn, (ih _).1, (ih _).2]
          simp only [turns, taken, List.filterMap_cons, and_true]
          split <;> simp_all

/-- There is one turn for each diagnostic with an anchor, in their order, whatever is answered. -/
theorem turns_visible (ctx : Context σ) (visible : List (Diagnostic × Anchor)) (s : σ) :
    (turns ctx visible s).1.map (fun t => (t.diagnostic, t.anchor)) = visible := by
  induction visible generalizing s with
  | nil => rfl
  | cons v visible ih => simp [turns, ih]

/-- A diagnostic is visible with an anchor if it is among the diagnostics and that is its anchor. -/
theorem mem_visible {document : Document} {file : Path} {ds : List Diagnostic} {d : Diagnostic}
    {anchor : Anchor} :
    (d, anchor) ∈ document.visible file ds ↔ d ∈ ds ∧ document.anchor? file d = some anchor := by
  simp only [Document.visible, List.mem_filterMap, Option.map_eq_some_iff, Prod.mk.injEq]
  constructor
  · rintro ⟨d', hmem, anchor', hanchor, rfl, rfl⟩
    exact ⟨hmem, hanchor⟩
  · rintro ⟨hmem, hanchor⟩
    exact ⟨d, hmem, anchor, hanchor, rfl, rfl⟩

/-- Behind every turn stands a diagnostic with its anchor. -/
theorem mem_visible_of_mem_turns {ctx : Context σ} {visible : List (Diagnostic × Anchor)} {s : σ}
    {t : Turn} (ht : t ∈ (turns ctx visible s).1) : (t.diagnostic, t.anchor) ∈ visible := by
  rw [← turns_visible ctx visible s]
  exact List.mem_map_of_mem ht

/-- Every verdict comes from handing the factory the submission of its turn. -/
theorem verdict_of_mem_turns {ctx : Context σ} {visible : List (Diagnostic × Anchor)} {s : σ}
    {t : Turn} (ht : t ∈ (turns ctx visible s).1) :
    ∃ s', t.verdict =
      ((ctx.factory.submit (ctx.submission t.diagnostic t.anchor t.answer)).run s').1 := by
  induction visible generalizing s with
  | nil => cases ht
  | cons v visible ih =>
      rcases List.mem_cons.mp ht with rfl | hlater
      · exact ⟨_, rfl⟩
      · exact ih hlater

/-- What holds between the state in front of and behind every request and every call of the factory
holds between the state in front of and behind all turns. -/
theorem turns_preserve {R : σ → σ → Prop} {ctx : Context σ} (hrefl : ∀ s, R s s)
    (htrans : ∀ {a b c}, R a b → R b c → R a c)
    (hask : ∀ anchor s, R s ((ctx.session.codeAction anchor).run s).2)
    (hsubmit : ∀ sub s, R s ((ctx.factory.submit sub).run s).2)
    (visible : List (Diagnostic × Anchor)) (s : σ) : R s (turns ctx visible s).2 := by
  induction visible generalizing s with
  | nil => exact hrefl s
  | cons v visible ih => exact htrans (hask v.2 s) (htrans (hsubmit _ _) (ih _))

/-- The checks at the end pass exactly if the snapshot verifies and the version is still the same. -/
theorem confirm_eq_ok_iff (session : Session σ) (snapshot : Snapshot) (document : Document) (s : σ) :
    ((confirm session snapshot document).run s).result = .ok () ↔
      ((session.verify snapshot).run s).1 = .ok () ∧
        (session.documentVersion.run ((session.verify snapshot).run s).2).1 = document.version := by
  rcases hverify : (session.verify snapshot).run s with ⟨error | ⟨⟩, s'⟩
  · simp [confirm, hverify]
  · by_cases h : (session.documentVersion.run s').1 = document.version <;>
      simp [confirm, hverify, h]

/-- Checks that pass leave the state behind the second of them. -/
theorem confirm_state {session : Session σ} {snapshot : Snapshot} {document : Document} {s : σ}
    (h : ((session.verify snapshot).run s).1 = .ok ()) :
    ((confirm session snapshot document).run s).state =
      (session.documentVersion.run ((session.verify snapshot).run s).2).2 := by
  by_cases hsame : (session.documentVersion.run ((session.verify snapshot).run s).2).1 =
      document.version <;>
    simp [confirm, h, hsame]

/-- Once an open editor has given a snapshot and a document, a pass takes its turns, and reports the
problems that were taken if its checks pass. -/
theorem run_of_readings {ctx : Context σ} {s s₁ s₂ : σ} {snapshot : Snapshot} {document : Document}
    (hlive : (ctx.session.isDisposed.run s).1 = false)
    (hdiagnostics :
      ctx.session.diagnostics.run (ctx.session.isDisposed.run s).2 = (.ok snapshot, s₁))
    (hdocument : ctx.session.document.run s₁ = (document, s₂)) :
    ((run ctx).run s).result =
        ((confirm ctx.session snapshot document).run
          (turns ctx (document.visible ctx.file snapshot.items) s₂).2).result.map
            (fun _ => taken (turns ctx (document.visible ctx.file snapshot.items) s₂).1) ∧
      ((run ctx).run s).state =
        ((confirm ctx.session snapshot document).run
          (turns ctx (document.visible ctx.file snapshot.items) s₂).2).state := by
  obtain ⟨hproblems, hbehind⟩ := problemsOf_run ctx document snapshot.items s₂
  simp only [run, Traced.run_bind, Traced.run_quiet, hlive, hdiagnostics, hdocument, hproblems,
    hbehind, Bool.false_eq_true, if_false]
  rcases hconfirm : ((confirm ctx.session snapshot document).run
      (turns ctx (document.visible ctx.file snapshot.items) s₂).2).result with error | ⟨⟩ <;>
    simp [Except.map]

/-- A pass that reports for an open editor has read a snapshot and a document, has taken its turns,
and has found both unchanged. -/
theorem run_eq_ok {ctx : Context σ} {s : σ} {problems : List Problem}
    (hlive : (ctx.session.isDisposed.run s).1 = false)
    (hok : ((run ctx).run s).result = .ok problems) :
    ∃ snapshot document s₁ s₂ s₃,
      ctx.session.diagnostics.run (ctx.session.isDisposed.run s).2 = (.ok snapshot, s₁) ∧
      ctx.session.document.run s₁ = (document, s₂) ∧
      (ctx.session.verify snapshot).run
          (turns ctx (document.visible ctx.file snapshot.items) s₂).2 = (.ok (), s₃) ∧
      ctx.session.documentVersion.run s₃ = (document.version, ((run ctx).run s).state) ∧
      problems = taken (turns ctx (document.visible ctx.file snapshot.items) s₂).1 := by
  rcases hdiagnostics : ctx.session.diagnostics.run (ctx.session.isDisposed.run s).2 with
    ⟨error | snapshot, s₁⟩
  · simp [run, hlive, hdiagnostics] at hok
  rcases hdocument : ctx.session.document.run s₁ with ⟨document, s₂⟩
  obtain ⟨hresult, hstate⟩ := run_of_readings hlive hdiagnostics hdocument
  rw [hresult] at hok
  set ts := turns ctx (document.visible ctx.file snapshot.items) s₂
  cases hconfirm : ((confirm ctx.session snapshot document).run ts.2).result with
  | error error => simp [hconfirm, Except.map] at hok
  | ok u =>
      obtain ⟨hverify, hversion⟩ :=
        (confirm_eq_ok_iff ctx.session snapshot document ts.2).mp hconfirm
      rw [hconfirm] at hok
      refine ⟨snapshot, document, s₁, s₂, ((ctx.session.verify snapshot).run ts.2).2, rfl, hdocument,
        Prod.ext hverify rfl, Prod.ext hversion ?_, (Except.ok.inj hok).symm⟩
      rw [hstate, confirm_state hverify]

end Pass

end DiagnosticLens
