import DiagnosticLens.Proofs.Consulted
import DiagnosticLens.Proofs.Turns

/-!
# States that look alike

The collaborators of a pass may look at a part of the state only. Two states look alike to them if
they answer alike in both and leave states behind that look alike again. A pass looks at nothing but
its collaborators, so in states that look alike to them it comes to the same end and reports the
same events; and so does the inspection of a file.

## Implementation notes

What it means to look alike is a relation `R` on states that is left open. `Traced.EndsAlike`
is closed under everything that passes are put together from, and the lemmas about passes follow their
definitions one by one.
-/

namespace DiagnosticLens

variable {σ α β : Type} {R : σ → σ → Prop}

/-- An action that gives the same in states that look alike, and leaves states that look alike. -/
def AnswersAlike (R : σ → σ → Prop) (action : StateM σ α) : Prop :=
  ∀ s s', R s s' → (action.run s).1 = (action.run s').1 ∧ R (action.run s).2 (action.run s').2

/-- Outcomes with the same result and the same events, in states that look alike. -/
structure Outcome.Alike (R : σ → σ → Prop) (a b : Outcome σ α) : Prop where
  result : a.result = b.result
  events : a.events = b.events
  state : R a.state b.state

namespace Traced

/-- A traced action whose outcomes are alike in states that look alike. -/
def EndsAlike (R : σ → σ → Prop) (action : Traced σ α) : Prop :=
  ∀ s s', R s s' → (action.run s).Alike R (action.run s')

theorem endsAlike_pure (a : α) : EndsAlike R (pure a : Traced σ α) :=
  fun _ _ h => ⟨rfl, rfl, h⟩

theorem endsAlike_emit (e : Event) : EndsAlike R (emit e : Traced σ Unit) :=
  fun _ _ h => ⟨rfl, rfl, h⟩

theorem endsAlike_emitAll (es : List Event) : EndsAlike R (emitAll es : Traced σ Unit) :=
  fun _ _ h => ⟨rfl, rfl, h⟩

/-- What goes on alike after an action that ends alike ends alike. It has to do so only with the
results that the action has. -/
theorem EndsAlike.bind_result {action : Traced σ α} {next : α → Traced σ β}
    (haction : EndsAlike R action) (hnext : ∀ s, EndsAlike R (next (action.run s).result)) :
    EndsAlike R (action >>= next) := by
  intro s s' h
  have hfirst := haction s s' h
  have hsecond := hnext s _ _ hfirst.state
  rw [run_bind, run_bind, ← hfirst.result]
  refine ⟨hsecond.result, ?_, hsecond.state⟩
  rw [hfirst.events, hsecond.events]

theorem EndsAlike.bind {action : Traced σ α} {next : α → Traced σ β} (haction : EndsAlike R action)
    (hnext : ∀ a, EndsAlike R (next a)) : EndsAlike R (action >>= next) :=
  haction.bind_result fun _ => hnext _

end Traced

/-- An action that answers alike, and reports nothing, ends alike. -/
theorem AnswersAlike.quiet {action : StateM σ α} (h : AnswersAlike R action) :
    Traced.EndsAlike R (Traced.quiet action) := by
  intro s s' hs
  obtain ⟨hresult, hstate⟩ := h s s' hs
  exact ⟨hresult, rfl, hstate⟩

/-- A session that answers every call alike in states that look alike. It need not do so when asked
about copies of diagnostics that are not its own. -/
structure Session.Respects (R : σ → σ → Prop) (session : Session σ) : Prop where
  isDisposed : AnswersAlike R session.isDisposed
  document : AnswersAlike R session.document
  documentVersion : AnswersAlike R session.documentVersion
  diagnostics : AnswersAlike R session.diagnostics
  verify : ∀ s snapshot, (session.diagnostics.run s).1 = .ok snapshot →
    AnswersAlike R (session.verify snapshot)
  codeAction : ∀ anchor, AnswersAlike R (session.codeAction anchor)

/-- A factory that does so, whichever way it is called. -/
def ProblemFactory.Respects (R : σ → σ → Prop) (factory : ProblemFactory σ) : Prop :=
  ∀ sub, AnswersAlike R (factory.submit sub)

/-- The plain factory looks at no state. -/
theorem ProblemFactory.respects_plain : (ProblemFactory.plain σ).Respects R := by
  intro sub s s' h
  obtain ⟨anchor, message, highlight, isPreview, _ | remedies⟩ := sub
  · exact ⟨rfl, h⟩
  · exact ⟨rfl, h⟩

namespace Pass

open Traced

/-- Requests for fixes end alike. -/
theorem endsAlike_resolveRemedies {session : Session σ} (hsession : session.Respects R)
    (uri : String) (anchor : Anchor) : EndsAlike R (resolveRemedies uri session anchor) := by
  refine (hsession.codeAction anchor).quiet.bind ?_
  rintro (error | _ | entries)
  · exact (endsAlike_emit _).bind fun _ => endsAlike_pure _
  · exact endsAlike_pure _
  · exact ((endsAlike_emitAll _).bind fun _ => endsAlike_pure _).bind fun _ => endsAlike_pure _

section Context

variable {ctx : Context σ} (hsession : ctx.session.Respects R) (hfactory : ctx.factory.Respects R)
include hsession hfactory

theorem endsAlike_construct (d : Diagnostic) (anchor : Anchor) :
    EndsAlike R (construct ctx d anchor) := by
  refine (endsAlike_resolveRemedies hsession ctx.uri anchor).bind ?_
  rintro (_ | remedies)
  · exact (hfactory ⟨anchor, d.message, d.highlight, ctx.isPreview, none⟩).quiet
  · exact (hfactory ⟨anchor, d.message, d.highlight, ctx.isPreview, some remedies⟩).quiet

theorem endsAlike_problemOf (document : Document) (d : Diagnostic) :
    EndsAlike R (problemOf ctx document d) := by
  rw [problemOf]
  cases anchorOf ctx.uri ctx.file document d with
  | error event => exact (endsAlike_emit _).bind fun _ => endsAlike_pure _
  | ok anchor =>
      refine (endsAlike_construct hsession hfactory d anchor).bind ?_
      rintro (error | problem)
      · exact (endsAlike_emit _).bind fun _ => endsAlike_pure _
      · exact endsAlike_pure _

/-- The loop of a pass ends alike. -/
theorem endsAlike_problemsOf (document : Document) (ds : List Diagnostic) :
    EndsAlike R (problemsOf ctx document ds) := by
  induction ds with
  | nil => exact endsAlike_pure _
  | cons d ds ih =>
      refine (endsAlike_problemOf hsession hfactory document d).bind fun problem => ?_
      exact ih.bind fun problems => endsAlike_pure _

omit hfactory in
theorem endsAlike_confirm {snapshot : Snapshot} (document : Document)
    (hverify : AnswersAlike R (ctx.session.verify snapshot)) :
    EndsAlike R (confirm ctx.session snapshot document) := by
  refine hverify.quiet.bind ?_
  rintro (error | ⟨⟩)
  · exact endsAlike_pure _
  · refine hsession.documentVersion.quiet.bind fun found => ?_
    split
    · exact endsAlike_pure _
    · exact endsAlike_pure _

variable (ctx) in
/-- In states that look alike to its collaborators a pass comes to the same end. -/
theorem endsAlike_run : EndsAlike R (run ctx) := by
  refine hsession.isDisposed.quiet.bind fun disposed => ?_
  cases disposed with
  | true => exact (endsAlike_emit _).bind fun _ => endsAlike_pure _
  | false =>
      refine hsession.diagnostics.quiet.bind_result fun s => ?_
      rw [run_quiet]
      cases hsnapshot : (ctx.session.diagnostics.run s).1 with
      | error error => exact endsAlike_pure _
      | ok snapshot =>
          refine hsession.document.quiet.bind fun document => ?_
          refine (endsAlike_problemsOf hsession hfactory document snapshot.items).bind
            fun problems => ?_
          -- the pass asks about no other copy than the one it was given
          have hverify := hsession.verify s snapshot hsnapshot
          refine (endsAlike_confirm hsession document hverify).bind ?_
          rintro (error | ⟨⟩)
          · exact endsAlike_pure _
          · exact (endsAlike_emit _).bind fun _ => endsAlike_pure _

end Context

end Pass

/-- If the same session is consulted, in surroundings that look alike to it and to the factory,
inspections of a file come to the same end. -/
theorem Manager.inspect_alike {ε : Type} {R : World ε → World ε → Prop} {m m' : Manager ε} {file : Path}
    {uri : String} (huri : Uri.ofPath file = .ok uri)
    (hconsulted : m'.consulted? file = m.consulted? file)
    (hsession : ∀ session, m.sessionFor? uri = some session → session.Respects R)
    {factory : ProblemFactory (World ε)} (hfactory : factory.Respects R) (isPreview : Bool)
    {rest rest' : ε} (halike : R ⟨m.store, rest⟩ ⟨m'.store, rest'⟩) :
    ((inspect factory file isPreview).run (m', rest')).result =
      ((inspect factory file isPreview).run (m, rest)).result := by
  cases hsome : m.consulted? file with
  | none =>
      rw [(inspect_of_none factory isPreview rest hsome).1,
        (inspect_of_none factory isPreview rest' (hconsulted.trans hsome)).1]
  | some consulted =>
      obtain ⟨found, session⟩ := consulted
      obtain ⟨-, hfound, hstands⟩ := consulted?_eq_some_iff.mp hsome
      obtain rfl := Except.ok.inj (huri.symm.trans hfound)
      have hends := Pass.endsAlike_run ⟨uri, file, session, factory, isPreview⟩
        (hsession session hstands) hfactory _ _ halike
      rw [(inspect_of_some factory isPreview rest hsome).1,
        (inspect_of_some factory isPreview rest' (hconsulted.trans hsome)).1, hends.result]

end DiagnosticLens
