import DiagnosticLens.Session
import DiagnosticLens.Traced

/-!
# Passes

A pass turns the diagnostics of one session into problems. It takes a copy of the diagnostics and
of the text, then goes through the diagnostics in order: it finds the stretch of text that each
covers, asks the server for fixes there, and has the editor build the problem. A diagnostic that
covers nothing, or whose problem is not taken, is left out. In the end the pass checks that
neither the diagnostics nor the text have changed in the meantime, and gives nothing if they have.
-/

namespace DiagnosticLens

variable {σ : Type}

/-- What came of asking for fixes. -/
inductive Remedies where
  /-- There is no answer. -/
  | unavailable
  /-- There is an answer, perhaps an empty one. -/
  | resolved (remedies : List Remedy)

namespace Pass

/-- The event for one proposal of an answer. -/
def offerEvent : Proposal → Event
  | .command c => .commandOffered c.title
  | .action a => .actionOffered a.title

/-- The remedies of an answer, with an event for each proposal in the order they came in. -/
def remediesOf (uri : String) (entries : List (Option Proposal)) : Traced σ (List Remedy) := do
  Traced.emitAll ((entries.filterMap id).map offerEvent)
  return Remedy.ofProposals uri entries

/-- Asks for the fixes at an anchor. A request that fails is reported and counts as no answer. -/
def resolveRemedies (uri : String) (session : Session σ) (anchor : Anchor) :
    Traced σ Remedies := do
  match ← Traced.quiet (session.codeAction anchor) with
  | .ok (some entries) => return .resolved (← remediesOf uri entries)
  | .ok none => return .unavailable
  | .error error =>
    Traced.emit (.requestFailed uri error)
    return .unavailable

/-- What a pass is about. -/
structure Context (σ : Type) where
  uri : String
  file : Path
  session : Session σ
  factory : ProblemFactory σ
  isPreview : Bool

/-- The anchor of a diagnostic in a document, or the event for there being none. -/
def anchorOf (uri : String) (file : Path) (document : Document) (d : Diagnostic) :
    Except Event Anchor :=
  let start := document.offsetOf d.range.start
  let stop := document.offsetOf d.range.stop
  match TextSpan.ofBounds? start stop with
  | none => .error (.emptyRange uri d.range.start)
  | some span =>
    match document.textIn span with
    | none => .error (.outsideText uri span)
    | some text => .ok ⟨text, span, d.range, document.version, file⟩

/-- Has the editor build the problem of a diagnostic at its anchor. -/
def construct (ctx : Context σ) (d : Diagnostic) (anchor : Anchor) :
    Traced σ (Except ConstructionError Problem) := do
  match ← resolveRemedies ctx.uri ctx.session anchor with
  | .unavailable =>
    Traced.quiet (ctx.factory.create anchor d.message d.highlight ctx.isPreview)
  | .resolved remedies =>
    Traced.quiet
      (ctx.factory.createWithRemedies anchor d.message d.highlight ctx.isPreview remedies)

/-- The problem of one diagnostic, unless it covers nothing or is not taken. -/
def problemOf (ctx : Context σ) (document : Document) (d : Diagnostic) :
    Traced σ (Option Problem) := do
  match anchorOf ctx.uri ctx.file document d with
  | .error event =>
    Traced.emit event
    return none
  | .ok anchor =>
    match ← construct ctx d anchor with
    | .ok problem => return some problem
    | .error error =>
      Traced.emit (.problemRejected ctx.uri d.message error)
      return none

/-- The problems of the diagnostics, in their order. -/
def problemsOf (ctx : Context σ) (document : Document) : List Diagnostic → Traced σ (List Problem)
  | [] => return []
  | d :: ds => do
    let problem ← problemOf ctx document d
    let problems ← problemsOf ctx document ds
    return problem.toList ++ problems

/-- Checks that the diagnostics and the text are those that the pass read. -/
def confirm (session : Session σ) (snapshot : Snapshot) (document : Document) :
    Traced σ (Except PassError Unit) := do
  match ← Traced.quiet (session.verify snapshot) with
  | .error error => return .error (.snapshot error)
  | .ok () =>
    let found ← Traced.quiet session.documentVersion
    if found = document.version then return .ok ()
    else return .error (.documentChanged document.version found)

/-- Runs a pass. If the editor is gone there are no problems. -/
def run (ctx : Context σ) : Traced σ (Except PassError (List Problem)) := do
  if ← Traced.quiet ctx.session.isDisposed then
    Traced.emit (.editorDisposed ctx.uri)
    return .ok []
  match ← Traced.quiet ctx.session.diagnostics with
  | .error error => return .error (.snapshot error)
  | .ok snapshot =>
    let document ← Traced.quiet ctx.session.document
    let problems ← problemsOf ctx document snapshot.items
    match ← confirm ctx.session snapshot document with
    | .error error => return .error error
    | .ok () =>
      Traced.emit (.passComplete ctx.uri snapshot.items.length problems.length)
      return .ok problems

end Pass

end DiagnosticLens
