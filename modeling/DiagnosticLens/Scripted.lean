import DiagnosticLens.Manager
import DiagnosticLens.Wire.Request

/-!
# Scripted surroundings

Editors and a factory that follow a script: what an editor holds, what its server does when it is
asked for fixes, and which problems the factory takes are all laid down beforehand. A server may
change the text and the diagnostics before it answers, so that passes can be watched while things
move.

## Implementation notes

A `Bench` holds everything that is scripted and records what was asked of it. Editors stand under
the URI they were attached with; the diagnostics they deal with may stand under another.
-/

namespace DiagnosticLens.Scripted

/-- What a server does when it is asked for fixes. First come the changes, in the order of the
fields, then the answer. -/
structure Reaction where
  setText : Option String := none
  setVersion : Option UInt64 := none
  dispose : Bool := false
  forget : Bool := false
  publish : Option (List Diagnostic) := none
  append : List Diagnostic := []
  clear : Bool := false
  answer : Except String CodeActionAnswer := .ok none

/-- Where an editor has its diagnostics from. -/
inductive Source where
  | store
  | kept (items : List Diagnostic)
  | unreadable

/-- A request for fixes as it was made. -/
structure Request where
  anchor : Anchor
  params : Json

/-- An open editor and its server. -/
structure Editor where
  /-- Under what the store keeps the diagnostics of the editor. -/
  uri : String
  text : String := ""
  version : UInt64 := 1
  isDisposed : Bool := false
  source : Source := .store
  /-- Whether copies of the diagnostics are checked against the store. -/
  checksStore : Bool := true
  reactions : List Reaction := []
  /-- How often the server has followed its script. -/
  calls : Nat := 0
  requests : List Request := []

/-- What the factory does with a problem. -/
inductive Admission where
  | accept
  | notReady
  | refuse (reason : String)
  deriving DecidableEq, Repr

/-- How the factory was called. -/
inductive Construction where
  | create
  | createWithRemedies
  deriving DecidableEq, Repr

/-- All that is scripted, and what was asked of it. -/
structure Bench where
  editors : Registry Editor := {}
  /-- What the factory does with one problem after the other, from the start again at the end. -/
  admissions : List Admission := []
  /-- How often the factory has been called. -/
  constructed : Nat := 0
  constructions : List Construction := []

/-- The surroundings that follow a script. -/
abbrev Stage := World Bench

namespace Editor

/-- The next reaction of the server; it goes on with the last. -/
def reaction? (e : Editor) : Option Reaction := e.reactions[min e.calls (e.reactions.length - 1)]?

/-- What a reaction changes in the editor. -/
def follow (e : Editor) (r : Reaction) : Editor :=
  { e with
    text := r.setText.getD e.text
    version := r.setVersion.getD e.version
    isDisposed := e.isDisposed || r.dispose
    calls := e.calls + 1 }

end Editor

/-- What a reaction changes in the store. -/
def Reaction.write (r : Reaction) (uri : String) (store : Store) : Store :=
  let store := if r.forget then store.forget uri else store
  let store := match r.publish with
    | some items => store.publish uri items
    | none => store
  let store := r.append.foldl (fun store item => store.append uri item) store
  if r.clear then store.clear uri else store

namespace Bench

/-- The editor that was attached last under a URI. -/
def editor (b : Bench) (key : String) : Editor := (b.editors.get? key).getD { uri := key }

/-- Puts an editor under a URI. -/
def put (b : Bench) (key : String) (e : Editor) : Bench := { b with editors := b.editors.set key e }

/-- What the factory does with the next problem. -/
def admission (b : Bench) : Admission :=
  (b.admissions[b.constructed % b.admissions.length]?).getD .accept

/-- The requests of all editors in increasing order of their URIs, and the bench without them. -/
def takeRequests (b : Bench) : List Request × Bench :=
  (b.editors.sortedNames.flatMap fun key => (b.editor key).requests,
    b.editors.sortedNames.foldl (fun b key => b.put key { b.editor key with requests := [] }) b)

/-- The calls of the factory, and the bench without them. -/
def takeConstructions (b : Bench) : List Construction × Bench :=
  (b.constructions, { b with constructions := [] })

end Bench

/-- What an editor answers, given what the store knows. -/
def ask {α : Type} (key : String) (answer : Editor → Store → α) : StateM Stage α := fun w =>
  (answer (w.rest.editor key) w.store, w)

/-- Asks the server of an editor for fixes. The request is recorded with the diagnostics in the
store. -/
def requestFixes (key : String) (anchor : Anchor) :
    StateM Stage (Except String CodeActionAnswer) := fun w =>
  let e := w.rest.editor key
  let params := anchor.requestParams e.uri (w.store.snapshot e.uri).items
  let e := { e with requests := e.requests ++ [Request.mk anchor params] }
  match e.reaction? with
  | none => (.ok none, { w with rest := w.rest.put key e })
  | some r => (r.answer, ⟨r.write e.uri w.store, w.rest.put key (e.follow r)⟩)

/-- The session of the editor under a URI. -/
def session (key : String) : Session Stage where
  isDisposed := ask key fun e _ => e.isDisposed
  document := ask key fun e _ => .ofText e.text e.version
  documentVersion := ask key fun e _ => e.version
  diagnostics := ask key fun e store =>
    match e.source with
    | .store => .ok (store.snapshot e.uri)
    | .kept items => .ok (.detached e.uri items)
    | .unreadable => .error (.unreadable e.uri)
  verify snapshot := ask key fun e store => if e.checksStore then snapshot.verify store else .ok ()
  codeAction anchor := requestFixes key anchor

/-- Decides on a problem and records the call. -/
def consider (call : Construction) (build : Except ConstructionError Problem) :
    StateM Stage (Except ConstructionError Problem) := fun w =>
  let b := w.rest
  let decision := match b.admission with
    | .accept => build
    | .notReady => .error .notReady
    | .refuse reason => .error (.invalidAnchor reason)
  (decision, { w with rest :=
    { b with constructed := b.constructed + 1, constructions := b.constructions ++ [call] } })

/-- The factory that follows the script. -/
def factory : ProblemFactory Stage where
  create anchor message highlight isPreview :=
    consider .create (Problem.build anchor message highlight isPreview [])
  createWithRemedies anchor message highlight isPreview remedies :=
    consider .createWithRemedies (Problem.build anchor message highlight isPreview remedies)

end DiagnosticLens.Scripted
