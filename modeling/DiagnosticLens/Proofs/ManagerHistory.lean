import DiagnosticLens.Manager
import Mathlib.Data.List.DropRight
import Mathlib.Data.List.Induction

/-!
# Histories of the manager

A history is the list of the operations on a manager since it was made from its settings: sessions
that come and go, notifications, and other events. What the manager has in store for a document is
what it was last told about that document, and the session of a document is the last one that was
attached to it since it was last closed.

## Implementation notes

`ManagerOp.told?` is all that an operation says about the diagnostics of a document, whether the
manager takes note of it or not. Of a notification this is one diagnostic for each that was sent, as
`WireDiagnostic.said` writes it out. That the manager takes note for every document which is a file
is the content of `ManagerOp.items_apply`, one operation at a time, and of `Manager.items_replay`,
for histories.
-/

namespace DiagnosticLens

variable {ε : Type}

/-- The severities and their numbers. -/
def severityNumbers : List (UInt64 × Severity) :=
  [(1, .error), (2, .warning), (3, .information), (4, .hint)]

/-- What a server says with a diagnostic. A number that no severity has says nothing about the
severity, and a code that is neither a string nor a number says nothing at all. -/
def WireDiagnostic.said (w : WireDiagnostic) : Diagnostic where
  range := w.range
  severity := w.severity.bind fun number => severityNumbers.lookup number
  message := w.message
  source := w.source
  code :=
    match w.code with
    | some (.str s) => some s
    | some (.num n) => some n.render
    | _ => none

theorem Severity.ofCode?_eq_lookup (number : UInt64) :
    ofCode? number = severityNumbers.lookup number := by
  simp only [ofCode?, severityNumbers, List.lookup_cons, List.lookup_nil]
  grind

/-- What is kept of a diagnostic is what the server says with it. -/
theorem WireDiagnostic.toDiagnostic_eq_said (w : WireDiagnostic) : w.toDiagnostic = w.said := by
  have hseverity : Severity.ofCode? = fun number => severityNumbers.lookup number :=
    funext Severity.ofCode?_eq_lookup
  have hcode : w.code.bind codeText? = w.said.code := by
    rw [said]
    rcases w.code with _ | _ | _ | _ | _ | _ | _ <;> rfl
  rw [toDiagnostic, hseverity, hcode]
  rfl

/-- A notification says as much as its diagnostics do, one after the other. -/
theorem PublishParams.toDiagnostics_eq (params : PublishParams) :
    params.toDiagnostics = params.diagnostics.map WireDiagnostic.said := by
  rw [toDiagnostics, funext WireDiagnostic.toDiagnostic_eq_said]

/-- One operation on the manager. -/
inductive ManagerOp (ε : Type) where
  | attach (uri : String) (session : Session (World ε))
  | detach (uri : String)
  | publish (params : PublishParams)
  | event (event : ServerEvent)

namespace ManagerOp

/-- Carries out an operation. -/
def apply (m : Manager ε) : ManagerOp ε → Manager ε
  | attach uri session => (m.attach uri session).1
  | detach uri => (m.detach uri).1
  | publish params => (m.handlePublish params).1
  | event e => (m.handle e).1

/-- What an event says about the diagnostics of a document. A document that is closed has none. -/
def eventTold? (uri : String) : ServerEvent → Option (List Diagnostic)
  | .diagnostics other items => if other = uri then some items else none
  | .closed other => if other = uri then some [] else none

/-- What an operation says about the diagnostics of a document. Without its session it has none. -/
def told? (uri : String) : ManagerOp ε → Option (List Diagnostic)
  | attach _ _ => none
  | detach other => eventTold? uri (.closed other)
  | publish params =>
    eventTold? uri (.diagnostics params.uri (params.diagnostics.map WireDiagnostic.said))
  | event e => eventTold? uri e

/-- The diagnostics that were last told of a document, or none if nothing was told of it. -/
def lastTold (uri : String) (ops : List (ManagerOp ε)) : List Diagnostic :=
  (ops.filterMap (told? uri)).getLast?.getD []

theorem lastTold_concat (uri : String) (ops : List (ManagerOp ε)) (op : ManagerOp ε) :
    lastTold uri (ops ++ [op]) = (op.told? uri).getD (lastTold uri ops) := by
  cases h : op.told? uri <;> simp [lastTold, List.filterMap_append, h]

/-- Whether an operation closes a document. -/
def closes (uri : String) : ManagerOp ε → Bool
  | detach other => other = uri
  | event (.closed other) => other = uri
  | _ => false

/-- The session that an operation attaches to a document, if it attaches one. -/
def attached? (uri : String) : ManagerOp ε → Option (Session (World ε))
  | attach other session => if other = uri then some session else none
  | _ => none

/-- The operations at the end of a history, behind the last one that closes a document. -/
def sinceClosed (uri : String) (ops : List (ManagerOp ε)) : List (ManagerOp ε) :=
  ops.rtakeWhile fun op => !op.closes uri

/-- The session that was last attached to a document since the document was last closed. -/
def lastAttached? (uri : String) (ops : List (ManagerOp ε)) : Option (Session (World ε)) :=
  ((sinceClosed uri ops).filterMap (attached? uri)).getLast?

theorem lastAttached?_concat (uri : String) (ops : List (ManagerOp ε)) (op : ManagerOp ε) :
    lastAttached? uri (ops ++ [op]) =
      if op.closes uri then none else (op.attached? uri).or (lastAttached? uri ops) := by
  rw [lastAttached?, sinceClosed, List.rtakeWhile_concat]
  cases op.closes uri with
  | true => rfl
  | false =>
      cases h : op.attached? uri <;> simp [lastAttached?, sinceClosed, List.filterMap_append, h]

/-- A document has no session in the end exactly if none was attached since it was last closed. -/
theorem lastAttached?_eq_none_iff {uri : String} {ops : List (ManagerOp ε)} :
    lastAttached? uri ops = none ↔ ∀ session, attach uri session ∉ sinceClosed uri ops := by
  rw [lastAttached?, List.getLast?_eq_none_iff, List.filterMap_eq_nil_iff]
  constructor
  · intro hnone session hmem
    have hattached := hnone _ hmem
    simp [attached?] at hattached
  · intro hnone op hmem
    cases op with
    | attach other session =>
        by_cases h : other = uri
        · subst h
          exact absurd hmem (hnone session)
        · simp [attached?, h]
    | detach other => rfl
    | publish params => rfl
    | event e => rfl

end ManagerOp

namespace Manager

/-- No diagnostics of a file are ignored. -/
theorem handle_diagnostics {uri : String} (hfile : (Uri.toPath? uri).isSome) (m : Manager ε)
    (items : List Diagnostic) :
    m.handle (.diagnostics uri items) =
      ({ m with store := m.store.publish uri items }, [.diagnosticsUpdated uri items.length]) := by
  obtain ⟨path, hpath⟩ := Option.isSome_iff_exists.mp hfile
  simp only [handle, hpath]

/-- No diagnostics of a file are ignored in a notification: each that was sent is kept, and they are
kept in their order. -/
theorem handlePublish_of_file {params : PublishParams} (hfile : (Uri.toPath? params.uri).isSome)
    (m : Manager ε) :
    m.handlePublish params =
      ({ m with store :=
          m.store.publish params.uri (params.diagnostics.map WireDiagnostic.said) },
        [.diagnosticsUpdated params.uri params.diagnostics.length]) := by
  rw [handlePublish, handle_diagnostics hfile, params.toDiagnostics_eq, List.length_map]

/-- After an event a file has the diagnostics that the event says, or those it had. -/
theorem items_handle {uri : String} (hfile : (Uri.toPath? uri).isSome) (m : Manager ε)
    (e : ServerEvent) :
    ((m.handle e).1.store.entry uri).items =
      (ManagerOp.eventTold? uri e).getD (m.store.entry uri).items := by
  cases e with
  | diagnostics other items =>
      by_cases h : other = uri
      · subst h
        simp [handle_diagnostics hfile, ManagerOp.eventTold?, Store.publish]
      · have hkept : (m.handle (.diagnostics other items)).1.store.entry uri =
            m.store.entry uri := by
          rw [handle]
          cases Uri.toPath? other with
          | none => rfl
          | some path => exact Store.entry_write_of_ne _ _ (Ne.symm h)
        rw [hkept, ManagerOp.eventTold?, if_neg h, Option.getD_none]
  | closed other =>
      by_cases h : other = uri
      · subst h
        simp [handle, detach, ManagerOp.eventTold?]
      · simp [handle, detach, ManagerOp.eventTold?, h, Store.entry_forget_of_ne _ (Ne.symm h)]

/-- Diagnostics leave all sessions. -/
theorem sessions_handle_diagnostics (m : Manager ε) (uri : String) (items : List Diagnostic) :
    (m.handle (.diagnostics uri items)).1.sessions = m.sessions := by
  rw [handle]
  cases Uri.toPath? uri <;> rfl

/-- Whoever is detached, no other document loses its session. -/
theorem sessionFor?_detach (m : Manager ε) (other uri : String) :
    (m.detach other).1.sessionFor? uri = if other = uri then none else m.sessionFor? uri := by
  by_cases h : other = uri
  · subst h
    simp [sessionFor?, detach]
  · rw [if_neg h]
    exact Registry.get?_erase_of_ne _ (Ne.symm h)

/-- Events leave the map from extensions to servers. -/
theorem extensions_handle (m : Manager ε) (e : ServerEvent) :
    (m.handle e).1.extensions = m.extensions := by
  cases e with
  | diagnostics uri items =>
      rw [handle]
      cases Uri.toPath? uri <;> rfl
  | closed uri => rfl

end Manager

namespace ManagerOp

/-- After an operation a file has the diagnostics that the operation says, or those it had. -/
theorem items_apply {uri : String} (hfile : (Uri.toPath? uri).isSome) (m : Manager ε)
    (op : ManagerOp ε) :
    ((op.apply m).store.entry uri).items = (op.told? uri).getD (m.store.entry uri).items := by
  cases op with
  | attach other session => rfl
  | detach other => exact Manager.items_handle hfile m (.closed other)
  | publish params =>
      rw [told?, ← params.toDiagnostics_eq]
      exact Manager.items_handle hfile m _
  | event e => exact Manager.items_handle hfile m e

/-- After an operation a document has the session that the operation attaches to it, or the one it
had, unless the operation closes it. -/
theorem sessionFor?_apply (m : Manager ε) (op : ManagerOp ε) (uri : String) :
    (op.apply m).sessionFor? uri =
      if op.closes uri then none else (op.attached? uri).or (m.sessionFor? uri) := by
  cases op with
  | attach other session =>
      by_cases h : other = uri
      · subst h
        simp [apply, Manager.attach, Manager.sessionFor?, closes, attached?]
      · simp only [closes, attached?, if_neg h, Option.none_or, Bool.false_eq_true, if_false]
        exact Registry.get?_set_of_ne _ _ (Ne.symm h)
  | detach other =>
      simpa [apply, closes, attached?] using m.sessionFor?_detach other uri
  | publish params =>
      exact congrArg (·.get? uri) (m.sessions_handle_diagnostics params.uri params.toDiagnostics)
  | event e =>
      cases e with
      | diagnostics other items =>
          exact congrArg (·.get? uri) (m.sessions_handle_diagnostics other items)
      | closed other =>
          simpa [apply, Manager.handle, closes, attached?] using m.sessionFor?_detach other uri

/-- Operations leave the map from extensions to servers. -/
theorem extensions_apply (m : Manager ε) (op : ManagerOp ε) :
    (op.apply m).extensions = m.extensions := by
  cases op with
  | attach uri session => rfl
  | detach uri => rfl
  | publish params => exact Manager.extensions_handle m _
  | event e => exact Manager.extensions_handle m e

end ManagerOp

namespace Manager

/-- The manager that settings and a history lead to. -/
def replay (config : Config) (ops : List (ManagerOp ε)) : Manager ε :=
  ops.foldl ManagerOp.apply (ofConfig config).1

theorem replay_concat (config : Config) (ops : List (ManagerOp ε)) (op : ManagerOp ε) :
    replay config (ops ++ [op]) = op.apply (replay config ops) := by
  simp [replay]

/-- A file has the diagnostics that were last told of it. -/
theorem items_replay (config : Config) (ops : List (ManagerOp ε)) {uri : String}
    (hfile : (Uri.toPath? uri).isSome) :
    ((replay config ops).store.entry uri).items = ManagerOp.lastTold uri ops := by
  induction ops using List.reverseRecOn with
  | nil => rfl
  | append_singleton ops op ih =>
      rw [replay_concat, ManagerOp.items_apply hfile, ih, ManagerOp.lastTold_concat]

/-- A document has the session that was last attached to it since it was last closed. -/
theorem sessionFor?_replay (config : Config) (ops : List (ManagerOp ε)) (uri : String) :
    (replay config ops).sessionFor? uri = ManagerOp.lastAttached? uri ops := by
  induction ops using List.reverseRecOn with
  | nil => rfl
  | append_singleton ops op ih =>
      rw [replay_concat, ManagerOp.sessionFor?_apply, ih, ManagerOp.lastAttached?_concat]

/-- Which files are inspected depends on the settings alone. -/
theorem extensions_replay (config : Config) (ops : List (ManagerOp ε)) :
    (replay config ops).extensions = (ExtensionMap.ofConfig config).1 := by
  induction ops using List.reverseRecOn with
  | nil => rfl
  | append_singleton ops op ih => rw [replay_concat, ManagerOp.extensions_apply, ih]

end Manager

end DiagnosticLens
