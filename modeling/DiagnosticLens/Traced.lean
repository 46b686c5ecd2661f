import DiagnosticLens.Event

/-!
# Actions that report events

A traced action changes a state and gives, besides its result, the events it reports, in order.
-/

namespace DiagnosticLens

/-- What a traced action leaves behind. -/
structure Outcome (σ α : Type) where
  result : α
  events : List Event
  state : σ

/-- An action on a state that reports events. -/
def Traced (σ α : Type) := σ → Outcome σ α

namespace Traced

variable {σ α β : Type}

/-- Runs an action from a state. -/
def run (action : Traced σ α) (s : σ) : Outcome σ α := action s

instance : Monad (Traced σ) where
  pure a := fun s => ⟨a, [], s⟩
  bind action next := fun s =>
    let first := action s
    let second := next first.result first.state
    ⟨second.result, first.events ++ second.events, second.state⟩

/-- Reports an event. -/
def emit (e : Event) : Traced σ Unit := fun s => ⟨(), [e], s⟩

/-- Reports several events. -/
def emitAll (es : List Event) : Traced σ Unit := fun s => ⟨(), es, s⟩

/-- An action that reports nothing. -/
def quiet (action : StateM σ α) : Traced σ α := fun s =>
  let (a, s) := action.run s
  ⟨a, [], s⟩

@[simp]
theorem run_pure (a : α) (s : σ) : (pure a : Traced σ α).run s = ⟨a, [], s⟩ := rfl

@[simp]
theorem run_bind (action : Traced σ α) (next : α → Traced σ β) (s : σ) :
    (action >>= next).run s =
      ⟨((next (action.run s).result).run (action.run s).state).result,
        (action.run s).events ++ ((next (action.run s).result).run (action.run s).state).events,
        ((next (action.run s).result).run (action.run s).state).state⟩ := rfl

@[simp]
theorem run_emit (e : Event) (s : σ) : (emit e : Traced σ Unit).run s = ⟨(), [e], s⟩ := rfl

@[simp]
theorem run_emitAll (es : List Event) (s : σ) : (emitAll es : Traced σ Unit).run s = ⟨(), es, s⟩ :=
  rfl

@[simp]
theorem run_quiet (action : StateM σ α) (s : σ) :
    (quiet action).run s = ⟨(action.run s).1, [], (action.run s).2⟩ := rfl

end Traced

end DiagnosticLens
