import DiagnosticLens.Inspection

/-!
# Which session an inspection consults

About a file the inspection consults at most one session. If there is one, the inspection is a pass
with this session and nothing besides; if there is none, the file is left to others and everything
stays as it was.
-/

namespace DiagnosticLens

variable {ε : Type}

/-- What an inspection makes of the end that its pass came to. -/
def Inspection.ofPass : Except PassError (List Problem) → Inspection
  | .ok problems => .reported problems
  | .error _ => .aborted

/-- A file about which a session was consulted is not left to others. -/
theorem Inspection.ofPass_ne_delegated (result : Except PassError (List Problem)) :
    ofPass result ≠ .delegated := by
  cases result <;> simp [ofPass]

namespace Manager

/-- The session that is consulted about a file, with the URI that it stands under. -/
def consulted? (m : Manager ε) (file : Path) : Option (String × Session (World ε)) :=
  if m.supports file.extensionText? then
    (Uri.ofPath file).toOption.bind fun uri => (m.sessionFor? uri).map (uri, ·)
  else none

/-- A session is consulted about a file of a kind that is looked after, if it stands under the URI of
the file. -/
theorem consulted?_eq_some_iff {m : Manager ε} {file : Path} {uri : String}
    {session : Session (World ε)} :
    m.consulted? file = some (uri, session) ↔
      m.supports file.extensionText? ∧ Uri.ofPath file = .ok uri ∧
        m.sessionFor? uri = some session := by
  rw [consulted?]
  cases m.supports file.extensionText? with
  | false => simp
  | true =>
      cases Uri.ofPath file with
      | error error => simp [Except.toOption]
      | ok own =>
          simp only [Except.toOption, if_true, Option.bind_some, Option.map_eq_some_iff,
            Prod.mk.injEq, true_and, Except.ok.injEq]
          constructor
          · rintro ⟨found, hfound, rfl, rfl⟩
            exact ⟨rfl, hfound⟩
          · rintro ⟨rfl, hfound⟩
            exact ⟨session, hfound, rfl, rfl⟩

/-- About a file no other session is consulted than the one under its URI. -/
theorem consulted?_of_session {m : Manager ε} {file : Path} {uri : String}
    {session : Session (World ε)} (huri : Uri.ofPath file = .ok uri)
    (hsession : m.sessionFor? uri = some session) :
    m.consulted? file = none ∨ m.consulted? file = some (uri, session) := by
  by_cases hsupports : m.supports file.extensionText?
  · exact Or.inr (consulted?_eq_some_iff.mpr ⟨hsupports, huri, hsession⟩)
  · left
    rw [consulted?, if_neg hsupports]

variable {m : Manager ε} {file : Path} (factory : ProblemFactory (World ε)) (isPreview : Bool)
  (rest : ε)

/-- With no session to consult, a file is left to others, and nothing changes. -/
theorem inspect_of_none (h : m.consulted? file = none) :
    ((inspect factory file isPreview).run (m, rest)).result = .delegated ∧
      ((inspect factory file isPreview).run (m, rest)).state = (m, rest) := by
  rw [consulted?] at h
  rw [Traced.run, inspect]
  cases hsupports : m.supports file.extensionText? with
  | false => simp
  | true =>
      cases huri : Uri.ofPath file with
      | error error => simp
      | ok uri =>
          have hsession : m.sessionFor? uri = none := by
            simpa [hsupports, huri, Except.toOption] using h
          simp [hsession]

/-- With a session to consult, the inspection is a pass with this session. Of the manager, only the
store takes part in it. -/
theorem inspect_of_some {uri : String} {session : Session (World ε)}
    (h : m.consulted? file = some (uri, session)) :
    let pass := (Pass.run ⟨uri, file, session, factory, isPreview⟩).run ⟨m.store, rest⟩
    ((inspect factory file isPreview).run (m, rest)).result = .ofPass pass.result ∧
      ((inspect factory file isPreview).run (m, rest)).state =
        ({ m with store := pass.state.store }, pass.state.rest) := by
  intro pass
  obtain ⟨hsupports, huri, hsession⟩ := consulted?_eq_some_iff.mp h
  have hpass : (Pass.run ⟨uri, file, session, factory, isPreview⟩).run ⟨m.store, rest⟩ = pass := rfl
  simp only [Traced.run, inspect, hsupports, if_true, huri, hsession]
  rw [Traced.run] at hpass
  rw [hpass]
  cases pass.result with
  | ok problems => exact ⟨rfl, rfl⟩
  | error error => exact ⟨rfl, rfl⟩

/-- A file is left to others exactly if there is no session to consult about it. -/
theorem inspect_eq_delegated_iff :
    ((inspect factory file isPreview).run (m, rest)).result = .delegated ↔
      m.consulted? file = none := by
  constructor
  · intro hresult
    cases hconsulted : m.consulted? file with
    | none => rfl
    | some consulted =>
        obtain ⟨hpass, -⟩ := inspect_of_some factory isPreview rest hconsulted
        rw [hpass] at hresult
        exact absurd hresult (Inspection.ofPass_ne_delegated _)
  · intro hnone
    exact (inspect_of_none factory isPreview rest hnone).1

end Manager

end DiagnosticLens
