import DiagnosticLens.Proofs.Claimants
import DiagnosticLens.Proofs.Consulted
import DiagnosticLens.Proofs.Delivery

/-!
# Which files are left to others

The inspection answers for a file or leaves it to others. Which of the two it does is settled by the
settings, by the path of the file and by the history of the one document that the path names. If it
answers, it has consulted the session that was last attached to this document, whatever happened to
other documents in the meantime.
-/

namespace DiagnosticLens.Manager

variable {ε : Type}

/-- Over a history, a session is consulted about a file exactly if the settings look after its kind
and the session was the last to be attached to the document since it was last closed. -/
theorem consulted?_replay_eq_some_iff {config : Config} {ops : List (ManagerOp ε)} {file : Path}
    {uri : String} {session : Session (World ε)} :
    (replay config ops).consulted? file = some (uri, session) ↔
      (config.enabled ∧ ∃ ext, file.extensionText? = some ext ∧ config.Lists ext) ∧
        Uri.ofPath file = .ok uri ∧ ManagerOp.lastAttached? uri ops = some session := by
  rw [consulted?_eq_some_iff, supports, extensions_replay, ExtensionMap.supports_ofConfig_iff,
    sessionFor?_replay]

/-- What it takes for a file to be left to others, after some history. -/
def LeftToOthers (config : Config) (ops : List (ManagerOp ε)) (file : Path) : Prop :=
  config.enabled = false ∨
    (¬ ∃ ext, file.extensionText? = some ext ∧ config.Lists ext) ∨
    file.isAbsolute = false ∨
    ∃ uri, Uri.ofPath file = .ok uri ∧
      ∀ session, ManagerOp.attach uri session ∉ ManagerOp.sinceClosed uri ops

/-- Over a history, there is no session to consult about exactly the files that are left to others. -/
theorem consulted?_replay_eq_none_iff (config : Config) (ops : List (ManagerOp ε)) (file : Path) :
    (replay config ops).consulted? file = none ↔ LeftToOthers config ops file := by
  rw [LeftToOthers, Option.eq_none_iff_forall_not_mem]
  constructor
  · intro hnone
    by_cases henabled : config.enabled
    · by_cases hlists : ∃ ext, file.extensionText? = some ext ∧ config.Lists ext
      · by_cases habsolute : file.isAbsolute
        · -- a file that could be inspected can only lack a session
          obtain ⟨rest, huri⟩ := Uri.ofPath_eq_ok habsolute
          refine Or.inr (Or.inr (Or.inr ⟨_, huri, ManagerOp.lastAttached?_eq_none_iff.mp ?_⟩))
          rw [Option.eq_none_iff_forall_not_mem]
          intro session hsession
          exact hnone _ (consulted?_replay_eq_some_iff.mpr ⟨⟨henabled, hlists⟩, huri, hsession⟩)
        · exact Or.inr (Or.inr (Or.inl (Bool.eq_false_iff.mpr habsolute)))
      · exact Or.inr (Or.inl hlists)
    · exact Or.inl (Bool.eq_false_iff.mpr henabled)
  · rintro hleft ⟨uri, session⟩ hconsulted
    obtain ⟨⟨henabled, hlists⟩, huri, hattached⟩ := consulted?_replay_eq_some_iff.mp hconsulted
    rcases hleft with hdisabled | hunlisted | hrelative | ⟨own, hown, hnone⟩
    · rw [hdisabled] at henabled
      cases henabled
    · exact hunlisted hlists
    · rw [Uri.ofPath_eq_error hrelative] at huri
      cases huri
    · obtain rfl := Except.ok.inj (hown.symm.trans huri)
      rw [ManagerOp.lastAttached?_eq_none_iff.mpr hnone] at hattached
      cases hattached

/-- After any history, a file is left to others exactly if files are not inspected at all, if no
server lists its extension, if its path does not start at the root, or if no session was attached to
its document since the document was last closed. Any other file is inspected by a pass with the
session that was last attached. -/
theorem delegated_iff_left_to_others (config : Config) (ops : List (ManagerOp ε)) (file : Path)
    (factory : ProblemFactory (World ε)) (isPreview : Bool) (rest : ε) :
    (((inspect factory file isPreview).run (replay config ops, rest)).result = .delegated ↔
        LeftToOthers config ops file) ∧
      (¬ LeftToOthers config ops file →
        ∃ uri session, Uri.ofPath file = .ok uri ∧
          ManagerOp.lastAttached? uri ops = some session ∧
          ((inspect factory file isPreview).run (replay config ops, rest)).result =
            .ofPass ((Pass.run ⟨uri, file, session, factory, isPreview⟩).run
              ⟨(replay config ops).store, rest⟩).result) := by
  constructor
  · rw [inspect_eq_delegated_iff, consulted?_replay_eq_none_iff]
  · intro hours
    rw [← consulted?_replay_eq_none_iff] at hours
    obtain ⟨⟨uri, session⟩, hconsulted⟩ := Option.ne_none_iff_exists'.mp hours
    obtain ⟨-, huri, hattached⟩ := consulted?_replay_eq_some_iff.mp hconsulted
    exact ⟨uri, session, huri, hattached, (inspect_of_some factory isPreview rest hconsulted).1⟩

/-- The file `/a.h`. -/
def headerFile : Path := ⟨[0x2F, 0x61, 0x2E, 0x68]⟩

/-- The file that was opened, closed and opened again is inspected with the session of the second
time, and once it is closed again it is left to others. The other file is left to others for its
extension, although it is open. -/
theorem delegated_iff_left_to_others_reopened :
    ¬ LeftToOthers clangConfig reopened sourceFile ∧
      (∃ uri session, Uri.ofPath sourceFile = .ok uri ∧
        ManagerOp.lastAttached? uri reopened = some session ∧
        ((inspect (ProblemFactory.plain (World Unit)) sourceFile true).run
            (replay clangConfig reopened, ())).result =
          .ofPass ((Pass.run ⟨uri, sourceFile, session, ProblemFactory.plain (World Unit), true⟩).run
            ⟨(replay clangConfig reopened).store, ()⟩).result) ∧
      ((inspect (ProblemFactory.plain (World Unit)) sourceFile true).run
        (replay clangConfig (reopened ++ [.event (.closed "file:///a.c")]), ())).result =
          .delegated ∧
      headerFile.isAbsolute ∧ Uri.ofPath headerFile = .ok "file:///a.h" ∧
      ManagerOp.lastAttached? "file:///a.h" reopened =
        some (quietSession "file:///a.h" "int" 1) ∧
      ((inspect (ProblemFactory.plain (World Unit)) headerFile true).run
        (replay clangConfig reopened, ())).result = .delegated := by
  have hours : ¬ LeftToOthers clangConfig reopened sourceFile := by
    have hconsulted : (replay clangConfig reopened).consulted? sourceFile =
        some ("file:///a.c", quietSession "file:///a.c" "let xy" 7) := by
      rw [consulted?_replay_eq_some_iff, ← ExtensionMap.supports_ofConfig_iff]
      exact ⟨supports_sourceFile, rfl, rfl⟩
    rw [← consulted?_replay_eq_none_iff, hconsulted]
    exact Option.some_ne_none _
  refine ⟨hours, (delegated_iff_left_to_others _ _ _ _ _ _).2 hours, ?_, rfl, rfl, rfl, ?_⟩
  · refine (delegated_iff_left_to_others _ _ _ _ _ _).1.mpr (Or.inr (Or.inr (Or.inr ?_)))
    exact ⟨"file:///a.c", rfl, ManagerOp.lastAttached?_eq_none_iff.mp rfl⟩
  · refine (delegated_iff_left_to_others _ _ _ _ _ _).1.mpr (Or.inr (Or.inl ?_))
    rintro ⟨ext, hext, hlists⟩
    obtain rfl : "h" = ext := Option.some.inj hext
    exact absurd (lists_clangConfig_iff.mp hlists) (by decide)

end DiagnosticLens.Manager
