import DiagnosticLens.Inspection
import DiagnosticLens.Proofs.Claimants
import DiagnosticLens.Proofs.FileUri
import DiagnosticLens.Proofs.ManagerHistory
import DiagnosticLens.Proofs.PassContent

/-!
# Delivery of diagnostics

What a server says about a file comes out of the inspection of the file: the diagnostics that the
manager was last told of it, in their order, less those that cover no text. Nothing is lost on the
way between the notification, the URI of the file, the store, the session and the pass.

## Implementation notes

This is about sessions that go on quietly: they have a text, they have their diagnostics from the
manager, and they have no fixes. What other sessions can add to a pass is said elsewhere.
-/

namespace DiagnosticLens

variable {σ ε : Type}

/-- The problem of a diagnostic without fixes, if the diagnostic covers some text. -/
def Document.problem? (document : Document) (file : Path) (isPreview : Bool) (d : Diagnostic) :
    Option Problem :=
  (document.anchor? file d).map fun anchor => ⟨anchor, d.message, d.highlight, [], isPreview⟩

/-- A session that has this text and version, that has its diagnostics from the store, under this
URI, and that never has fixes. None of its answers changes anything. -/
structure Session.Quiet (session : Session (World ε)) (uri text : String) (version : UInt64)
    (w : World ε) : Prop where
  isDisposed : session.isDisposed.run w = (false, w)
  document : session.document.run w = (Document.ofText text version, w)
  documentVersion : session.documentVersion.run w = (version, w)
  diagnostics : session.diagnostics.run w = (.ok (w.store.snapshot uri), w)
  verify : ∀ snapshot, (session.verify snapshot).run w = (snapshot.verify w.store, w)
  codeAction : ∀ anchor, (session.codeAction anchor).run w = (.ok none, w)

namespace Pass

/-- Without answers the plain factory takes a problem in every turn, and nothing changes. -/
theorem turns_unanswered {ctx : Context σ} (hfactory : ctx.factory = ProblemFactory.plain σ) {s : σ}
    (hask : ∀ anchor, (ctx.session.codeAction anchor).run s = (.ok none, s))
    {visible : List (Diagnostic × Anchor)} (hvalid : ∀ v ∈ visible, v.2.check = .ok ()) :
    turns ctx visible s = (visible.map fun v => ⟨v.1, v.2, .ok none,
      .ok ⟨v.2, v.1.message, v.1.highlight, [], ctx.isPreview⟩⟩, s) := by
  induction visible with
  | nil => rfl
  | cons v visible ih =>
      have hcheck : v.2.check = .ok () := hvalid v (List.mem_cons_self ..)
      have hlater : ∀ v ∈ visible, v.2.check = .ok () :=
        fun v' hmem => hvalid v' (List.mem_cons_of_mem v hmem)
      have hmade : (ctx.factory.submit (ctx.submission v.1 v.2 (.ok none))).run s =
          (.ok ⟨v.2, v.1.message, v.1.highlight, [], ctx.isPreview⟩, s) := by
        rw [hfactory]
        exact ProblemFactory.submit_plain hcheck s
      simp only [turns, hask, hmade, ih hlater, List.map_cons]

/-- Without answers the plain factory takes the problems of all diagnostics that cover some text. -/
theorem taken_unanswered {ctx : Context σ} (hfactory : ctx.factory = ProblemFactory.plain σ) {s : σ}
    (hask : ∀ anchor, (ctx.session.codeAction anchor).run s = (.ok none, s)) (document : Document)
    (ds : List Diagnostic) :
    taken (turns ctx (document.visible ctx.file ds) s).1 =
        ds.filterMap (document.problem? ctx.file ctx.isPreview) ∧
      (turns ctx (document.visible ctx.file ds) s).2 = s := by
  have hvalid : ∀ v ∈ document.visible ctx.file ds, v.2.check = .ok () :=
    fun v hv => Document.check_of_anchor? (mem_visible.mp hv).2
  rw [turns_unanswered hfactory hask hvalid]
  constructor
  · simp only [taken, Document.visible, List.filterMap_map, List.filterMap_filterMap]
    apply List.filterMap_congr
    intro d _
    cases h : document.anchor? ctx.file d <;> simp [Document.problem?, h, Except.toOption]
  · rfl

/-- A pass with a quiet session and the plain factory reports the problems of the diagnostics in the
store. -/
theorem run_of_quiet {ctx : Context (World ε)} (hfactory : ctx.factory = ProblemFactory.plain (World ε))
    {own text : String} {version : UInt64} {w : World ε}
    (hquiet : ctx.session.Quiet own text version w) :
    ((run ctx).run w).result = .ok ((w.store.entry own).items.filterMap
      ((Document.ofText text version).problem? ctx.file ctx.isPreview)) := by
  have hlive : (ctx.session.isDisposed.run w).1 = false := by
    rw [hquiet.isDisposed]
  have hdiagnostics : ctx.session.diagnostics.run (ctx.session.isDisposed.run w).2 =
      (.ok (w.store.snapshot own), w) := by
    rw [hquiet.isDisposed]
    exact hquiet.diagnostics
  obtain ⟨hresult, -⟩ := run_of_readings hlive hdiagnostics hquiet.document
  obtain ⟨htaken, hsame⟩ := taken_unanswered hfactory hquiet.codeAction
    (Document.ofText text version) (w.store.snapshot own).items
  have hconfirm : ((confirm ctx.session (w.store.snapshot own)
      (Document.ofText text version)).run w).result = .ok () := by
    rw [confirm_eq_ok_iff, hquiet.verify, hquiet.documentVersion]
    exact ⟨if_pos rfl, rfl⟩
  rw [hresult, hsame, hconfirm, htaken]
  rfl

end Pass

namespace Manager

/-- The inspection of a file of which the manager looks after the kind, and which has a session,
comes down to a pass with this session. -/
theorem inspect_of_session {m : Manager ε} {factory : ProblemFactory (World ε)} {file : Path}
    {isPreview : Bool} {uri : String} {session : Session (World ε)} {rest : ε}
    {problems : List Problem} (hsupports : m.supports file.extensionText? = true)
    (huri : Uri.ofPath file = .ok uri) (hsession : m.sessionFor? uri = some session)
    (hok : ((Pass.run ⟨uri, file, session, factory, isPreview⟩).run ⟨m.store, rest⟩).result =
      .ok problems) :
    ((inspect factory file isPreview).run (m, rest)).result = .reported problems := by
  simp only [Traced.run, inspect, hsupports, if_true, huri, hsession]
  rw [Traced.run] at hok
  simp [hok]

/-- The diagnostics that the manager was last told of a file come out of its inspection. Neither an
event nor a notification about the file is ignored, and of a notification each diagnostic is kept,
in its place. -/
theorem told_diagnostics_reported (config : Config) (ops : List (ManagerOp ε)) {file : Path}
    (habsolute : file.isAbsolute)
    (hsupports : (ExtensionMap.ofConfig config).1.supports file.extensionText?) :
    ∃ uri, Uri.ofPath file = .ok uri ∧
      (∀ (m : Manager ε) items, m.handle (.diagnostics uri items) =
        ({ m with store := m.store.publish uri items }, [.diagnosticsUpdated uri items.length])) ∧
      (∀ (m : Manager ε) (params : PublishParams), params.uri = uri → m.handlePublish params =
        ({ m with store := m.store.publish uri (params.diagnostics.map WireDiagnostic.said) },
          [.diagnosticsUpdated uri params.diagnostics.length])) ∧
      ∀ session text version rest isPreview,
        (replay config ops).sessionFor? uri = some session →
        session.Quiet uri text version ⟨(replay config ops).store, rest⟩ →
        ((inspect (ProblemFactory.plain (World ε)) file isPreview).run
            (replay config ops, rest)).result =
          .reported ((ManagerOp.lastTold uri ops).filterMap
            ((Document.ofText text version).problem? file isPreview)) := by
  obtain ⟨rest, huri⟩ := Uri.ofPath_eq_ok habsolute
  -- the manager ignores URIs that name no file, but the URI of a path always names one
  have hfile := Uri.isSome_toPath?_ofPath huri
  refine ⟨_, huri, handle_diagnostics hfile, ?_, ?_⟩
  · intro m params hparams
    rw [← hparams] at hfile ⊢
    exact handlePublish_of_file hfile m
  · intro session text version rest isPreview hsession hquiet
    rw [← items_replay config ops hfile]
    refine inspect_of_session ?_ huri hsession (Pass.run_of_quiet rfl hquiet)
    rw [supports, extensions_replay]
    exact hsupports

/-- A quiet session for a document. -/
def quietSession (uri text : String) (version : UInt64) : Session (World ε) where
  isDisposed := pure false
  document := pure (Document.ofText text version)
  documentVersion := pure version
  diagnostics w := (.ok (w.store.snapshot uri), w)
  verify snapshot w := (snapshot.verify w.store, w)
  codeAction _ := pure (.ok none)

theorem quiet_quietSession (uri text : String) (version : UInt64) (w : World ε) :
    (quietSession uri text version).Quiet uri text version w :=
  ⟨rfl, rfl, rfl, rfl, fun _ => rfl, fun _ => rfl⟩

/-- Settings with one server, for files that end in `.c` or `.cc`. -/
def clangConfig : Config where
  servers := Registry.empty.set "clangd" ⟨"c", [".C", "cc"]⟩

theorem lists_clangConfig_iff {ext : String} :
    clangConfig.Lists ext ↔ bareExtension ext ∈ ["c", "cc"] := by
  have hbare : bareExtension ".C" = "c" ∧ bareExtension "cc" = "cc" := by decide
  constructor
  · rintro ⟨name, server, hserver, listed, hlisted, hsame⟩
    by_cases hname : name = "clangd"
    · simp only [clangConfig, hname, Registry.get?_set_self, Option.some.injEq] at hserver
      subst hserver
      grind
    · simp [clangConfig, Registry.get?_set_of_ne _ _ hname] at hserver
  · intro hbare'
    refine ⟨"clangd", _, Registry.get?_set_self _ _ _, ?_⟩
    grind

/-- The file `/a.c`. -/
def sourceFile : Path := ⟨[0x2F, 0x61, 0x2E, 0x63]⟩

theorem supports_sourceFile :
    (ExtensionMap.ofConfig clangConfig).1.supports sourceFile.extensionText? := by
  rw [ExtensionMap.supports_ofConfig_iff]
  exact ⟨rfl, "c", rfl, lists_clangConfig_iff.mpr (by decide)⟩

/-- A notification for the file. The second of its diagnostics covers nothing, the last one ends
behind the text and has a severity without a name. -/
def reopenedNotification : PublishParams where
  uri := "file:///a.c"
  version := some 7
  diagnostics :=
    [⟨⟨⟨0, 4⟩, ⟨0, 9⟩⟩, some 2, none, some (.str "W1"), "unused"⟩,
      ⟨⟨⟨0, 2⟩, ⟨0, 2⟩⟩, some 1, none, none, "empty"⟩,
      ⟨⟨⟨0, 2⟩, ⟨0, 4⟩⟩, some 1, none, none, "blank"⟩,
      ⟨⟨⟨0, 0⟩, ⟨0, 3⟩⟩, some 4, some "lint", some (.num (.ofUInt64 8)), "keyword"⟩,
      ⟨⟨⟨0, 0⟩, ⟨0, 6⟩⟩, some 3, none, none, "line"⟩,
      ⟨⟨⟨0, 5⟩, ⟨1, 0⟩⟩, some 9, none, some .null, "last"⟩]

/-- The file is opened, closed and opened again, and is told of before and after. Another one is
opened, too. -/
def reopened : List (ManagerOp Unit) :=
  [.attach "file:///a.c" (quietSession "file:///a.c" "" 1),
    .event (.diagnostics "file:///a.c" [⟨⟨⟨0, 0⟩, ⟨0, 1⟩⟩, none, "old", none, none⟩]),
    .detach "file:///a.c",
    .attach "file:///a.c" (quietSession "file:///a.c" "let xy" 7),
    .publish reopenedNotification,
    .attach "file:///a.h" (quietSession "file:///a.h" "int" 1),
    .event (.closed "file:///b.c")]

/-- The problem of the first diagnostic. -/
def reopenedProblem : Problem :=
  ⟨⟨"xy", ⟨4, 6, by decide⟩, ⟨⟨0, 4⟩, ⟨0, 9⟩⟩, 7, sourceFile⟩, "unused",
    some .genericErrorOrWarning, [], true⟩

/-- The problems that are reported in the end. -/
def reopenedProblems : List Problem :=
  [reopenedProblem,
    ⟨⟨"t ", ⟨2, 4, by decide⟩, ⟨⟨0, 2⟩, ⟨0, 4⟩⟩, 7, sourceFile⟩, "blank", some .genericError, [],
      true⟩,
    ⟨⟨"let", ⟨0, 3, by decide⟩, ⟨⟨0, 0⟩, ⟨0, 3⟩⟩, 7, sourceFile⟩, "keyword", some .information, [],
      true⟩,
    ⟨⟨"let xy", ⟨0, 6, by decide⟩, ⟨⟨0, 0⟩, ⟨0, 6⟩⟩, 7, sourceFile⟩, "line", some .information, [],
      true⟩,
    ⟨⟨"y", ⟨5, 6, by decide⟩, ⟨⟨0, 5⟩, ⟨1, 0⟩⟩, 7, sourceFile⟩, "last", none, [], true⟩]

/-- The inspection of the file reports them. -/
theorem told_diagnostics_reported_reopened :
    sourceFile.isAbsolute ∧
      (ExtensionMap.ofConfig clangConfig).1.supports sourceFile.extensionText? ∧
      Uri.ofPath sourceFile = .ok "file:///a.c" ∧
      ((inspect (ProblemFactory.plain (World Unit)) sourceFile true).run
        (replay clangConfig reopened, ())).result = .reported reopenedProblems := by
  have huri : Uri.ofPath sourceFile = .ok "file:///a.c" := rfl
  obtain ⟨uri, huri', -, -, hreported⟩ :=
    told_diagnostics_reported clangConfig reopened rfl supports_sourceFile
  obtain rfl := Except.ok.inj (huri.symm.trans huri')
  refine ⟨rfl, supports_sourceFile, huri, ?_⟩
  exact (hreported _ _ _ () true rfl (quiet_quietSession _ "let xy" 7 _)).trans rfl

end Manager

end DiagnosticLens
