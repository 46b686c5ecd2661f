import DiagnosticLens.Proofs.Interleaving

/-!
# A reported pass is current

Amid changes a pass either reports nothing, or what it reports was true at one moment: the moment at
which it verified its snapshot. The store still had the diagnostics that the pass went through, and
the editor still had the text that offsets were computed in.

## Implementation notes

The two checks of a pass are made at different moments. The first rules out writes from the reading
of the diagnostics up to the verification, the second edits from the reading of the text up to its
own moment, which is later. So at the moment of the verification both hold.
-/

namespace DiagnosticLens.Interleaving

open Pass

variable {ρ α : Type}

section Turns

variable (uri own : String) (file : Path) (isPreview : Bool)
variable (ask : Anchor → Scene → StateM ρ (Except String CodeActionAnswer)) (f : ProblemFactory ρ)

/-- A pass amid changes. -/
def context : Context (State ρ) := ⟨uri, file, session own ask, factory f, isPreview⟩

@[simp] theorem context_file : (context uri own file isPreview ask f).file = file := rfl

theorem context_isDisposed : (context uri own file isPreview ask f).session.isDisposed =
    reading .isDisposed fun _ => false := rfl

theorem context_diagnostics : (context uri own file isPreview ask f).session.diagnostics =
    reading .diagnostics fun scene => .ok (scene.store.snapshot own) := rfl

theorem context_document : (context uri own file isPreview ask f).session.document =
    reading .document fun scene => .ofText scene.text scene.version := rfl

theorem context_verify (snapshot : Snapshot) :
    (context uri own file isPreview ask f).session.verify snapshot =
      reading (.verify snapshot) fun scene => snapshot.verify scene.store := rfl

theorem context_documentVersion : (context uri own file isPreview ask f).session.documentVersion =
    reading .documentVersion fun scene => scene.version := rfl

/-- The turns of a pass take place one after the other. -/
theorem later_turns (visible : List (Diagnostic × Anchor)) (s : State ρ) :
    Later s.moment (turns (context uri own file isPreview ask f) visible s).2.moment := by
  refine turns_preserve (R := fun a b => Later a.moment b.moment) (fun a => Later.refl _)
    Later.trans ?_ ?_ visible s
  · intro anchor a
    exact a.later_advance.trans (a.later_behind _ _)
  · intro sub a
    change Later a.moment (((factory f).submit sub).run a).2.moment
    rw [submit_factory]
    exact Later.refl _

/-- In its turns a pass makes no other calls than its requests for fixes. -/
theorem seen_turns (visible : List (Diagnostic × Anchor)) (s : State ρ) :
    ∃ requests, (turns (context uri own file isPreview ask f) visible s).2.seen =
        s.seen ++ requests ∧
      requests.map Prod.fst = visible.map fun v => .codeAction v.2 := by
  induction visible generalizing s with
  | nil => exact ⟨[], by simp [turns], rfl⟩
  | cons v visible ih =>
      let ctx := context uri own file isPreview ask f
      let asked := (ctx.session.codeAction v.2).run s
      let made := (ctx.factory.submit (ctx.submission v.1 v.2 asked.1)).run asked.2
      have hmade : made.2.seen = s.seen ++ [(.codeAction v.2, s.advance.scene)] := by
        have hsame : made.2.seen = asked.2.seen := by
          change (((factory f).submit _).run asked.2).2.seen = _
          rw [submit_factory]
          rfl
        rw [hsame]
        exact s.seen_behind _ _
      obtain ⟨requests, hseen, hcalls⟩ := ih made.2
      refine ⟨(.codeAction v.2, s.advance.scene) :: requests, ?_, ?_⟩
      · rw [hmade, List.append_assoc] at hseen
        exact hseen
      · rw [List.map_cons, List.map_cons, hcalls]

/-- The moments at which a pass made its calls. It read its diagnostics and then its text, and both
of its checks passed at moments that came later. -/
structure Course (s : State ρ) (listed read checked closed : Moment) : Prop where
  later_listed : Later s.moment listed
  later_read : Later listed read
  later_checked : Later read checked
  later_closed : Later checked closed
  verified : (listed.scene.store.snapshot own).verify checked.scene.store = .ok ()
  unchanged : closed.scene.version = read.scene.version

/-- A pass that reports has taken its course: its readings, its requests for fixes, its checks. -/
theorem course_of_reported {s : State ρ} {problems : List Problem}
    (hok : ((run (context uri own file isPreview ask f)).run s).result = .ok problems) :
    ∃ (opened listed read checked closed : Moment) (requests : List (Call × Scene)) (s₂ : State ρ),
      Course own s listed read checked closed ∧
      ((run (context uri own file isPreview ask f)).run s).state.seen =
        s.seen ++ [(.isDisposed, opened.scene), (.diagnostics, listed.scene),
            (.document, read.scene)] ++ requests ++
          [(.verify (listed.scene.store.snapshot own), checked.scene),
            (.documentVersion, closed.scene)] ∧
      requests.map Prod.fst = ((listed.scene.store.snapshot own).items.filterMap
        ((Document.ofText read.scene.text read.scene.version).anchor? file)).map .codeAction ∧
      problems = taken (turns (context uri own file isPreview ask f)
        ((Document.ofText read.scene.text read.scene.version).visible file
          (listed.scene.store.snapshot own).items) s₂).1 := by
  obtain ⟨snapshot, document, s₁, s₂, s₃, hdiagnostics, hdocument, hverify, hversion, hproblems⟩ :=
    run_eq_ok rfl hok
  rcases hdisposed : (context uri own file isPreview ask f).session.isDisposed.run s with
    ⟨disposed, s₀⟩
  rw [hdisposed, context_diagnostics] at hdiagnostics
  rw [context_isDisposed] at hdisposed
  rw [context_document] at hdocument
  rw [context_verify, context_file] at hverify
  rw [context_documentVersion] at hversion
  rw [context_file] at hproblems
  obtain ⟨opened, -, hopened⟩ := reading_eq hdisposed
  obtain ⟨listed, hsnapshot, hlisted⟩ := reading_eq hdiagnostics
  obtain rfl := Except.ok.inj hsnapshot
  obtain ⟨read, rfl, hread⟩ := reading_eq hdocument
  obtain ⟨checked, hverified, hchecked⟩ := reading_eq hverify
  obtain ⟨closed, hunchanged, hclosed⟩ := reading_eq hversion
  have hturns := later_turns uri own file isPreview ask f
    ((Document.ofText read.scene.text read.scene.version).visible file
      (listed.scene.store.snapshot own).items) s₂
  obtain ⟨requests, hrequests, hasked⟩ := seen_turns uri own file isPreview ask f
    ((Document.ofText read.scene.text read.scene.version).visible file
      (listed.scene.store.snapshot own).items) s₂
  refine ⟨opened, listed, read, checked, closed, requests, s₂, ?_, ?_, ?_, hproblems⟩
  · exact
      { later_listed := hopened.before.trans (hopened.behind.trans hlisted.before)
        later_read := hlisted.behind.trans hread.before
        later_checked := hread.behind.trans (hturns.trans hchecked.before)
        later_closed := hchecked.behind.trans hclosed.before
        verified := hverified.symm
        unchanged := hunchanged.symm }
  · rw [hclosed.seen, hchecked.seen, hrequests, hread.seen, hlisted.seen, hopened.seen]
    simp
  · rw [hasked, ← Document.map_snd_visible, List.map_map]
    rfl

end Turns

/-- Every problem of the turns was made by the factory for a diagnostic, at its anchor. -/
theorem made_of_mem_taken {ctx : Context (State ρ)} {f : ProblemFactory ρ}
    (hfactory : ctx.factory = factory f) {document : Document} {ds : List Diagnostic} {s : State ρ}
    {problem : Problem}
    (h : problem ∈ taken (turns ctx (document.visible ctx.file ds) s).1) :
    ∃ d ∈ ds, ∃ anchor remedies r, document.anchor? ctx.file d = some anchor ∧
      ((f.submit ⟨anchor, d.message, d.highlight, ctx.isPreview, remedies⟩).run r).1 =
        .ok problem := by
  obtain ⟨t, ht, htaken⟩ := List.mem_filterMap.mp h
  obtain ⟨hmem, hanchor⟩ := mem_visible.mp (mem_visible_of_mem_turns ht)
  obtain ⟨s', hverdict⟩ := verdict_of_mem_turns ht
  rw [hfactory, submit_factory] at hverdict
  refine ⟨t.diagnostic, hmem, t.anchor, remediesFor ctx.uri t.answer, s'.rest, hanchor, ?_⟩
  cases hv : t.verdict with
  | error error => simp [hv, Except.toOption] at htaken
  | ok made =>
      obtain rfl : made = problem := by simpa [hv, Except.toOption] using htaken
      exact hverdict.symm.trans hv

/-- An anchor in a scene: it has the version of the text, it lies inside the text, and it has the
characters that stand there. -/
structure Stands (anchor : Anchor) (scene : Scene) : Prop where
  version : anchor.version = scene.version
  inside : anchor.span.stop ≤ scene.text.length
  text : anchor.text = excerpt scene.text anchor.span

/-- The anchors that a document has stand in every scene with its text and version. -/
theorem stands_of_anchor? {scene : Scene} {file : Path} {d : Diagnostic} {anchor : Anchor}
    (h : (Document.ofText scene.text scene.version).anchor? file d = some anchor) :
    Stands anchor scene := by
  obtain ⟨-, -, hinside, htext, -, hversion, -⟩ := Document.anchor?_eq_some h
  exact ⟨hversion, hinside, htext⟩

/-- A factory whose problems hang off the anchors that it was handed. -/
def KeepsAnchors (f : ProblemFactory ρ) : Prop :=
  ∀ sub r problem, ((f.submit sub).run r).1 = .ok problem → problem.anchor = sub.anchor

/-- What makes the report of a pass current at the moment of its verification. The pass had its
diagnostics at the moment `listed` and its text at the moment `read`. -/
structure Current (own : String) (file : Path) (isPreview : Bool) (f : ProblemFactory ρ)
    (listed read checked : Scene) (requests : List (Call × Scene)) (problems : List Problem) :
    Prop where
  /-- The store has the diagnostics that the pass went through. -/
  diagnostics : checked.store.snapshot own = listed.store.snapshot own
  /-- The editor has the text in which offsets were computed. -/
  text : checked.text = read.text
  version : checked.version = read.version
  /-- Fixes were asked for at the anchors of these diagnostics in this text. -/
  asked : requests.map Prod.fst = ((checked.store.snapshot own).items.filterMap
    ((Document.ofText checked.text checked.version).anchor? file)).map .codeAction
  /-- Every problem was made from one of these diagnostics, at its anchor in this text. -/
  made : ∀ problem ∈ problems, ∃ d ∈ (checked.store.snapshot own).items, ∃ anchor remedies r,
    (Document.ofText checked.text checked.version).anchor? file d = some anchor ∧
      Stands anchor checked ∧
      ((f.submit ⟨anchor, d.message, d.highlight, isPreview, remedies⟩).run r).1 = .ok problem
  /-- If the factory keeps anchors, those of the problems stand in this text. -/
  anchored : KeepsAnchors f → ∀ problem ∈ problems, Stands problem.anchor checked

/-- Whatever changes in the surroundings of a pass, and whenever: if the pass reports, its report is
current at the moment at which the snapshot was verified. -/
theorem reported_pass_current (uri own : String) (file : Path) (isPreview : Bool)
    (ask : Anchor → Scene → StateM ρ (Except String CodeActionAnswer)) (f : ProblemFactory ρ)
    (s : State ρ) (horderly : Orderly own s.scene s.ahead.flatten)
    (hwrites : writesTo own s.ahead.flatten < UInt64.size) {problems : List Problem}
    (hok : ((run (context uri own file isPreview ask f)).run s).result = .ok problems) :
    ∃ opened listed read checked closed requests,
      ((run (context uri own file isPreview ask f)).run s).state.seen =
        s.seen ++ [(.isDisposed, opened), (.diagnostics, listed), (.document, read)] ++ requests ++
          [(.verify (listed.store.snapshot own), checked), (.documentVersion, closed)] ∧
      Current own file isPreview f listed read checked requests problems := by
  obtain ⟨opened, listed, read, checked, closed, requests, s₂, hcourse, hseen, hasked, hproblems⟩ :=
    course_of_reported uri own file isPreview ask f hok
  -- the diagnostics were read first and verified last but one, so they span the whole pass
  have hsnapshot : checked.scene.store.snapshot own = listed.scene.store.snapshot own :=
    snapshot_of_verified (hcourse.later_listed.orderly horderly)
      (hcourse.later_listed.writesTo_le.trans_lt hwrites) (hcourse.later_read.trans hcourse.later_checked)
      hcourse.verified
  -- the version is looked at only later, which covers the moment of the verification as well
  obtain ⟨hversion, htext⟩ :=
    text_between ((hcourse.later_listed.trans hcourse.later_read).orderly horderly) hcourse.later_checked
      hcourse.later_closed hcourse.unchanged
  have hmade : ∀ problem ∈ problems, ∃ d ∈ (checked.scene.store.snapshot own).items,
      ∃ anchor remedies r,
        (Document.ofText checked.scene.text checked.scene.version).anchor? file d = some anchor ∧
          Stands anchor checked.scene ∧
          ((f.submit ⟨anchor, d.message, d.highlight, isPreview, remedies⟩).run r).1 =
            .ok problem := by
    intro problem hmem
    rw [hproblems] at hmem
    obtain ⟨d, hd, anchor, remedies, r, hanchor, hsubmitted⟩ := made_of_mem_taken rfl hmem
    rw [context_file, ← hversion, ← htext] at hanchor
    rw [← hsnapshot] at hd
    exact ⟨d, hd, anchor, remedies, r, hanchor, stands_of_anchor? hanchor, hsubmitted⟩
  refine ⟨_, _, _, _, _, requests, hseen, hsnapshot, htext, hversion, ?_, hmade, ?_⟩
  · rw [hsnapshot, htext, hversion]
    exact hasked
  · intro hkeeps problem hmem
    obtain ⟨d, hd, anchor, remedies, r, hanchor, hstands, hsubmitted⟩ := hmade problem hmem
    rw [hkeeps _ r problem hsubmitted]
    exact hstands

/-- Around a pass there is a publish before it reads the diagnostics, an edit before it reads the
text, a write to another document while it asks for fixes, and once the snapshot is verified there
are a publish and, at the very end, an edit. -/
def eventful : State Unit where
  scene := ⟨Store.empty, "", 1⟩
  ahead :=
    [[.edit "fn" 2],
      [.write (.publish "file:///a.c" [⟨⟨⟨0, 3⟩, ⟨0, 4⟩⟩, none, "unused", none, none⟩])], [],
      [.edit "fn x" 5], [], [], [.write (.clear "file:///b.c")], [], [],
      [.write (.publish "file:///a.c" [])], [], [.edit "" 6]]
  seen := []
  rest := ()

/-- A pass without fixes amid these changes. -/
def eventfulContext : Context (State Unit) :=
  context "file:///a.c" "file:///a.c" ⟨[0x2F, 0x61]⟩ false (fun _ _ => pure (.ok none))
    (ProblemFactory.plain Unit)

/-- The problem that it reports. -/
def eventfulProblem : Problem :=
  ⟨⟨"x", ⟨3, 4, by decide⟩, ⟨⟨0, 3⟩, ⟨0, 4⟩⟩, 5, ⟨[0x2F, 0x61]⟩⟩, "unused", none, [], false⟩

/-- The pass reports the problem in the text of the second edit, and it was current there. -/
theorem reported_pass_current_eventful :
    Orderly "file:///a.c" eventful.scene eventful.ahead.flatten ∧
      writesTo "file:///a.c" eventful.ahead.flatten < UInt64.size ∧
      ((run eventfulContext).run eventful).result = .ok [eventfulProblem] ∧
      ∃ listed read checked requests,
        Current "file:///a.c" ⟨[0x2F, 0x61]⟩ false (ProblemFactory.plain Unit) listed read checked
          requests [eventfulProblem] := by
  have horderly : Orderly "file:///a.c" eventful.scene eventful.ahead.flatten := by
    simp [eventful, Orderly, Change.Orderly, Change.apply]
  have hwrites : writesTo "file:///a.c" eventful.ahead.flatten < UInt64.size := by
    decide
  have hok : ((run eventfulContext).run eventful).result = .ok [eventfulProblem] :=
    (run_of_readings rfl rfl rfl).1.trans rfl
  obtain ⟨_, listed, read, checked, _, requests, _, hcurrent⟩ :=
    reported_pass_current _ _ _ _ _ _ eventful horderly hwrites hok
  exact ⟨horderly, hwrites, hok, listed, read, checked, requests, hcurrent⟩

end DiagnosticLens.Interleaving
