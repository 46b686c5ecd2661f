import DiagnosticLens.Pass
import DiagnosticLens.Proofs.WireRoundTrip

/-!
# From an answer to remedies

A server answers a request for fixes with null or with an array. An array is read as a whole or not
at all: every element that is not null has to be an entry. The entries become remedies for the
document, commands first, each kind in the order in which its entries came in, and nothing gets lost
or is there twice. An answer that cannot be read is no answer.

## Implementation notes

`Remedy.Arranged` says what the list of remedies has to be like, without saying how it is made.
There is one such list only, so this is as much as the list itself.
-/

namespace DiagnosticLens

variable {σ : Type}

/-- Each of some things is related to something if all of them are related to a list, in order. -/
theorem exists_forall₂_iff {α β : Type} {R : α → β → Prop} {xs : List α} :
    (∃ ys, List.Forall₂ R xs ys) ↔ ∀ x ∈ xs, ∃ y, R x y := by
  induction xs with
  | nil => simp
  | cons x xs ih =>
      rw [List.forall_mem_cons, ← ih]
      constructor
      · rintro ⟨_, _ | ⟨hx, hxs⟩⟩
        exact ⟨⟨_, hx⟩, _, hxs⟩
      · rintro ⟨⟨y, hy⟩, ys, hys⟩
        exact ⟨y :: ys, .cons hy hys⟩

/-- The entry that an element of an answer stands for. -/
inductive IsEntry : Json → Option Proposal → Prop
  /-- Null stands for no entry. -/
  | null : IsEntry .null none
  /-- Anything else stands for what is read from it. -/
  | proposal {value : Json} {x : Proposal} (hnull : value ≠ .null)
      (h : Proposal.decode value = .ok x) : IsEntry value (some x)

theorem isEntry_iff {value : Json} {entry : Option Proposal} :
    IsEntry value entry ↔ Wire.nullable Proposal.decode value = .ok entry := by
  cases entry with
  | none =>
      rw [Wire.nullable_eq_none_iff]
      constructor
      · rintro ⟨⟩
        rfl
      · rintro rfl
        exact .null
  | some x =>
      rw [Wire.nullable_eq_some_iff]
      constructor
      · rintro (_ | ⟨hnull, h⟩)
        exact ⟨hnull, h⟩
      · rintro ⟨hnull, h⟩
        exact .proposal hnull h

/-- An element stands for some entry if it is null or can be read. -/
theorem exists_isEntry_iff {value : Json} :
    (∃ entry, IsEntry value entry) ↔ value = .null ∨ ∃ x, Proposal.decode value = .ok x := by
  constructor
  · rintro ⟨_, _ | ⟨-, h⟩⟩
    · exact Or.inl rfl
    · exact Or.inr ⟨_, h⟩
  · rintro (rfl | ⟨x, h⟩)
    · exact ⟨none, .null⟩
    · refine ⟨some x, .proposal ?_ h⟩
      rintro rfl
      cases h

namespace CodeActionAnswer

/-- Null alone is no answer. -/
theorem decode_eq_none_iff {value : Json} : decode value = .ok none ↔ value = .null :=
  Wire.nullable_eq_none_iff

/-- An array is read element by element. -/
theorem decode_eq_some_iff {value : Json} {entries : List (Option Proposal)} :
    decode value = .ok (some entries) ↔
      ∃ items, value = .arr items ∧ List.Forall₂ IsEntry items entries := by
  have hentry : (fun item entry => Wire.nullable Proposal.decode item = .ok entry) = IsEntry := by
    funext item entry
    exact propext isEntry_iff.symm
  rw [decode, Wire.nullable_eq_some_iff, Wire.list_eq_ok_iff, hentry]
  constructor
  · rintro ⟨-, hitems⟩
    exact hitems
  · rintro ⟨items, rfl, hitems⟩
    exact ⟨nofun, items, rfl, hitems⟩

/-- An array can be read if each of its elements can. -/
theorem exists_decode_iff {value : Json} :
    (∃ entries, decode value = .ok (some entries)) ↔
      ∃ items, value = .arr items ∧
        ∀ item ∈ items, item = .null ∨ ∃ x, Proposal.decode item = .ok x := by
  simp only [decode_eq_some_iff, ← exists_isEntry_iff, ← exists_forall₂_iff]
  constructor
  · rintro ⟨entries, items, rfl, hentries⟩
    exact ⟨items, rfl, entries, hentries⟩
  · rintro ⟨items, rfl, entries, hentries⟩
    exact ⟨entries, items, rfl, hentries⟩

/-- Everything else cannot be read. -/
theorem exists_error_iff {value : Json} :
    (∃ error, decode value = .error error) ↔
      value ≠ .null ∧ ¬∃ items, value = .arr items ∧
        ∀ item ∈ items, item = .null ∨ ∃ x, Proposal.decode item = .ok x := by
  rw [← exists_decode_iff, ne_eq, ← decode_eq_none_iff]
  cases decode value with
  | error error => simp
  | ok answer => cases answer <;> simp

end CodeActionAnswer

namespace Remedy

/-- The remedy that a proposal is for a document. -/
def ofProposal (uri : String) : Proposal → Remedy
  | .command c => .command uri c
  | .action a => .action uri a

/-- The remedies of the entries that are not null, in the order of the entries. -/
def inOrder (uri : String) (entries : List (Option Proposal)) : List Remedy :=
  (entries.filterMap id).map (ofProposal uri)

/-- The remedies of an answer as they are offered. -/
structure Arranged (uri : String) (entries : List (Option Proposal)) (remedies : List Remedy) :
    Prop where
  /-- There is one remedy for each entry that is not null. -/
  perm : remedies.Perm (inOrder uri entries)
  /-- No command stands behind a code action. -/
  commandsFirst : remedies.Pairwise fun a b => b.isCommand → a.isCommand
  /-- Commands keep their order. -/
  commands : remedies.filter isCommand = (inOrder uri entries).filter isCommand
  /-- Code actions keep their order. -/
  actions : remedies.filter (!isCommand ·) = (inOrder uri entries).filter (!isCommand ·)

/-- Where nothing of one kind stands behind the other kind, the two kinds follow each other. -/
theorem filter_append_filter {remedies : List Remedy}
    (h : remedies.Pairwise fun a b => b.isCommand → a.isCommand) :
    remedies.filter isCommand ++ remedies.filter (!isCommand ·) = remedies := by
  induction remedies with
  | nil => rfl
  | cons remedy remedies ih =>
      obtain ⟨hfirst, hlater⟩ := List.pairwise_cons.mp h
      cases hkind : remedy.isCommand with
      | true => simp [hkind, ih hlater]
      | false =>
          -- behind a code action there are code actions only
          have hactions : ∀ r ∈ remedies, r.isCommand = false := by
            intro r hr
            have hback := hfirst r hr
            rw [hkind] at hback
            simpa using hback
          have hnone : remedies.filter isCommand = [] := by
            rw [List.filter_eq_nil_iff]
            intro r hr
            simp [hactions r hr]
          have hall : remedies.filter (!isCommand ·) = remedies := by
            rw [List.filter_eq_self]
            intro r hr
            simp [hactions r hr]
          simp [hkind, hnone, hall]

theorem map_filterMap_command? (uri : String) (proposals : List Proposal) :
    (proposals.filterMap Proposal.command?).map (.command uri) =
      (proposals.map (ofProposal uri)).filter isCommand := by
  induction proposals with
  | nil => rfl
  | cons x proposals ih =>
      cases x with
      | command c => simp [List.filter_cons, Proposal.command?, ofProposal, isCommand, ih]
      | action a => simp [List.filterMap_cons, Proposal.command?, ofProposal, isCommand, ih]

theorem map_filterMap_action? (uri : String) (proposals : List Proposal) :
    (proposals.filterMap Proposal.action?).map (.action uri) =
      (proposals.map (ofProposal uri)).filter (!isCommand ·) := by
  induction proposals with
  | nil => rfl
  | cons x proposals ih =>
      cases x with
      | command c => simp [List.filterMap_cons, Proposal.action?, ofProposal, isCommand, ih]
      | action a => simp [Proposal.action?, ofProposal, isCommand, ih]

/-- The remedies of an answer are its commands and then its code actions. -/
theorem ofProposals_eq (uri : String) (entries : List (Option Proposal)) :
    ofProposals uri entries =
      (inOrder uri entries).filter isCommand ++ (inOrder uri entries).filter (!isCommand ·) := by
  simp only [ofProposals, inOrder, map_filterMap_command?, map_filterMap_action?]

/-- The remedies of an answer are arranged, and no other list of remedies is. -/
theorem arranged_iff {uri : String} {entries : List (Option Proposal)} {remedies : List Remedy} :
    Arranged uri entries remedies ↔ remedies = ofProposals uri entries := by
  rw [ofProposals_eq]
  constructor
  · intro h
    rw [← h.commands, ← h.actions, filter_append_filter h.commandsFirst]
  · rintro rfl
    refine ⟨List.filter_append_perm _ _, ?_, ?_, ?_⟩
    · rw [List.pairwise_append]
      refine ⟨?_, ?_, ?_⟩
      · rw [List.pairwise_filter]
        exact List.pairwise_of_forall fun a b ha _ _ => ha
      · rw [List.pairwise_filter]
        apply List.pairwise_of_forall
        intro a b _ hb hcommand
        simp [hcommand] at hb
      · intro a ha b _ _
        exact (List.mem_filter.mp ha).2
    · simp [List.filter_filter]
    · simp [List.filter_filter]

end Remedy

/-- A session that passes on what the server replies. A reply that cannot be read is a request that
failed, for the reason that reading gives. -/
def Session.Relays (session : Session σ) (reply : Anchor → StateM σ Json)
    (describe : WireError → String) : Prop :=
  ∀ anchor s, (session.codeAction anchor).run s =
    ((CodeActionAnswer.decode ((reply anchor).run s).1).mapError describe, ((reply anchor).run s).2)

/-- What comes of a request is fixed by the reply: the remedies of its entries, and nothing if it is
null or cannot be read. -/
theorem Pass.resolveRemedies_of_relays {session : Session σ} {reply : Anchor → StateM σ Json}
    {describe : WireError → String} (hrelays : session.Relays reply describe) (uri : String)
    (anchor : Anchor) (s : σ) :
    ((resolveRemedies uri session anchor).run s).result =
      match CodeActionAnswer.decode ((reply anchor).run s).1 with
      | .ok (some entries) => .resolved (Remedy.ofProposals uri entries)
      | _ => .unavailable := by
  simp only [resolveRemedies, Traced.run_bind, Traced.run_quiet, hrelays anchor s]
  cases CodeActionAnswer.decode ((reply anchor).run s).1 with
  | error error => rfl
  | ok answer => cases answer <;> rfl

namespace CodeActionAnswer

/-- An answer is read as none from null, as entries from an array all of whose elements are null or
can be read, and not at all from anything else. The remedies of its entries are all of them,
commands first and otherwise in order. If it cannot be read, a session that passes this on has no
remedies. -/
theorem answers_become_remedies (value : Json) (uri : String) :
    (decode value = .ok none ↔ value = .null) ∧
      ((∃ entries, decode value = .ok (some entries)) ↔
        ∃ items, value = .arr items ∧
          ∀ item ∈ items, item = .null ∨ ∃ x, Proposal.decode item = .ok x) ∧
      (∀ entries, decode value = .ok (some entries) ↔
        ∃ items, value = .arr items ∧ List.Forall₂ IsEntry items entries) ∧
      ((∃ error, decode value = .error error) ↔
        value ≠ .null ∧ ¬∃ items, value = .arr items ∧
          ∀ item ∈ items, item = .null ∨ ∃ x, Proposal.decode item = .ok x) ∧
      (∀ entries remedies,
        remedies = Remedy.ofProposals uri entries ↔ Remedy.Arranged uri entries remedies) ∧
      ∀ (σ : Type) (session : Session σ) reply describe, session.Relays reply describe →
        ∀ anchor s, ((reply anchor).run s).1 = value → (∃ error, decode value = .error error) →
          ((Pass.resolveRemedies uri session anchor).run s).result = .unavailable := by
  refine ⟨decode_eq_none_iff, exists_decode_iff, fun _ => decode_eq_some_iff, exists_error_iff, ?_,
    ?_⟩
  · intro entries remedies
    exact Remedy.arranged_iff.symm
  · rintro σ session reply describe hrelays anchor s rfl ⟨error, herror⟩
    rw [Pass.resolveRemedies_of_relays hrelays, herror]

/-- A code action, null, and a command. -/
def mixedAnswer : Json :=
  .arr [.obj [("edit", .obj [("changes", .obj [])]), ("kind", .str "quickfix"),
      ("title", .str "Fix")],
    .null, .obj [("command", .str "x.run"), ("title", .str "Run")]]

/-- What is read from it. -/
def mixedEntries : List (Option Proposal) :=
  [some (.action ⟨"Fix", some "quickfix", some ⟨[], none⟩, none, false, none⟩), none,
    some (.command ⟨"Run", "x.run", []⟩)]

/-- A command, and something that is neither null nor an entry. -/
def spoiledAnswer : Json :=
  .arr [.obj [("command", .str "x.run"), ("title", .str "Run")], .bool true]

/-- A session whose server always gives the same reply. -/
def relaySession (reply : Json) : Session Unit where
  isDisposed := pure false
  document := pure (Document.ofText "" 1)
  documentVersion := pure 1
  diagnostics := pure (.ok (Store.empty.snapshot "file:///a.c"))
  verify _ := pure (.ok ())
  codeAction _ := pure ((decode reply).mapError WireError.message)

/-- The command of the first answer comes before its code action. The second answer has a command
too, but cannot be read. -/
theorem answers_become_remedies_mixed :
    decode mixedAnswer = .ok (some mixedEntries) ∧
      Remedy.Arranged "file:///a.c" mixedEntries [.command "file:///a.c" ⟨"Run", "x.run", []⟩,
        .action "file:///a.c" ⟨"Fix", some "quickfix", some ⟨[], none⟩, none, false, none⟩] ∧
      (∃ error, decode spoiledAnswer = .error error) ∧
      ∀ anchor, ((Pass.resolveRemedies "file:///a.c" (relaySession spoiledAnswer) anchor).run
        ()).result = .unavailable := by
  obtain ⟨-, -, hread, -, harranged, -⟩ := answers_become_remedies mixedAnswer "file:///a.c"
  obtain ⟨-, -, -, -, -, hunavailable⟩ := answers_become_remedies spoiledAnswer "file:///a.c"
  have hspoiled : ∃ error, decode spoiledAnswer = .error error := ⟨_, rfl⟩
  have hrelays : (relaySession spoiledAnswer).Relays (fun _ => pure spoiledAnswer)
      WireError.message := fun _ _ => rfl
  refine ⟨(hread _).mpr ⟨_, rfl, ?_⟩, (harranged _ _).mp rfl, hspoiled, ?_⟩
  · exact .cons (.proposal nofun rfl) (.cons .null (.cons (.proposal nofun rfl) .nil))
  · intro anchor
    exact hunavailable Unit _ _ _ hrelays anchor () rfl hspoiled

end CodeActionAnswer

end DiagnosticLens
