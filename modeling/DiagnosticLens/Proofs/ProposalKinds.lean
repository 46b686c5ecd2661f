import DiagnosticLens.Proofs.WireRoundTrip
import Mathlib.Data.List.Nodup

/-!
# Telling commands from code actions

An entry of an answer has no mark that says which kind it is of; it is what it can be read as. An
object can be read as one kind at most: a command has a string for `command`, and a code action has
no string there, whatever else it may have. So the order in which the two readings are tried does
not matter.

## Implementation notes

All this is about objects, in which every name stands for one value. An array can be read both ways,
and there the order does matter; the example at the end is such an array.
-/

namespace DiagnosticLens

section Lookup

variable {α : Type} {entries : List (String × α)} (hkeys : (entries.map Prod.fst).Nodup)
include hkeys

/-- Where every name stands for one value, this is the value found under the name. -/
theorem lookup_eq_some_iff_mem {name : String} {value : α} :
    entries.lookup name = some value ↔ (name, value) ∈ entries := by
  constructor
  · intro hfound
    obtain ⟨before, behind, rfl, -⟩ := List.lookup_eq_some_iff.mp hfound
    simp
  · intro hmem
    induction entries with
    | nil => cases hmem
    | cons entry entries ih =>
        obtain ⟨hfresh, hlater⟩ := List.nodup_cons.mp hkeys
        rcases List.mem_cons.mp hmem with rfl | hmem
        · exact List.lookup_cons_self
        · have hother : (name == entry.1) = false := by
            apply beq_eq_false_iff_ne.mpr
            rintro rfl
            exact hfresh (List.mem_map.mpr ⟨_, hmem, rfl⟩)
          rw [List.lookup_cons, hother]
          exact ih hlater hmem

/-- Where every name stands for one value, the order of the names does not matter. -/
theorem lookup_reverse (name : String) : entries.reverse.lookup name = entries.lookup name := by
  have hreverse : (entries.reverse.map Prod.fst).Nodup := by
    rw [List.map_reverse]
    exact List.nodup_reverse.mpr hkeys
  apply Option.ext
  intro value
  rw [lookup_eq_some_iff_mem hreverse, lookup_eq_some_iff_mem hkeys, List.mem_reverse]

end Lookup

open Layout

/-- What a draft has kept of a field was read from a value given for it. -/
theorem Layout.Keeps.exists_lookup {δ α : Type} {put : δ → String → Json → Except WireError δ}
    {field : String} {item : Decoder α} {kept : δ → Option α} (hkeeps : Keeps put field item kept)
    {start draft : δ} (hstart : kept start = none) {entries : List (String × Json)}
    (hfill : fill put start entries = .ok draft) {a : α} (hkept : kept draft = some a) :
    ∃ value, entries.reverse.lookup field = some value ∧ item value = .ok a := by
  have hseen := hkeeps.mapM_lookup_of_fill hstart hfill
  rw [hkept] at hseen
  exact Wire.mapM_eq_some_iff.mp hseen

namespace Command

/-- A member that has the name of no field leaves a draft as it is. -/
theorem put_of_other {name : String} (htitle : name ≠ "title") (hcommand : name ≠ "command")
    (harguments : name ≠ "arguments") (draft : Draft) (value : Json) :
    draft.put name value = .ok draft := by
  unfold Draft.put
  split
  · exact absurd rfl htitle
  · exact absurd rfl hcommand
  · exact absurd rfl harguments
  · rfl

/-- The title and the command are the strings that an object has for them. -/
theorem strings_of_decode {members : List (String × Json)} {c : Command}
    (h : decode (.obj members) = .ok c) :
    members.reverse.lookup "title" = some (.str c.title) ∧
      members.reverse.lookup "command" = some (.str c.command) := by
  obtain ⟨draft, hfill, hfinish⟩ := exists_fill_of_decode h
  simp only [bind_eq_ok_iff, Wire.need_eq_ok_iff, pure_eq_ok_iff] at hfinish
  obtain ⟨title, htitle, command, hcommand, rfl⟩ := hfinish
  constructor
  · obtain ⟨value, hlookup, hread⟩ := keeps_title.exists_lookup rfl hfill htitle
    rwa [Wire.text_eq_ok_iff.mp hread] at hlookup
  · obtain ⟨value, hlookup, hread⟩ := keeps_command.exists_lookup rfl hfill hcommand
    rwa [Wire.text_eq_ok_iff.mp hread] at hlookup

/-- Every member of an object can be put into a draft, if the fields have values that can be read: a
member either has the name of a field, and then the value of the field, or is passed over. -/
theorem exists_put_eq_ok {members : List (String × Json)} (hkeys : (members.map Prod.fst).Nodup)
    {title command : String} {arguments : List Json}
    (htitle : members.lookup "title" = some (.str title))
    (hcommand : members.lookup "command" = some (.str command))
    (harguments : StandsFor (Wire.list Wire.anything) [] (members.lookup "arguments") arguments) :
    ∀ member ∈ members, ∀ draft : Draft, ∃ next, draft.put member.1 member.2 = .ok next := by
  rintro ⟨name, value⟩ hmem draft
  have hvalue : members.lookup name = some value := (lookup_eq_some_iff_mem hkeys).mpr hmem
  by_cases hname : name = "title"
  · subst hname
    obtain rfl := Option.some.inj (hvalue.symm.trans htitle)
    exact keeps_title.accepts rfl
  by_cases hname' : name = "command"
  · subst hname'
    obtain rfl := Option.some.inj (hvalue.symm.trans hcommand)
    exact keeps_command.accepts rfl
  by_cases hname'' : name = "arguments"
  · subst hname''
    exact keeps_arguments.accepts (harguments.reads value hvalue)
  · exact ⟨draft, put_of_other hname hname' hname'' draft value⟩

/-- An object is read as the command with the strings and the arguments that it has for it. -/
theorem decode_obj_eq_ok_iff {members : List (String × Json)}
    (hkeys : (members.map Prod.fst).Nodup) {c : Command} :
    decode (.obj members) = .ok c ↔
      members.lookup "title" = some (.str c.title) ∧
        members.lookup "command" = some (.str c.command) ∧
        (members.lookup "arguments").getD (.arr []) = .arr c.arguments := by
  constructor
  · intro h
    obtain ⟨htitle, hcommand⟩ := strings_of_decode h
    have harguments := (given?_of_decode h).2
    rw [given?, given] at harguments
    rw [lookup_reverse hkeys] at htitle hcommand harguments
    exact ⟨htitle, hcommand, harguments⟩
  · rintro ⟨htitle, hcommand, harguments⟩
    have hstands : StandsFor (Wire.list Wire.anything) [] (members.lookup "arguments")
        c.arguments := by
      constructor
      · intro hnone
        rw [hnone] at harguments
        exact (Json.arr.inj harguments).symm
      · intro value hvalue
        rw [hvalue] at harguments
        exact Wire.list_anything_eq_ok_iff.mpr harguments
    apply decode_obj_eq_ok (exists_put_eq_ok hkeys htitle hcommand hstands)
    intro draft hfill
    rw [← lookup_reverse hkeys] at htitle hcommand hstands
    rw [keeps_title.kept_of_lookup rfl hfill htitle rfl,
      keeps_command.kept_of_lookup rfl hfill hcommand rfl,
      keeps_arguments.getD_of_fill rfl hfill rfl hstands]
    rfl

/-- An object is read as some command if it has strings for the title and for the command, and if it
has either an array for the arguments or nothing. -/
theorem exists_decode_obj_iff {members : List (String × Json)}
    (hkeys : (members.map Prod.fst).Nodup) :
    (∃ c, decode (.obj members) = .ok c) ↔
      (∃ title, members.lookup "title" = some (.str title)) ∧
        (∃ command, members.lookup "command" = some (.str command)) ∧
        (members.lookup "arguments" = none ∨
          ∃ items, members.lookup "arguments" = some (.arr items)) := by
  constructor
  · rintro ⟨c, h⟩
    obtain ⟨htitle, hcommand, harguments⟩ := (decode_obj_eq_ok_iff hkeys).mp h
    refine ⟨⟨_, htitle⟩, ⟨_, hcommand⟩, ?_⟩
    cases hgiven : members.lookup "arguments" with
    | none => exact Or.inl rfl
    | some value =>
        rw [hgiven] at harguments
        exact Or.inr ⟨_, congrArg some harguments⟩
  · rintro ⟨⟨title, htitle⟩, ⟨command, hcommand⟩, hnone | ⟨items, hitems⟩⟩
    · exact ⟨⟨title, command, []⟩,
        (decode_obj_eq_ok_iff hkeys).mpr ⟨htitle, hcommand, by rw [hnone]; rfl⟩⟩
    · exact ⟨⟨title, command, items⟩,
        (decode_obj_eq_ok_iff hkeys).mpr ⟨htitle, hcommand, by rw [hitems]; rfl⟩⟩

/-- A string is not read as a command. -/
theorem decode_str_ne_ok (s : String) (c : Command) : decode (.str s) ≠ .ok c := nofun

end Command

/-- What a code action has for its command is nothing, null, or something other than a string that
is read as a command. -/
theorem CodeAction.command_of_decode {members : List (String × Json)}
    (hkeys : (members.map Prod.fst).Nodup) {a : CodeAction}
    (h : CodeAction.decode (.obj members) = .ok a) :
    (a.command = none ∧
        (members.lookup "command" = none ∨ members.lookup "command" = some .null)) ∨
      ∃ value c, members.lookup "command" = some value ∧ (∀ s, value ≠ .str s) ∧
        Command.decode value = .ok c ∧ a.command = some c := by
  have hread : Wire.nullable Command.decode ((members.lookup "command").getD .null) =
      .ok a.command := by
    rw [← lookup_reverse hkeys]
    exact (given?_of_decode h).2.1
  cases hcommand : a.command with
  | none =>
      left
      refine ⟨rfl, ?_⟩
      rw [hcommand, Wire.nullable_eq_none_iff] at hread
      cases hgiven : members.lookup "command" with
      | none => exact Or.inl rfl
      | some value =>
          rw [hgiven] at hread
          exact Or.inr (congrArg some hread)
  | some c =>
      right
      rw [hcommand, Wire.nullable_eq_some_iff] at hread
      obtain ⟨hnull, hread⟩ := hread
      cases hgiven : members.lookup "command" with
      | none =>
          rw [hgiven] at hnull
          exact absurd rfl hnull
      | some value =>
          rw [hgiven] at hread
          refine ⟨value, c, rfl, ?_, hread, rfl⟩
          rintro s rfl
          exact Command.decode_str_ne_ok s c hread

/-- What is read as a command is not read as a code action. -/
theorem CodeAction.decode_ne_ok_of_command {members : List (String × Json)} {c : Command}
    (h : Command.decode (.obj members) = .ok c) (a : CodeAction) :
    CodeAction.decode (.obj members) ≠ .ok a := by
  intro haction
  have hstring := (Command.strings_of_decode h).2
  have hread := (given?_of_decode haction).2.1
  rw [given?, given, hstring] at hread
  -- a string is not null, and nothing else is read from it
  cases hread

namespace Proposal

/-- Reads an entry as a command. -/
def asCommand : Decoder Proposal := fun value => (Command.decode value).map .command

/-- Reads an entry as a code action. -/
def asAction : Decoder Proposal := fun value => (CodeAction.decode value).map .action

/-- Reads an entry in one way, and if this fails in another. -/
def decodeBy (first second : Decoder Proposal) : Decoder Proposal := fun value =>
  match first value with
  | .ok x => .ok x
  | .error _ =>
    match second value with
    | .ok x => .ok x
    | .error _ => .error .noProposal

/-- Entries are read as commands first. -/
theorem decode_eq_decodeBy (value : Json) : decode value = decodeBy asCommand asAction value := by
  unfold decode decodeBy asCommand asAction
  cases Command.decode value with
  | ok c => rfl
  | error error => cases CodeAction.decode value <;> rfl

/-- If a value can be read in one way at most, the order of the ways does not matter. -/
theorem decodeBy_comm {first second : Decoder Proposal} {value : Json}
    (h : ∀ x y, first value = .ok x → second value ≠ .ok y) :
    decodeBy first second value = decodeBy second first value := by
  unfold decodeBy
  cases hfirst : first value with
  | error error => cases second value <;> rfl
  | ok x =>
      cases hsecond : second value with
      | error error => rfl
      | ok y => exact absurd hsecond (h x y hfirst)

/-- An object is read as a command exactly if it has strings for the title and for the command, and
an array or nothing for the arguments; as a code action only if it has no string for the command. It
is never read as both, and it is read alike whichever kind it is tried as first. -/
theorem objects_tell_their_kind {members : List (String × Json)}
    (hkeys : (members.map Prod.fst).Nodup) :
    ((∃ c, Command.decode (.obj members) = .ok c) ↔
        (∃ title, members.lookup "title" = some (.str title)) ∧
          (∃ command, members.lookup "command" = some (.str command)) ∧
          (members.lookup "arguments" = none ∨
            ∃ items, members.lookup "arguments" = some (.arr items))) ∧
      (∀ a, CodeAction.decode (.obj members) = .ok a →
        (a.command = none ∧
            (members.lookup "command" = none ∨ members.lookup "command" = some .null)) ∨
          ∃ value c, members.lookup "command" = some value ∧ (∀ s, value ≠ .str s) ∧
            Command.decode value = .ok c ∧ a.command = some c) ∧
      (¬((∃ c, Command.decode (.obj members) = .ok c) ∧
        ∃ a, CodeAction.decode (.obj members) = .ok a)) ∧
      decode (.obj members) = decodeBy asAction asCommand (.obj members) := by
  refine ⟨Command.exists_decode_obj_iff hkeys, ?_, ?_, ?_⟩
  · intro a haction
    exact CodeAction.command_of_decode hkeys haction
  · rintro ⟨⟨c, hcommand⟩, a, haction⟩
    exact CodeAction.decode_ne_ok_of_command hcommand a haction
  · rw [decode_eq_decodeBy]
    apply decodeBy_comm
    intro x y hx hy
    obtain ⟨c, hcommand, -⟩ := map_eq_ok_iff.mp hx
    obtain ⟨a, haction, -⟩ := map_eq_ok_iff.mp hy
    exact CodeAction.decode_ne_ok_of_command hcommand a haction

/-- A code action that carries a command. -/
def carryingAction : List (String × Json) :=
  [("command", .obj [("command", .str "fix.run"), ("title", .str "run")]),
    ("isPreferred", .bool true), ("kind", .str "quickfix"), ("title", .str "Apply fix")]

/-- It is read as this code action, also if it is tried as one first, and not as a command. -/
theorem objects_tell_their_kind_carrying :
    (carryingAction.map Prod.fst).Nodup ∧
      decode (.obj carryingAction) = .ok (.action
        ⟨"Apply fix", some "quickfix", none, some ⟨"run", "fix.run", []⟩, true, none⟩) ∧
      decodeBy asAction asCommand (.obj carryingAction) = decode (.obj carryingAction) ∧
      ¬∃ c, Command.decode (.obj carryingAction) = .ok c := by
  have hkeys : (carryingAction.map Prod.fst).Nodup := by decide
  have hread : CodeAction.decode (.obj carryingAction) = .ok
      ⟨"Apply fix", some "quickfix", none, some ⟨"run", "fix.run", []⟩, true, none⟩ := rfl
  obtain ⟨-, -, hone, hsame⟩ := objects_tell_their_kind hkeys
  refine ⟨hkeys, ?_, hsame.symm, fun hcommand => hone ⟨hcommand, _, hread⟩⟩
  rw [hsame, decodeBy, asAction, hread]
  rfl

/-- An array of two strings is a command, and a code action if it is tried as one first. -/
example : decode (.arr [.str "Fix", .str "fix"]) = .ok (.command ⟨"Fix", "fix", []⟩) ∧
    decodeBy asAction asCommand (.arr [.str "Fix", .str "fix"]) =
      .ok (.action ⟨"Fix", some "fix", none, none, false, none⟩) :=
  ⟨rfl, rfl⟩

end Proposal

end DiagnosticLens
