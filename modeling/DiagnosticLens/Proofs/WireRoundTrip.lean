import DiagnosticLens.Proofs.Records
import DiagnosticLens.Wire.Remedy
import Mathlib.Data.List.Forall2

/-!
# Values on the wire and back

What is written to the wire is read from there as it was. In writing, everything that has its
default value is left out, and reading puts it back; an entry that carries no mark of its kind is
read as the kind it was written as. Whatever was read, from an object or from an array, can be
written and read again without a change, and values that nobody here looks into are passed on as
they are.

## Implementation notes

The one thing that cannot be written is a value that is there and null, since null is read as not
being there. Values without such a null are `Plain`, and nothing else is ever read.
-/

namespace DiagnosticLens

namespace Wire

variable {α : Type}

@[simp] theorem word32_ofUInt32 (n : UInt32) : word32 (.num (.ofUInt32 n)) = .ok n := by
  have hlt : (n.toNat : Int) < 0x100000000 := by
    have hbound := n.toNat_lt
    omega
  simp [word32, JsonNumber.ofUInt32, UInt32.ofNatLT_toNat, hlt]

/-- A required field has the value that was seen for it. -/
theorem need_eq_ok_iff {name : String} {seen : Option α} {a : α} :
    need name seen = .ok a ↔ seen = some a := by
  cases seen <;> simp [need]

/-- Only a string is read as text. -/
theorem text_eq_ok_iff {value : Json} {s : String} : text value = .ok s ↔ value = .str s := by
  cases value <;> simp [text]

/-- An array of written values is read item by item. -/
theorem list_map (encode : α → Json) {item : Decoder α} (xs : List α)
    (h : ∀ x ∈ xs, item (encode x) = .ok x) : list item (.arr (xs.map encode)) = .ok xs := by
  rw [list]
  induction xs with
  | nil => rfl
  | cons x xs ih =>
      have hfirst := h x (List.mem_cons_self ..)
      have hrest := ih fun y hy => h y (List.mem_cons_of_mem _ hy)
      rw [List.map_cons, List.mapM_cons, hfirst, hrest]
      rfl

/-- Items are read one by one, in their order. -/
theorem mapM_eq_ok_iff {item : Decoder α} {values : List Json} {xs : List α} :
    values.mapM item = .ok xs ↔ List.Forall₂ (fun value x => item value = .ok x) values xs := by
  induction values generalizing xs with
  | nil =>
      rw [List.mapM_nil, pure_eq_ok_iff, List.forall₂_nil_left_iff]
      exact eq_comm
  | cons value values ih =>
      simp only [List.mapM_cons, bind_eq_ok_iff, pure_eq_ok_iff, ih, List.forall₂_cons_left_iff]
      constructor
      · rintro ⟨x, hx, rest, hrest, rfl⟩
        exact ⟨x, rest, hx, hrest, rfl⟩
      · rintro ⟨x, rest, hx, hrest, rfl⟩
        exact ⟨x, hx, rest, hrest, rfl⟩

/-- Only an array is read as a list, item by item. -/
theorem list_eq_ok_iff {item : Decoder α} {value : Json} {xs : List α} :
    list item value = .ok xs ↔
      ∃ items, value = .arr items ∧ List.Forall₂ (fun value x => item value = .ok x) items xs := by
  cases value with
  | arr items => simp [list, mapM_eq_ok_iff]
  | _ => simp [list]

/-- Only an array is read as a list of anything, and it is read as its items. -/
theorem list_anything_eq_ok_iff {value : Json} {items : List Json} :
    list anything value = .ok items ↔ value = .arr items := by
  have hany (given : List Json) : list anything (.arr given) = .ok given := by
    have hid : list anything (.arr (given.map id)) = .ok given := list_map id given fun _ _ => rfl
    rwa [List.map_id] at hid
  cases value with
  | arr given => simp [hany]
  | _ => simp [list]

/-- What may be null is read as what it is, and null as nothing. -/
theorem nullable_anything_eq_ok {value : Json} {kept : Option Json}
    (h : nullable anything value = .ok kept) : kept.getD .null = value ∧ kept ≠ some .null := by
  cases value <;> · cases h; simp

/-- Whatever is not null stands for itself. -/
theorem standsFor_self {kept : Option Json} (hne : kept ≠ some .null) :
    StandsFor (nullable anything) none kept kept := by
  refine ⟨id, ?_⟩
  rintro value rfl
  cases value with
  | null => exact absurd rfl hne
  | _ => rfl

/-- What is written for a nullable field stands for it, unless it is written as null. -/
theorem standsFor_map {encode : α → Json} {item : Decoder α} {x : Option α}
    (hread : ∀ a, x = some a → item (encode a) = .ok a) (hne : ∀ a, encode a ≠ .null) :
    StandsFor (nullable item) none (x.map encode) x := by
  constructor
  · exact Option.map_eq_none_iff.mp
  · intro value hvalue
    obtain ⟨a, rfl, rfl⟩ := Option.map_eq_some_iff.mp hvalue
    rw [nullable, hread a rfl]
    · rfl
    · exact hne a

/-- Something is read from a nullable value if the value is not null. -/
theorem nullable_eq_some_iff {item : Decoder α} {value : Json} {a : α} :
    nullable item value = .ok (some a) ↔ value ≠ .null ∧ item value = .ok a := by
  cases value with
  | null => simp [nullable]
  | _ => simp only [nullable]; cases item _ <;> simp [Except.map]

/-- Nothing is read from null only. -/
theorem nullable_eq_none_iff {item : Decoder α} {value : Json} :
    nullable item value = .ok none ↔ value = .null := by
  cases value with
  | null => simp [nullable]
  | _ => simp only [nullable]; cases item _ <;> simp [Except.map]

/-- Something was seen of a field if it was read from a value given for it. -/
theorem mapM_eq_some_iff {item : Decoder α} {given : Option Json} {a : α} :
    given.mapM item = .ok (some a) ↔ ∃ value, given = some value ∧ item value = .ok a := by
  cases given with
  | none => simp [pure, Except.pure]
  | some value => cases hread : item value <;> simp [Option.mapM_some, hread]

/-- A field that may be left out is read as if its default value had been given for it. -/
theorem getD_of_mapM {item : Decoder α} {given : Option Json} {seen : Option α}
    (h : given.mapM item = .ok seen) {value : Json} {a : α} (hdefault : item value = .ok a) :
    item (given.getD value) = .ok (seen.getD a) := by
  cases given with
  | none =>
      obtain rfl := Except.ok.inj h
      exact hdefault
  | some written =>
      rw [Option.mapM_some, map_eq_pure_bind, bind_eq_ok_iff] at h
      obtain ⟨x, hread, hseen⟩ := h
      obtain rfl := pure_eq_ok_iff.mp hseen
      exact hread

/-- An object whose members were written one by one is read member by member. -/
theorem map_map (encode : α → Json) {item : Decoder α} (xs : List (String × α))
    (h : ∀ x ∈ xs, item (encode x.2) = .ok x.2) :
    map item (.obj (xs.map fun x => (x.1, encode x.2))) = .ok xs := by
  rw [map]
  induction xs with
  | nil => rfl
  | cons x xs ih =>
      have hfirst := h x (List.mem_cons_self ..)
      have hrest := ih fun y hy => h y (List.mem_cons_of_mem _ hy)
      rw [List.map_cons, List.mapM_cons, hrest]
      simp only [hfirst]
      rfl

end Wire

/-- A kind of value that is written and read: what is plain is read as it was written, nothing else
is ever read, and reading once more what was read makes no difference. -/
structure RoundTrips {α : Type} (encode : α → Json) (decode : Decoder α) (Plain : α → Prop) :
    Prop where
  decode_encode : ∀ x, Plain x → decode (encode x) = .ok x
  plain_of_decode : ∀ value x, decode value = .ok x → Plain x
  decode_again : ∀ value, (decode value >>= fun x => decode (encode x)) = decode value

/-- The third property follows from the other two. -/
theorem RoundTrips.of_plain {α : Type} {encode : α → Json} {decode : Decoder α} {Plain : α → Prop}
    (hencode : ∀ x, Plain x → decode (encode x) = .ok x)
    (hplain : ∀ value x, decode value = .ok x → Plain x) : RoundTrips encode decode Plain := by
  refine ⟨hencode, hplain, ?_⟩
  intro value
  cases hread : decode value with
  | error error => rfl
  | ok x => exact hencode x (hplain value x hread)

open Layout

namespace Position

/-- A value changes the field that it is given for, to what is read from it, and no other field. -/
theorem updates_of_put {draft next : Draft} {name : String} {value : Json}
    (h : draft.put name value = .ok next) :
    update "line" Wire.word32 name value draft.line = .ok next.line ∧
      update "character" Wire.word32 name value draft.character = .ok next.character := by
  unfold Draft.put at h
  -- one case for each field, and one for all other names
  split at h <;> simp only [bind_eq_ok_iff, pure_eq_ok_iff, Except.ok.injEq] at h <;>
    grind [update, Except.map]

theorem keeps_line : Keeps Draft.put "line" Wire.word32 Draft.line where
  accepts h := ⟨_, bind_eq_ok_iff.mpr ⟨_, h, rfl⟩⟩
  updates h := (updates_of_put h).1

theorem keeps_character : Keeps Draft.put "character" Wire.word32 Draft.character where
  accepts h := ⟨_, bind_eq_ok_iff.mpr ⟨_, h, rfl⟩⟩
  updates h := (updates_of_put h).2

theorem decode_encode (p : Position) : decode p.encode = .ok p := by
  refine decode_pair keeps_character keeps_line (by decide) rfl rfl
    (Wire.word32_ofUInt32 p.character) (Wire.word32_ofUInt32 p.line) ?_
  intro draft hcharacter hline
  rw [hcharacter, hline]
  rfl

end Position

namespace Range

theorem updates_of_put {draft next : Draft} {name : String} {value : Json}
    (h : draft.put name value = .ok next) :
    update "start" Position.decode name value draft.start = .ok next.start ∧
      update "end" Position.decode name value draft.stop = .ok next.stop := by
  unfold Draft.put at h
  split at h <;> simp only [bind_eq_ok_iff, pure_eq_ok_iff, Except.ok.injEq] at h <;>
    grind [update, Except.map]

theorem keeps_start : Keeps Draft.put "start" Position.decode Draft.start where
  accepts h := ⟨_, bind_eq_ok_iff.mpr ⟨_, h, rfl⟩⟩
  updates h := (updates_of_put h).1

theorem keeps_stop : Keeps Draft.put "end" Position.decode Draft.stop where
  accepts h := ⟨_, bind_eq_ok_iff.mpr ⟨_, h, rfl⟩⟩
  updates h := (updates_of_put h).2

theorem decode_encode (r : Range) : decode r.encode = .ok r := by
  refine decode_pair keeps_stop keeps_start (by decide) rfl rfl r.stop.decode_encode
    r.start.decode_encode ?_
  intro draft hstop hstart
  rw [hstop, hstart]
  rfl

end Range

namespace TextEdit

theorem updates_of_put {draft next : Draft} {name : String} {value : Json}
    (h : draft.put name value = .ok next) :
    update "range" Range.decode name value draft.range = .ok next.range ∧
      update "newText" Wire.text name value draft.newText = .ok next.newText := by
  unfold Draft.put at h
  split at h <;> simp only [bind_eq_ok_iff, pure_eq_ok_iff, Except.ok.injEq] at h <;>
    grind [update, Except.map]

theorem keeps_range : Keeps Draft.put "range" Range.decode Draft.range where
  accepts h := ⟨_, bind_eq_ok_iff.mpr ⟨_, h, rfl⟩⟩
  updates h := (updates_of_put h).1

theorem keeps_newText : Keeps Draft.put "newText" Wire.text Draft.newText where
  accepts h := ⟨_, bind_eq_ok_iff.mpr ⟨_, h, rfl⟩⟩
  updates h := (updates_of_put h).2

theorem decode_encode (e : TextEdit) : decode e.encode = .ok e := by
  refine decode_pair keeps_newText keeps_range (by decide) rfl rfl rfl e.range.decode_encode ?_
  intro draft hnewText hrange
  rw [hnewText, hrange]
  rfl

end TextEdit

namespace WorkspaceEdit

/-- A workspace edit that does not say null for the changes of documents. -/
def Plain (e : WorkspaceEdit) : Prop := e.documentChanges ≠ some .null

theorem updates_of_put {draft next : Draft} {name : String} {value : Json}
    (h : draft.put name value = .ok next) :
    update "changes" (Wire.map (Wire.list TextEdit.decode)) name value draft.changes =
        .ok next.changes ∧
      update "documentChanges" (Wire.nullable Wire.anything) name value draft.documentChanges =
        .ok next.documentChanges := by
  unfold Draft.put at h
  split at h <;> simp only [bind_eq_ok_iff, pure_eq_ok_iff, Except.ok.injEq] at h <;>
    grind [update, Except.map]

theorem keeps_changes :
    Keeps Draft.put "changes" (Wire.map (Wire.list TextEdit.decode)) Draft.changes where
  accepts h := ⟨_, bind_eq_ok_iff.mpr ⟨_, h, rfl⟩⟩
  updates h := (updates_of_put h).1

theorem keeps_documentChanges :
    Keeps Draft.put "documentChanges" (Wire.nullable Wire.anything) Draft.documentChanges where
  accepts h := ⟨_, bind_eq_ok_iff.mpr ⟨_, h, rfl⟩⟩
  updates h := (updates_of_put h).2

/-- The changes of documents are read from the value given for them, and from nothing else. -/
theorem documentChanges_of_decode {value : Json} {e : WorkspaceEdit} (h : decode value = .ok e) :
    Wire.nullable Wire.anything ((layout.given? value "documentChanges").getD .null) =
      .ok e.documentChanges := by
  obtain ⟨draft, hfill, hfinish⟩ := exists_fill_of_decode h
  obtain rfl := Except.ok.inj hfinish
  exact Wire.getD_of_mapM (keeps_documentChanges.mapM_lookup_of_fill rfl hfill) rfl

theorem plain_of_decode {value : Json} {e : WorkspaceEdit} (h : decode value = .ok e) : e.Plain :=
  (Wire.nullable_anything_eq_ok (documentChanges_of_decode h)).2

/-- The values that are written for the fields of a workspace edit. -/
theorem given?_encode (e : WorkspaceEdit) :
    layout.given? e.encode "changes" =
        (if e.changes.isEmpty then none else some (.obj (e.changes.map encodeChange))) ∧
      layout.given? e.encode "documentChanges" = e.documentChanges := by
  simp [given?, given, encode, List.lookup_append]

/-- The edits of all documents are read as they were written. -/
theorem map_encodeChange (changes : List (String × List TextEdit)) :
    Wire.map (Wire.list TextEdit.decode) (.obj (changes.map encodeChange)) = .ok changes :=
  Wire.map_map (fun edits => .arr (edits.map TextEdit.encode)) changes fun change _ =>
    Wire.list_map TextEdit.encode change.2 fun edit _ => edit.decode_encode

theorem decode_encode {e : WorkspaceEdit} (hplain : e.Plain) : decode e.encode = .ok e := by
  obtain ⟨hchanges, hdocuments⟩ := e.given?_encode
  have hstands : StandsFor _ [] _ e.changes :=
    .unless List.isEmpty_iff.mp (map_encodeChange e.changes)
  have hstands' := Wire.standsFor_self hplain
  refine decode_obj_eq_ok (List.forall_mem_append.mpr ⟨keeps_changes.accepts_optional hstands,
    keeps_documentChanges.accepts_optional hstands'⟩) ?_
  intro draft hfill
  rw [keeps_changes.getD_of_fill rfl hfill hchanges hstands,
    keeps_documentChanges.getD_of_fill rfl hfill hdocuments hstands']

end WorkspaceEdit

namespace Command

theorem updates_of_put {draft next : Draft} {name : String} {value : Json}
    (h : draft.put name value = .ok next) :
    update "title" Wire.text name value draft.title = .ok next.title ∧
      update "command" Wire.text name value draft.command = .ok next.command ∧
      update "arguments" (Wire.list Wire.anything) name value draft.arguments =
        .ok next.arguments := by
  unfold Draft.put at h
  split at h <;> simp only [bind_eq_ok_iff, pure_eq_ok_iff, Except.ok.injEq] at h <;>
    grind [update, Except.map]

theorem keeps_title : Keeps Draft.put "title" Wire.text Draft.title where
  accepts h := ⟨_, bind_eq_ok_iff.mpr ⟨_, h, rfl⟩⟩
  updates h := (updates_of_put h).1

theorem keeps_command : Keeps Draft.put "command" Wire.text Draft.command where
  accepts h := ⟨_, bind_eq_ok_iff.mpr ⟨_, h, rfl⟩⟩
  updates h := (updates_of_put h).2.1

theorem keeps_arguments :
    Keeps Draft.put "arguments" (Wire.list Wire.anything) Draft.arguments where
  accepts h := ⟨_, bind_eq_ok_iff.mpr ⟨_, h, rfl⟩⟩
  updates h := (updates_of_put h).2.2

/-- A command is the string that is given for it, which is how it is told from a code action; its
arguments are the items of the array that is given for them. -/
theorem given?_of_decode {value : Json} {c : Command} (h : decode value = .ok c) :
    layout.given? value "command" = some (.str c.command) ∧
      (layout.given? value "arguments").getD (.arr []) = .arr c.arguments := by
  obtain ⟨draft, hfill, hfinish⟩ := exists_fill_of_decode h
  simp only [bind_eq_ok_iff, Wire.need_eq_ok_iff, pure_eq_ok_iff] at hfinish
  obtain ⟨title, -, command, hcommand, rfl⟩ := hfinish
  constructor
  · have hseen := keeps_command.mapM_lookup_of_fill rfl hfill
    rw [hcommand, Wire.mapM_eq_some_iff] at hseen
    obtain ⟨written, hgiven, hread⟩ := hseen
    rwa [Wire.text_eq_ok_iff.mp hread] at hgiven
  · have hseen := keeps_arguments.mapM_lookup_of_fill rfl hfill
    exact Wire.list_anything_eq_ok_iff.mp (Wire.getD_of_mapM hseen rfl)

/-- The values that are written for the fields of a command. -/
theorem given?_encode (c : Command) :
    layout.given? c.encode "title" = some (.str c.title) ∧
      layout.given? c.encode "command" = some (.str c.command) ∧
      layout.given? c.encode "arguments" =
        (if c.arguments.isEmpty then none else some (.arr c.arguments)) := by
  simp [given?, given, encode, List.lookup_cons]

theorem decode_encode (c : Command) : decode c.encode = .ok c := by
  obtain ⟨htitle, hcommand, harguments⟩ := c.given?_encode
  have hstands : StandsFor _ [] _ c.arguments :=
    .unless List.isEmpty_iff.mp (Wire.list_anything_eq_ok_iff.mpr rfl)
  refine decode_obj_eq_ok (List.forall_mem_append.mpr ⟨keeps_arguments.accepts_optional hstands,
    List.forall_mem_cons.mpr ⟨?_, List.forall_mem_singleton.mpr ?_⟩⟩) ?_
  · exact fun draft => keeps_command.accepts rfl
  · exact fun draft => keeps_title.accepts rfl
  · intro draft hfill
    rw [keeps_title.kept_of_lookup rfl hfill htitle rfl,
      keeps_command.kept_of_lookup rfl hfill hcommand rfl,
      keeps_arguments.getD_of_fill rfl hfill harguments hstands]
    rfl

end Command

namespace CodeAction

/-- A code action that does not say null for its data, and whose edit does not say it either. -/
def Plain (a : CodeAction) : Prop := a.data ≠ some .null ∧ ∀ e, a.edit = some e → e.Plain

theorem updates_of_put {draft next : Draft} {name : String} {value : Json}
    (h : draft.put name value = .ok next) :
    update "title" Wire.text name value draft.title = .ok next.title ∧
      update "kind" (Wire.nullable Wire.text) name value draft.kind = .ok next.kind ∧
      update "edit" (Wire.nullable WorkspaceEdit.decode) name value draft.edit = .ok next.edit ∧
      update "command" (Wire.nullable Command.decode) name value draft.command =
        .ok next.command ∧
      update "isPreferred" Wire.boolean name value draft.isPreferred = .ok next.isPreferred ∧
      update "data" (Wire.nullable Wire.anything) name value draft.data = .ok next.data := by
  unfold Draft.put at h
  split at h <;> simp only [bind_eq_ok_iff, pure_eq_ok_iff, Except.ok.injEq] at h <;>
    grind [update, Except.map]

theorem keeps_title : Keeps Draft.put "title" Wire.text Draft.title where
  accepts h := ⟨_, bind_eq_ok_iff.mpr ⟨_, h, rfl⟩⟩
  updates h := (updates_of_put h).1

theorem keeps_kind : Keeps Draft.put "kind" (Wire.nullable Wire.text) Draft.kind where
  accepts h := ⟨_, bind_eq_ok_iff.mpr ⟨_, h, rfl⟩⟩
  updates h := (updates_of_put h).2.1

theorem keeps_edit : Keeps Draft.put "edit" (Wire.nullable WorkspaceEdit.decode) Draft.edit where
  accepts h := ⟨_, bind_eq_ok_iff.mpr ⟨_, h, rfl⟩⟩
  updates h := (updates_of_put h).2.2.1

theorem keeps_command : Keeps Draft.put "command" (Wire.nullable Command.decode) Draft.command where
  accepts h := ⟨_, bind_eq_ok_iff.mpr ⟨_, h, rfl⟩⟩
  updates h := (updates_of_put h).2.2.2.1

theorem keeps_isPreferred : Keeps Draft.put "isPreferred" Wire.boolean Draft.isPreferred where
  accepts h := ⟨_, bind_eq_ok_iff.mpr ⟨_, h, rfl⟩⟩
  updates h := (updates_of_put h).2.2.2.2.1

theorem keeps_data : Keeps Draft.put "data" (Wire.nullable Wire.anything) Draft.data where
  accepts h := ⟨_, bind_eq_ok_iff.mpr ⟨_, h, rfl⟩⟩
  updates h := (updates_of_put h).2.2.2.2.2

/-- The edit, the command and the data of a code action are read from the values given for them, and
from nothing else. -/
theorem given?_of_decode {value : Json} {a : CodeAction} (h : decode value = .ok a) :
    Wire.nullable WorkspaceEdit.decode ((layout.given? value "edit").getD .null) = .ok a.edit ∧
      Wire.nullable Command.decode ((layout.given? value "command").getD .null) = .ok a.command ∧
      Wire.nullable Wire.anything ((layout.given? value "data").getD .null) = .ok a.data := by
  obtain ⟨draft, hfill, hfinish⟩ := exists_fill_of_decode h
  simp only [bind_eq_ok_iff, Wire.need_eq_ok_iff, pure_eq_ok_iff] at hfinish
  obtain ⟨title, -, rfl⟩ := hfinish
  exact ⟨Wire.getD_of_mapM (keeps_edit.mapM_lookup_of_fill rfl hfill) rfl,
    Wire.getD_of_mapM (keeps_command.mapM_lookup_of_fill rfl hfill) rfl,
    Wire.getD_of_mapM (keeps_data.mapM_lookup_of_fill rfl hfill) rfl⟩

/-- The values that are written for the fields of a code action. -/
theorem given?_encode (a : CodeAction) :
    layout.given? a.encode "title" = some (.str a.title) ∧
      layout.given? a.encode "kind" = a.kind.map .str ∧
      layout.given? a.encode "edit" = a.edit.map WorkspaceEdit.encode ∧
      layout.given? a.encode "command" = a.command.map Command.encode ∧
      layout.given? a.encode "isPreferred" =
        (if a.isPreferred then some (.bool true) else none) ∧
      layout.given? a.encode "data" = a.data := by
  simp [given?, given, encode, List.lookup_append, List.lookup_cons]

theorem decode_encode {a : CodeAction} (hplain : a.Plain) : decode a.encode = .ok a := by
  obtain ⟨htitle, hkind, hedit, hcommand, hpreferred, hdata⟩ := a.given?_encode
  obtain ⟨hplain_data, hplain_edit⟩ := hplain
  have hkind' : StandsFor (Wire.nullable Wire.text) none (a.kind.map .str) a.kind :=
    Wire.standsFor_map (fun _ _ => rfl) nofun
  have hedit' : StandsFor (Wire.nullable WorkspaceEdit.decode) none
      (a.edit.map WorkspaceEdit.encode) a.edit :=
    Wire.standsFor_map (fun e he => WorkspaceEdit.decode_encode (hplain_edit e he)) nofun
  have hcommand' : StandsFor (Wire.nullable Command.decode) none
      (a.command.map Command.encode) a.command :=
    Wire.standsFor_map (fun c _ => c.decode_encode) nofun
  have hpreferred' : StandsFor Wire.boolean false
      (if a.isPreferred then some (.bool true) else none) a.isPreferred := by
    cases a.isPreferred <;> constructor <;> simp [Wire.boolean]
  have hdata' := Wire.standsFor_self hplain_data
  refine decode_obj_eq_ok ?_ ?_
  · simp only [List.forall_mem_append]
    refine ⟨⟨⟨⟨⟨?_, ?_⟩, ?_⟩, ?_⟩, ?_⟩, List.forall_mem_singleton.mpr ?_⟩
    · exact keeps_command.accepts_optional hcommand'
    · exact keeps_data.accepts_optional hdata'
    · exact keeps_edit.accepts_optional hedit'
    · exact keeps_isPreferred.accepts_optional hpreferred'
    · exact keeps_kind.accepts_optional hkind'
    · exact fun draft => keeps_title.accepts rfl
  · intro draft hfill
    rw [keeps_title.kept_of_lookup rfl hfill htitle rfl,
      keeps_kind.getD_of_fill rfl hfill hkind hkind',
      keeps_edit.getD_of_fill rfl hfill hedit hedit',
      keeps_command.getD_of_fill rfl hfill hcommand hcommand',
      keeps_isPreferred.getD_of_fill rfl hfill hpreferred hpreferred',
      keeps_data.getD_of_fill rfl hfill hdata hdata']
    rfl

/-- Null is never read as data. -/
theorem plain_of_decode {value : Json} {a : CodeAction} (h : decode value = .ok a) : a.Plain := by
  obtain ⟨hedit, -, hdata⟩ := given?_of_decode h
  refine ⟨(Wire.nullable_anything_eq_ok hdata).2, ?_⟩
  intro e he
  rw [he] at hedit
  obtain ⟨-, hread⟩ := Wire.nullable_eq_some_iff.mp hedit
  exact WorkspaceEdit.plain_of_decode hread

end CodeAction

namespace Proposal

/-- An entry in which null is said neither for the data nor for the changes of documents. -/
def Plain : Proposal → Prop
  | .command _ => True
  | .action a => a.Plain

theorem decode_eq_command_iff {value : Json} {c : Command} :
    decode value = .ok (.command c) ↔ Command.decode value = .ok c := by
  unfold decode
  split
  · next h => simp [h]
  · next h => split <;> simp [h]

theorem decode_eq_action_iff {value : Json} {a : CodeAction} :
    decode value = .ok (.action a) ↔
      (∀ c, Command.decode value ≠ .ok c) ∧ CodeAction.decode value = .ok a := by
  unfold decode
  split
  · next h => simp [h]
  · next h => split <;> simp_all

/-- A code action is not mistaken for a command: what is written for its command is no string. -/
theorem command_decode_encode_action (a : CodeAction) (c : Command) :
    Command.decode a.encode ≠ .ok c := by
  intro h
  have hgiven := (Command.given?_of_decode h).1
  have hwritten := a.given?_encode.2.2.2.1
  have hsame := hwritten.symm.trans hgiven
  cases hcommand : a.command with
  | none => simp [hcommand] at hsame
  | some own => simp [hcommand, Command.encode] at hsame

theorem decode_encode {x : Proposal} (hplain : x.Plain) : decode x.encode = .ok x := by
  cases x with
  | command c => exact decode_eq_command_iff.mpr c.decode_encode
  | action a =>
      exact decode_eq_action_iff.mpr
        ⟨command_decode_encode_action a, CodeAction.decode_encode hplain⟩

theorem plain_of_decode {value : Json} {x : Proposal} (h : decode value = .ok x) : x.Plain := by
  cases x with
  | command c => trivial
  | action a => exact CodeAction.plain_of_decode (decode_eq_action_iff.mp h).2

end Proposal

/-- All kinds of values make the round trip. What nobody here looks into is the same in the value
that was read, in the record, and in what is written for the record; a code action gets its edit and
its command, with all they carry, from the values given for them, and an entry of an answer is read
as the command or the code action it is. -/
theorem wire_values_round_trip :
    RoundTrips Position.encode Position.decode (fun _ => True) ∧
      RoundTrips Range.encode Range.decode (fun _ => True) ∧
      RoundTrips TextEdit.encode TextEdit.decode (fun _ => True) ∧
      RoundTrips WorkspaceEdit.encode WorkspaceEdit.decode WorkspaceEdit.Plain ∧
      RoundTrips Command.encode Command.decode (fun _ => True) ∧
      RoundTrips CodeAction.encode CodeAction.decode CodeAction.Plain ∧
      RoundTrips Proposal.encode Proposal.decode Proposal.Plain ∧
      (∀ value c, Command.decode value = .ok c →
        (Command.layout.given? value "arguments").getD (.arr []) = .arr c.arguments ∧
          (Command.layout.given? c.encode "arguments").getD (.arr []) = .arr c.arguments) ∧
      (∀ value e, WorkspaceEdit.decode value = .ok e →
        (WorkspaceEdit.layout.given? value "documentChanges").getD .null =
            e.documentChanges.getD .null ∧
          WorkspaceEdit.layout.given? e.encode "documentChanges" = e.documentChanges) ∧
      (∀ value a, CodeAction.decode value = .ok a →
        (CodeAction.layout.given? value "data").getD .null = a.data.getD .null ∧
          CodeAction.layout.given? a.encode "data" = a.data ∧
          Wire.nullable WorkspaceEdit.decode
              ((CodeAction.layout.given? value "edit").getD .null) = .ok a.edit ∧
          CodeAction.layout.given? a.encode "edit" = a.edit.map WorkspaceEdit.encode ∧
          Wire.nullable Command.decode
              ((CodeAction.layout.given? value "command").getD .null) = .ok a.command ∧
          CodeAction.layout.given? a.encode "command" = a.command.map Command.encode) ∧
      (∀ value c, Proposal.decode value = .ok (.command c) → Command.decode value = .ok c) ∧
      ∀ value a, Proposal.decode value = .ok (.action a) → CodeAction.decode value = .ok a := by
  refine ⟨?_, ?_, ?_, ?_, ?_, ?_, ?_, ?_, ?_, ?_, ?_, ?_⟩
  · exact .of_plain (fun p _ => p.decode_encode) fun _ _ _ => trivial
  · exact .of_plain (fun r _ => r.decode_encode) fun _ _ _ => trivial
  · exact .of_plain (fun e _ => e.decode_encode) fun _ _ _ => trivial
  · exact .of_plain (fun _ => WorkspaceEdit.decode_encode) fun _ _ => WorkspaceEdit.plain_of_decode
  · exact .of_plain (fun c _ => c.decode_encode) fun _ _ _ => trivial
  · exact .of_plain (fun _ => CodeAction.decode_encode) fun _ _ => CodeAction.plain_of_decode
  · exact .of_plain (fun _ => Proposal.decode_encode) fun _ _ => Proposal.plain_of_decode
  · intro value c h
    have hencode := (Command.given?_of_decode c.decode_encode).2
    exact ⟨(Command.given?_of_decode h).2, hencode⟩
  · intro value e h
    have hkept := Wire.nullable_anything_eq_ok (WorkspaceEdit.documentChanges_of_decode h)
    exact ⟨hkept.1.symm, e.given?_encode.2⟩
  · intro value a h
    obtain ⟨hedit, hcommand, hdata⟩ := CodeAction.given?_of_decode h
    obtain ⟨-, -, hedit', hcommand', -, hdata'⟩ := a.given?_encode
    exact ⟨(Wire.nullable_anything_eq_ok hdata).1.symm, hdata', hedit, hedit', hcommand, hcommand'⟩
  · exact fun value c => Proposal.decode_eq_command_iff.mp
  · exact fun value a h => (Proposal.decode_eq_action_iff.mp h).2

/-- An array is read as a command with its arguments, and the command is written as an object. -/
example : Proposal.decode (.arr [.str "Fix", .str "fix", .arr [.null]]) =
      .ok (.command ⟨"Fix", "fix", [.null]⟩) ∧
    Proposal.encode (.command ⟨"Fix", "fix", [.null]⟩) =
      .obj [("arguments", .arr [.null]), ("command", .str "fix"), ("title", .str "Fix")] :=
  ⟨rfl, rfl⟩

end DiagnosticLens
