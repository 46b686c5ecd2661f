import DiagnosticLens.Wire.Layout
import Mathlib.Data.List.Induction

/-!
# What a record is read from

A record is read from the values that an object or an array gives for its fields. Whatever the order
in which they come, a field of the record depends on nothing but the value given for it: an unknown
name is passed over, and of several values for one name the last counts.

## Implementation notes

Reading goes through drafts. `Layout.Keeps` says where a draft keeps one field and what one more
value does to it, which is all that has to be known of a record. What is left in a draft of all
values given for the field follows for all records at once.
-/

namespace DiagnosticLens

/-- What is done in two steps goes well if both steps do. -/
theorem bind_eq_ok_iff {ε α β : Type} {first : Except ε α} {next : α → Except ε β} {b : β} :
    first >>= next = .ok b ↔ ∃ a, first = .ok a ∧ next a = .ok b := by
  cases first with
  | error error => simp [bind, Except.bind]
  | ok a => simp [bind, Except.bind]

theorem pure_eq_ok_iff {ε α : Type} {a b : α} : (pure a : Except ε α) = .ok b ↔ a = b := by
  simp [pure, Except.pure]

theorem map_eq_ok_iff {ε α β : Type} {first : Except ε α} {f : α → β} {b : β} :
    first.map f = .ok b ↔ ∃ a, first = .ok a ∧ f a = b := by
  cases first with
  | error error => simp [Except.map]
  | ok a => simp [Except.map]

/-- A value that may be left out stands for something: it is read as that, and it is left out for
nothing but the default. -/
structure StandsFor {α : Type} (item : Decoder α) (default : α) (written : Option Json) (x : α) :
    Prop where
  eq_default : written = none → x = default
  reads : ∀ value, written = some value → item value = .ok x

theorem StandsFor.unless {α : Type} {item : Decoder α} {default x : α} {value : Json} {p : Prop}
    [Decidable p] (hdefault : p → x = default) (hread : item value = .ok x) :
    StandsFor item default (if p then none else some value) x := by
  constructor
  · intro hnone
    exact hdefault (by simpa using hnone)
  · intro given hgiven
    split at hgiven
    · cases hgiven
    · rwa [← Option.some.inj hgiven]

namespace Wire

@[simp] theorem reverse_optional (name : String) (value : Option Json) :
    (optional name value).reverse = optional name value := by
  cases value <;> rfl

/-- Nothing but its own name leads to an optional member. -/
@[simp] theorem lookup_optional (key name : String) (value : Option Json) :
    (optional name value).lookup key = if key = name then value else none := by
  cases value with
  | none => simp [optional]
  | some v => by_cases h : key = name <;> simp [optional, h]

theorem forall_mem_optional {name : String} {value : Option Json} {P : String × Json → Prop} :
    (∀ member ∈ optional name value, P member) ↔ ∀ v, value = some v → P (name, v) := by
  cases value <;> simp [optional]

end Wire

namespace Layout

variable {δ α β : Type} {put : δ → String → Json → Except WireError δ}

/-- The values that are given for the fields of a record, each with the name of its field. -/
def given (layout : Layout) : Json → List (String × Json)
  | .obj members => members
  | .arr items => (layout.fields.map Prod.fst).zip items
  | _ => []

/-- The value that is given for a field. Of several values the last counts. -/
def given? (layout : Layout) (value : Json) (name : String) : Option Json :=
  (layout.given value).reverse.lookup name

/-- Adds values to a draft, one after the other. -/
def fill (put : δ → String → Json → Except WireError δ) (start : δ)
    (entries : List (String × Json)) : Except WireError δ :=
  entries.foldlM (fun draft entry => put draft entry.1 entry.2) start

theorem fill_concat (start : δ) (entries : List (String × Json)) (entry : String × Json) :
    fill put start (entries ++ [entry]) =
      fill put start entries >>= fun draft => put draft entry.1 entry.2 := by
  simp [fill, List.foldlM_append]

/-- An object is read by filling a draft with its members. -/
theorem decode_obj (layout : Layout) (start : δ) (finish : δ → Except WireError β)
    (members : List (String × Json)) :
    layout.decode put start finish (.obj members) = fill put start members >>= finish := rfl

/-- Whatever a record was read from, a draft was filled with the values given for its fields. -/
theorem exists_fill_of_decode {layout : Layout} {start : δ} {finish : δ → Except WireError β}
    {value : Json} {x : β} (h : layout.decode put start finish value = .ok x) :
    ∃ draft, fill put start (layout.given value) = .ok draft ∧ finish draft = .ok x := by
  cases value with
  | obj members => exact bind_eq_ok_iff.mp h
  | arr items =>
      obtain ⟨draft, hfill, hrest⟩ := bind_eq_ok_iff.mp h
      obtain ⟨-, -, hfinish⟩ := bind_eq_ok_iff.mp hrest
      refine ⟨draft, ?_, hfinish⟩
      rw [given, fill, List.zip_map_left, List.foldlM_map]
      exact hfill
  | null => cases h
  | bool b => cases h
  | num n => cases h
  | str s => cases h

/-- If every value can be added to every draft, a draft can be filled with all of them. -/
theorem exists_fill {entries : List (String × Json)}
    (h : ∀ entry ∈ entries, ∀ draft, ∃ next, put draft entry.1 entry.2 = .ok next) (start : δ) :
    ∃ draft, fill put start entries = .ok draft := by
  induction entries generalizing start with
  | nil => exact ⟨start, rfl⟩
  | cons entry entries ih =>
      obtain ⟨next, hnext⟩ := h entry (List.mem_cons_self ..) start
      have hlater := fun later hlater => h later (List.mem_cons_of_mem _ hlater)
      obtain ⟨draft, hdraft⟩ := ih hlater next
      refine ⟨draft, ?_⟩
      rw [fill, List.foldlM_cons, hnext]
      exact hdraft

/-- An object is read as a record if each of its members can be added to every draft, and if the
draft that they fill is that of the record. -/
theorem decode_obj_eq_ok {layout : Layout} {start : δ} {finish : δ → Except WireError β}
    {members : List (String × Json)} {x : β}
    (hput : ∀ member ∈ members, ∀ draft, ∃ next, put draft member.1 member.2 = .ok next)
    (hfinish : ∀ draft, fill put start members = .ok draft → finish draft = .ok x) :
    layout.decode put start finish (.obj members) = .ok x := by
  obtain ⟨draft, hfill⟩ := exists_fill hput start
  rw [decode_obj, hfill]
  exact hfinish draft hfill

/-- What becomes of one field when a value is added under a name. -/
def update (field : String) (item : Decoder α) (name : String) (value : Json) (old : Option α) :
    Except WireError (Option α) :=
  if name = field then (item value).map some else .ok old

/-- A draft keeps a field in this place: values for the field are read and put there, and all other
values leave it. -/
structure Keeps (put : δ → String → Json → Except WireError δ) (field : String) (item : Decoder α)
    (kept : δ → Option α) : Prop where
  accepts : ∀ {draft : δ} {value : Json} {a : α}, item value = .ok a →
    ∃ next, put draft field value = .ok next
  updates : ∀ {draft next : δ} {name : String} {value : Json}, put draft name value = .ok next →
    update field item name value (kept draft) = .ok (kept next)

namespace Keeps

variable {field : String} {item : Decoder α} {kept : δ → Option α}

/-- A draft keeps of a field what is read from the last value given for it, and nothing if there is
no such value. -/
theorem mapM_lookup_of_fill (hkeeps : Keeps put field item kept) {start draft : δ}
    (hstart : kept start = none) {entries : List (String × Json)}
    (hfill : fill put start entries = .ok draft) :
    (entries.reverse.lookup field).mapM item = .ok (kept draft) := by
  induction entries using List.reverseRecOn generalizing draft with
  | nil =>
      obtain rfl := Except.ok.inj hfill
      rw [hstart]
      rfl
  | append_singleton entries entry ih =>
      obtain ⟨name, value⟩ := entry
      rw [fill_concat] at hfill
      obtain ⟨before, hbefore, hput⟩ := bind_eq_ok_iff.mp hfill
      have hstep := hkeeps.updates hput
      rw [List.reverse_concat, List.lookup_cons]
      by_cases hname : name = field
      · rw [update, if_pos hname] at hstep
        rw [hname, beq_self_eq_true]
        exact hstep
      · have hother : (field == name) = false := by simpa using Ne.symm hname
        rw [update, if_neg hname] at hstep
        rw [hother, ← Except.ok.inj hstep]
        exact ih hbefore

/-- If the last value given for a field can be read, the draft keeps what is read from it. -/
theorem kept_of_lookup (hkeeps : Keeps put field item kept) {start draft : δ}
    (hstart : kept start = none) {entries : List (String × Json)}
    (hfill : fill put start entries = .ok draft) {value : Json} {a : α}
    (hlookup : entries.reverse.lookup field = some value) (hread : item value = .ok a) :
    kept draft = some a := by
  have hkept := hkeeps.mapM_lookup_of_fill hstart hfill
  rw [hlookup, Option.mapM_some, hread] at hkept
  exact (Except.ok.inj hkept).symm

/-- Every draft takes an optional member that stands for something. -/
theorem accepts_optional (hkeeps : Keeps put field item kept) {default x : α}
    {written : Option Json} (hstands : StandsFor item default written x) :
    ∀ member ∈ Wire.optional field written, ∀ draft,
      ∃ next, put draft member.1 member.2 = .ok next := by
  rw [Wire.forall_mem_optional]
  exact fun value hvalue draft => hkeeps.accepts (hstands.reads value hvalue)

/-- A field that may be left out comes to what was meant. -/
theorem getD_of_fill (hkeeps : Keeps put field item kept) {start draft : δ}
    (hstart : kept start = none) {entries : List (String × Json)}
    (hfill : fill put start entries = .ok draft) {default x : α} {written : Option Json}
    (hlookup : entries.reverse.lookup field = written)
    (hstands : StandsFor item default written x) : (kept draft).getD default = x := by
  cases written with
  | none =>
      have hkept := hkeeps.mapM_lookup_of_fill hstart hfill
      rw [hlookup] at hkept
      rw [hstands.eq_default rfl, ← Except.ok.inj hkept]
      rfl
  | some value =>
      rw [hkeeps.kept_of_lookup hstart hfill hlookup (hstands.reads value rfl)]
      rfl

end Keeps

/-- An object with two members is read as the record of what is read from the two. -/
theorem decode_pair {α' : Type} {layout : Layout} {start : δ} {finish : δ → Except WireError β}
    {field field' : String} {item : Decoder α} {item' : Decoder α'} {kept : δ → Option α}
    {kept' : δ → Option α'} (hkeeps : Keeps put field item kept)
    (hkeeps' : Keeps put field' item' kept') (hne : field ≠ field') (hstart : kept start = none)
    (hstart' : kept' start = none) {value value' : Json} {a : α} {a' : α'}
    (hread : item value = .ok a) (hread' : item' value' = .ok a') {x : β}
    (hfinish : ∀ draft, kept draft = some a → kept' draft = some a' → finish draft = .ok x) :
    layout.decode put start finish (.obj [(field, value), (field', value')]) = .ok x := by
  have hother : (field == field') = false := by simpa using hne
  refine decode_obj_eq_ok (List.forall_mem_cons.mpr ⟨?_, List.forall_mem_singleton.mpr ?_⟩) ?_
  · exact fun draft => hkeeps.accepts hread
  · exact fun draft => hkeeps'.accepts hread'
  · intro draft hfill
    apply hfinish draft
    · exact hkeeps.kept_of_lookup hstart hfill (by simp [List.lookup_cons, hother]) hread
    · exact hkeeps'.kept_of_lookup hstart' hfill (by simp) hread'

end Layout

end DiagnosticLens
