/-!
# Registries

A registry keeps at most one value under each name. Which names it has and what stands under them
is all that counts; `Registry.get?` is the view in which its operations are described.

## Implementation notes

A registry is a list of entries together with the proof that their names are distinct. What is done
to the list alone is in `Entries`: a type whose values hold entries of the same type again, like
tables in tables, has no room for the proof.
-/

namespace DiagnosticLens

variable {α : Type}

/-- Values under names. The first entry with a name tells what stands under it. -/
abbrev Entries (α : Type) := List (String × α)

namespace Entries

/-- The entries under other names. -/
def without (entries : Entries α) (name : String) : Entries α :=
  entries.filter fun entry => !(entry.1 == name)

/-- Puts a value under a name, in place of any other. -/
def put (entries : Entries α) (name : String) (value : α) : Entries α :=
  (name, value) :: entries.without name

theorem lookup_without_self (entries : Entries α) (name : String) :
    (entries.without name).lookup name = none := by
  induction entries with
  | nil => rfl
  | cons entry rest ih =>
    obtain ⟨key, value⟩ := entry
    rw [without] at ih ⊢
    by_cases h : key = name
    · simp only [List.filter_cons, h, beq_self_eq_true, Bool.not_true, Bool.false_eq_true, if_false]
      exact ih
    · have hkey : (key == name) = false := by simp [h]
      have hname : (name == key) = false := by simp [Ne.symm h]
      simp only [List.filter_cons, hkey, Bool.not_false, if_true, List.lookup_cons, hname]
      exact ih

theorem lookup_without_of_ne (entries : Entries α) {name other : String} (hne : other ≠ name) :
    (entries.without name).lookup other = entries.lookup other := by
  induction entries with
  | nil => rfl
  | cons entry rest ih =>
    obtain ⟨key, value⟩ := entry
    rw [without] at ih ⊢
    by_cases h : key = name
    · have hother : (other == key) = false := by simp [h, hne]
      simp only [List.filter_cons, h, beq_self_eq_true, Bool.not_true, Bool.false_eq_true, if_false]
      rw [ih, List.lookup_cons, ← h, hother]
    · have hkey : (key == name) = false := by simp [h]
      simp only [List.filter_cons, hkey, Bool.not_false, if_true, List.lookup_cons, ih]

/-- Entries with distinct names have distinct names when some of them are gone. -/
theorem nodup_without {entries : Entries α} (h : (entries.map Prod.fst).Nodup) (name : String) :
    ((entries.without name).map Prod.fst).Nodup :=
  (List.filter_sublist.map Prod.fst).nodup h

/-- A name is distinct from those of the entries under other names. -/
theorem nodup_put {entries : Entries α} (h : (entries.map Prod.fst).Nodup) (name : String)
    (value : α) : ((entries.put name value).map Prod.fst).Nodup := by
  rw [put, List.map_cons, List.nodup_cons]
  refine ⟨?_, nodup_without h name⟩
  simp [without]

end Entries

/-- Values under names, one under each. -/
structure Registry (α : Type) where
  entries : Entries α
  distinct : (entries.map Prod.fst).Nodup

namespace Registry

/-- The registry without names. -/
def empty : Registry α := ⟨[], List.nodup_nil⟩

instance : EmptyCollection (Registry α) := ⟨empty⟩

/-- The value under a name. -/
def get? (r : Registry α) (name : String) : Option α := r.entries.lookup name

/-- Whether there is a value under a name. -/
def contains (r : Registry α) (name : String) : Bool := (r.get? name).isSome

/-- Takes away the value under a name. -/
def erase (r : Registry α) (name : String) : Registry α :=
  ⟨r.entries.without name, Entries.nodup_without r.distinct name⟩

/-- Puts a value under a name, in place of any other. -/
def set (r : Registry α) (name : String) (value : α) : Registry α :=
  ⟨r.entries.put name value, Entries.nodup_put r.distinct name value⟩

/-- The values that some entries have under their names. -/
def ofEntries (entries : Entries α) : Registry α :=
  entries.foldr (fun (name, value) r => r.set name value) empty

/-- The names in increasing order. -/
def sortedNames (r : Registry α) : List String :=
  (r.entries.map Prod.fst).mergeSort fun a b => decide (a ≤ b)

@[simp]
theorem get?_empty (name : String) : (empty : Registry α).get? name = none := rfl

/-- Nothing is left under a name that was taken away. -/
@[simp]
theorem get?_erase_self (r : Registry α) (name : String) : (r.erase name).get? name = none :=
  r.entries.lookup_without_self name

/-- Taking away one name leaves the others. -/
theorem get?_erase_of_ne (r : Registry α) {name other : String} (hne : other ≠ name) :
    (r.erase name).get? other = r.get? other :=
  r.entries.lookup_without_of_ne hne

/-- What was put under a name is there. -/
@[simp]
theorem get?_set_self (r : Registry α) (name : String) (value : α) :
    (r.set name value).get? name = some value := by
  simp [set, get?, Entries.put]

/-- Putting something under one name leaves the others. -/
theorem get?_set_of_ne (r : Registry α) {name other : String} (value : α) (hne : other ≠ name) :
    (r.set name value).get? other = r.get? other := by
  have hb : (other == name) = false := by simp [hne]
  simp only [set, get?, Entries.put, List.lookup_cons, hb]
  exact r.entries.lookup_without_of_ne hne

theorem get?_set (r : Registry α) (name : String) (value : α) (other : String) :
    (r.set name value).get? other = if other = name then some value else r.get? other := by
  by_cases h : other = name
  · rw [if_pos h, h, get?_set_self]
  · rw [if_neg h, get?_set_of_ne _ _ h]

/-- The first entry with a name tells what stands under it. -/
theorem get?_ofEntries (entries : Entries α) (name : String) :
    (ofEntries entries).get? name = entries.lookup name := by
  induction entries with
  | nil => rfl
  | cons entry rest ih =>
    obtain ⟨key, value⟩ := entry
    rw [ofEntries, List.foldr_cons, ← ofEntries, List.lookup_cons, get?_set, ih]
    by_cases h : name = key
    · simp [h]
    · simp [h, beq_false_of_ne h]

/-- The names of a registry with a single one. -/
@[simp]
theorem sortedNames_set_empty (name : String) (value : α) :
    (empty.set name value).sortedNames = [name] := by
  simp [sortedNames, set, empty, Entries.put, Entries.without]

/-- No name comes up twice. -/
theorem nodup_sortedNames (r : Registry α) : r.sortedNames.Nodup :=
  (List.mergeSort_perm _ _).nodup_iff.mpr r.distinct

end Registry

end DiagnosticLens
