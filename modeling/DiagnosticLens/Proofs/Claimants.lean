import DiagnosticLens.Proofs.Ascii
import DiagnosticLens.Routing

/-!
# Who gets an extension

The map from extensions to servers is built up claim by claim, and an extension that has an owner
keeps it. So an extension belongs to the first who claims it, and files of a kind are inspected
exactly if some server lists their extension.

## Implementation notes

`bareExtension` writes out when two spellings of an extension are the same, and all that follows is
said in its terms.

`ExtensionMap.get?_claimAll` says once what a list of claims makes of the owners, in the order of the
claims. What follows from the order in which servers come up, and what does not depend on it, is
read off the list `ExtensionMap.claims`.
-/

namespace DiagnosticLens

/-- The names that a registry goes through are those that something stands under. -/
theorem Registry.mem_sortedNames {α : Type} {r : Registry α} {name : String} :
    name ∈ r.sortedNames ↔ (r.get? name).isSome := by
  rw [sortedNames, List.mem_mergeSort, get?]
  induction r.entries with
  | nil => simp
  | cons entry rest ih =>
      obtain ⟨key, value⟩ := entry
      rw [List.map_cons, List.mem_cons, List.lookup_cons, ih]
      by_cases h : name = key
      · simp [h]
      · simp [h, beq_false_of_ne h]

/-- An extension without the dots in front of it, and with small letters for the capital ones from A
to Z. -/
def bareExtension (ext : String) : String :=
  String.ofList ((ext.toList.dropWhile (· = '.')).map asciiLower)

/-- Extensions are compared without their dots and in lower case. -/
theorem normalizeExtension_eq (ext : String) : normalizeExtension ext = bareExtension ext := by
  have hlower : Char.toLower = asciiLower := funext toLower_eq_asciiLower
  rw [normalizeExtension, bareExtension, hlower]
  rfl

namespace ExtensionMap

/-- A claim gives an extension to the claimant unless it has an owner, and leaves all others. -/
theorem get?_claim (claimant ext : String) (owners : Registry String) (key : String) :
    (claim claimant ext owners).1.get? key =
      (owners.get? key).or (if bareExtension ext = key then some claimant else none) := by
  simp only [claim, normalizeExtension_eq]
  cases howner : owners.get? (bareExtension ext) with
  | some owner =>
      by_cases h : bareExtension ext = key
      · rw [← h, howner, Option.some_or]
      · rw [if_neg h, Option.or_none]
  | none =>
      by_cases h : bareExtension ext = key
      · rw [← h, howner, if_pos rfl, Option.none_or]
        exact Registry.get?_set_self _ _ _
      · rw [if_neg h, Option.or_none]
        exact Registry.get?_set_of_ne _ _ (Ne.symm h)

/-- After some claims, an extension without an owner belongs to the first who claimed it. -/
theorem get?_claimAll (claims : List (String × String)) (owners : Registry String) (key : String) :
    (claimAll claims owners).1.get? key = (owners.get? key).or
      ((claims.find? fun c => bareExtension c.2 = key).map Prod.fst) := by
  induction claims generalizing owners with
  | nil => simp [claimAll]
  | cons c claims ih =>
      obtain ⟨claimant, ext⟩ := c
      rw [claimAll, ih, get?_claim, List.find?_cons, Option.or_assoc]
      by_cases h : bareExtension ext = key
      · simp [h]
      · simp [h]

/-- The claims are the extensions that the servers list. -/
theorem mem_claims {config : Config} {name ext : String} :
    (name, ext) ∈ claims config ↔
      ∃ server, config.servers.get? name = some server ∧ ext ∈ server.fileExtensions := by
  simp only [claims, List.mem_flatMap, List.mem_map, Prod.mk.injEq, Registry.mem_sortedNames]
  constructor
  · rintro ⟨_, hname, _, hext, rfl, rfl⟩
    obtain ⟨server, hserver⟩ := Option.isSome_iff_exists.mp hname
    rw [hserver] at hext
    exact ⟨server, hserver, hext⟩
  · rintro ⟨server, hserver, hext⟩
    refine ⟨name, by simp [hserver], ext, ?_, rfl, rfl⟩
    rw [hserver]
    exact hext

end ExtensionMap

/-- Whether some server lists an extension, in whatever case and behind however many dots. -/
def Config.Lists (config : Config) (ext : String) : Prop :=
  ∃ name server, config.servers.get? name = some server ∧
    ∃ listed ∈ server.fileExtensions, bareExtension listed = bareExtension ext

namespace ExtensionMap

/-- An extension is owned exactly if some server lists it. -/
theorem isSome_owner_iff (config : Config) (ext : String) :
    ((ofConfig config).1.owners.get? (bareExtension ext)).isSome ↔ config.Lists ext := by
  rw [ofConfig, get?_claimAll, Registry.get?_empty, Option.none_or, Option.isSome_map,
    List.find?_isSome]
  constructor
  · rintro ⟨⟨name, listed⟩, hmem, hsame⟩
    obtain ⟨server, hserver, hlisted⟩ := mem_claims.mp hmem
    exact ⟨name, server, hserver, listed, hlisted, of_decide_eq_true hsame⟩
  · rintro ⟨name, server, hserver, listed, hlisted, hsame⟩
    exact ⟨(name, listed), mem_claims.mpr ⟨server, hserver, hlisted⟩, decide_eq_true hsame⟩

theorem serverFor?_some (m : ExtensionMap) (ext : String) :
    m.serverFor? (some ext) = if m.enabled then m.owners.get? (bareExtension ext) else none := by
  rw [serverFor?, Option.bind_some, normalizeExtension_eq]

/-- Files are looked after exactly if files are inspected at all, and they have an extension that some
server lists. -/
theorem supports_ofConfig_iff (config : Config) (ext : Option String) :
    (ofConfig config).1.supports ext ↔
      config.enabled ∧ ∃ e, ext = some e ∧ config.Lists e := by
  have henabled : (ofConfig config).1.enabled = config.enabled := rfl
  rw [supports]
  cases ext with
  | none => simp [serverFor?]
  | some e =>
      rw [serverFor?_some, henabled]
      cases config.enabled <;> simp [isSome_owner_iff]

end ExtensionMap

end DiagnosticLens
