import DiagnosticLens.Proofs.LeastClaimant
import Mathlib.Algebra.BigOperators.Group.List.Basic
import Mathlib.Data.List.DropRight
import Mathlib.Data.List.Nodup

/-!
# Reports of late claims

An extension goes to the first server that claims it, and each later claim is reported with the
owner and the claimant. So every server that lists an extension and does not get it is reported, and
the owner in the report is the server that looks after the extension. The claimant need not be
another server: one that lists an extension twice, in whatever spellings, comes too late with its
own second claim, and is reported as if two servers were in conflict.

## Implementation notes

Reports are counted against claims. Of the claims that one server makes to an extension each gives
one report, except that the first claim of the owner gives none. Whether a report occurs at all is
read off that count.
-/

namespace DiagnosticLens

/-- A bare extension stays as it is. -/
@[simp]
theorem bareExtension_bareExtension (ext : String) :
    bareExtension (bareExtension ext) = bareExtension ext := by
  have hdots : ((fun c => decide (c = '.')) ∘ asciiLower) = fun c => decide (c = '.') := by
    funext c
    rw [Function.comp_apply, decide_eq_decide]
    constructor
    · exact eq_of_asciiLower_eq (by decide)
    · rintro rfl
      decide
  have hlower : asciiLower ∘ asciiLower = asciiLower := funext asciiLower_asciiLower
  rw [bareExtension, bareExtension, String.toList_ofList, List.dropWhile_map, hdots,
    List.dropWhile_idempotent, List.map_map, hlower]

/-- The first in the order of bytes among the servers that list an extension. -/
def Config.IsLeastClaimant (config : Config) (ext name : String) : Prop :=
  config.IsClaimant ext name ∧
    ∀ other, config.IsClaimant ext other → Utf8.encode name ≤ Utf8.encode other

/-- How often a server lists an extension, in whatever case and behind however many dots. -/
def Config.listings (config : Config) (ext name : String) : Nat :=
  (config.listedBy name).countP fun listed => bareExtension listed = bareExtension ext

namespace Config

variable {config : Config}

theorem isClaimant_bareExtension {ext name : String} :
    config.IsClaimant (bareExtension ext) name ↔ config.IsClaimant ext name := by
  rw [IsClaimant, IsClaimant, bareExtension_bareExtension]

theorem isLeastClaimant_bareExtension {ext name : String} :
    config.IsLeastClaimant (bareExtension ext) name ↔ config.IsLeastClaimant ext name := by
  simp only [IsLeastClaimant, isClaimant_bareExtension]

end Config

namespace ExtensionMap

/-- How many of some claims one server makes to an extension. -/
def claimsBy (name key : String) (claims : List (String × String)) : Nat :=
  claims.countP fun c => c.1 = name ∧ bareExtension c.2 = key

/-- A claim is reported exactly if the extension has an owner. -/
theorem events_claim (claimant ext : String) (owners : Registry String) :
    (claim claimant ext owners).2 = ((owners.get? (bareExtension ext)).map fun owner =>
      Event.extensionTaken (bareExtension ext) owner claimant).toList := by
  simp only [claim, normalizeExtension_eq]
  cases owners.get? (bareExtension ext) <;> rfl

/-- The first of some claims is reported in front of the others. -/
theorem events_claimAll_cons (claimant ext : String) (rest : List (String × String))
    (owners : Registry String) :
    (claimAll ((claimant, ext) :: rest) owners).2 =
      (claim claimant ext owners).2 ++ (claimAll rest (claim claimant ext owners).1).2 := rfl

/-- A report names a claim that was made, and the owner of the extension in the end. -/
theorem exists_claim_of_mem_events {claims : List (String × String)} {owners : Registry String}
    {e : Event} (he : e ∈ (claimAll claims owners).2) :
    ∃ claimant ext owner, (claimant, ext) ∈ claims ∧
      (claimAll claims owners).1.get? (bareExtension ext) = some owner ∧
      e = .extensionTaken (bareExtension ext) owner claimant := by
  induction claims generalizing owners with
  | nil => cases he
  | cons first rest ih =>
      obtain ⟨claimant, ext⟩ := first
      rw [events_claimAll_cons] at he
      rcases List.mem_append.mp he with he | he
      · rw [events_claim, Option.mem_toList, Option.map_eq_some_iff] at he
        obtain ⟨owner, howner, rfl⟩ := he
        refine ⟨claimant, ext, owner, List.mem_cons_self, ?_, rfl⟩
        rw [get?_claimAll, howner, Option.some_or]
      · obtain ⟨later, ext', owner, hmem, howner, rfl⟩ := ih he
        exact ⟨later, ext', owner, List.mem_cons_of_mem _ hmem, howner, rfl⟩

/-- The claims of a server to an extension are its reports, and one more for the owner if the
extension was free before. -/
theorem count_events_claimAll (claims : List (String × String)) (owners : Registry String)
    {key owner : String} (claimant : String)
    (howner : (claimAll claims owners).1.get? key = some owner) :
    (claimAll claims owners).2.count (.extensionTaken key owner claimant) +
        (if owners.get? key = none ∧ claimant = owner then 1 else 0) =
      claimsBy claimant key claims := by
  induction claims generalizing owners with
  | nil =>
      have hsome : owners.get? key = some owner := howner
      simp [claimAll, claimsBy, hsome]
  | cons first rest ih =>
      obtain ⟨name, ext⟩ := first
      have hlater := ih (claim name ext owners).1 howner
      rw [events_claimAll_cons, List.count_append, claimsBy, List.countP_cons, ← claimsBy, ← hlater,
        get?_claim, events_claim]
      by_cases hkey : bareExtension ext = key
      · subst hkey
        rw [get?_claimAll] at howner
        cases hbefore : owners.get? (bareExtension ext) with
        | some earlier =>
            obtain rfl : earlier = owner := by simpa [hbefore] using howner
            by_cases hname : name = claimant <;> simp [hname, Nat.add_comm]
        | none =>
            obtain rfl : name = owner := by simpa [hbefore] using howner
            by_cases hname : name = claimant <;> simp [hname, Ne.symm]
      · -- a claim to another extension is neither counted nor reported for this one
        cases owners.get? (bareExtension ext) <;> simp [hkey]

/-- The claims of a server are what it lists. -/
theorem claimsBy_claims (config : Config) (ext name : String) :
    claimsBy name (bareExtension ext) (claims config) = config.listings ext name := by
  have hothers : ∀ other, other ≠ name → other ∈ config.servers.sortedNames →
      claimsBy name (bareExtension ext) ((config.listedBy other).map (other, ·)) = 0 := by
    intro other hother _
    simp [claimsBy, List.countP_map, List.countP_eq_zero, hother]
  have hown : claimsBy name (bareExtension ext) ((config.listedBy name).map (name, ·)) =
      config.listings ext name := by
    simp [claimsBy, List.countP_map, Config.listings, Function.comp_def]
  have hsum : claimsBy name (bareExtension ext) (claims config) =
      config.servers.sortedNames.count name * config.listings ext name := by
    rw [claimsBy, claims, List.countP_flatMap, ← hown]
    exact List.sum_map_eq_nsmul_single name _ hothers
  rw [hsum]
  by_cases hname : name ∈ config.servers.sortedNames
  · rw [List.count_eq_one_of_mem config.servers.nodup_sortedNames hname, Nat.one_mul]
  · -- nothing stands under the name, so nothing is listed there
    have hnone : config.servers.get? name = none := by
      rw [Registry.mem_sortedNames, Option.not_isSome_iff_eq_none] at hname
      exact hname
    simp [Config.listings, Config.listedBy, hnone]

variable {config : Config} {ext owner : String}

/-- A server is reported for an extension once for each of its claims, but for the one by which the
owner got it. -/
theorem count_events_ofConfig (howner : config.IsLeastClaimant ext owner) (claimant : String) :
    (ofConfig config).2.count (.extensionTaken (bareExtension ext) owner claimant) +
        (if claimant = owner then 1 else 0) =
      claimsBy claimant (bareExtension ext) (claims config) := by
  have hcount := count_events_claimAll (claims config) .empty claimant
    ((owner_eq_some_iff config ext owner).mpr howner)
  simp only [Registry.get?_empty, true_and] at hcount
  exact hcount

/-- A report names an extension, the least of its claimants, and a claimant. -/
theorem exists_claimants_of_mem_events {e : Event} (he : e ∈ (ofConfig config).2) :
    ∃ ext owner claimant, e = .extensionTaken (bareExtension ext) owner claimant ∧
      config.IsLeastClaimant ext owner ∧ config.IsClaimant ext claimant := by
  obtain ⟨claimant, ext, owner, hclaim, howner, rfl⟩ := exists_claim_of_mem_events he
  refine ⟨ext, owner, claimant, rfl, (owner_eq_some_iff config ext owner).mp howner, ?_⟩
  exact ⟨ext, Config.mem_listedBy.mpr (mem_claims.mp hclaim), rfl⟩

/-- Whoever lists an extension without getting it is reported. -/
theorem mem_events_of_isClaimant (howner : config.IsLeastClaimant ext owner) {claimant : String}
    (hclaimant : config.IsClaimant ext claimant) (hother : claimant ≠ owner) :
    .extensionTaken (bareExtension ext) owner claimant ∈ (ofConfig config).2 := by
  obtain ⟨listed, hlisted, hsame⟩ := hclaimant
  have hclaim : (claimant, listed) ∈ claims config :=
    mem_claims.mpr (Config.mem_listedBy.mp hlisted)
  have hclaims : 0 < claimsBy claimant (bareExtension ext) (claims config) := by
    apply List.countP_pos_iff.mpr
    exact ⟨_, hclaim, by simp [hsame]⟩
  have hcount := count_events_ofConfig howner claimant
  rw [if_neg hother] at hcount
  apply List.count_pos_iff.mp
  omega

/-- A server is reported against itself exactly if it gets an extension that it lists more than
once. -/
theorem mem_events_self_iff (config : Config) (ext name : String) :
    .extensionTaken (bareExtension ext) name name ∈ (ofConfig config).2 ↔
      config.IsLeastClaimant ext name ∧ 2 ≤ config.listings ext name := by
  have hcount (hname : config.IsLeastClaimant ext name) :
      (ofConfig config).2.count (.extensionTaken (bareExtension ext) name name) + 1 =
        config.listings ext name := by
    rw [← claimsBy_claims config, ← count_events_ofConfig hname, if_pos rfl]
  constructor
  · intro hmem
    obtain ⟨ext', owner, claimant, heq, howner, -⟩ := exists_claimants_of_mem_events hmem
    obtain ⟨hext, rfl, rfl⟩ := Event.extensionTaken.inj heq
    have hname : config.IsLeastClaimant ext name := by
      rw [← Config.isLeastClaimant_bareExtension, hext,
        Config.isLeastClaimant_bareExtension]
      exact howner
    have hsome := List.count_pos_iff.mpr hmem
    have hlistings := hcount hname
    exact ⟨hname, by omega⟩
  · rintro ⟨hname, htwice⟩
    have hlistings := hcount hname
    apply List.count_pos_iff.mp
    omega

/-- Every report names an extension, the server that looks after it, and a server that lists it, and
no server that lists an extension without getting it goes unreported. The two servers of a report
are different, unless the one that looks after the extension lists it more than once: then it is
reported against itself. -/
theorem late_claims_reported (config : Config) :
    (∀ e ∈ (ofConfig config).2, ∃ ext owner claimant,
      e = .extensionTaken ext owner claimant ∧ bareExtension ext = ext ∧
        config.IsLeastClaimant ext owner ∧ config.IsClaimant ext claimant ∧
        (config.enabled = true → (ofConfig config).1.serverFor? (some ext) = some owner)) ∧
      (∀ ext owner claimant, config.IsLeastClaimant ext owner → config.IsClaimant ext claimant →
        claimant ≠ owner →
          .extensionTaken (bareExtension ext) owner claimant ∈ (ofConfig config).2) ∧
      (∀ ext name, .extensionTaken (bareExtension ext) name name ∈ (ofConfig config).2 ↔
        config.IsLeastClaimant ext name ∧ 2 ≤ config.listings ext name) := by
  refine ⟨?_, ?_, mem_events_self_iff config⟩
  · intro e he
    obtain ⟨ext, owner, claimant, rfl, howner, hclaimant⟩ := exists_claimants_of_mem_events he
    rw [← Config.isLeastClaimant_bareExtension] at howner
    rw [← Config.isClaimant_bareExtension] at hclaimant
    refine ⟨bareExtension ext, owner, claimant, rfl,
      bareExtension_bareExtension ext, howner, hclaimant, ?_⟩
    intro henabled
    exact (serverFor?_eq_some_iff config _ owner).mpr ⟨henabled, howner⟩
  · intro ext owner claimant howner hclaimant hother
    exact mem_events_of_isClaimant howner hclaimant hother

/-- Two servers that list an extension, the first of them in two spellings. -/
def spelledTwice : Config where
  servers := (Registry.empty.set "b" ⟨"b", ["rs"]⟩).set "a" ⟨"a", ["rs", ".RS"]⟩

theorem mem_listedBy_spelledTwice {name ext : String} :
    ext ∈ spelledTwice.listedBy name ↔
      name = "a" ∧ (ext = "rs" ∨ ext = ".RS") ∨ name = "b" ∧ ext = "rs" := by
  simp only [Config.listedBy, spelledTwice, Registry.get?_set, Registry.get?_empty]
  grind

/-- The second server is reported for its claim, and the first one for its second spelling. -/
theorem late_claims_reported_spelledTwice :
    .extensionTaken "rs" "a" "b" ∈ (ofConfig spelledTwice).2 ∧
      .extensionTaken "rs" "a" "a" ∈ (ofConfig spelledTwice).2 ∧
      (ofConfig spelledTwice).1.serverFor? (some "rs") = some "a" := by
  obtain ⟨hnamed, hothers, hself⟩ := late_claims_reported spelledTwice
  have hleast : spelledTwice.IsLeastClaimant "rs" "a" := by
    refine ⟨⟨"rs", mem_listedBy_spelledTwice.mpr (by simp), rfl⟩, ?_⟩
    rintro other ⟨listed, hlisted, -⟩
    rcases mem_listedBy_spelledTwice.mp hlisted with ⟨rfl, -⟩ | ⟨rfl, -⟩
    · decide
    · decide
  have hsecond : spelledTwice.IsClaimant "rs" "b" :=
    ⟨"rs", mem_listedBy_spelledTwice.mpr (by simp), rfl⟩
  have hlate : .extensionTaken "rs" "a" "b" ∈ (ofConfig spelledTwice).2 :=
    hothers "rs" "a" "b" hleast hsecond (by decide)
  refine ⟨hlate, (hself "rs" "a").mpr ⟨hleast, by decide⟩, ?_⟩
  obtain ⟨ext, owner, claimant, heq, -, -, -, hserver⟩ := hnamed _ hlate
  obtain ⟨rfl, rfl, rfl⟩ := Event.extensionTaken.inj heq
  exact hserver rfl

/-- A server of its own, which lists an extension in two spellings. -/
def alone : Config where
  servers := Registry.empty.set "a" ⟨"a", ["rs", ".RS"]⟩

/-- There is no other server to be in conflict with, and a conflict is reported all the same. -/
theorem lone_server_reported :
    (∀ name, alone.IsClaimant "rs" name → name = "a") ∧
      (ofConfig alone).2 = [.extensionTaken "rs" "a" "a"] ∧
      ¬∀ e ∈ (ofConfig alone).2, ∃ ext owner claimant,
        e = .extensionTaken ext owner claimant ∧ claimant ≠ owner := by
  have hevents : (ofConfig alone).2 = [.extensionTaken "rs" "a" "a"] := by
    have hclaims : claims alone = [("a", "rs"), ("a", ".RS")] := by
      simp [claims, alone]
    rw [ofConfig, hclaims]
    decide
  refine ⟨?_, hevents, ?_⟩
  · rintro name ⟨listed, hlisted, -⟩
    by_contra hname
    simp [Config.listedBy, alone, Registry.get?_set_of_ne, hname] at hlisted
  · intro hdifferent
    rw [hevents] at hdifferent
    obtain ⟨ext, owner, claimant, heq, hne⟩ := hdifferent _ (List.mem_singleton.mpr rfl)
    obtain ⟨rfl, rfl, rfl⟩ := Event.extensionTaken.inj heq
    exact hne rfl

end ExtensionMap

end DiagnosticLens
