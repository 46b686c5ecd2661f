import DiagnosticLens.Proofs.ByteOrder
import DiagnosticLens.Proofs.Claimants

/-!
# The least claimant gets an extension

Several servers may list the same extension. Then it belongs to the one whose name is the least in
the order of bytes. In what order the servers are kept, and in what order or how often each of them
lists its extensions, makes no difference.

## Implementation notes

Claims are made in the order of the names, so the first claim to an extension is one of the least
claimant: `map_find?_eq_some_iff` says this of any list that is sorted by a key.
-/

namespace DiagnosticLens

/-- In a list that is sorted by a key, the first element with a property has the least key among all
those with the property. -/
theorem map_find?_eq_some_iff {α β : Type} [LinearOrder β] {key : α → β} {p : α → Bool}
    {xs : List α} (hsorted : xs.Pairwise fun x y => key x ≤ key y) (k : β) :
    (xs.find? p).map key = some k ↔
      (∃ x ∈ xs, p x = true ∧ key x = k) ∧ ∀ x ∈ xs, p x = true → k ≤ key x := by
  induction xs with
  | nil => simp
  | cons x xs ih =>
      obtain ⟨hfirst, hrest⟩ := List.pairwise_cons.mp hsorted
      cases hx : p x with
      | false => simp [hx, ih hrest]
      | true =>
          simp only [List.find?_cons_of_pos hx, Option.map_some, Option.some.injEq]
          constructor
          · rintro rfl
            refine ⟨⟨x, List.mem_cons_self, hx, rfl⟩, ?_⟩
            intro y hy _
            rcases List.mem_cons.mp hy with rfl | hy
            · exact le_rfl
            · exact hfirst y hy
          · rintro ⟨⟨y, hy, -, rfl⟩, hleast⟩
            apply le_antisymm _ (hleast x List.mem_cons_self hx)
            rcases List.mem_cons.mp hy with rfl | hy
            · exact le_rfl
            · exact hfirst y hy

/-- The names of a registry come in increasing order. -/
theorem Registry.pairwise_sortedNames {α : Type} (r : Registry α) :
    r.sortedNames.Pairwise (· ≤ ·) := by
  have hsorted : r.sortedNames.Pairwise fun a b => decide (a ≤ b) = true := by
    apply List.pairwise_mergeSort
    · intro a b c hab hbc
      simp only [decide_eq_true_eq] at hab hbc ⊢
      exact hab.trans hbc
    · intro a b
      simpa using le_total a b
  simpa only [decide_eq_true_eq] using hsorted

/-- The extensions that are listed under a name. -/
def Config.listedBy (config : Config) (name : String) : List String :=
  (config.servers.get? name).elim [] ServerConfig.fileExtensions

/-- A server that lists an extension, in whatever case and behind however many dots. -/
def Config.IsClaimant (config : Config) (ext name : String) : Prop :=
  ∃ listed ∈ config.listedBy name, bareExtension listed = bareExtension ext

namespace Config

theorem mem_listedBy {config : Config} {name ext : String} :
    ext ∈ config.listedBy name ↔
      ∃ server, config.servers.get? name = some server ∧ ext ∈ server.fileExtensions := by
  rw [listedBy]
  cases config.servers.get? name <;> simp

/-- An extension is listed if it has a claimant. -/
theorem lists_iff {config : Config} {ext : String} :
    config.Lists ext ↔ ∃ name, config.IsClaimant ext name := by
  simp only [Lists, IsClaimant, mem_listedBy]
  constructor
  · rintro ⟨name, server, hserver, listed, hlisted, hsame⟩
    exact ⟨name, listed, ⟨server, hserver, hlisted⟩, hsame⟩
  · rintro ⟨name, listed, ⟨server, hserver, hlisted⟩, hsame⟩
    exact ⟨name, server, hserver, listed, hlisted, hsame⟩

end Config

namespace ExtensionMap

/-- Claims are made in the order of the names. -/
theorem pairwise_claims (config : Config) :
    (claims config).Pairwise fun c d => c.1 ≤ d.1 := by
  rw [claims, List.pairwise_flatMap]
  constructor
  · intro name _
    rw [List.pairwise_map]
    exact List.pairwise_of_forall fun _ _ => le_rfl
  · refine config.servers.pairwise_sortedNames.imp ?_
    intro a b hab c hc d hd
    obtain ⟨_, -, rfl⟩ := List.mem_map.mp hc
    obtain ⟨_, -, rfl⟩ := List.mem_map.mp hd
    exact hab

/-- An extension belongs to the least of its claimants. -/
theorem owner_eq_some_iff (config : Config) (ext name : String) :
    (ofConfig config).1.owners.get? (bareExtension ext) = some name ↔
      config.IsClaimant ext name ∧
        ∀ other, config.IsClaimant ext other → Utf8.encode name ≤ Utf8.encode other := by
  rw [ofConfig, get?_claimAll, Registry.get?_empty, Option.none_or,
    map_find?_eq_some_iff (pairwise_claims config)]
  simp only [decide_eq_true_eq, Prod.forall, Prod.exists, mem_claims, ← Config.mem_listedBy,
    Utf8.encode_le_iff]
  constructor
  · rintro ⟨⟨claimant, listed, hlisted, hsame, rfl⟩, hleast⟩
    refine ⟨⟨listed, hlisted, hsame⟩, ?_⟩
    rintro other ⟨listed', hlisted', hsame'⟩
    exact hleast other listed' hlisted' hsame'
  · rintro ⟨⟨listed, hlisted, hsame⟩, hleast⟩
    refine ⟨⟨name, listed, hlisted, hsame, rfl⟩, ?_⟩
    intro other listed' hlisted' hsame'
    exact hleast other ⟨listed', hlisted', hsame'⟩

/-- The server for an extension is its least claimant, as long as files are inspected. -/
theorem serverFor?_eq_some_iff (config : Config) (ext name : String) :
    (ofConfig config).1.serverFor? (some ext) = some name ↔
      config.enabled = true ∧ config.IsClaimant ext name ∧
        ∀ other, config.IsClaimant ext other → Utf8.encode name ≤ Utf8.encode other := by
  rw [← owner_eq_some_iff, serverFor?_some, Option.ite_none_right_eq_some]
  rfl

/-- There is no server for an extension if files are not inspected, or if it has no claimants. -/
theorem serverFor?_eq_none_iff (config : Config) (ext : String) :
    (ofConfig config).1.serverFor? (some ext) = none ↔
      config.enabled = false ∨ ¬∃ name, config.IsClaimant ext name := by
  have hsupports := supports_ofConfig_iff config (some ext)
  rw [supports, Option.isSome_iff_ne_none] at hsupports
  rw [← Config.lists_iff, ← not_iff_not, ← ne_eq, hsupports]
  simp

/-- An extension goes to the server with the least name among those that list it, and to none if
there is no such server or if files are not inspected. How the extension is spelled, in what order
the servers are kept, and in what order or how often they list their extensions, makes no
difference. -/
theorem least_claimant_gets_extension (config : Config) (ext : String) :
    ((ofConfig config).1.serverFor? (some ext) = none ↔
        config.enabled = false ∨ ¬∃ name, config.IsClaimant ext name) ∧
      (∀ name, (ofConfig config).1.serverFor? (some ext) = some name ↔
        config.enabled = true ∧ config.IsClaimant ext name ∧
          ∀ other, config.IsClaimant ext other → Utf8.encode name ≤ Utf8.encode other) ∧
      ((ofConfig config).1.supports (some ext) = true ↔
        (ofConfig config).1.serverFor? (some ext) ≠ none) ∧
      (∀ spelled, bareExtension spelled = bareExtension ext →
        (ofConfig config).1.serverFor? (some spelled) =
          (ofConfig config).1.serverFor? (some ext)) ∧
      ∀ rearranged : Config, rearranged.enabled = config.enabled →
        (∀ name listed, listed ∈ rearranged.listedBy name ↔ listed ∈ config.listedBy name) →
        (ofConfig rearranged).1.serverFor? (some ext) =
          (ofConfig config).1.serverFor? (some ext) := by
  refine ⟨serverFor?_eq_none_iff config ext, serverFor?_eq_some_iff config ext, ?_, ?_, ?_⟩
  · rw [supports, Option.isSome_iff_ne_none]
  · intro spelled hsame
    rw [serverFor?_some, serverFor?_some, hsame]
  · intro rearranged henabled hlisted
    have hclaimant : ∀ name, rearranged.IsClaimant ext name ↔ config.IsClaimant ext name := by
      intro name
      simp only [Config.IsClaimant, hlisted]
    apply Option.ext
    intro name
    rw [serverFor?_eq_some_iff, serverFor?_eq_some_iff, henabled]
    simp only [hclaimant]

/-- Two servers that both list an extension, each in its own spelling. One of them also lists two
extensions of its own. -/
def contested : Config where
  servers := (Registry.empty.set "ｚ" ⟨"z", [".RS"]⟩).set "😀" ⟨"smile", ["rs", "..Js", "É"]⟩

/-- The same in another order, and with a repetition. -/
def contestedAgain : Config where
  servers :=
    (Registry.empty.set "😀" ⟨"smile", ["É", "rs", "..Js", "rs"]⟩).set "ｚ" ⟨"z", [".RS"]⟩

theorem mem_listedBy_contested {name ext : String} :
    ext ∈ contested.listedBy name ↔
      name = "😀" ∧ (ext = "rs" ∨ ext = "..Js" ∨ ext = "É") ∨ name = "ｚ" ∧ ext = ".RS" := by
  simp only [Config.listedBy, contested, Registry.get?_set, Registry.get?_empty]
  grind

theorem mem_listedBy_contestedAgain {name ext : String} :
    ext ∈ contestedAgain.listedBy name ↔ ext ∈ contested.listedBy name := by
  rw [mem_listedBy_contested]
  simp only [Config.listedBy, contestedAgain, Registry.get?_set, Registry.get?_empty]
  grind

theorem isClaimant_contested {ext name : String} :
    contested.IsClaimant ext name ↔
      name = "😀" ∧ bareExtension ext ∈ ["rs", "js", "É"] ∨
        name = "ｚ" ∧ bareExtension ext = "rs" := by
  have hbare : bareExtension "rs" = "rs" ∧ bareExtension "..Js" = "js" ∧
      bareExtension "É" = "É" ∧ bareExtension ".RS" = "rs" := by decide
  simp only [Config.IsClaimant, mem_listedBy_contested]
  grind

theorem not_isClaimant_contested {ext : String} (h : bareExtension ext ∉ ["rs", "js", "É"]) :
    ¬∃ name, contested.IsClaimant ext name := by
  rintro ⟨name, hname⟩
  rcases isClaimant_contested.mp hname with ⟨-, hlisted⟩ | ⟨-, hlisted⟩
  · exact h hlisted
  · exact h (hlisted ▸ List.mem_cons_self)

/-- The extension that both list goes to the server whose bytes are the least, in both cases. One
that a single server lists goes to this server, and one that none lists to none: a letter outside
of ASCII is the same in no other case. -/
theorem least_claimant_gets_extension_contested :
    (ofConfig contested).1.serverFor? (some "..Rs") = some "ｚ" ∧
      (ofConfig contestedAgain).1.serverFor? (some "..Rs") = some "ｚ" ∧
      (ofConfig contested).1.serverFor? (some "rs") = some "ｚ" ∧
      (ofConfig contested).1.serverFor? (some "js") = some "😀" ∧
      (ofConfig contested).1.serverFor? (some "py") = none ∧
      (ofConfig contested).1.serverFor? (some "é") = none := by
  obtain ⟨-, hsome, -, hspelled, hrearranged⟩ := least_claimant_gets_extension contested "..Rs"
  have hserver : (ofConfig contested).1.serverFor? (some "..Rs") = some "ｚ" := by
    refine (hsome "ｚ").mpr ⟨rfl, isClaimant_contested.mpr (.inr ⟨rfl, by decide⟩), ?_⟩
    intro other hother
    rcases isClaimant_contested.mp hother with ⟨rfl, -⟩ | ⟨rfl, -⟩
    · decide
    · decide
  refine ⟨hserver, ?_, ?_, ?_, ?_, ?_⟩
  · rw [hrearranged contestedAgain rfl fun _ _ => mem_listedBy_contestedAgain, hserver]
  · rw [hspelled "rs" (by decide), hserver]
  · refine ((least_claimant_gets_extension contested "js").2.1 "😀").mpr
      ⟨rfl, isClaimant_contested.mpr (.inl ⟨rfl, by decide⟩), ?_⟩
    intro other hother
    rcases isClaimant_contested.mp hother with ⟨rfl, -⟩ | ⟨-, hrs⟩
    · decide
    · exact absurd hrs (by decide)
  · exact (least_claimant_gets_extension contested "py").1.mpr
      (.inr (not_isClaimant_contested (by decide)))
  · exact (least_claimant_gets_extension contested "é").1.mpr
      (.inr (not_isClaimant_contested (by decide)))

end ExtensionMap

end DiagnosticLens
