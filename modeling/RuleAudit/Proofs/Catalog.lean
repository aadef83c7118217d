import RuleAudit.Catalog
import RuleAudit.Proofs.Keyed
import RuleAudit.Proofs.Verdict

/-!
# Catalogs by identifier

Every rule of a catalog stands under its own identifier: in a catalog of given rules
(`Catalog.wellKeyed_ofRules`), in one that has not been loaded (`Catalog.wellKeyed_ofRegistry`), and
in one that is loaded from its source (`Catalog.WellKeyed.load`). A catalog that has been loaded
stays as it is when it is loaded again (`Catalog.load_of_isLoaded`).
-/

namespace RuleAudit

/-- Every rule stands under its own identifier. -/
def ByOwnId (rules : Keyed Rule) : Prop :=
  ∀ entry ∈ rules, entry.2.id = entry.1

theorem ByOwnId.put {rules : Keyed Rule} (h : ByOwnId rules) (rule : Rule) :
    ByOwnId (rules.put rule.id rule) := by
  intro entry hentry
  rcases Keyed.mem_put hentry with rfl | hold
  · rfl
  · exact h entry hold

/-- Rules stand under their identifiers as they are put there one after another. -/
theorem Catalog.byId_eq_foldl (rules : List Rule) :
    byId rules = rules.foldl (fun m rule => Keyed.put m rule.id rule) [] := by
  rw [byId, Keyed.ofEntries, List.foldl_map]

theorem byOwnId_byId (rules : List Rule) : ByOwnId (Catalog.byId rules) := by
  rw [Catalog.byId_eq_foldl]
  exact List.foldlRecOn rules _ (fun entry hentry => absurd hentry List.not_mem_nil)
    fun _ h rule _ => h.put rule

theorem byOwnId_loadEntries {source : String} {entries : List RegistryEntry}
    {loaded rules : Keyed Rule} (h : loadEntries source loaded entries = .ok rules)
    (hloaded : ByOwnId loaded) : ByOwnId rules := by
  induction entries generalizing loaded with
  | nil =>
    cases h
    exact hloaded
  | cons entry rest ih =>
    unfold loadEntries at h
    split at h
    · cases h
    · rename_i rule _
      exact ih h (hloaded.put rule)

namespace Catalog

/-- Every rule of a catalog stands under its own identifier. -/
def WellKeyed (c : Catalog) : Prop :=
  ByOwnId c.rulesById

theorem wellKeyed_ofRules (rules : List Rule) : (ofRules rules).WellKeyed :=
  byOwnId_byId rules

theorem wellKeyed_ofRegistry (path : Option FilePath) : (ofRegistry path).WellKeyed := by
  cases path <;> exact fun entry hentry => absurd hentry List.not_mem_nil

theorem byOwnId_readSource {tree : FileTree} {source : CatalogSource} {rules : Keyed Rule}
    (h : readSource tree source = .ok rules) : ByOwnId rules := by
  cases source with
  | bundled =>
    cases h
    exact byOwnId_byId bundledRules
  | registry path =>
    simp only [readSource] at h
    split at h
    · cases h
    · rename_i document _
      unfold loadDocument at h
      split at h
      · cases h
      · exact byOwnId_loadEntries h fun entry hentry => absurd hentry List.not_mem_nil

theorem WellKeyed.load {tree : FileTree} {c c' : Catalog} (h : c.WellKeyed)
    (hload : c.load tree = .ok c') : c'.WellKeyed := by
  unfold Catalog.load at hload
  split at hload
  · cases hload
    exact h
  · obtain ⟨rules, hread, rfl⟩ := exists_of_map_eq_ok hload
    exact byOwnId_readSource hread

/-- A catalog of a registry is loaded with the rules of its document. -/
theorem load_ofRegistry {tree : FileTree} {path : FilePath} {document : Value}
    (h : readRegistry tree path = .ok document) :
    (ofRegistry (some path)).load tree = (loadDocument path.text document).map
      fun rules => { source := .registry path, loaded := some rules } := by
  simp [ofRegistry, load, readSource, h]

theorem load_of_isLoaded {c : Catalog} (h : c.isLoaded = true) (tree : FileTree) :
    c.load tree = .ok c := by
  obtain ⟨rules, hrules⟩ := Option.isSome_iff_exists.mp h
  rw [Catalog.load, hrules]

theorem isLoaded_of_load_eq_ok {tree : FileTree} {c c' : Catalog} (h : c.load tree = .ok c') :
    c'.isLoaded = true := by
  unfold Catalog.load at h
  split at h
  · rename_i rules hrules
    cases h
    rw [Catalog.isLoaded, hrules]
    rfl
  · obtain ⟨rules, -, rfl⟩ := exists_of_map_eq_ok h
    rfl

end Catalog

end RuleAudit
