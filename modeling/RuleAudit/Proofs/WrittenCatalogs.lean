import RuleAudit.Proofs.Layouts
import RuleAudit.Proofs.Normalization
import RuleAudit.Proofs.WrittenJson

/-!
# Catalogs that are written and loaded again

All rules of a catalog are in normal form, however the catalog has come about and whatever it has
been asked (`Catalog.Arises.normalized`). So each of them is read back from its entry, and a registry
that lists these entries is loaded as the same catalog (`Catalog.load_written`).
-/

namespace RuleAudit

/-- The rules that entries come to are in normal form. -/
theorem normalized_of_entries {source : String} {entries : List RegistryEntry} {rules : List Rule}
    (h : List.Forall₂ (fun entry rule => entry.rule source = .ok rule) entries rules) :
    ∀ r ∈ rules, r.Normalized := by
  induction h with
  | nil => exact fun r hr => absurd hr List.not_mem_nil
  | cons hrule _ ih =>
    obtain ⟨fields, -, hread⟩ := RegistryEntry.exists_read_of_rule hrule
    exact List.forall_mem_cons.mpr ⟨Rule.normalized_of_read hread, ih⟩

/-- The entry that a rule in normal form is written as is that rule. -/
theorem RegistryEntry.rule_toValue {r : Rule} (h : r.Normalized) (source : String) :
    (RegistryEntry.listed r.toValue).rule source = .ok r := by
  have hfields : (RegistryEntry.listed r.toValue).fields source = .ok r.written := rfl
  have hread : Rule.read (.table r.written) = .ok r := Rule.read_toValue h
  simp only [RegistryEntry.rule, hfields, bind, Except.bind, hread]

theorem loadEntries_written {rules : List Rule} (h : ∀ r ∈ rules, r.Normalized) (source : String)
    (loaded : Keyed Rule) :
    loadEntries source loaded (rules.map fun r => .listed r.toValue) =
      .ok (rules.foldl (fun m r => m.put r.id r) loaded) := by
  induction rules generalizing loaded with
  | nil => rfl
  | cons r rest ih =>
    obtain ⟨hr, hrest⟩ := List.forall_mem_cons.mp h
    rw [List.map_cons, loadEntries, RegistryEntry.rule_toValue hr]
    exact ih hrest _

namespace Catalog

/-- A catalog of rules in normal form. -/
def Normalized (c : Catalog) : Prop :=
  ∃ rules, c.rulesById = byId rules ∧ ∀ r ∈ rules, r.Normalized

/-- The rules of a catalog make up the same catalog. -/
theorem byId_values (rules : List Rule) : byId (byId rules).values = byId rules := by
  have hentries : (byId rules).values.map (fun r => (r.id, r)) = byId rules := by
    rw [Keyed.values, List.map_map]
    refine (List.map_congr_left fun entry hentry => ?_).trans (List.map_id _)
    exact Prod.ext (byOwnId_byId rules entry hentry) rfl
  rw [byId, hentries]
  exact Keyed.ofEntries_of_nodup (Keyed.nodup_keys_ofEntries _)

theorem mem_of_mem_values_byId {rules : List Rule} {r : Rule} (h : r ∈ (byId rules).values) :
    r ∈ rules := by
  obtain ⟨entry, hentry, rfl⟩ := List.mem_map.mp h
  obtain ⟨rule, hrule, rfl⟩ := List.mem_map.mp (Keyed.mem_ofEntries hentry)
  exact hrule

/-- A registry that lists the rules of a catalog as they are written is loaded as that catalog. -/
theorem load_written {c : Catalog} (h : c.Normalized) {tree : FileTree} {path : FilePath}
    (hread : readRegistry tree path = .ok (.list (c.rules.map Rule.toValue))) :
    (ofRegistry (some path)).load tree =
      .ok { source := .registry path, loaded := some c.rulesById } := by
  obtain ⟨rules, hrules, hnormal⟩ := h
  have hall : ∀ r ∈ c.rules, r.Normalized := by
    intro r hr
    rw [Catalog.rules, hrules] at hr
    exact hnormal r (mem_of_mem_values_byId hr)
  have hload : loadDocument path.text (.list (c.rules.map Rule.toValue)) = .ok (byId c.rules) := by
    rw [byId_eq_foldl, ← loadEntries_written hall path.text []]
    simp [loadDocument, registryEntries, Function.comp_def]
  have hsame : byId c.rules = c.rulesById := by
    rw [Catalog.rules, hrules, byId_values]
  rw [load_ofRegistry hread, hload, hsame]
  rfl

/-! ## Files -/

theorem wordy_texts (items : List String) : Json.Wordy (.texts items) := by
  refine .list fun v hv => ?_
  obtain ⟨s, -, rfl⟩ := List.mem_map.mp hv
  exact .text s

theorem wordy_ofOption (o : Option String) : Json.Wordy (.ofOption .text o) := by
  cases o with
  | none => exact .null
  | some s => exact .text s

theorem wordy_toValue (r : Rule) : Json.Wordy r.toValue := by
  refine .table ?_ ?_
  · show ["id", "name", "description", "category", "severity", "languages", "principles",
      "analyzer", "engines", "patterns", "message", "version", "status", "tags"].Nodup
    decide
  · simp only [List.forall_mem_cons]
    exact ⟨.text _, .text _, .text _, .text _, .text _, wordy_texts _, wordy_texts _,
      wordy_ofOption _, wordy_texts _, wordy_texts _, wordy_ofOption _, .text _, .text _,
      wordy_texts _, by simp⟩

/-- A file that holds a line of JSON is read as the value that the line was written for. -/
theorem readRegistry_write {tree : FileTree} {path : FilePath} {content : Content} {v : Value}
    (hv : Json.Wordy v) (hfile : tree.readFile path = .ok content)
    (htext : content.decode? = some (Json.write v)) : readRegistry tree path = .ok v := by
  simp only [readRegistry, hfile, htext, Json.read_write hv]

/-! ## Catalogs that come about -/

/-- The catalogs that come about: of rules that have been read, of a registry, or of the bundled
rules, and then asked anything, each time with the files as they are. -/
inductive Arises : Catalog → Prop where
  | ofRules {rules : List Rule} (h : ∀ r ∈ rules, ∃ payload, Rule.read payload = .ok r) :
    Arises (ofRules rules)
  | ofRegistry (path : Option FilePath) : Arises (ofRegistry path)
  | ask {c : Catalog} (h : Arises c) (tree : FileTree) (query : Query) :
    Arises (c.ask tree query).1

theorem normalized_bundled : ∀ r ∈ bundledRules, r.Normalized := by
  decide +kernel

/-- The rules of any source are in normal form. -/
theorem normalized_of_readSource {tree : FileTree} {source : CatalogSource} {loaded : Keyed Rule}
    (h : readSource tree source = .ok loaded) :
    ∃ rules, loaded = byId rules ∧ ∀ r ∈ rules, r.Normalized := by
  cases source with
  | bundled =>
    cases h
    exact ⟨bundledRules, rfl, normalized_bundled⟩
  | registry path =>
    obtain ⟨_, entries, -, -, hload⟩ := exists_of_readSource h
    obtain ⟨rules, hrules, rfl⟩ := exists_of_loadEntries hload
    exact ⟨rules, (byId_eq_foldl rules).symm, normalized_of_entries hrules⟩

theorem Normalized.load {tree : FileTree} {c c' : Catalog} (h : c.Normalized)
    (hload : c.load tree = .ok c') : c'.Normalized := by
  unfold Catalog.load at hload
  split at hload
  · cases hload
    exact h
  · obtain ⟨loaded, hread, rfl⟩ := exists_of_map_eq_ok hload
    exact normalized_of_readSource hread

/-- A query leaves a catalog as it is or has it loaded. -/
theorem Normalized.ask {c : Catalog} (h : c.Normalized) (tree : FileTree) (query : Query) :
    (c.ask tree query).1.Normalized := by
  unfold Catalog.ask
  split
  · split
    · exact h.load ‹_›
    · exact h
  · exact h

theorem Arises.normalized {c : Catalog} (h : c.Arises) : c.Normalized := by
  induction h with
  | @ofRules rules hread =>
    refine ⟨rules, rfl, fun r hr => ?_⟩
    obtain ⟨payload, hpayload⟩ := hread r hr
    exact Rule.normalized_of_read hpayload
  | ofRegistry path => exact ⟨[], by cases path <;> rfl, by simp⟩
  | ask _ tree query ih => exact ih.ask tree query

theorem exists_of_ask_all {c c' : Catalog} {tree : FileTree} {rules : List Rule}
    (h : c.ask tree .all = (c', .ok (.rules rules))) : c.load tree = .ok c' ∧ rules = c'.rules := by
  have hlooks : Query.looksUp .all = true := rfl
  rw [Catalog.ask, if_pos hlooks] at h
  split at h
  · rename_i loaded hload
    cases h
    exact ⟨hload, rfl⟩
  · cases h

/-- Reading is a retraction: whatever payload is read as a rule, the entry that the rule is written as
is read as the same rule. So take all rules of any catalog that comes about. A registry that lists
them as they are written is loaded as a catalog of the same rules in the same order; and a file with
the line of JSON for that list is such a registry. -/
theorem rules_read_back :
    (∀ payload r, Rule.read payload = .ok r → Rule.read r.toValue = .ok r) ∧
      (∀ c, Arises c → ∀ tree c' rules, c.ask tree .all = (c', .ok (.rules rules)) →
        ∀ tree' path, readRegistry tree' path = .ok (.list (rules.map Rule.toValue)) →
          (Catalog.ofRegistry (some path)).load tree' =
            .ok { source := .registry path, loaded := some c'.rulesById }) ∧
      ∀ (rules : List Rule) (tree : FileTree) path content, tree.readFile path = .ok content →
        content.decode? = some (Json.write (.list (rules.map Rule.toValue))) →
        readRegistry tree path = .ok (.list (rules.map Rule.toValue)) := by
  refine ⟨fun payload r h => Rule.read_toValue (Rule.normalized_of_read h), ?_, ?_⟩
  · intro c hc tree c' rules hall tree' path hread
    obtain ⟨hload, rfl⟩ := exists_of_ask_all hall
    exact load_written (hc.normalized.load hload) hread
  · intro rules tree path content hfile htext
    refine readRegistry_write (.list fun v hv => ?_) hfile htext
    obtain ⟨r, -, rfl⟩ := List.mem_map.mp hv
    exact wordy_toValue r

/-- A rule of a category without principles, from an entry that leaves out most fields. -/
theorem rules_read_back_from_file :
    let payload : Value :=
      .table [("id", .text " s1 "), ("title", .text ""), ("severity", .text "MAJOR"),
        ("category", .text "Odd"), ("principles", .null), ("languages", .list [])]
    let r : Rule :=
      { id := "S1", name := "S1 Rule", category := "odd", severity := .error, languages := [] }
    let path : FilePath := ⟨"", ["rules.json"]⟩
    let tree : FileTree := [(["rules.json"], .file (.text (Json.write (.list [r.toValue]))))]
    Rule.read payload = .ok r ∧ Rule.read r.toValue = .ok r ∧
      (Catalog.ofRules [r]).ask tree .all = (Catalog.ofRules [r], .ok (.rules [r])) ∧
      readRegistry tree path = .ok (.list [r.toValue]) ∧
      (Catalog.ofRegistry (some path)).load tree =
        .ok { source := .registry path, loaded := some (Catalog.ofRules [r]).rulesById } := by
  intro payload r path tree
  have hpayload : Rule.read payload = .ok r := by rfl
  have hall : (Catalog.ofRules [r]).ask tree .all = (Catalog.ofRules [r], .ok (.rules [r])) := by rfl
  have hread : readRegistry tree path = .ok (.list [r.toValue]) :=
    rules_read_back.2.2 [r] tree path _ (by rfl) (by rfl)
  have harises : Arises (Catalog.ofRules [r]) :=
    .ofRules (List.forall_mem_singleton.mpr ⟨payload, hpayload⟩)
  exact ⟨hpayload, rules_read_back.1 payload r hpayload, hall, hread,
    rules_read_back.2.1 _ harises tree _ _ hall tree path hread⟩

end Catalog

end RuleAudit
