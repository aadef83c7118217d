import RuleAudit.Proofs.CatalogHistory

/-!
# Layouts of a registry

The entries of a registry stand in a table by key or in a list of objects that name themselves, and
either of them alone or under `rules` (`Lists`). An entry comes to one rule, or to one fault, in
every layout (`rule_selfNamed`), so a document is loaded like any other that lists its entries
(`loadDocument_of_lists`): all of them are rules, and these are loaded, or the first that is none
decides the fault (`loadEntries_cases`).
-/

namespace RuleAudit

/-- An entry as an object that names itself: its key is the identifier if it has none of its own. -/
def selfNamed (entry : String × Keyed Value) : Value :=
  .table (Keyed.ofEntries (("id", .text entry.1) :: entry.2))

/-- Entries as a table by key. -/
def byKey (entries : Keyed (Keyed Value)) : Value :=
  .table (entries.map fun entry => (entry.1, .table entry.2))

/-- A document that lists some entries. -/
inductive Lists (entries : Keyed (Keyed Value)) : Value → Prop where
  /-- By key under `rules`, beside any other members. -/
  | wrapped {members : Keyed Value} (h : members.get? "rules" = some (byKey entries)) :
    Lists entries (.table members)
  /-- By key, where no key is `rules`. -/
  | bare (h : "rules" ∉ entries.keys) : Lists entries (byKey entries)
  /-- As a list of objects that name themselves. -/
  | listed : Lists entries (.list (entries.map selfNamed))
  /-- As such a list under `rules`. -/
  | wrappedList {members : Keyed Value}
    (h : members.get? "rules" = some (.list (entries.map selfNamed))) :
    Lists entries (.table members)

/-- The rule of an entry that names itself. -/
def entryRule (source : String) (entry : String × Keyed Value) : Except Fault Rule :=
  RegistryEntry.rule source (.listed (selfNamed entry))

/-! ## Entries -/

theorem has_id_selfNamed (key : String) (fields : Keyed Value) :
    Keyed.has (Keyed.ofEntries (("id", .text key) :: fields)) "id" = true := by
  unfold Keyed.has
  rw [Keyed.isSome_get?_iff, Keyed.keys_ofEntries, List.mem_eraseDups]
  exact List.mem_cons_self

/-- An entry comes to the same under its key as in an object that names itself. -/
theorem rule_selfNamed (source : String) (entry : String × Keyed Value) :
    RegistryEntry.rule source (.keyed entry.1 (.table entry.2)) = entryRule source entry := by
  have hfields : (RegistryEntry.listed (selfNamed entry)).fields source =
      (RegistryEntry.keyed entry.1 (.table entry.2)).fields source :=
    if_pos (has_id_selfNamed entry.1 entry.2)
  unfold entryRule RegistryEntry.rule
  rw [hfields]

/-! ## Loading -/

section Load

variable {source : String}

theorem loadEntries_congr {α : Type} {f g : α → RegistryEntry} {items : List α}
    (h : ∀ item ∈ items, (f item).rule source = (g item).rule source) (loaded : Keyed Rule) :
    loadEntries source loaded (items.map f) = loadEntries source loaded (items.map g) := by
  induction items generalizing loaded with
  | nil => rfl
  | cons item rest ih =>
    rw [List.map_cons, List.map_cons, loadEntries, loadEntries, h item List.mem_cons_self]
    split
    · rfl
    · exact ih (fun later hlater => h later (List.mem_cons_of_mem _ hlater)) _

/-- Entries are loaded as their rules, or up to the first that is none. -/
theorem loadEntries_cases {α : Type} (f : α → RegistryEntry) (items : List α)
    (loaded : Keyed Rule) :
    (∃ rules, List.Forall₂ (fun item rule => (f item).rule source = .ok rule) items rules ∧
      loadEntries source loaded (items.map f) =
        .ok (rules.foldl (fun m rule => m.put rule.id rule) loaded)) ∨
    ∃ before item after fault, items = before ++ item :: after ∧
      (∀ earlier ∈ before, ∃ rule, (f earlier).rule source = .ok rule) ∧
      (f item).rule source = .error fault ∧
      loadEntries source loaded (items.map f) = .error fault := by
  induction items generalizing loaded with
  | nil => exact .inl ⟨[], .nil, rfl⟩
  | cons item rest ih =>
    rw [List.map_cons, loadEntries]
    cases hrule : (f item).rule source with
    | error fault => exact .inr ⟨[], item, rest, fault, rfl, by simp, hrule, rfl⟩
    | ok rule =>
      obtain ⟨rules, hrules, hload⟩ | ⟨before, bad, after, fault, rfl, hgood, hbad, hload⟩ :=
        ih (loaded.put rule.id rule)
      · exact .inl ⟨rule :: rules, .cons hrule hrules, hload⟩
      · exact .inr ⟨item :: before, bad, after, fault, rfl,
          List.forall_mem_cons.mpr ⟨⟨rule, hrule⟩, hgood⟩, hbad, hload⟩

theorem registryEntries_byKey (entries : Keyed (Keyed Value)) (h : "rules" ∉ entries.keys) :
    registryEntries source (byKey entries) =
      .ok (entries.map fun entry => .keyed entry.1 (.table entry.2)) := by
  have hnone :
      Keyed.get? (entries.map fun entry => (entry.1, Value.table entry.2)) "rules" = none := by
    refine Keyed.get?_eq_none_iff.mpr ?_
    simpa [Keyed.keys] using h
  unfold byKey registryEntries
  simp [hnone, Function.comp_def]

/-- Every layout is loaded alike. -/
theorem loadDocument_of_lists {entries : Keyed (Keyed Value)} {document : Value}
    (h : Lists entries document) :
    loadDocument source document =
      loadEntries source [] (entries.map fun entry => .listed (selfNamed entry)) := by
  have hbyKey : loadEntries source [] (entries.map fun entry => .keyed entry.1 (.table entry.2)) =
      loadEntries source [] (entries.map fun entry => .listed (selfNamed entry)) :=
    loadEntries_congr (fun entry _ => rule_selfNamed source entry) []
  cases h with
  | wrapped h =>
    rw [← hbyKey]
    simp [loadDocument, registryEntries, h, byKey, Function.comp_def]
  | bare h => rw [← hbyKey, loadDocument, registryEntries_byKey entries h]
  | listed => simp [loadDocument, registryEntries, Function.comp_def]
  | wrappedList h => simp [loadDocument, registryEntries, h, Function.comp_def]

end Load

/-- Whatever the layout of the document in its registry file, a catalog is loaded with the rules of
the entries, or fails with the fault of the first entry that is none. -/
theorem Catalog.load_layouts (path : FilePath) (entries : Keyed (Keyed Value)) :
    (∃ rules,
      List.Forall₂ (fun entry rule => entryRule path.text entry = .ok rule) entries rules ∧
      ∀ tree document, readRegistry tree path = .ok document → Lists entries document →
        (ofRegistry (some path)).load tree =
          .ok { source := .registry path, loaded := some (byId rules) }) ∨
    ∃ before entry after fault, entries = before ++ entry :: after ∧
      (∀ earlier ∈ before, ∃ rule, entryRule path.text earlier = .ok rule) ∧
      entryRule path.text entry = .error fault ∧
      ∀ tree document, readRegistry tree path = .ok document → Lists entries document →
        (ofRegistry (some path)).load tree = .error fault := by
  have hload : ∀ tree document, readRegistry tree path = .ok document → Lists entries document →
      (ofRegistry (some path)).load tree =
        (loadEntries path.text [] (entries.map fun entry => .listed (selfNamed entry))).map
          fun rules => { source := .registry path, loaded := some rules } := by
    intro tree document hread hlists
    rw [load_ofRegistry hread, loadDocument_of_lists hlists]
  obtain ⟨rules, hrules, heq⟩ | ⟨before, entry, after, fault, hsplit, hgood, hbad, heq⟩ :=
    @loadEntries_cases path.text _ (fun entry => .listed (selfNamed entry)) entries []
  · refine .inl ⟨rules, hrules, fun tree document hread hlists => ?_⟩
    rw [hload tree document hread hlists, heq, ← byId_eq_foldl]
    rfl
  · refine .inr ⟨before, entry, after, fault, hsplit, hgood, hbad, ?_⟩
    intro tree document hread hlists
    rw [hload tree document hread hlists, heq]
    rfl

/-- Two entries, of which one has an identifier of its own, in all four layouts. -/
theorem Catalog.load_four_layouts :
    let path : FilePath := ⟨"", ["rules.json"]⟩
    let tree (text : String) : FileTree := [(["rules.json"], .file (.text text))]
    let entries : Keyed (Keyed Value) := [("a", []), ("B", [("id", .text "own")])]
    let texts :=
      ["\x7b\"version\": 1, \"rules\": \x7b\"a\": \x7b\x7d, \"B\": \x7b\"id\": \"own\"\x7d\x7d\x7d",
        "\x7b\"a\": \x7b\x7d, \"B\": \x7b\"id\": \"own\"\x7d\x7d",
        "[\x7b\"id\": \"a\"\x7d, \x7b\"id\": \"own\"\x7d]",
        "\x7b\"rules\": [\x7b\"id\": \"a\"\x7d, \x7b\"id\": \"own\"\x7d]\x7d"]
    (∀ text ∈ texts, ∃ document,
      readRegistry (tree text) path = .ok document ∧ Lists entries document) ∧
    ∃ rules : List Rule, rules.map Rule.id = ["A", "OWN"] ∧
      ∀ text ∈ texts, (ofRegistry (some path)).load (tree text) =
        .ok { source := .registry path, loaded := some (byId rules) } := by
  intro path tree entries texts
  have hlists : ∀ text ∈ texts, ∃ document,
      readRegistry (tree text) path = .ok document ∧ Lists entries document := by
    simp only [texts, List.forall_mem_cons]
    exact ⟨⟨.table [("version", .int 1), ("rules", byKey entries)], rfl, .wrapped rfl⟩,
      ⟨byKey entries, rfl, .bare (by decide)⟩,
      ⟨.list (entries.map selfNamed), rfl, .listed⟩,
      ⟨.table [("rules", .list (entries.map selfNamed))], rfl, .wrappedList rfl⟩, by simp⟩
  have hvalid : ∀ entry ∈ entries, (entryRule path.text entry).toBool = true := by
    simp only [entries, List.forall_mem_cons]
    exact ⟨by decide +kernel, by decide +kernel, by simp⟩
  refine ⟨hlists, ?_⟩
  obtain ⟨rules, hrules, hload⟩ | ⟨before, entry, after, fault, hsplit, -, hbad, -⟩ :=
    Catalog.load_layouts path entries
  · have hids := map_id_eq (List.forall₂_map_left_iff.mpr hrules)
    refine ⟨rules, hids.trans (by decide +kernel), fun text htext => ?_⟩
    obtain ⟨document, hread, hdocument⟩ := hlists text htext
    exact hload _ document hread hdocument
  · have hgood := hvalid entry (hsplit ▸ List.mem_append_right _ List.mem_cons_self)
    rw [hbad] at hgood
    cases hgood

end RuleAudit
