import Mathlib.Data.List.Forall2
import RuleAudit.Proofs.Catalog
import RuleAudit.Proofs.Identifiers

/-!
# What a catalog holds

A registry document is loaded all or nothing. What is loaded are the rules of its entries
(`exists_of_loadEntries`), each under the identifier that the entry gives (`RegistryEntry.id`): in
the order in which the identifiers first appear, and the last rule of each (`Catalog.Holds`).

A catalog is in one of two states: it holds no rules, or those of one document. Only a query that
looks rules up takes it from the first to the second, and only with a registry that can be loaded;
nothing takes it back (`Catalog.after_eq`).
-/

namespace RuleAudit

/-! ## Entries -/

/-- The identifier that an entry gives: its own, or else the key that it stands under. -/
def RegistryEntry.given : RegistryEntry → Value
  | .keyed key (.table fields) => ((Keyed.ofEntries fields).get? "id").getD (.text key)
  | .keyed key _ => .text key
  | .listed (.table fields) => (Keyed.get? fields "id").getD .null
  | .listed _ => .null

/-- The identifier of an entry in normal form. -/
def RegistryEntry.id (entry : RegistryEntry) : String :=
  Rule.normalizeId entry.given.display

namespace RegistryEntry

variable {source : String} {entry : RegistryEntry}

theorem get?_id_fields {fields : Keyed Value} (h : entry.fields source = .ok fields) :
    fields.get? "id" = some entry.given := by
  cases entry with
  | keyed key payload =>
    cases payload with
    | table own =>
      cases h
      rw [Keyed.get?_ofEntries, List.reverse_cons, List.find?_append, given, Keyed.get?_ofEntries]
      cases own.reverse.find? (·.1 == "id") <;> rfl
    | _ => cases h
  | listed payload =>
    cases payload with
    | table own =>
      unfold RegistryEntry.fields at h
      dsimp only at h
      split at h
      · rename_i hhas
        cases h
        obtain ⟨v, hv⟩ := Option.isSome_iff_exists.mp hhas
        rw [given, hv]
        rfl
      · cases h
    | _ => cases h

/-- The rule of an entry is read from its fields. -/
theorem exists_read_of_rule {rule : Rule} (h : entry.rule source = .ok rule) :
    ∃ fields, entry.fields source = .ok fields ∧ Rule.read (.table fields) = .ok rule := by
  obtain ⟨fields, hfields, hread⟩ := exists_of_bind_eq_ok h
  refine ⟨fields, hfields, ?_⟩
  split at hread
  · cases hread
  · exact hread

/-- The rule of an entry has the identifier that the entry gives. -/
theorem id_of_rule {rule : Rule} (h : entry.rule source = .ok rule) : rule.id = entry.id := by
  obtain ⟨fields, hfields, hread⟩ := exists_read_of_rule h
  obtain ⟨v, hv, hid⟩ := Rule.id_of_read hread
  rw [get?_id_fields hfields] at hv
  rw [hid, RegistryEntry.id, Option.some.inj hv]

end RegistryEntry

/-! ## Documents -/

section Entries

variable {source : String} {entries : List RegistryEntry}

/-- Entries are loaded if each of them is a rule, and then as these rules. -/
theorem exists_of_loadEntries {loaded rules : Keyed Rule}
    (h : loadEntries source loaded entries = .ok rules) :
    ∃ read : List Rule, List.Forall₂ (fun entry rule => entry.rule source = .ok rule) entries read ∧
      rules = read.foldl (fun m rule => m.put rule.id rule) loaded := by
  induction entries generalizing loaded with
  | nil =>
    cases h
    exact ⟨[], .nil, rfl⟩
  | cons entry rest ih =>
    unfold loadEntries at h
    split at h
    · cases h
    · rename_i rule hrule
      obtain ⟨read, hread, hrules⟩ := ih h
      exact ⟨rule :: read, .cons hrule hread, hrules⟩

variable {read : List Rule}
  (h : List.Forall₂ (fun entry rule => entry.rule source = .ok rule) entries read)
include h

theorem map_id_eq : read.map Rule.id = entries.map RegistryEntry.id := by
  induction h with
  | nil => rfl
  | cons hrule _ ih => rw [List.map_cons, List.map_cons, ih, RegistryEntry.id_of_rule hrule]

end Entries

namespace Catalog

/-- A catalog holds the rules of some entries: every entry is a rule; each rule stands under its own
identifier, and none twice, in the order in which the entries first give the identifiers; and what
is looked up is the rule of the last entry that gives the identifier, in normal form. -/
structure Holds (source : String) (entries : List RegistryEntry) (c : Catalog) : Prop where
  loaded : c.isLoaded = true
  valid : ∀ entry ∈ entries, ∃ rule, entry.rule source = .ok rule ∧ rule.id = entry.id
  nodup : c.rulesById.keys.Nodup
  keyed : ∀ entry ∈ c.rulesById, entry.2.id = entry.1
  order : c.rulesById.keys = (entries.map RegistryEntry.id).eraseDups
  lookup : ∀ s, c.find? s = (entries.reverse.find? (·.id == Rule.normalizeId s)).bind
    fun entry => (entry.rule source).toOption

/-- Two keys and one identifier of its own that come to the same. -/
example :
    let entries : Keyed Value :=
      [(" a", .table []), ("B", .table []),
        ("x", .table [("id", .text "A "), ("message", .text "last")]), ("b", .table [])]
    (loadDocument "rules.json" (.table [("rules", .table entries)])).toOption.map
        (fun rules => (rules.keys, (rules.get? "A").bind Rule.message)) =
      some (["A", "B"], some "last") := by
  decide +kernel

/-! ## Queries -/

section Ask

variable {c : Catalog}

/-- A catalog that has been loaded is not read again. -/
theorem ask_of_isLoaded (h : c.isLoaded = true) (tree : FileTree) (query : Query) :
    c.ask tree query = (c, .ok (c.answer query)) := by
  rw [ask, load_of_isLoaded h]
  exact ite_self _

end Ask

/-- A catalog after queries, each with the files as they are then. -/
def after (c : Catalog) (steps : List (FileTree × Query)) : Catalog :=
  steps.foldl (fun c step => (c.ask step.1 step.2).1) c

/-- Whether a step loads the rules of a source. -/
def loads (source : CatalogSource) (step : FileTree × Query) : Bool :=
  step.2.looksUp && (readSource step.1 source).toBool

theorem exists_of_readSource {tree : FileTree} {path : FilePath} {rules : Keyed Rule}
    (h : readSource tree (.registry path) = .ok rules) :
    ∃ document entries, readRegistry tree path = .ok document ∧
      registryEntries path.text document = .ok entries ∧
      loadEntries path.text [] entries = .ok rules := by
  simp only [readSource] at h
  split at h
  · cases h
  · rename_i document hdocument
    unfold loadDocument at h
    split at h
    · cases h
    · rename_i entries hentries
      exact ⟨document, entries, hdocument, hentries, h⟩

end Catalog

end RuleAudit
