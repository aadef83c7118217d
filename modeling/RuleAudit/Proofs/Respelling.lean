import Mathlib
import RuleAudit.Proofs.Identifiers
import RuleAudit.Proofs.Overlay
import RuleAudit.Proofs.Tables

/-!
# Overrides spelled differently

Settings documents are merged before the keys of rule overrides are written in upper case. So an
override that both documents spell alike is merged field by field, but of two that they spell
differently the later stands alone: the fields of the earlier one are lost (`lost`). Settings come
out as from documents with all these keys in upper case and without the lost overrides
(`ofEntries_upperKeys_overlayFields`, `loadSettings_upperKeys`), in the same order.
-/

namespace RuleAudit

/-! ## Keys in upper case -/

/-- Entries under their keys in upper case. -/
def upperKeys (rules : Keyed Value) : Keyed Value :=
  rules.map fun e => (Text.upper e.1, e.2)

/-- No two keys have one upper case. -/
def Apart (rules : Keyed Value) : Prop :=
  (upperKeys rules).keys.Nodup

theorem keys_upperKeys (rules : Keyed Value) :
    (upperKeys rules).keys = rules.keys.map Text.upper := by
  unfold upperKeys Keyed.keys
  rw [List.map_map, List.map_map]
  rfl

theorem upperKeys_append (a b : Keyed Value) : upperKeys (a ++ b) = upperKeys a ++ upperKeys b :=
  List.map_append

theorem upperKeys_upperKeys (rules : Keyed Value) :
    upperKeys (upperKeys rules) = upperKeys rules := by
  unfold upperKeys
  rw [List.map_map]
  exact List.map_congr_left fun e _ => by simp [Text.upper_upper]

namespace Apart

variable {rules : Keyed Value}

theorem nodup (h : Apart rules) : rules.keys.Nodup := by
  unfold Apart at h
  rw [keys_upperKeys] at h
  exact h.of_map _

theorem filter (h : Apart rules) (p : String × Value → Bool) : Apart (rules.filter p) :=
  h.sublist ((List.filter_sublist.map _).map _)

/-- Keys with one upper case are one key. -/
theorem eq_of_upper_eq (h : Apart rules) {e e' : String × Value} (he : e ∈ rules) (he' : e' ∈ rules)
    (heq : Text.upper e.1 = Text.upper e'.1) : e = e' := by
  have hnodup : (rules.map fun e => Text.upper e.1).Nodup := by
    unfold Apart at h
    rw [keys_upperKeys, Keyed.keys, List.map_map] at h
    exact h
  exact List.inj_on_of_nodup_map hnodup he he' heq

/-- What is found under a key in upper case is an entry with that upper case. -/
theorem get?_upperKeys (h : Apart rules) {e : String × Value} (he : e ∈ rules) :
    (upperKeys rules).get? (Text.upper e.1) = some e.2 :=
  Keyed.get?_of_mem h (List.mem_map.mpr ⟨e, he, rfl⟩)

end Apart

theorem get?_upperKeys_eq_none_iff {rules : Keyed Value} {id : String} :
    (upperKeys rules).get? id = none ↔ ∀ e ∈ rules, Text.upper e.1 ≠ id := by
  rw [Keyed.get?_eq_none_iff, keys_upperKeys]
  simp [Keyed.keys]

/-! ## Lost overrides -/

/-- Whether an override is lost to later ones: one of them has its key in another spelling, and both
are tables. -/
def lost (later : Keyed Value) (e : String × Value) : Bool :=
  e.2.isTable && later.any fun o =>
    o.1 != e.1 && Text.upper o.1 == Text.upper e.1 && o.2.isTable

/-- Overrides in which those that are lost to later ones say nothing. -/
def withoutLost (later rules : Keyed Value) : Keyed Value :=
  rules.map fun e => (e.1, if lost later e then .bool false else e.2)

theorem lost_eq_true_iff {later : Keyed Value} {e : String × Value} :
    lost later e = true ↔ e.2.isTable = true ∧
      ∃ o ∈ later, o.1 ≠ e.1 ∧ Text.upper o.1 = Text.upper e.1 ∧ o.2.isTable = true := by
  simp [lost, and_assoc]

section Laid

variable {r₁ r₂ : Keyed Value}

/-- An earlier override, once later ones are laid over it and all are brought together in upper
case, says what it says without what is lost, under the later ones in upper case. -/
theorem laid_value (h₁ : Apart r₁) (h₂ : Apart r₂) {e : String × Value} (he : e ∈ r₁) :
    ((upperKeys (r₂.filter fun o => !r₁.has o.1)).get? (Text.upper e.1)).elim
        ((r₂.get? e.1).elim e.2 (overlay e.2)) (fun v => v) =
      ((upperKeys r₂).get? (Text.upper e.1)).elim (if lost r₂ e then .bool false else e.2)
        (overlay (if lost r₂ e then .bool false else e.2)) := by
  by_cases hany : ∃ o ∈ r₂, Text.upper o.1 = Text.upper e.1
  · obtain ⟨o, ho, hupper⟩ := hany
    have hlater : (upperKeys r₂).get? (Text.upper e.1) = some o.2 := hupper ▸ h₂.get?_upperKeys ho
    have honly : ∀ o' ∈ r₂, Text.upper o'.1 = Text.upper e.1 → o' = o := fun o' ho' heq =>
      h₂.eq_of_upper_eq ho' ho (heq.trans hupper.symm)
    by_cases hspelled : o.1 = e.1
    · -- spelled alike: the later one is merged in, and none is left over
      have hget : r₂.get? e.1 = some o.2 := hspelled ▸ Keyed.get?_of_mem h₂.nodup ho
      have hhas : r₁.has o.1 = true := by
        rw [Keyed.has_eq_decide, decide_eq_true_iff, hspelled]
        exact List.mem_map_of_mem he
      have hnone : (upperKeys (r₂.filter fun o => !r₁.has o.1)).get? (Text.upper e.1) = none := by
        rw [get?_upperKeys_eq_none_iff]
        intro o' ho' heq
        obtain ⟨hin, hnew⟩ := List.mem_filter.mp ho'
        rw [honly o' hin heq, hhas] at hnew
        cases hnew
      have hkept : lost r₂ e = false := by
        rw [Bool.eq_false_iff, ne_eq, lost_eq_true_iff]
        rintro ⟨-, o', ho', hne, heq, -⟩
        exact hne (honly o' ho' heq ▸ hspelled)
      rw [hnone, hget, hlater, hkept]
      rfl
    · -- spelled differently: the later one stands alone
      have hnew : r₁.has o.1 = false := by
        rw [Keyed.has_eq_decide, decide_eq_false_iff_not]
        intro hmem
        obtain ⟨e', he', hkey⟩ := List.mem_map.mp hmem
        have hsame : e' = e := h₁.eq_of_upper_eq he' he (hkey ▸ hupper)
        exact hspelled (hsame ▸ hkey.symm)
      have hleft : (upperKeys (r₂.filter fun o => !r₁.has o.1)).get? (Text.upper e.1) = some o.2 :=
        hupper ▸ (h₂.filter _).get?_upperKeys (List.mem_filter.mpr ⟨ho, by simp [hnew]⟩)
      rw [hleft, hlater, Option.elim_some, Option.elim_some, overlay_of_not_table]
      split
      · rfl
      · rename_i hkept
        rw [Bool.and_eq_false_iff, ← Bool.not_eq_true, ← Bool.not_eq_true, ← not_and_or]
        rintro ⟨htable, htable'⟩
        exact hkept (lost_eq_true_iff.mpr ⟨htable, o, ho, hspelled, hupper, htable'⟩)
  · -- no later override is for this rule
    replace hany : ∀ o ∈ r₂, Text.upper o.1 ≠ Text.upper e.1 := fun o ho heq => hany ⟨o, ho, heq⟩
    have hget : r₂.get? e.1 = none := by
      rw [Keyed.get?_eq_none_iff]
      intro hmem
      obtain ⟨o, ho, hkey⟩ := List.mem_map.mp hmem
      exact hany o ho (by rw [hkey])
    have hkept : lost r₂ e = false := by
      rw [Bool.eq_false_iff, ne_eq, lost_eq_true_iff]
      rintro ⟨-, o, ho, -, heq, -⟩
      exact hany o ho heq
    rw [get?_upperKeys_eq_none_iff.mpr fun o ho => hany o (List.mem_filter.mp ho).1,
      get?_upperKeys_eq_none_iff.mpr hany, hget, hkept]
    rfl

/-- Overrides that are laid over others and then brought together under their keys in upper case
come out like overrides under keys in upper case, without those that are lost. -/
theorem ofEntries_upperKeys_overlayFields (h₁ : Apart r₁) (h₂ : Apart r₂) :
    Keyed.ofEntries (upperKeys (overlayFields r₁ r₂)) =
      overlayFields (upperKeys (withoutLost r₂ r₁)) (upperKeys r₂) := by
  have hkept : (upperKeys (withoutLost r₂ r₁)).keys = (upperKeys r₁).keys := by
    rw [keys_upperKeys, keys_upperKeys]
    simp [withoutLost, Keyed.keys]
  have hchanged : (upperKeys (r₁.map fun e => (e.1, (r₂.get? e.1).elim e.2 (overlay e.2)))).keys =
      (upperKeys r₁).keys := by
    rw [keys_upperKeys, keys_upperKeys]
    simp [Keyed.keys]
  rw [overlayFields_eq h₁.nodup h₂.nodup, upperKeys_append,
    Keyed.ofEntries_append (hchanged ▸ h₁) (h₂.filter _), overlayFields_eq (hkept ▸ h₁) h₂]
  congr 1
  · unfold withoutLost upperKeys
    simp only [List.map_map]
    refine List.map_congr_left fun e he => ?_
    exact Prod.ext rfl (laid_value h₁ h₂ he)
  · -- a later override is new exactly if no earlier one has its upper case
    have hhas : ∀ id, (upperKeys (withoutLost r₂ r₁)).has id = decide (id ∈ (upperKeys r₁).keys) :=
      fun id => by rw [Keyed.has_eq_decide, hkept]
    have hhas' : ∀ id, (upperKeys (r₁.map fun e => (e.1, (r₂.get? e.1).elim e.2
        (overlay e.2)))).has id = decide (id ∈ (upperKeys r₁).keys) :=
      fun id => by rw [Keyed.has_eq_decide, hchanged]
    simp only [hhas, hhas']
    unfold upperKeys
    rw [List.filter_map, List.filter_map, List.filter_filter]
    refine congrArg (List.map _) (List.filter_congr fun o _ => ?_)
    simp only [Function.comp_apply]
    cases hin : r₁.has o.1 with
    | false => simp
    | true =>
      have hmem : Text.upper o.1 ∈ (upperKeys r₁).keys := by
        rw [keys_upperKeys]
        refine List.mem_map_of_mem ?_
        rwa [Keyed.has_eq_decide, decide_eq_true_iff] at hin
      unfold upperKeys at hmem
      simp [hmem]

end Laid

/-- Nothing is lost among overrides that are spelled alike wherever both are tables. -/
theorem withoutLost_eq_self {later rules : Keyed Value} (h : ∀ e ∈ rules, lost later e = false) :
    withoutLost later rules = rules := by
  refine (List.map_congr_left fun e he => ?_).trans (List.map_id rules)
  rw [h e he]
  rfl

/-! ## Reading settings -/

/-- Overrides that were brought together in upper case are not changed by doing so again. -/
theorem ofEntries_upperKeys_ofEntries (rules : Keyed Value) :
    Keyed.ofEntries (upperKeys (Keyed.ofEntries (upperKeys rules))) =
      Keyed.ofEntries (upperKeys rules) := by
  have hupper : upperKeys (Keyed.ofEntries (upperKeys rules)) =
      Keyed.ofEntries (upperKeys rules) := by
    refine (List.map_congr_left fun e he => ?_).trans (List.map_id _)
    obtain ⟨old, -, rfl⟩ := List.mem_map.mp (Keyed.mem_ofEntries he)
    exact Prod.ext (Text.upper_upper old.1) rfl
  rw [hupper, Keyed.ofEntries_of_nodup (Keyed.nodup_keys_ofEntries _)]

namespace Settings

/-- Overrides are read from a table as they come together in upper case. -/
theorem checkRules_table (rules : Keyed Value) :
    checkRules (.table rules) =
      .entries RuleOverride.check (Keyed.ofEntries (upperKeys rules)) := by
  unfold checkRules upperKeys
  cases rules with
  | nil => rfl
  | cons e rest => rfl

theorem checkRules_congr {rules rules' : Keyed Value}
    (h : Keyed.ofEntries (upperKeys rules') = Keyed.ofEntries (upperKeys rules)) :
    checkRules (.table rules') = checkRules (.table rules) := by
  rw [checkRules_table, checkRules_table, h]

/-- Settings read alike from documents with the same sections whose rules are read alike. -/
theorem read_congr {t t' : Keyed Value}
    (hrules : (t'.get? "rules").map checkRules = (t.get? "rules").map checkRules)
    (hothers : ∀ name, name ≠ "rules" → t'.get? name = t.get? name) :
    read (.table t') = read (.table t) := by
  have hengines := hothers "engines" (by decide)
  have hperformance := hothers "performance" (by decide)
  have houtput := hothers "output" (by decide)
  have hsections : ofFields t' = ofFields t := by
    unfold ofFields sectionNames
    simp only [List.foldl_cons, List.foldl_nil, hengines, hperformance, houtput]
    cases hget : t.get? "rules" with
    | none =>
      rw [hget, Option.map_none, Option.map_eq_none_iff] at hrules
      rw [hrules]
    | some v =>
      rw [hget, Option.map_some] at hrules
      obtain ⟨v', hget', hcheck⟩ := Option.map_eq_some_iff.mp hrules
      have hchange : change "rules" v' = change "rules" v := by
        show (checkRules v').map _ = (checkRules v).map _
        rw [hcheck]
      rw [hget']
      simp only [hchange]
  show (ofFields t').toExcept "Config" = (ofFields t).toExcept "Config"
  rw [hsections]

end Settings

/-! ## Documents with keys in upper case -/

/-- The rule overrides of settings. -/
def rulesOf (t : Keyed Value) : Keyed Value :=
  match t.get? "rules" with
  | some (.table rules) => rules
  | _ => []

/-- A value with the fields changed, if it is a table. -/
def Value.mapTable (f : Keyed Value → Keyed Value) : Value → Value
  | .table fields => .table (f fields)
  | v => v

/-- Settings with the rule overrides changed. -/
def mapRules (f : Keyed Value → Keyed Value) (t : Keyed Value) : Keyed Value :=
  t.map fun e => (e.1, if e.1 = "rules" then e.2.mapTable f else e.2)

theorem keys_mapRules (f : Keyed Value → Keyed Value) (t : Keyed Value) :
    (mapRules f t).keys = t.keys := by
  simp [mapRules, Keyed.keys]

theorem get?_mapRules (f : Keyed Value → Keyed Value) (t : Keyed Value) (name : String) :
    (mapRules f t).get? name =
      (t.get? name).map fun v => if name = "rules" then v.mapTable f else v := by
  induction t with
  | nil => rfl
  | cons e rest ih =>
    obtain ⟨k, v⟩ := e
    unfold mapRules at ih ⊢
    rw [List.map_cons, Keyed.get?, Keyed.get?]
    by_cases hk : k = name
    · subst hk
      simp
    · simp [hk, ih]

theorem Value.isTable_mapTable (f : Keyed Value → Keyed Value) (v : Value) :
    (v.mapTable f).isTable = v.isTable := by
  cases v <;> rfl

theorem Settings.checkRules_upperKeys (v : Value) :
    checkRules (v.mapTable upperKeys) = checkRules v := by
  cases v with
  | table rules => exact checkRules_congr (by rw [upperKeys_upperKeys])
  | null | bool b | int n | float x | text s | moment m | list items => rfl

/-- Overrides in upper case, without what is lost, merge to overrides that are read like those that
the documents bring. -/
theorem Settings.checkRules_overlay {later : Keyed Value} {v₁ v₂ : Value}
    (hlater : ∀ r₁ r₂, v₁ = .table r₁ → v₂ = .table r₂ → later = r₂ ∧ Apart r₁ ∧ Apart r₂) :
    checkRules (overlay (v₁.mapTable fun rules => upperKeys (withoutLost later rules))
        (v₂.mapTable upperKeys)) =
      checkRules (overlay v₁ v₂) := by
  by_cases htables : (v₁.isTable && v₂.isTable) = true
  · obtain ⟨htable₁, htable₂⟩ := Bool.and_eq_true_iff.mp htables
    cases v₁ with
    | table r₁ =>
      cases v₂ with
      | table r₂ =>
        obtain ⟨rfl, h₁, h₂⟩ := hlater r₁ r₂ rfl rfl
        rw [Value.mapTable, Value.mapTable, overlay, overlay]
        apply checkRules_congr
        rw [← ofEntries_upperKeys_overlayFields h₁ h₂, ofEntries_upperKeys_ofEntries]
      | null | bool b | int n | float x | text s | moment m | list items => cases htable₂
    | null | bool b | int n | float x | text s | moment m | list items => cases htable₁
  · replace htables := Bool.not_eq_true _ ▸ htables
    rw [overlay_of_not_table htables, overlay_of_not_table, checkRules_upperKeys]
    rwa [Value.isTable_mapTable, Value.isTable_mapTable]

theorem mapRules_congr {f g : Keyed Value → Keyed Value} {t : Keyed Value} (h : t.keys.Nodup)
    (hrules : f (rulesOf t) = g (rulesOf t)) : mapRules f t = mapRules g t := by
  refine List.map_congr_left fun e he => ?_
  obtain ⟨name, v⟩ := e
  by_cases hname : name = "rules"
  · subst hname
    have hget : t.get? "rules" = some v := Keyed.get?_of_mem h he
    unfold rulesOf at hrules
    rw [hget] at hrules
    cases v with
    | table rules => exact congrArg (fun rules => ("rules", Value.table rules)) hrules
    | null | bool b | int n | float x | text s | moment m | list items => rfl
  · simp [hname]

/-- Merged settings read alike after the keys of all overrides have been written in upper case, but
for the overrides that are lost. -/
theorem read_overlayFields_upperKeys {t₁ t₂ : Keyed Value} (h₂ : t₂.keys.Nodup)
    (hapart₁ : Apart (rulesOf t₁)) (hapart₂ : Apart (rulesOf t₂)) :
    Settings.read (.table (overlayFields
        (mapRules (fun rules => upperKeys (withoutLost (rulesOf t₂) rules)) t₁)
        (mapRules upperKeys t₂))) =
      Settings.read (.table (overlayFields t₁ t₂)) := by
  have hkeys : (mapRules upperKeys t₂).keys.Nodup := by rwa [keys_mapRules]
  apply Settings.read_congr
  · rw [get?_overlayFields _ hkeys, get?_overlayFields _ h₂, get?_mapRules, get?_mapRules]
    simp only [if_true]
    cases hrules₂ : t₂.get? "rules" with
    | none =>
      have hnothing : ∀ rules, withoutLost (rulesOf t₂) rules = rules := fun rules => by
        unfold rulesOf
        rw [hrules₂]
        exact withoutLost_eq_self fun e _ => Bool.and_false _
      simp only [hnothing]
      cases t₁.get? "rules" with
      | none => rfl
      | some v₁ => exact congrArg some (Settings.checkRules_upperKeys v₁)
    | some v₂ =>
      cases hrules₁ : t₁.get? "rules" with
      | none => exact congrArg some (Settings.checkRules_upperKeys v₂)
      | some v₁ =>
        refine congrArg some (Settings.checkRules_overlay fun r₁ r₂ heq₁ heq₂ => ?_)
        subst heq₁ heq₂
        unfold rulesOf at hapart₁ hapart₂ ⊢
        rw [hrules₁] at hapart₁
        rw [hrules₂] at hapart₂ ⊢
        exact ⟨rfl, hapart₁, hapart₂⟩
  · intro name hname
    rw [get?_overlayFields _ hkeys, get?_overlayFields _ h₂, get?_mapRules, get?_mapRules]
    simp only [hname, if_false]
    simp

/-! ## Loading settings -/

section Load

variable {tree : FileTree} {root : FilePath} {explicit : Option FilePath} {env : Keyed String}

/-- The fault of a document that has been asked for and is missing. -/
def missing (tree : FileTree) : Option FilePath → Except Fault Unit
  | none => .ok ()
  | some path => do
    let present ← Option.isSome <$> tree.entry? path
    if present then .ok () else .error (.settingsMissing path.text)

/-- The settings that a merged document gives. -/
def readMerged (merged : Keyed Value) : Except Fault Settings :=
  match Settings.read (.table merged) with
  | .error (.invalid model issues) => .error (.settingsInvalid (.invalid model issues))
  | result => result

theorem mergeSources_pair (tree : FileTree) (env : Keyed String) (first second : SettingsSource) :
    mergeSources tree env [] [first, second] =
      (first.load tree env).bind fun t₁ =>
        (second.load tree env).map fun t₂ => overlayFields t₁ t₂ := by
  rw [mergeSources]
  cases hfirst : first.load tree env with
  | error f => rfl
  | ok t₁ =>
    dsimp only
    rw [mergeSources, overlayFields_nil_left (SettingsSource.load_distinct hfirst).keys]
    cases second.load tree env with
    | error f => rfl
    | ok t₂ => rfl

/-- Settings are loaded from two documents; an explicit one must exist, and each be readable. -/
theorem loadSettings_eq (tree : FileTree) (env : Keyed String) {first second : SettingsSource}
    (hsources : settingsSources root explicit = [first, second]) :
    loadSettings tree root explicit env =
      (missing tree explicit).bind fun _ =>
        ((first.load tree env).bind fun t₁ =>
          (second.load tree env).map fun t₂ => overlayFields t₁ t₂).bind readMerged := by
  rw [← mergeSources_pair]
  unfold loadSettings missing
  rw [hsources]
  cases explicit with
  | none => rfl
  | some path =>
    dsimp only
    cases tree.entry? path with
    | error f => rfl
    | ok found =>
      cases found with
      | none => rfl
      | some entry => rfl

theorem missing_congr {tree tree' : FileTree}
    (h : ∀ path, explicit = some path →
      Option.isSome <$> tree'.entry? path = Option.isSome <$> tree.entry? path) :
    missing tree' explicit = missing tree explicit := by
  cases explicit with
  | none => rfl
  | some path =>
    rw [missing, missing, h path rfl]

/-- The later overrides of two documents. -/
def laterRules (tree : FileTree) (env : Keyed String) (second : SettingsSource) : Keyed Value :=
  match second.load tree env with
  | .ok t => rulesOf t
  | .error _ => []

/-- Take the two documents of a project, neither with two overrides whose keys have one upper case,
and other files whose documents differ in the keys of overrides alone: they are in upper case. If no
override that is a table in both documents is spelled differently in them, the same settings are
loaded, or the same fault comes up. Whatever the spelling, this is so if the first of the other
documents says nothing where an override of the first document is lost. -/
theorem loadSettings_upperKeys {tree tree' : FileTree} {first second : SettingsSource}
    (hsources : settingsSources root explicit = [first, second])
    (hexplicit : ∀ path, explicit = some path →
      Option.isSome <$> tree'.entry? path = Option.isSome <$> tree.entry? path)
    (hapart : ∀ source ∈ [first, second], ∀ t, source.load tree env = .ok t → Apart (rulesOf t))
    (hsecond : second.load tree' env = (second.load tree env).map (mapRules upperKeys)) :
    (first.load tree' env = (first.load tree env).map (mapRules upperKeys) →
      (∀ t, first.load tree env = .ok t →
        ∀ e ∈ rulesOf t, lost (laterRules tree env second) e = false) →
      loadSettings tree' root explicit env = loadSettings tree root explicit env) ∧
    (first.load tree' env = (first.load tree env).map
        (mapRules fun rules => upperKeys (withoutLost (laterRules tree env second) rules)) →
      loadSettings tree' root explicit env = loadSettings tree root explicit env) := by
  have hgeneral : first.load tree' env = (first.load tree env).map
        (mapRules fun rules => upperKeys (withoutLost (laterRules tree env second) rules)) →
      loadSettings tree' root explicit env = loadSettings tree root explicit env := by
    intro hfirst
    rw [loadSettings_eq tree' env hsources, loadSettings_eq tree env hsources,
      missing_congr hexplicit, hfirst, hsecond]
    refine congrArg _ (funext fun _ => ?_)
    cases hload₁ : first.load tree env with
    | error f => rfl
    | ok t₁ =>
      cases hload₂ : second.load tree env with
      | error f => rfl
      | ok t₂ =>
        have hlater : laterRules tree env second = rulesOf t₂ := by
          unfold laterRules
          rw [hload₂]
        rw [hlater]
        show readMerged (overlayFields _ _) = readMerged (overlayFields _ _)
        unfold readMerged
        rw [read_overlayFields_upperKeys (SettingsSource.load_distinct hload₂).keys
          (hapart first (by simp) t₁ hload₁) (hapart second (by simp) t₂ hload₂)]
  refine ⟨fun hfirst hspelled => hgeneral ?_, hgeneral⟩
  rw [hfirst]
  cases hload : first.load tree env with
  | error f => rfl
  | ok t =>
    -- where nothing is lost, leaving out what is lost changes nothing
    refine congrArg Except.ok (mapRules_congr (SettingsSource.load_distinct hload).keys ?_)
    rw [withoutLost_eq_self (hspelled t hload)]

end Load

section TwoDocuments

/-- A working directory with two documents. -/
def projectOf (project own : String) : FileTree :=
  [([projectDocument], .file (.text project)), ([settingsDocument], .file (.text own))]

theorem loadDocument_of_text {tree : FileTree} {path : FilePath} {text : String} {t : Keyed Value}
    (hentry : tree.entry? path = .ok (some (.file (.text text)))) (h : Toml.read text = some t)
    (env : Keyed String) :
    SettingsSource.loadDocument tree env path = .ok (expandFields env t) := by
  simp only [SettingsSource.loadDocument, hentry, bind, Except.bind, Content.decode?, h]

theorem projectOf_holds_project (project own : String) :
    FileTree.entry? (projectOf project own) ⟨"", [projectDocument]⟩ =
      .ok (some (.file (.text project))) := by
  have hnull : FilePath.hasNull ⟨"", [projectDocument]⟩ = false := by decide +kernel
  have hsize : projectDocument.utf8ByteSize ≤ FileTree.nameLimit := by decide +kernel
  have hshort : FileTree.isTooLong ⟨"", [projectDocument]⟩ = false := by decide +kernel
  have hplain : projectDocument ≠ ".." := by decide
  unfold FileTree.entry?
  rw [hnull]
  simp [FileTree.lookup, FileTree.locate, hshort, FileTree.start, FileTree.walk, FileTree.at?,
    projectOf, Nat.not_lt.mpr hsize, hplain, Except.map]

theorem projectOf_holds_own (project own : String) :
    FileTree.entry? (projectOf project own) ⟨"", [settingsDocument]⟩ =
      .ok (some (.file (.text own))) := by
  have hnull : FilePath.hasNull ⟨"", [settingsDocument]⟩ = false := by decide +kernel
  have hsize : settingsDocument.utf8ByteSize ≤ FileTree.nameLimit := by decide +kernel
  have hshort : FileTree.isTooLong ⟨"", [settingsDocument]⟩ = false := by decide +kernel
  have hplain : settingsDocument ≠ ".." := by decide
  have hother : projectDocument ≠ settingsDocument := by decide
  unfold FileTree.entry?
  rw [hnull]
  simp [FileTree.lookup, FileTree.locate, hshort, FileTree.start, FileTree.walk, FileTree.at?,
    projectOf, Nat.not_lt.mpr hsize, hplain, hother, Except.map]

/-- An override in two spellings: the earlier one is lost, as if it said nothing, although in upper
case both of its fields would be set. -/
theorem loadSettings_upperKeys_two_spellings :
    let root : FilePath := ⟨"", []⟩
    let first := SettingsSource.project (root.join [projectDocument])
    let second := SettingsSource.document (root.join [settingsDocument])
    let own := "[rules.A]\nengines = [\"x\"]\n"
    let tree := projectOf "[tool.lintweave.rules.a]\nenabled = false\n" own
    let silent := projectOf "[tool.lintweave.rules]\nA = false\n" own
    let upper := projectOf "[tool.lintweave.rules.A]\nenabled = false\n" own
    let rules (tree : FileTree) := (loadSettings tree root none []).toOption.map Settings.rules
    settingsSources root none = [first, second] ∧
      (∀ source ∈ [first, second], ∀ t, source.load tree [] = .ok t → Apart (rulesOf t)) ∧
      second.load silent [] = (second.load tree []).map (mapRules upperKeys) ∧
      first.load silent [] = (first.load tree []).map
        (mapRules fun rules => upperKeys (withoutLost (laterRules tree [] second) rules)) ∧
      loadSettings silent root none [] = loadSettings tree root none [] ∧
      rules tree = some [("A", { engines := ["x"], enabled := true })] ∧
      rules upper = some [("A", { engines := ["x"], enabled := false })] := by
  intro root first second own tree silent upper rules
  let small : Keyed Value := [("a", .table [("enabled", .bool false)])]
  let large : Keyed Value := [("A", .table [("engines", .list [.text "x"])])]
  have hproject : ∀ project rules, Toml.read project =
      some [("tool", .table [("lintweave", .table [("rules", rules)])])] →
      first.load (projectOf project own) [] = .ok [("rules", expandValue [] rules)] := by
    intro project rules hread
    have hload := loadDocument_of_text (projectOf_holds_project project own) hread []
    show (SettingsSource.loadDocument _ [] ⟨"", [projectDocument]⟩).map _ = _
    rw [hload]
    simp only [expandFields, expandValue]
    rfl
  have hfirst : first.load tree [] = .ok [("rules", .table small)] :=
    hproject _ (.table small) (by cbv)
  have hsilent : first.load silent [] = .ok [("rules", .table [("A", .bool false)])] :=
    hproject _ (.table [("A", .bool false)]) (by cbv)
  have hown : Toml.read own = some [("rules", .table large)] := by cbv
  have hsecond : ∀ project,
      second.load (projectOf project own) [] = .ok [("rules", .table large)] :=
    fun project => loadDocument_of_text (projectOf_holds_own project own) hown []
  have hapart : ∀ source ∈ [first, second], ∀ t, source.load tree [] = .ok t →
      Apart (rulesOf t) := by
    intro source hsource t ht
    obtain rfl | hsource := List.mem_cons.mp hsource
    · rw [hfirst] at ht
      cases ht
      exact List.nodup_singleton _
    · rw [List.mem_singleton.mp hsource, hsecond] at ht
      cases ht
      exact List.nodup_singleton _
  have hlater : laterRules tree [] second = large := by
    unfold laterRules
    rw [hsecond]
    rfl
  have hA : Text.upper "A" = "A" := by decide +kernel
  have ha : Text.upper "a" = "A" := by decide +kernel
  have hupper₂ : second.load silent [] = (second.load tree []).map (mapRules upperKeys) := by
    rw [hsecond, hsecond]
    simp [Except.map, mapRules, Value.mapTable, upperKeys, large, hA]
  have hsilent₁ : first.load silent [] = (first.load tree []).map
      (mapRules fun rules => upperKeys (withoutLost (laterRules tree [] second) rules)) := by
    rw [hsilent, hfirst, hlater]
    simp [Except.map, mapRules, Value.mapTable, upperKeys, withoutLost, lost, Value.isTable, small,
      large, hA, ha]
  refine ⟨rfl, hapart, hupper₂, hsilent₁, ?_, by decide +kernel, by decide +kernel⟩
  exact (loadSettings_upperKeys rfl (fun path hpath => by cases hpath) hapart hupper₂).2 hsilent₁

end TwoDocuments

end RuleAudit
