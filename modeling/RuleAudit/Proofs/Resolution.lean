import Mathlib.Data.List.Find
import RuleAudit.Auditor
import RuleAudit.Proofs.Catalog
import RuleAudit.Proofs.Identifiers

/-!
# What becomes of rule inputs

Inputs are taken once for each identifier, in first-seen order (`distinctInputs_map_key`), and the
first input of an identifier decides (`find?_of_mem_distinctInputs`). Resolution puts each of them
into one of three lists (`resolveRules_perm`): identifiers without a rule, identifiers that the
settings disable, and rules to run. `Fate` says which, and where a rule to run goes.
-/

namespace RuleAudit

/-- The identifier of a rule input in normal form. -/
def RuleInput.key : RuleInput → String
  | .rule r => Rule.normalizeId r.id
  | .id s => Rule.normalizeId s

/-- The identifiers of inputs that are not blank, each once, in first-seen order. -/
def firstSeen (inputs : List RuleInput) : List String :=
  ((inputs.map RuleInput.key).filter fun key => !key.isEmpty).eraseDups

/-- A rule input that is a rule has its identifier in normal form, as every rule has that is read.
-/
def RuleInput.Normal : RuleInput → Prop
  | .rule r => Rule.normalizeId r.id = r.id
  | .id _ => True

instance : DecidablePred RuleInput.Normal
  | .rule r => inferInstanceAs (Decidable (Rule.normalizeId r.id = r.id))
  | .id _ => inferInstanceAs (Decidable True)

/-- What becomes of a rule input. -/
inductive Fate where
  /-- No rule is known by its identifier. -/
  | unknown
  /-- The settings do not let the rule run. -/
  | disabled
  /-- The one engine asked for does not support the rule. -/
  | unsupported
  /-- The rule goes to an engine. -/
  | routed (engine : String)
  deriving Repr, DecidableEq

/-- Where a rule goes, if anywhere. -/
def Routing.engineOf (registry : Registry) (settings : Settings) (rule : Rule) : Option String :=
  match decide registry settings rule with
  | .ok d => d.engine
  | .error _ => none

/-- What becomes of a rule input under the settings of a run. -/
def Auditor.fate (a : Auditor) (settings : Settings) (item : RuleInput) : Fate :=
  match inputRule a.catalog item with
  | none => .unknown
  | some rule =>
    if settings.ruleEnabled rule.id then
      match Routing.engineOf a.registry settings rule with
      | some engine => .routed engine
      | none => .unsupported
    else .disabled

/-- What becomes of an identifier: what becomes of the first input that has it. -/
def Auditor.fateOf (a : Auditor) (settings : Settings) (inputs : List RuleInput) (key : String) :
    Option Fate :=
  (inputs.find? fun item => item.key == key).map (a.fate settings)

namespace Auditor

/-! ## First-seen inputs -/

theorem inputKey_eq_key {item : RuleInput} (h : item.Normal) : inputKey item = item.key := by
  cases item with
  | rule r => exact h.symm
  | id s => rfl

theorem key_of_mem_distinctInputs {seen : List String} {inputs : List RuleInput} {item : RuleInput}
    (h : item ∈ distinctInputs seen inputs) :
    item ∈ inputs ∧ (inputKey item).isEmpty = false ∧ inputKey item ∉ seen := by
  induction inputs generalizing seen with
  | nil => cases h
  | cons first rest ih =>
    unfold distinctInputs at h
    dsimp only at h
    split at h
    · obtain ⟨hmem, hkey⟩ := ih h
      exact ⟨by simp [hmem], hkey⟩
    · rename_i hfresh
      simp only [Bool.or_eq_true, List.contains_iff_mem, not_or, Bool.not_eq_true] at hfresh
      rcases List.mem_cons.mp h with rfl | hrest
      · exact ⟨by simp, hfresh⟩
      · obtain ⟨hmem, hblank, hnew⟩ := ih hrest
        exact ⟨by simp [hmem], hblank, fun hseen => hnew (by simp [hseen])⟩

/-- The keys of the inputs that are taken: new ones, each once, in first-seen order. -/
theorem distinctInputs_map_key (seen : List String) (inputs : List RuleInput) :
    (distinctInputs seen inputs).map inputKey =
      ((inputs.map inputKey).filter fun key => !key.isEmpty && !seen.contains key).eraseDups := by
  induction inputs generalizing seen with
  | nil => rfl
  | cons first rest ih =>
    unfold distinctInputs
    dsimp only
    rw [List.map_cons]
    split
    · rename_i hskip
      rw [List.filter_cons_of_neg (by rw [← Bool.not_or, hskip]; decide), ih]
    · rename_i htake
      rw [List.filter_cons_of_pos (by simpa using htake), List.eraseDups_cons, List.map_cons, ih,
        List.filter_filter]
      -- what `eraseDups` drops of the rest is what the scan has seen by then
      congr 3
      funext key
      by_cases hkey : key = inputKey first
      · simp [hkey]
      · simp [hkey]

theorem nodup_distinctInputs (seen : List String) (inputs : List RuleInput) :
    ((distinctInputs seen inputs).map inputKey).Nodup := by
  induction inputs generalizing seen with
  | nil => exact List.nodup_nil
  | cons first rest ih =>
    unfold distinctInputs
    dsimp only
    split
    · exact ih seen
    · rw [List.map_cons, List.nodup_cons]
      refine ⟨?_, ih _⟩
      intro hmem
      obtain ⟨item, hitem, hkey⟩ := List.mem_map.mp hmem
      exact (key_of_mem_distinctInputs hitem).2.2 (by simp [hkey])

/-- An input that is taken is the first with its key. -/
theorem find?_of_mem_distinctInputs {seen : List String} {inputs : List RuleInput}
    {item : RuleInput} (h : item ∈ distinctInputs seen inputs) :
    inputs.find? (fun other => inputKey other == inputKey item) = some item := by
  induction inputs generalizing seen with
  | nil => cases h
  | cons first rest ih =>
    have hkey := (key_of_mem_distinctInputs h).2
    unfold distinctInputs at h
    dsimp only at h
    split at h
    · rename_i hskip
      -- an input that is passed over is blank or seen, and the one that is taken is neither
      have hne : inputKey first ≠ inputKey item := by
        intro heq
        rw [heq] at hskip
        simp only [Bool.or_eq_true, List.contains_iff_mem] at hskip
        rcases hskip with hblank | hseen
        · rw [hkey.1] at hblank
          cases hblank
        · exact hkey.2 hseen
      rw [List.find?_cons_of_neg (by simpa using hne)]
      exact ih h
    · rcases List.mem_cons.mp h with rfl | hrest
      · rw [List.find?_cons_of_pos (by simp)]
      · have hne : inputKey first ≠ inputKey item := by
          intro heq
          exact (key_of_mem_distinctInputs hrest).2.2 (by simp [heq])
        rw [List.find?_cons_of_neg (by simpa using hne)]
        exact ih hrest

/-! ## Resolution -/

/-- Whether an input comes to a rule that is to run and has a property. -/
def runsWith (settings : Settings) (catalog : Catalog) (p : Rule → Bool) (item : RuleInput) :
    Bool :=
  match inputRule catalog item with
  | some rule => settings.ruleEnabled rule.id && p rule
  | none => false

/-- Whether an input comes to a rule that the settings disable. -/
def isDisabled (settings : Settings) (catalog : Catalog) (item : RuleInput) : Bool :=
  match inputRule catalog item with
  | some rule => !settings.ruleEnabled rule.id
  | none => false

variable {settings : Settings} {catalog : Catalog}

/-- The rule of an input has the input's key. -/
theorem id_of_inputRule (hcatalog : catalog.WellKeyed) {item : RuleInput} {rule : Rule}
    (h : inputRule catalog item = some rule) : rule.id = inputKey item := by
  cases item with
  | rule r =>
    cases h
    rfl
  | id s =>
    simp only [inputRule, Catalog.find?, Rule.normalizeId_normalizeId] at h
    split at h
    · exact hcatalog _ (Keyed.mem_of_get? h)
    · cases h

/-- What inputs add to a resolution, list by list. -/
theorem foldl_add (settings : Settings) (hcatalog : catalog.WellKeyed) (items : List RuleInput)
    (res : Resolution) :
    (items.foldl (Resolution.add settings catalog) res).unknown =
        res.unknown ++ (items.filter fun item => (inputRule catalog item).isNone).map inputKey ∧
      (items.foldl (Resolution.add settings catalog) res).disabled =
        res.disabled ++ (items.filter (isDisabled settings catalog)).map inputKey ∧
      ∀ p : Rule → Bool,
        (((items.foldl (Resolution.add settings catalog) res).rules.filter p).map Rule.id) =
          (res.rules.filter p).map Rule.id ++
            (items.filter (runsWith settings catalog p)).map inputKey := by
  induction items generalizing res with
  | nil => simp
  | cons item rest ih =>
    rw [List.foldl_cons]
    obtain ⟨hunknown, hdisabled, hrules⟩ := ih (res.add settings catalog item)
    rw [hunknown, hdisabled]
    simp only [hrules, List.filter_cons]
    cases hrule : inputRule catalog item with
    | none =>
      have hadd : res.add settings catalog item =
          { res with unknown := res.unknown ++ [inputKey item] } := by
        rw [Resolution.add, hrule]
      rw [hadd]
      simp [isDisabled, runsWith, hrule]
    | some rule =>
      have hid := id_of_inputRule hcatalog hrule
      cases henabled : settings.ruleEnabled rule.id with
      | true =>
        have hadd : res.add settings catalog item = { res with rules := res.rules ++ [rule] } := by
          rw [Resolution.add, hrule]
          exact if_pos henabled
        rw [hadd]
        rw [hid] at henabled
        refine ⟨by simp, by simp [isDisabled, hrule, hid, henabled], fun p => ?_⟩
        cases hp : p rule <;> simp [runsWith, hrule, henabled, hp, hid]
      | false =>
        have hadd : res.add settings catalog item =
            { res with disabled := res.disabled ++ [rule.id] } := by
          rw [Resolution.add, hrule]
          exact if_neg (by rw [henabled]; decide)
        rw [hadd]
        rw [hid] at henabled
        refine ⟨by simp, by simp [isDisabled, hrule, henabled, hid], fun p => ?_⟩
        simp [runsWith, hrule, hid, henabled]

/-- Each input is in one of the three lists. -/
theorem filter_resolution_perm (items : List RuleInput) :
    ((items.filter fun item => (inputRule catalog item).isNone) ++
        items.filter (isDisabled settings catalog) ++
        items.filter (runsWith settings catalog fun _ => true)).Perm items := by
  have hdisabled : items.filter (isDisabled settings catalog) =
      (items.filter fun item => !(inputRule catalog item).isNone).filter
        (isDisabled settings catalog) := by
    rw [List.filter_filter]
    refine List.filter_congr fun item _ => ?_
    cases hrule : inputRule catalog item <;> simp [isDisabled, hrule]
  have hruns : items.filter (runsWith settings catalog fun _ => true) =
      (items.filter fun item => !(inputRule catalog item).isNone).filter
        fun item => !isDisabled settings catalog item := by
    rw [List.filter_filter]
    refine List.filter_congr fun item _ => ?_
    cases hrule : inputRule catalog item <;> simp [runsWith, isDisabled, hrule]
  rw [hdisabled, hruns, List.append_assoc]
  exact ((List.filter_append_perm _ _).append_left _).trans (List.filter_append_perm _ _)

/-- Resolution neither loses nor repeats a key. -/
theorem resolveRules_perm (hcatalog : catalog.WellKeyed) (inputs : List RuleInput) :
    ((resolveRules settings catalog inputs).unknown ++
        (resolveRules settings catalog inputs).disabled ++
        (resolveRules settings catalog inputs).rules.map Rule.id).Perm
      ((distinctInputs [] inputs).map inputKey) := by
  obtain ⟨hunknown, hdisabled, hrules⟩ :=
    foldl_add settings hcatalog (distinctInputs [] inputs) {}
  have hall := hrules fun _ => true
  rw [List.filter_true, List.filter_nil, List.map_nil, List.nil_append] at hall
  unfold resolveRules
  rw [hunknown, hdisabled, hall, List.nil_append, List.nil_append, ← List.map_append,
    ← List.map_append]
  exact (filter_resolution_perm _).map inputKey

/-- No two resolved rules have one identifier. -/
theorem nodup_resolveRules (hcatalog : catalog.WellKeyed) (inputs : List RuleInput) :
    ((resolveRules settings catalog inputs).rules.map Rule.id).Nodup := by
  have hperm := @resolveRules_perm settings catalog hcatalog inputs
  have hkeys := hperm.nodup_iff.mpr (nodup_distinctInputs [] inputs)
  exact (List.nodup_append.mp hkeys).2.1

/-- Every resolved rule is the rule of an input. -/
theorem exists_of_mem_resolveRules {inputs : List RuleInput} {rule : Rule}
    (h : rule ∈ (resolveRules settings catalog inputs).rules) :
    ∃ item ∈ inputs, inputRule catalog item = some rule := by
  have hfold : ∀ (items : List RuleInput) (res : Resolution),
      rule ∈ (items.foldl (Resolution.add settings catalog) res).rules →
      rule ∈ res.rules ∨ ∃ item ∈ items, inputRule catalog item = some rule := by
    intro items
    induction items with
    | nil => exact fun res hrule => .inl hrule
    | cons item rest ih =>
      intro res hrule
      rcases ih _ hrule with hadded | ⟨later, hlater, hsome⟩
      · unfold Resolution.add at hadded
        split at hadded
        · exact .inl hadded
        · rename_i found hfound
          split at hadded
          · rcases List.mem_append.mp hadded with hold | hnew
            · exact .inl hold
            · rw [List.mem_singleton.mp hnew]
              exact .inr ⟨item, List.mem_cons_self, hfound⟩
          · exact .inl hadded
      · exact .inr ⟨later, List.mem_cons_of_mem _ hlater, hsome⟩
  rcases hfold _ _ h with hnone | ⟨item, hitem, hsome⟩
  · cases hnone
  · exact ⟨item, (key_of_mem_distinctInputs hitem).1, hsome⟩

/-! ## Numbers of rules -/

theorem length_distinctInputs_le (seen : List String) (inputs : List RuleInput) :
    (distinctInputs seen inputs).length ≤ inputs.length := by
  induction inputs generalizing seen with
  | nil => exact Nat.le_refl 0
  | cons item rest ih =>
    unfold distinctInputs
    dsimp only
    split
    · exact Nat.le_succ_of_le (ih seen)
    · exact Nat.succ_le_succ (ih _)

theorem length_rules_foldl_add_le (settings : Settings) (catalog : Catalog)
    (items : List RuleInput) (res : Resolution) :
    (items.foldl (Resolution.add settings catalog) res).rules.length ≤
      res.rules.length + items.length := by
  induction items generalizing res with
  | nil => exact Nat.le_refl _
  | cons item rest ih =>
    have hone : (res.add settings catalog item).rules.length ≤ res.rules.length + 1 := by
      unfold Resolution.add
      split
      · exact Nat.le_succ _
      · split
        · rw [List.length_append, List.length_singleton]
        · exact Nat.le_succ _
    have hrest := ih (res.add settings catalog item)
    rw [List.foldl_cons, List.length_cons]
    omega

theorem length_rules_resolveRules_le (settings : Settings) (catalog : Catalog)
    (inputs : List RuleInput) :
    (resolveRules settings catalog inputs).rules.length ≤ inputs.length := by
  have hfold := length_rules_foldl_add_le settings catalog (distinctInputs [] inputs) {}
  have hdistinct := length_distinctInputs_le [] inputs
  unfold resolveRules
  simp only [List.length_nil] at hfold
  omega

/-! ## Fates -/

section Fates

variable (a : Auditor) (settings) {inputs : List RuleInput}

theorem firstSeen_eq (h : ∀ item ∈ inputs, item.Normal) :
    firstSeen inputs = (distinctInputs [] inputs).map inputKey := by
  have hkeys : inputs.map inputKey = inputs.map RuleInput.key :=
    List.map_congr_left fun item hitem => inputKey_eq_key (h item hitem)
  rw [distinctInputs_map_key, hkeys]
  simp [firstSeen]

theorem mem_firstSeen {id : String} :
    id ∈ firstSeen inputs ↔ id ≠ "" ∧ ∃ item ∈ inputs, item.key = id := by
  rw [firstSeen, List.mem_eraseDups, List.mem_filter, List.mem_map]
  simp [and_comm]

/-- The fate of a key is that of the input that is taken for it. -/
theorem fateOf_inputKey (h : ∀ item ∈ inputs, item.Normal) {item : RuleInput}
    (hitem : item ∈ distinctInputs [] inputs) :
    a.fateOf settings inputs (inputKey item) = some (a.fate settings item) := by
  have hfind := find?_of_mem_distinctInputs hitem
  have hsame : inputs.find? (fun other => other.key == inputKey item) =
      inputs.find? fun other => inputKey other == inputKey item := by
    refine List.find?_congr fun other hother => ?_
    rw [inputKey_eq_key (h other hother)]
  rw [fateOf, hsame, hfind, Option.map_some]

/-- The keys of the inputs with some fate, in first-seen order. -/
theorem filter_fate_map_inputKey (h : ∀ item ∈ inputs, item.Normal) (f : Fate)
    {p : RuleInput → Bool} (hp : ∀ item, p item = (a.fate settings item == f)) :
    ((distinctInputs [] inputs).filter p).map inputKey =
      (firstSeen inputs).filter fun key => a.fateOf settings inputs key == some f := by
  rw [firstSeen_eq h, List.filter_map]
  congr 1
  refine List.filter_congr fun item hitem => ?_
  rw [hp, Function.comp_apply, fateOf_inputKey settings a h hitem, Option.some_beq_some]

theorem isNone_inputRule (item : RuleInput) :
    (inputRule a.catalog item).isNone = (a.fate settings item == .unknown) := by
  unfold fate
  cases inputRule a.catalog item with
  | none => rfl
  | some rule =>
    dsimp only
    split
    · split <;> rfl
    · rfl

theorem isDisabled_eq (item : RuleInput) :
    isDisabled settings a.catalog item = (a.fate settings item == .disabled) := by
  unfold fate isDisabled
  cases inputRule a.catalog item with
  | none => rfl
  | some rule =>
    dsimp only
    cases settings.ruleEnabled rule.id with
    | true =>
      rw [if_pos rfl]
      split <;> rfl
    | false => rfl

theorem runsWith_routed (engine : String) (item : RuleInput) :
    runsWith settings a.catalog
        (fun rule => Routing.engineOf a.registry settings rule == some engine) item =
      (a.fate settings item == .routed engine) := by
  unfold fate runsWith
  cases inputRule a.catalog item with
  | none => rfl
  | some rule =>
    dsimp only
    cases settings.ruleEnabled rule.id with
    | true =>
      rw [if_pos rfl]
      cases Routing.engineOf a.registry settings rule with
      | none => rfl
      | some other => by_cases hother : other = engine <;> simp [hother]
    | false => rfl

theorem runsWith_unsupported (item : RuleInput) :
    runsWith settings a.catalog
        (fun rule => Routing.engineOf a.registry settings rule == none) item =
      (a.fate settings item == .unsupported) := by
  unfold fate runsWith
  cases inputRule a.catalog item with
  | none => rfl
  | some rule =>
    dsimp only
    cases settings.ruleEnabled rule.id with
    | true =>
      rw [if_pos rfl]
      cases Routing.engineOf a.registry settings rule <;> rfl
    | false => rfl

/-- What resolution makes of inputs, list by list and in first-seen order. -/
theorem resolveRules_fates (hcatalog : a.catalog.WellKeyed) (h : ∀ item ∈ inputs, item.Normal) :
    let res := resolveRules settings a.catalog inputs
    let having (f : Fate) : List String :=
      (firstSeen inputs).filter fun key => a.fateOf settings inputs key == some f
    res.unknown = having .unknown ∧ res.disabled = having .disabled ∧
      (res.rules.filter fun rule => Routing.engineOf a.registry settings rule == none).map Rule.id =
        having .unsupported ∧
      ∀ engine, (res.rules.filter fun rule =>
          Routing.engineOf a.registry settings rule == some engine).map Rule.id =
        having (.routed engine) := by
  intro res having
  obtain ⟨hunknown, hdisabled, hrules⟩ :=
    foldl_add settings hcatalog (distinctInputs [] inputs) {}
  refine ⟨?_, ?_, ?_, fun engine => ?_⟩
  · rw [show res.unknown = _ from hunknown, List.nil_append]
    exact filter_fate_map_inputKey settings a h _ (isNone_inputRule settings a)
  · rw [show res.disabled = _ from hdisabled, List.nil_append]
    exact filter_fate_map_inputKey settings a h _ (isDisabled_eq settings a)
  · refine (hrules _).trans ?_
    exact filter_fate_map_inputKey settings a h _ (runsWith_unsupported settings a)
  · refine (hrules _).trans ?_
    exact filter_fate_map_inputKey settings a h _ (runsWith_routed settings a engine)

end Fates

end Auditor

end RuleAudit
