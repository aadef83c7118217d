import Mathlib.Data.List.Induction
import Mathlib.Order.Bounds.Defs
import RuleAudit.Proofs.Merge

/-!
# What a merge counts

A merged result carries one list of violations and several totals: over all, by engine, by category
and by severity. `RunResult.Accounts` says what each of them is in terms of the outcomes, and
`merge_accounts` that a merge gives all of them, for any outcomes whatever.

The fold changes a total by changing one entry of a keyed list, so a sum over the entries moves by
what the entry moves (`Keyed.sum_values_alter`). The tally of an engine is `Merge.tallyOf` its own
outcomes, written down without a fold, and engines are listed in the order of their first outcome.
-/

namespace RuleAudit

/-! ## Sums over entries -/

theorem Keyed.keys_alter {α : Type} (m : Keyed α) (key : String) (initial : α) (f : α → α) :
    (m.alter key initial f).keys = if key ∈ m.keys then m.keys else m.keys ++ [key] :=
  keys_put m key _

/-- If changing an entry adds `d` to its share of a sum and new entries start from nothing, the sum
over all entries grows by `d`. -/
theorem Keyed.sum_values_alter {α : Type} (share : α → Nat) (m : Keyed α) (key : String)
    {initial : α} {f : α → α} {d : Nat} (hinitial : share initial = 0)
    (hstep : ∀ a, share (f a) = share a + d) :
    ((m.alter key initial f).values.map share).sum = (m.values.map share).sum + d := by
  unfold alter
  induction m with
  | nil => simp [put, values, hstep, hinitial]
  | cons entry rest ih =>
    obtain ⟨k, v⟩ := entry
    simp only [values] at ih
    by_cases hk : k = key
    · subst hk
      simp only [values, get?, put, BEq.rfl, if_true, Option.getD_some, List.map_cons,
        List.sum_cons, hstep]
      omega
    · simp only [values, get?, put, hk, beq_iff_eq, if_false, List.map_cons, List.sum_cons, ih]
      omega

namespace Merge

/-! ## Items in the order of their first appearance -/

/-- Adding items to a list without its repetitions drops the repetitions of both. -/
theorem addNew_eraseDups (seen items : List String) :
    addNew seen.eraseDups items = (seen ++ items).eraseDups := by
  induction items generalizing seen with
  | nil => simp [addNew]
  | cons item rest ih =>
    have hone : (seen ++ [item]).eraseDups =
        if seen.eraseDups.contains item then seen.eraseDups else seen.eraseDups ++ [item] := by
      rw [eraseDups_concat]
      simp
    rw [List.append_cons, ← ih, hone]
    rfl

theorem nodup_addNew {seen : List String} (h : seen.Nodup) (items : List String) :
    (addNew seen items).Nodup := by
  induction items generalizing seen with
  | nil => exact h
  | cons item rest ih =>
    show (addNew (if seen.contains item then seen else seen ++ [item]) rest).Nodup
    refine ih ?_
    split
    · exact h
    · rename_i hfresh
      rw [List.contains_iff_mem] at hfresh
      exact List.Nodup.append h (List.nodup_singleton item) (by simpa using hfresh)

theorem nodup_eraseDups (items : List String) : items.eraseDups.Nodup :=
  addNew_eraseDups [] items ▸ nodup_addNew List.nodup_nil items

/-! ## Tallies -/

/-- What outcomes of one engine add up to. -/
def tallyOf (outcomes : List Outcome) : EngineTally :=
  { rules := (outcomes.flatMap Outcome.rules).eraseDups
    violations := (outcomes.flatMap contributed).length
    files := (outcomes.map Outcome.fileCount).foldl max 0
    batches := outcomes.length
    failedBatches := outcomes.countP fun o => !o.success }

theorem length_contributed (o : Outcome) :
    (contributed o).length = if o.success then o.violationCount else 0 := by
  unfold contributed
  split <;> simp [Outcome.violationCount, Outcome.allViolations]

theorem tallyOf_concat (outcomes : List Outcome) (o : Outcome) :
    tallyOf (outcomes ++ [o]) = tallyOutcome o (tallyOf outcomes) := by
  have hrules : ((outcomes ++ [o]).flatMap Outcome.rules).eraseDups =
      addNew (outcomes.flatMap Outcome.rules).eraseDups o.rules := by
    rw [addNew_eraseDups, List.flatMap_append, List.flatMap_singleton]
  have hfailed : [o].countP (fun o => !o.success) = if o.success then 0 else 1 := by
    cases ho : o.success <;> simp [ho]
  unfold tallyOf tallyOutcome
  rw [hrules, List.flatMap_append, List.length_append, List.flatMap_singleton, length_contributed,
    List.map_append, List.foldl_append, List.countP_append, hfailed, List.length_append]
  rfl

/-- Adding outcomes one by one to an empty tally gives the tally of them all. -/
theorem foldl_tallyOutcome (outcomes : List Outcome) :
    outcomes.foldl (fun t o => tallyOutcome o t) {} = tallyOf outcomes := by
  induction outcomes using List.reverseRecOn with
  | nil => rfl
  | append_singleton rest o ih => rw [List.foldl_concat, ih, tallyOf_concat]

/-- The tally of an engine is that of its own outcomes; without any it has none. -/
theorem get?_tallies_eq (categories : Keyed String) (engine : String) (outcomes : List Outcome) :
    (fold categories outcomes).tallies.get? engine =
      if (outcomes.filter fun o => o.engine == engine).isEmpty then none
      else some (tallyOf (outcomes.filter fun o => o.engine == engine)) := by
  unfold fold
  rw [get?_tallies_foldl, ← foldl_tallyOutcome]
  rfl

/-- Engines are listed in the order of their first outcome. -/
theorem keys_tallies (categories : Keyed String) (outcomes : List Outcome) :
    (fold categories outcomes).tallies.keys = (outcomes.map Outcome.engine).eraseDups := by
  have hfoldl : ∀ s : State, (outcomes.foldl (step categories) s).tallies.keys =
      addNew s.tallies.keys (outcomes.map Outcome.engine) := by
    induction outcomes with
    | nil => exact fun s => rfl
    | cons o rest ih =>
      intro s
      rw [List.foldl_cons, ih, tallies_step, Keyed.keys_alter, List.map_cons]
      show _ = addNew (if s.tallies.keys.contains o.engine then _ else _) _
      simp only [List.contains_iff_mem]
  exact (hfoldl {}).trans (addNew_eraseDups [] _)

/-- A figure that starts from nothing and that each outcome moves by its own share adds up, over all
engines, to the shares of all outcomes. -/
theorem sum_tallies (categories : Keyed String) (outcomes : List Outcome)
    {figure : EngineTally → Nat} (share : Outcome → Nat) (hinitial : figure {} = 0)
    (hstep : ∀ o t, figure (tallyOutcome o t) = figure t + share o) :
    ((fold categories outcomes).tallies.values.map figure).sum = (outcomes.map share).sum := by
  have hfoldl : ∀ s : State, ((outcomes.foldl (step categories) s).tallies.values.map figure).sum =
      (s.tallies.values.map figure).sum + (outcomes.map share).sum := by
    induction outcomes with
    | nil => exact fun s => rfl
    | cons o rest ih =>
      intro s
      rw [List.foldl_cons, ih, tallies_step, Keyed.sum_values_alter figure _ _ hinitial (hstep o),
        List.map_cons, List.sum_cons, Nat.add_assoc]
  exact (hfoldl {}).trans (Nat.zero_add _)

/-- The largest of some numbers, but at least 0. -/
theorem isGreatest_foldl_max (numbers : List Int) :
    IsGreatest {n | n = 0 ∨ n ∈ numbers} (numbers.foldl max 0) := by
  induction numbers using List.reverseRecOn with
  | nil =>
    refine ⟨.inl rfl, ?_⟩
    rintro n (rfl | hn)
    · exact Int.le_refl 0
    · cases hn
  | append_singleton rest n ih =>
    obtain ⟨hmem, hle⟩ := ih
    rw [List.foldl_concat]
    constructor
    · by_cases hn : rest.foldl max 0 ≤ n
      · rw [Int.max_eq_right hn]
        exact .inr (by simp)
      · rw [Int.max_eq_left (by omega)]
        exact hmem.imp_right fun h => List.mem_append_left _ h
    · rintro k (rfl | hk)
      · exact Int.le_trans (hle (.inl rfl)) (Int.le_max_left _ _)
      · rcases List.mem_append.mp hk with hk | hk
        · exact Int.le_trans (hle (.inr hk)) (Int.le_max_left _ _)
        · rw [List.mem_singleton.mp hk]
          exact Int.le_max_right _ _

/-! ## Counts -/

/-- The counts of items add up to the number of items. -/
theorem sum_foldl_count {α : Type} (keyOf : α → String) (items : List α) (counts : Keyed Nat) :
    (items.foldl (fun counts a => count counts (keyOf a)) counts).values.sum =
      counts.values.sum + items.length := by
  induction items generalizing counts with
  | nil => rfl
  | cons a rest ih =>
    have hone : (count counts (keyOf a)).values.sum = counts.values.sum + 1 := by
      have hadded := Keyed.sum_values_alter id counts (keyOf a) (f := (· + 1)) (d := 1)
        (show id 0 = 0 from rfl) fun _ => rfl
      rwa [List.map_id, List.map_id] at hadded
    rw [List.foldl_cons, ih, hone, List.length_cons, Nat.add_assoc, Nat.add_comm 1]

end Merge

/-! ## The category a violation counts for -/

/-- The category that a violation is filed under: its own unless it has none or an empty one, else
that of its rule, whose identifier is looked up in upper case, else `uncategorized`. -/
inductive Violation.FiledUnder (ruleCategories : Keyed String) (v : Violation) : String → Prop where
  | own {c : String} (hcategory : v.category = some c) (hne : c ≠ "") :
      FiledUnder ruleCategories v c
  | ofRule {c : String} (hown : v.category = none ∨ v.category = some "")
      (hrule : ruleCategories.get? (Text.upper v.ruleId) = some c) : FiledUnder ruleCategories v c
  | unknown (hown : v.category = none ∨ v.category = some "")
      (hrule : ruleCategories.get? (Text.upper v.ruleId) = none) :
      FiledUnder ruleCategories v uncategorized

theorem Violation.filedUnder_iff {ruleCategories : Keyed String} {v : Violation} {key : String} :
    v.FiledUnder ruleCategories key ↔ Merge.categoryOf ruleCategories v = key := by
  have hfallback : v.category = none ∨ v.category = some "" →
      Merge.categoryOf ruleCategories v =
        (ruleCategories.get? (Text.upper v.ruleId)).getD uncategorized := by
    rintro (hown | hown) <;> simp [Merge.categoryOf, Merge.categoryOf.ofRule, hown]
  constructor
  · rintro (⟨hcategory, hne⟩ | ⟨hown, hrule⟩ | ⟨hown, hrule⟩)
    · simp [Merge.categoryOf, hcategory, hne]
    · rw [hfallback hown, hrule, Option.getD_some]
    · rw [hfallback hown, hrule, Option.getD_none]
  · rintro rfl
    by_cases hown : v.category = none ∨ v.category = some ""
    · rw [hfallback hown]
      cases hrule : ruleCategories.get? (Text.upper v.ruleId) with
      | none => exact .unknown hown hrule
      | some c => exact .ofRule hown hrule
    · obtain ⟨hsome, hne⟩ := not_or.mp hown
      obtain ⟨c, hc⟩ := Option.ne_none_iff_exists'.mp hsome
      have hc' : c ≠ "" := fun h => hne (h ▸ hc)
      have hcategory : Merge.categoryOf ruleCategories v = c := by
        simp [Merge.categoryOf, hc, hc']
      exact hcategory ▸ .own hc hc'

instance (ruleCategories : Keyed String) (v : Violation) (key : String) :
    Decidable (v.FiledUnder ruleCategories key) :=
  decidable_of_iff _ Violation.filedUnder_iff.symm

/-! ## The whole account -/

/-- A count as a keyed list shows it: keys that count nothing are not listed. -/
def Merge.listed (n : Nat) : Option Nat :=
  if n = 0 then none else some n

/-- How the totals of a result account for outcomes. The violations are those of the outcomes that
succeeded, those of the files before the free-standing ones; they are counted over all, by engine,
by category and by severity. Batches and failed batches are counted over all and by engine. An
engine is listed from its first outcome on, with its largest number of files, or 0, and with the
rules of its outcomes, each once. -/
structure RunResult.Accounts (ruleCategories : Keyed String) (outcomes : List Outcome)
    (r : RunResult) : Prop where
  violations : r.violations = (outcomes.filter Outcome.success).flatMap fun o =>
    o.results.flatMap FileFindings.violations ++ o.violations
  totalViolations : r.summary.totalViolations = r.violations.length
  sumViolations : (r.summary.engines.values.map EngineTally.violations).sum = r.violations.length
  sumCategories : r.summary.categories.values.sum = r.violations.length
  sumSeverities : r.summary.severities.values.sum = r.violations.length
  totalBatches : r.summary.totalBatches = outcomes.length
  sumBatches : (r.summary.engines.values.map EngineTally.batches).sum = outcomes.length
  failedBatches : r.summary.failedBatches = outcomes.countP fun o => !o.success
  sumFailedBatches : (r.summary.engines.values.map EngineTally.failedBatches).sum =
    r.summary.failedBatches
  engines : r.summary.engines.keys = (outcomes.map Outcome.engine).eraseDups
  totalEngines : r.summary.totalEngines = (outcomes.map Outcome.engine).eraseDups.length
  files : ∀ e t, r.summary.engines.get? e = some t →
    IsGreatest {n | n = 0 ∨ ∃ o ∈ outcomes, o.engine = e ∧ o.fileCount = n} t.files
  rules : ∀ e t, r.summary.engines.get? e = some t →
    t.rules = ((outcomes.filter fun o => o.engine == e).flatMap Outcome.rules).eraseDups
  category : ∀ key, r.summary.categories.get? key =
    Merge.listed (r.violations.countP fun v => v.FiledUnder ruleCategories key)
  severity : ∀ key, r.summary.severities.get? key =
    Merge.listed (r.violations.countP fun v => v.severity.word = key)
  hasFailures : r.hasFailures = true ↔ 0 < r.summary.failedBatches
  hasViolations : r.hasViolations = true ↔ 0 < r.summary.totalViolations

namespace Merge

theorem results_foldl (categories : Keyed String) (outcomes : List Outcome) (s : State) :
    (outcomes.foldl (step categories) s).results =
      s.results ++ (outcomes.filter Outcome.success).flatMap Outcome.results := by
  induction outcomes generalizing s with
  | nil => exact (List.append_nil _).symm
  | cons o rest ih =>
    rw [List.foldl_cons, ih, List.filter_cons]
    unfold step
    dsimp only
    split
    · rw [List.flatMap_cons, List.append_assoc]
    · rfl

theorem flatMap_contributed (outcomes : List Outcome) :
    outcomes.flatMap contributed =
      (outcomes.filter Outcome.success).flatMap Outcome.allViolations := by
  induction outcomes with
  | nil => rfl
  | cons o rest ih =>
    rw [List.flatMap_cons, List.filter_cons, ih, contributed]
    split <;> simp

/-- A count is the number of items under its key. -/
theorem get?_foldl_count_nil {α : Type} (keyOf : α → String) (items : List α) (key : String) :
    (items.foldl (fun counts a => count counts (keyOf a)) []).get? key =
      listed (items.countP fun a => keyOf a = key) := by
  have hcount : (items.map keyOf).count key = items.countP fun a => keyOf a = key := by
    rw [List.count, List.countP_map]
    rfl
  rw [get?_foldl_count, hcount, Keyed.get?_nil, Option.getD_none, Nat.zero_add, listed]

theorem sum_batches (categories : Keyed String) (outcomes : List Outcome) :
    ((fold categories outcomes).tallies.values.map EngineTally.batches).sum = outcomes.length := by
  rw [sum_tallies categories outcomes (fun _ => 1) rfl fun _ _ => rfl]
  induction outcomes with
  | nil => rfl
  | cons o rest ih => rw [List.map_cons, List.sum_cons, ih, List.length_cons, Nat.add_comm]

theorem sum_failedBatches (categories : Keyed String) (outcomes : List Outcome) :
    ((fold categories outcomes).tallies.values.map EngineTally.failedBatches).sum =
      outcomes.countP fun o => !o.success := by
  rw [sum_tallies categories outcomes (fun o => if o.success then 0 else 1) rfl fun _ _ => rfl]
  induction outcomes with
  | nil => rfl
  | cons o rest ih =>
    rw [List.map_cons, List.sum_cons, ih, List.countP_cons]
    cases o.success <;> simp [Nat.add_comm]

theorem sum_violations (categories : Keyed String) (outcomes : List Outcome) :
    ((fold categories outcomes).tallies.values.map EngineTally.violations).sum =
      (outcomes.flatMap contributed).length := by
  rw [sum_tallies categories outcomes (fun o => (contributed o).length) rfl ?_,
    List.length_flatMap]
  intro o t
  rw [length_contributed]
  rfl

end Merge

/-! ## The parts of a merged result -/

section Merged

variable (outcomes : List Outcome) (fileCount : Int) (performance : Metrics)
  (skippedRules : List String) (ruleCategories : Keyed String) (metadata : Keyed Value)

theorem merge_violations :
    (merge outcomes fileCount performance skippedRules ruleCategories metadata).violations =
      outcomes.flatMap Merge.contributed :=
  Merge.violations_foldl ruleCategories outcomes {}

theorem merge_results :
    (merge outcomes fileCount performance skippedRules ruleCategories metadata).results =
      (outcomes.filter Outcome.success).flatMap Outcome.results :=
  Merge.results_foldl ruleCategories outcomes {}

theorem merge_categories :
    (merge outcomes fileCount performance skippedRules ruleCategories metadata).summary.categories =
      (outcomes.flatMap Merge.contributed).foldl
        (fun counts v => Merge.count counts (Merge.categoryOf ruleCategories v)) [] :=
  (Merge.counts_foldl ruleCategories outcomes {}).1

theorem merge_severities :
    (merge outcomes fileCount performance skippedRules ruleCategories metadata).summary.severities =
      (outcomes.flatMap Merge.contributed).foldl
        (fun counts v => Merge.count counts v.severity.word) [] :=
  (Merge.counts_foldl ruleCategories outcomes {}).2

theorem merge_failedBatches :
    (merge outcomes fileCount performance skippedRules ruleCategories
      metadata).summary.failedBatches = outcomes.countP fun o => !o.success := by
  rw [← Merge.sum_failedBatches ruleCategories, List.sum_eq_foldr, List.foldr_map]
  rfl

theorem merge_engineKeys :
    (merge outcomes fileCount performance skippedRules ruleCategories
      metadata).summary.engines.keys = (outcomes.map Outcome.engine).eraseDups :=
  Merge.keys_tallies ruleCategories outcomes

theorem merge_totalEngines :
    (merge outcomes fileCount performance skippedRules ruleCategories
      metadata).summary.totalEngines = (outcomes.map Outcome.engine).eraseDups.length := by
  rw [← Merge.keys_tallies ruleCategories, Keyed.keys, List.length_map]
  rfl

/-- An engine that is listed has the tally of its own outcomes. -/
theorem eq_tallyOf_of_merge {e : String} {t : EngineTally}
    (h : (merge outcomes fileCount performance skippedRules ruleCategories
      metadata).summary.engines.get? e = some t) :
    t = Merge.tallyOf (outcomes.filter fun o => o.engine == e) := by
  have hget := Merge.get?_tallies_eq ruleCategories e outcomes
  split at hget
  · exact absurd (hget.symm.trans h) (by simp)
  · exact Option.some.inj (h.symm.trans hget)

/-- A merge accounts for all its outcomes, whichever engines they are of, in whatever order they
come, and whatever the failed ones carry. -/
theorem merge_accounts :
    (merge outcomes fileCount performance skippedRules ruleCategories metadata).Accounts
      ruleCategories outcomes where
  violations := by rw [merge_violations, Merge.flatMap_contributed]; rfl
  totalViolations := rfl
  sumViolations := by
    rw [merge_violations]
    exact Merge.sum_violations ruleCategories outcomes
  sumCategories := by
    rw [merge_categories, merge_violations, Merge.sum_foldl_count]
    exact Nat.zero_add _
  sumSeverities := by
    rw [merge_severities, merge_violations]
    exact (Merge.sum_foldl_count (fun v : Violation => v.severity.word) _ []).trans (Nat.zero_add _)
  totalBatches := rfl
  sumBatches := Merge.sum_batches ruleCategories outcomes
  failedBatches := by rw [merge_failedBatches]
  sumFailedBatches := by
    rw [merge_failedBatches]
    exact Merge.sum_failedBatches ruleCategories outcomes
  engines := by rw [merge_engineKeys]
  totalEngines := by rw [merge_totalEngines]
  files := by
    intro e t ht
    rw [eq_tallyOf_of_merge _ _ _ _ _ _ ht]
    have hgreatest := Merge.isGreatest_foldl_max
      ((outcomes.filter fun o => o.engine == e).map Outcome.fileCount)
    simpa [and_assoc, Merge.tallyOf] using hgreatest
  rules := by
    intro e t ht
    rw [eq_tallyOf_of_merge _ _ _ _ _ _ ht]
    rfl
  category := by
    intro key
    rw [merge_categories, merge_violations, Merge.get?_foldl_count_nil]
    simp only [Violation.filedUnder_iff]
  severity := by
    intro key
    rw [merge_severities, merge_violations]
    exact Merge.get?_foldl_count_nil (fun v : Violation => v.severity.word) _ key
  hasFailures := by
    rw [merge_failedBatches, List.countP_pos_iff, RunResult.hasFailures, List.any_eq_true]
    rfl
  hasViolations := by
    rw [RunResult.hasViolations, Bool.not_eq_true', List.isEmpty_eq_false_iff,
      ← List.length_pos_iff]
    rfl

end Merged

end RuleAudit
