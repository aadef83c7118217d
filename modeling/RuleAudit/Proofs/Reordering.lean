import Mathlib.Data.List.Perm.Basic
import RuleAudit.Proofs.Accounting

/-!
# Merging in another order

The outcomes of a run may be merged in any order: totals and counts stay what they are, and lists
keep their items (`merge_sameTotals_of_perm`). Only the order of what is listed follows that of the
outcomes. The rules of an engine follow that of its own outcomes alone, so they stay in place when
only the engines change places.
-/

namespace RuleAudit

/-- Tallies that differ at most in the order of the rules. -/
structure EngineTally.SameFigures (t t' : EngineTally) : Prop where
  rules : t'.rules.Perm t.rules
  violations : t'.violations = t.violations
  files : t'.files = t.files
  batches : t'.batches = t.batches
  failedBatches : t'.failedBatches = t.failedBatches

/-- Results with the same totals, counts and engines, that list the same in perhaps another
order. -/
structure RunResult.SameTotals (r r' : RunResult) : Prop where
  totalEngines : r'.summary.totalEngines = r.summary.totalEngines
  totalBatches : r'.summary.totalBatches = r.summary.totalBatches
  failedBatches : r'.summary.failedBatches = r.summary.failedBatches
  totalViolations : r'.summary.totalViolations = r.summary.totalViolations
  categories : ∀ key, r'.summary.categories.get? key = r.summary.categories.get? key
  severities : ∀ key, r'.summary.severities.get? key = r.summary.severities.get? key
  engines : r'.summary.engines.keys.Perm r.summary.engines.keys
  tallies : ∀ e t t', r.summary.engines.get? e = some t → r'.summary.engines.get? e = some t' →
    t.SameFigures t'
  results : r'.results.Perm r.results
  violations : r'.violations.Perm r.violations

namespace Merge

theorem eraseDups_perm {items items' : List String} (h : items.Perm items') :
    items.eraseDups.Perm items'.eraseDups := by
  rw [List.perm_ext_iff_of_nodup (nodup_eraseDups items) (nodup_eraseDups items')]
  intro item
  rw [List.mem_eraseDups, List.mem_eraseDups, h.mem_iff]

/-- A tally does not depend on the order of the outcomes but for that of its rules. -/
theorem sameFigures_tallyOf {outcomes outcomes' : List Outcome} (h : outcomes'.Perm outcomes) :
    (tallyOf outcomes).SameFigures (tallyOf outcomes') where
  rules := eraseDups_perm (h.flatMap_right _)
  violations := (h.flatMap_right _).length_eq
  files := (h.map _).foldl_eq' (fun _ _ _ _ _ => by omega) 0
  batches := h.length_eq
  failedBatches := h.countP_eq _

end Merge

/-- Merging outcomes in another order changes no total and no count. If the outcomes of each engine
stay in order, the engines even list their rules in the same order. -/
theorem merge_sameTotals_of_perm {outcomes outcomes' : List Outcome} (h : outcomes.Perm outcomes')
    (fileCount : Int) (performance : Metrics) (skippedRules : List String)
    (ruleCategories : Keyed String) (metadata : Keyed Value) :
    let r := merge outcomes fileCount performance skippedRules ruleCategories metadata
    let r' := merge outcomes' fileCount performance skippedRules ruleCategories metadata
    r.SameTotals r' ∧
      ((∀ e, outcomes'.filter (fun o => o.engine == e) = outcomes.filter fun o => o.engine == e) →
        ∀ e, (r'.summary.engines.get? e).map EngineTally.rules =
          (r.summary.engines.get? e).map EngineTally.rules) := by
  have hback := h.symm
  have hcontributed := hback.flatMap_right Merge.contributed
  have hengines := Merge.eraseDups_perm (hback.map Outcome.engine)
  have hviolations : (merge outcomes' fileCount performance skippedRules ruleCategories
      metadata).violations.Perm
        (merge outcomes fileCount performance skippedRules ruleCategories metadata).violations := by
    rw [merge_violations, merge_violations]
    exact hcontributed
  refine ⟨
    { totalEngines := by rw [merge_totalEngines, merge_totalEngines, hengines.length_eq]
      totalBatches := hback.length_eq
      failedBatches := by rw [merge_failedBatches, merge_failedBatches, hback.countP_eq]
      totalViolations := hviolations.length_eq
      categories := fun key => by
        rw [merge_categories, merge_categories]
        exact Merge.get?_foldl_count_of_perm _ hcontributed [] key
      severities := fun key => by
        rw [merge_severities, merge_severities]
        exact Merge.get?_foldl_count_of_perm (fun v : Violation => v.severity.word) hcontributed []
          key
      engines := by
        rw [merge_engineKeys, merge_engineKeys]
        exact hengines
      tallies := fun e t t' ht ht' => by
        rw [eq_tallyOf_of_merge _ _ _ _ _ _ ht, eq_tallyOf_of_merge _ _ _ _ _ _ ht']
        exact Merge.sameFigures_tallyOf (hback.filter _)
      results := by
        rw [merge_results, merge_results]
        exact (hback.filter _).flatMap_right _
      violations := hviolations }, ?_⟩
  intro hown e
  show ((Merge.fold ruleCategories outcomes').tallies.get? e).map EngineTally.rules =
    ((Merge.fold ruleCategories outcomes).tallies.get? e).map EngineTally.rules
  rw [Merge.get?_tallies_eq, Merge.get?_tallies_eq, hown]

/-- The outcome of a batch of rules, each of which has been violated once, found or not. -/
def sampleOutcome (engine : String) (number : Int) (rules : List String) (fileCount : Int)
    (success : Bool) : Outcome :=
  { engine := engine
    batchNumber := number
    totalBatches := 2
    rules := rules
    fileCount := fileCount
    success := success
    violations := rules.map fun id => { ruleId := id, message := "found" } }

/-- The outcome of a second engine moves to the front: the engines change places, all else stays. -/
theorem merge_second_engine_first :
    let first := sampleOutcome "x" 1 ["B", "A"] 3 true
    let second := sampleOutcome "x" 2 ["C", "B"] 3 false
    let other := sampleOutcome "y" 1 ["D"] 5 true
    let r := merge [first, second, other] 5 {} [] [("A", "naming")]
    let r' := merge [other, first, second] 5 {} [] [("A", "naming")]
    [first, second, other].Perm [other, first, second] ∧
      r.summary.engines.keys = ["x", "y"] ∧ r'.summary.engines.keys = ["y", "x"] ∧
      r.SameTotals r' ∧
      ∀ e, (r'.summary.engines.get? e).map EngineTally.rules =
        (r.summary.engines.get? e).map EngineTally.rules := by
  intro first second other r r'
  have hperm : ([first, second] ++ [other]).Perm ([other] ++ [first, second]) :=
    List.perm_append_comm
  obtain ⟨hsame, hrules⟩ := merge_sameTotals_of_perm hperm 5 {} [] [("A", "naming")] []
  refine ⟨hperm, by decide +kernel, by decide +kernel, hsame, hrules fun e => ?_⟩
  by_cases hx : "x" = e
  · subst hx
    rfl
  · by_cases hy : "y" = e <;> simp [first, second, other, sampleOutcome, hx, hy]

end RuleAudit
