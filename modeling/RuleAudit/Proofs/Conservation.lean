import Mathlib.Data.List.Perm.Subperm
import RuleAudit.Proofs.AlikeAuditors
import RuleAudit.Proofs.Merge
import RuleAudit.Proofs.Routing
import RuleAudit.Proofs.Run.Agreement
import RuleAudit.Proofs.SetUp

/-!
# No rule is lost

A rule goes through resolution, routing, batching, the run with its retries, and the merge. At the
end each identifier that was asked for is either skipped or in one first attempt, and in no two of
them (`Auditor.run_conserves_rules`).
-/

namespace RuleAudit

/-! ## Batches -/

/-- The batches of an engine are for that engine and have its rules in order. -/
theorem createBatches_rules {engine : String} {rules : List Rule} {size : Int}
    {batches : List Batch} (h : createBatches engine rules size = .ok batches) :
    (∀ b ∈ batches, b.engine = engine ∧ b.rules ≠ []) ∧ batches.flatMap Batch.rules = rules := by
  have heven := createBatches_cutsEvenly h
  exact ⟨fun b hb => ⟨(heven.placed b hb).1, (heven.bounded b hb).1⟩, heven.joined⟩

theorem createBatches_eq_ok {engine : String} {rules : List Rule} {size : Int}
    {batches : List Batch} (h : createBatches engine rules size = .ok batches) :
    (∀ b ∈ batches, b.engine = engine ∧ b.rules ≠ []) ∧
      batches.flatMap Batch.ruleIds = rules.map Rule.id := by
  obtain ⟨hmade, hrules⟩ := createBatches_rules h
  refine ⟨hmade, ?_⟩
  rw [← hrules, List.map_flatMap]
  rfl

/-- The batches of groups are for the groups' engines and have their rules in order. -/
theorem batchesOf_rules {setup : RunSetup} {groups : Keyed (List Rule)} {batches : List Batch}
    (h : batchesOf setup groups = .ok batches) :
    batches.flatMap Batch.rules = groups.flatMap Prod.snd ∧
      ∀ b ∈ batches, b.engine ∈ groups.keys := by
  induction groups generalizing batches with
  | nil =>
    cases h
    exact ⟨rfl, fun b hb => absurd hb List.not_mem_nil⟩
  | cons group rest ih =>
    obtain ⟨first, hfirst, hrest⟩ := exists_of_bind_eq_ok h
    obtain ⟨later, hlater, heq⟩ := exists_of_bind_eq_ok hrest
    obtain rfl : first ++ later = batches := Except.ok.inj heq
    obtain ⟨hmade, hrules⟩ := createBatches_rules hfirst
    obtain ⟨hall, hengines⟩ := ih hlater
    refine ⟨by rw [List.flatMap_append, hrules, hall, List.flatMap_cons], fun b hb => ?_⟩
    rcases List.mem_append.mp hb with hb | hb
    · exact List.mem_cons.mpr (.inl (hmade b hb).1)
    · exact List.mem_cons_of_mem _ (hengines b hb)

/-- The batches of groups have the groups' rules, engine by engine and in order. -/
theorem batchesOf_eq_ok {setup : RunSetup} {groups : Keyed (List Rule)} {batches : List Batch}
    (h : batchesOf setup groups = .ok batches) :
    (∀ b ∈ batches, b.rules ≠ []) ∧
      batches.flatMap Batch.ruleIds = groups.flatMap (fun g => g.2.map Rule.id) ∧
      ∀ engine, (batches.filter fun b => b.engine == engine).flatMap Batch.ruleIds =
        (groups.filter fun g => g.1 == engine).flatMap fun g => g.2.map Rule.id := by
  induction groups generalizing batches with
  | nil =>
    cases h
    exact ⟨fun b hb => absurd hb List.not_mem_nil, rfl, fun _ => rfl⟩
  | cons group rest ih =>
    obtain ⟨name, rules⟩ := group
    unfold batchesOf at h
    cases hfirst : createBatches name rules
      (resolveBatchSize setup.limits setup.files.length) with
    | error f =>
      rw [hfirst] at h
      cases h
    | ok first =>
      cases hlater : batchesOf setup rest with
      | error f =>
        rw [hfirst, hlater] at h
        cases h
      | ok later =>
        rw [hfirst, hlater] at h
        obtain rfl : first ++ later = batches := Except.ok.inj h
        obtain ⟨hmade, hrules⟩ := createBatches_eq_ok hfirst
        obtain ⟨hnonempty, hall, heach⟩ := ih hlater
        refine ⟨fun b hb => ?_, ?_, fun engine => ?_⟩
        · rcases List.mem_append.mp hb with hb | hb
          · exact (hmade b hb).2
          · exact hnonempty b hb
        · rw [List.flatMap_append, hrules, hall, List.flatMap_cons]
        · rw [List.filter_append, List.flatMap_append, heach]
          by_cases hname : name = engine
          · rw [List.filter_eq_self.mpr fun b hb => by simp [(hmade b hb).1, hname], hrules,
              List.filter_cons_of_pos (by simpa using hname), List.flatMap_cons]
          · rw [List.filter_eq_nil_iff.mpr fun b hb => by simp [(hmade b hb).1, hname],
              List.filter_cons_of_neg (by simpa using hname), List.flatMap_nil, List.nil_append]

/-- A batch of routed rules has some of these, each at most as often as there. -/
theorem subperm_of_mem_batchesOf {setup : RunSetup} {registry : Registry} {settings : Settings}
    {rules : List Rule} {plan : Plan} (hplan : (Routing.route registry settings rules).2 = .ok plan)
    {batches : List Batch} (hbatches : batchesOf setup plan.groups = .ok batches) {b : Batch}
    (hb : b ∈ batches) : b.rules.Subperm rules := by
  have hperm : (plan.skipped ++ plan.groups.flatMap Prod.snd).Perm rules :=
    (Routing.takes_route hplan).perm
  have hgroups : (batches.flatMap Batch.rules).Subperm rules := by
    rw [(batchesOf_rules hbatches).1]
    exact (List.sublist_append_right _ _).subperm.trans hperm.subperm
  exact (List.sublist_flatten_of_mem (List.mem_map_of_mem hb)).subperm.trans hgroups

/-! ## First attempts -/

/-- The outcomes that are no retries. -/
def firstAttempts (outcomes : List Outcome) : List Outcome :=
  outcomes.filter fun o => o.attempt == 0

section FirstAttempts

variable {setup : RunSetup} {answers : Job → Except Fault Report → Prop} {batches : List Batch}
  {outcomes : List Outcome}

/-- The first attempts are those of the batches, in order. -/
theorem firstAttempts_map (h : Unfolds setup answers (jobsOf batches) outcomes) :
    (firstAttempts outcomes).map (fun o => (o.engine, o.rules)) =
      batches.map fun b => (b.engine, b.ruleIds) := by
  have hall : (jobsOf batches).filter (fun job => job.attempt == 0) = jobsOf batches := by
    rw [List.filter_eq_self]
    intro job hjob
    obtain ⟨b, -, rfl⟩ := List.mem_map.mp hjob
    rfl
  rw [firstAttempts, h.filter_attempt_zero, hall, jobsOf, List.map_map]
  rfl

theorem firstAttempts_flatMap (h : Unfolds setup answers (jobsOf batches) outcomes) :
    (firstAttempts outcomes).flatMap Outcome.rules = batches.flatMap Batch.ruleIds := by
  have hrules := congrArg (List.flatMap Prod.snd) (firstAttempts_map h)
  rwa [List.flatMap_map, List.flatMap_map] at hrules

theorem firstAttempts_filter_flatMap (h : Unfolds setup answers (jobsOf batches) outcomes)
    (engine : String) :
    ((firstAttempts outcomes).filter fun o => o.engine == engine).flatMap Outcome.rules =
      (batches.filter fun b => b.engine == engine).flatMap Batch.ruleIds := by
  have hrules := congrArg (fun pairs : List (String × List String) =>
    (pairs.filter fun pair => pair.1 == engine).flatMap Prod.snd) (firstAttempts_map h)
  simp only [List.filter_map, List.flatMap_map, Function.comp_def] at hrules
  exact hrules

/-- The tally of an engine lists the rules of its batches when none comes twice. -/
theorem get?_tallies_of_unfolds (categories : Keyed String)
    (h : Unfolds setup answers (jobsOf batches) outcomes) (engine : String)
    (hnodup : ((batches.filter fun b => b.engine == engine).flatMap Batch.ruleIds).Nodup)
    (hnonempty : ∀ b ∈ batches, b.rules ≠ []) :
    ((Merge.fold categories outcomes).tallies.get? engine).map EngineTally.rules =
      if ((batches.filter fun b => b.engine == engine).flatMap Batch.ruleIds).isEmpty then none
      else some ((batches.filter fun b => b.engine == engine).flatMap Batch.ruleIds) := by
  have hfold : (outcomes.filter fun o => o.engine == engine).foldl
      (fun acc o => Merge.addNew acc o.rules) [] =
        (batches.filter fun b => b.engine == engine).flatMap Batch.ruleIds := by
    rw [h.foldl_addNew, jobsOf, List.filter_map, List.foldl_map]
    exact Merge.foldl_addNew_of_nodup Batch.ruleIds hnodup
  have hempty : (outcomes.filter fun o => o.engine == engine).isEmpty =
      ((batches.filter fun b => b.engine == engine).flatMap Batch.ruleIds).isEmpty := by
    rw [Bool.eq_iff_iff, List.isEmpty_iff, List.isEmpty_iff]
    constructor
    · intro hnone
      rw [← firstAttempts_filter_flatMap h, firstAttempts, List.filter_comm, hnone]
      rfl
    · intro hnone
      refine h.filter_engine_eq_nil ?_
      intro job hjob hengine
      obtain ⟨b, hb, rfl⟩ := List.mem_map.mp hjob
      -- the batch has a rule, which would be listed
      have hids := List.flatMap_eq_nil_iff.mp hnone b
        (List.mem_filter.mpr ⟨hb, by simpa using hengine⟩)
      exact hnonempty b hb (List.map_eq_nil_iff.mp hids)
  rw [Merge.get?_tallies_fold, hfold, hempty]

end FirstAttempts

namespace Auditor

/-! ## Runs -/

/-- What a run that gives a result has done: the rules that can be run have been routed, the groups
have been run, and their outcomes merged. -/
theorem exists_of_run_eq_ok {tree : FileTree} {a : Auditor} {files : List FilePath}
    {inputs : List RuleInput} {engine : Option String} {result : RunResult}
    (h : (a.run tree files inputs engine).result = .ok result) :
    let ready := (a.setUp tree).auditor
    let settings := a.settings.requesting engine
    let res := resolveRules settings ready.catalog inputs
    ∃ plan, (Routing.route ready.registry settings res.rules).2 = .ok plan ∧
      ∃ setup course categories, execute setup ready.registry plan.groups = .ok course ∧
        result.outcomes = course.outcomes ∧
        result.skippedRules = res.unknown ++ res.disabled ++ plan.skippedIds ∧
        result.summary.engines = (Merge.fold categories course.outcomes).tallies := by
  intro ready settings res
  obtain ⟨work, plan, course, -, hplan, hcourse, rfl⟩ := exists_stages_of_run h
  exact ⟨plan, hplan, _, course, _, hcourse, rfl, rfl, rfl⟩

/-- Every identifier asked for is skipped or in exactly one first attempt. For each engine the first
attempts have the rules that go to it, in first-seen order, and its tally lists the same, whatever
failed and was tried again. Skipped are the unknown identifiers, the disabled ones, and those that
the one engine asked for does not support, each in first-seen order. -/
theorem run_conserves_rules (tree : FileTree) (a : Auditor) (files : List FilePath)
    (inputs : List RuleInput) (engine : Option String) {result : RunResult}
    (hcatalog : a.catalog.WellKeyed) (hnormal : ∀ item ∈ inputs, item.Normal)
    (hrun : (a.run tree files inputs engine).result = .ok result) :
    let having (f : Fate) : List String := (firstSeen inputs).filter fun key =>
      (a.setUp tree).auditor.fateOf (a.settings.requesting engine) inputs key == some f
    let first := firstAttempts result.outcomes
    (result.skippedRules ++ first.flatMap Outcome.rules).Nodup ∧
      (∀ id, id ∈ result.skippedRules ++ first.flatMap Outcome.rules ↔
        id ≠ "" ∧ ∃ item ∈ inputs, item.key = id) ∧
      (∀ e, (first.filter fun o => o.engine == e).flatMap Outcome.rules = having (.routed e)) ∧
      (∀ e, (result.summary.engines.get? e).map EngineTally.rules =
        if (having (.routed e)).isEmpty then none else some (having (.routed e))) ∧
      result.skippedRules = having .unknown ++ having .disabled ++ having .unsupported := by
  intro having first
  obtain ⟨plan, hplan, setup, course, categories, hcourse, houtcomes, hskipped, htallies⟩ :=
    exists_of_run_eq_ok hrun
  have hready : (a.setUp tree).auditor.catalog.WellKeyed :=
    setUp_catalog (fun _ _ h hload => h.load hload) hcatalog
  obtain ⟨hunknown, hdisabled, hunsupported, hrouted⟩ :=
    resolveRules_fates (a.settings.requesting engine) _ hready hnormal
  have htakes := Routing.takes_route hplan
  obtain ⟨batches, hbatches, hunfolds⟩ := exists_of_execute_eq_ok hcourse
  obtain ⟨hnonempty, hall, heach⟩ := batchesOf_eq_ok hbatches
  rw [← houtcomes] at hunfolds htallies
  have hengine : ∀ e, (batches.filter fun b => b.engine == e).flatMap Batch.ruleIds =
      having (.routed e) := by
    intro e
    rw [heach, htakes.filter_groups]
    exact hrouted e
  have hnodup : (firstSeen inputs).Nodup := by
    rw [firstSeen_eq hnormal]
    exact nodup_distinctInputs [] inputs
  -- nothing is lost on the way, and nothing comes twice
  have hperm : (result.skippedRules ++ first.flatMap Outcome.rules).Perm (firstSeen inputs) := by
    rw [show first.flatMap Outcome.rules = _ from firstAttempts_flatMap hunfolds, hall, hskipped,
      List.append_assoc, firstSeen_eq hnormal]
    exact (htakes.ids_perm.append_left _).trans (resolveRules_perm hready inputs)
  refine ⟨hperm.nodup_iff.mpr hnodup, fun id => hperm.mem_iff.trans mem_firstSeen, ?_, ?_, ?_⟩
  · intro e
    rw [firstAttempts_filter_flatMap hunfolds, hengine]
  · intro e
    rw [htallies, get?_tallies_of_unfolds categories hunfolds e _ hnonempty, hengine]
    rw [hengine]
    exact hnodup.filter _
  · rw [hskipped, hunknown, hdisabled, Plan.skippedIds, htakes.skipped]
    exact congrArg _ hunsupported

/-- An auditor with a narrow engine for `A` and `B` and a patient one for `C`; `D` is disabled. -/
def twoEngines : Auditor :=
  { settings :=
      { engines :=
          { settings :=
              [("narrow", [("rules", .texts ["A", "B"])]), ("patient", [("rules", .texts ["C"])])] }
        rules := [("D", { enabled := false })]
        performance := { retryFailedBatches := true, ruleBatchSize := some 2 } }
    catalog := .ofRules [{ id := "A" }, { id := "C" }, { id := "D" }]
    registry := { entries := [("narrow", narrowEngine), ("patient", patientEngine)] } }

/-- The narrow engine alone is asked for: its one batch fails and is tried again in slices, and each
way of being skipped is taken once. -/
theorem run_conserves_rules_narrow :
    let inputs : List RuleInput :=
      [.id "c", .id " a ", .id "z", .rule { id := "B" }, .id "A", .id "", .id "D"]
    ∃ result, (twoEngines.run {} [] inputs (some "narrow")).result = .ok result ∧
      twoEngines.catalog.WellKeyed ∧ (∀ item ∈ inputs, item.Normal) ∧
      result.outcomes.map Outcome.rules = [["A", "B"], ["A"], ["B"]] ∧
      (result.skippedRules ++ (firstAttempts result.outcomes).flatMap Outcome.rules).Nodup ∧
      result.skippedRules = ["Z", "D", "C"] := by
  intro inputs
  have hcatalog : twoEngines.catalog.WellKeyed := Catalog.wellKeyed_ofRules _
  have hnormal : ∀ item ∈ inputs, item.Normal := by decide +kernel
  have hshown : (twoEngines.run {} [] inputs (some "narrow")).result.toOption.map
      (fun result => (result.outcomes.map Outcome.rules, result.skippedRules)) =
        some ([["A", "B"], ["A"], ["B"]], ["Z", "D", "C"]) := by decide +kernel
  cases hrun : (twoEngines.run {} [] inputs (some "narrow")).result with
  | error f =>
    rw [hrun] at hshown
    cases hshown
  | ok result =>
    rw [hrun] at hshown
    obtain ⟨houtcomes, hskipped⟩ := Prod.mk.inj (Option.some.inj hshown)
    obtain ⟨hnodup, -⟩ := run_conserves_rules {} twoEngines [] inputs _ hcatalog hnormal hrun
    exact ⟨result, rfl, hcatalog, hnormal, houtcomes, hnodup, hskipped⟩

end Auditor

end RuleAudit
