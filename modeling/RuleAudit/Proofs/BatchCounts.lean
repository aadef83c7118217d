import RuleAudit.Proofs.Conservation
import RuleAudit.Proofs.Decision
import RuleAudit.Proofs.Quotients

/-!
# The number of batches of a run

A run reports how many batches its rules make, before it is known which rules go to which engine.
Each engine's group is cut by itself, so the batches that are run can be more, by less than one for
each further group (`sum_ceilDiv_le`), and when one engine is asked for they can be fewer, because
the rules that it does not support are left out (`Auditor.run_counts_batches`).
-/

namespace RuleAudit

/-! ## Groups -/

/-- The batches of all groups: of each as many as its rules make. -/
theorem length_batchesOf {setup : RunSetup} {groups : Keyed (List Rule)} {batches : List Batch}
    (h : batchesOf setup groups = .ok batches) :
    batches.length = (groups.map fun g =>
      g.2.length ⌈/⌉ (resolveBatchSize setup.limits setup.files.length).toNat).sum := by
  induction groups generalizing batches with
  | nil =>
    cases h
    rfl
  | cons group rest ih =>
    obtain ⟨first, hfirst, hrest⟩ := exists_of_bind_eq_ok h
    obtain ⟨later, hlater, heq⟩ := exists_of_bind_eq_ok hrest
    obtain rfl : first ++ later = batches := Except.ok.inj heq
    rw [List.length_append, ih hlater, (createBatches_cutsEvenly hfirst).count, List.map_cons,
      List.sum_cons]

namespace Routing

variable {registry : Registry} {settings : Settings} {rules : List Rule} {plan : Plan}

/-- Left to routing, every rule goes to an engine. -/
theorem skipped_eq_nil (hauto : settings.engines.specificEngine = none)
    (h : (route registry settings rules).2 = .ok plan) : plan.skipped = [] := by
  have hskipped : plan.skipped = [] ++ _ := (takes_route h).skipped
  rw [hskipped, List.nil_append, List.filter_eq_nil_iff]
  intro rule hrule
  have hdecided : decide registry settings rule ∈ plan.decisions.map Except.ok := by
    rw [decisions_routeFrom h]
    exact List.mem_append_right _ (List.mem_map_of_mem hrule)
  obtain ⟨d, -, hd⟩ := List.mem_map.mp hdecided
  obtain ⟨engine, hengine, -⟩ := (chooses_of_decide hd.symm).auto hauto
  simp [engineOf, ← hd, hengine]

/-- The one engine asked for is the only one that rules go to. -/
theorem eq_of_engineOf {asked : String} (hasked : settings.engines.specificEngine = some asked)
    {rule : Rule} {engine : String} (h : engineOf registry settings rule = some engine) :
    engine = asked := by
  unfold engineOf at h
  split at h
  · rename_i d hd
    obtain ⟨-, hyes, hno⟩ := (chooses_of_decide hd).requested asked hasked
    by_cases hsupports : registry.Supports rule asked
    · exact Option.some.inj (h.symm.trans (hyes hsupports))
    · rw [hno hsupports] at h
      cases h
  · cases h

theorem length_groups_le_one {asked : String}
    (hasked : settings.engines.specificEngine = some asked)
    (h : (route registry settings rules).2 = .ok plan) : plan.groups.length ≤ 1 := by
  have hnodup : plan.groups.keys.Nodup := (takes_route h).nodup List.nodup_nil
  have hsubset : plan.groups.keys ⊆ [asked] := by
    intro engine hengine
    rw [keys_routeFrom h] at hengine
    simp only [Keyed.keys, List.map_nil, List.nil_append, List.mem_eraseDups, List.removeAll,
      List.mem_filter, List.mem_filterMap] at hengine
    obtain ⟨⟨rule, -, hrule⟩, -⟩ := hengine
    exact List.mem_singleton.mpr (eq_of_engineOf hasked hrule)
  have hshort := (hnodup.subperm hsubset).length_le
  rwa [Keyed.keys, List.length_map] at hshort

/-- The rules in groups are those that are not skipped. -/
theorem length_skipped_add_sum (h : (route registry settings rules).2 = .ok plan) :
    plan.skipped.length + (plan.groups.map fun g => g.2.length).sum = rules.length := by
  have hperm : (plan.skipped ++ plan.groups.flatMap Prod.snd).Perm rules := (takes_route h).perm
  rw [← hperm.length_eq, List.length_append, List.length_flatMap]

section Cutting

variable {size : Nat} (hsize : 0 < size)

include hsize

/-- Left to routing, the groups make as many batches as all rules do, or a few more. -/
theorem sum_ceilDiv_bounds (hauto : settings.engines.specificEngine = none)
    (h : (route registry settings rules).2 = .ok plan) :
    rules.length ⌈/⌉ size ≤ (plan.groups.map fun g => g.2.length ⌈/⌉ size).sum ∧
      (plan.groups.map fun g => g.2.length ⌈/⌉ size).sum ≤
        rules.length ⌈/⌉ size + (plan.groups.length - 1) := by
  have hsum := length_skipped_add_sum h
  rw [skipped_eq_nil hauto h, List.length_nil, Nat.zero_add] at hsum
  have hleast := ceilDiv_sum_le hsize (plan.groups.map fun g => g.2.length)
  have hmost := sum_ceilDiv_le hsize (plan.groups.map fun g => g.2.length)
  rw [hsum, List.map_map] at hleast hmost
  rw [List.length_map] at hmost
  exact ⟨hleast, hmost⟩

/-- The one group of an engine that is asked for makes no more batches than all rules do. -/
theorem sum_ceilDiv_le_of_asked {asked : String}
    (hasked : settings.engines.specificEngine = some asked)
    (h : (route registry settings rules).2 = .ok plan) :
    (plan.groups.map fun g => g.2.length ⌈/⌉ size).sum ≤ rules.length ⌈/⌉ size := by
  have hsum := length_skipped_add_sum h
  have hone := length_groups_le_one hasked h
  have hmost := sum_ceilDiv_le hsize (plan.groups.map fun g => g.2.length)
  rw [List.map_map, List.length_map, Nat.sub_eq_zero_of_le hone, Nat.add_zero] at hmost
  exact hmost.trans (ceilDiv_mono hsize (by omega))

end Cutting

end Routing

/-! ## Outcomes -/

/-- The first attempts of an execution are the batches of all groups. -/
theorem length_firstAttempts {setup : RunSetup} {registry : Registry}
    {groups : Keyed (List Rule)} {course : SequenceCourse}
    (h : execute setup registry groups = .ok course) :
    (firstAttempts course.outcomes).length = (groups.map fun g =>
      g.2.length ⌈/⌉ (resolveBatchSize setup.limits setup.files.length).toNat).sum := by
  obtain ⟨batches, hbatches, hunfolds⟩ := exists_of_execute_eq_ok h
  have hlength := congrArg List.length (firstAttempts_map hunfolds)
  rw [List.length_map, List.length_map] at hlength
  rw [hlength, length_batchesOf hbatches]

theorem length_firstAttempts_eq_iff {outcomes : List Outcome} :
    outcomes.length = (firstAttempts outcomes).length ↔ ∀ o ∈ outcomes, o.attempt = 0 := by
  rw [eq_comm, firstAttempts, List.length_filter_eq_length_iff]
  simp only [beq_iff_eq]

/-! ## Runs -/

/-- What the counters of a result say of the batches that were run: `groups` are the rules of each
engine, `rules` the number of rules to run, of which `size` go into a batch. -/
structure RunResult.CountsBatches (settings : Settings) (rules size : Nat)
    (groups : Keyed (List Rule)) (r : RunResult) : Prop where
  /-- Each group is cut by itself. -/
  groupwise : (firstAttempts r.outcomes).length =
    (groups.map fun g => g.2.length ⌈/⌉ size).sum
  /-- Left to routing, at least as many are run as all rules make, and less than one more for each
  group. -/
  auto : settings.engines.specificEngine = none →
    rules ⌈/⌉ size ≤ (firstAttempts r.outcomes).length ∧
      (firstAttempts r.outcomes).length ≤ rules ⌈/⌉ size + max groups.length 1 - 1 ∧
      (groups.length ≤ 1 → rules ⌈/⌉ size = (firstAttempts r.outcomes).length)
  /-- With one engine asked for, at most as many are run. -/
  requested : settings.engines.specificEngine ≠ none →
    (firstAttempts r.outcomes).length ≤ rules ⌈/⌉ size
  /-- All batches are counted, those that were tried again too. -/
  total : (firstAttempts r.outcomes).length ≤ r.summary.totalBatches ∧
    (r.summary.totalBatches = (firstAttempts r.outcomes).length ↔
      ∀ o ∈ r.outcomes, o.attempt = 0)
  files : r.performance.optimizedFiles + r.performance.filteredFiles = r.performance.givenFiles
  /-- The batches reported are those that all rules make. -/
  reported : rules < 2 ^ 53 → size < 2 ^ 1075 → r.performance.ruleBatches = (rules ⌈/⌉ size : Nat)

namespace Auditor

theorem exists_of_prepareWorkload {tree : FileTree} {limits : Limits} {files : List FilePath}
    {rules : Nat} {work : List FilePath × Metrics}
    (h : prepareWorkload tree limits files rules = .ok work) :
    batchCount limits rules work.1.length = .ok work.2.ruleBatches ∧
      work.2.givenFiles = files.length ∧ work.2.optimizedFiles = work.1.length ∧
      work.2.filteredFiles = files.length - work.1.length := by
  obtain ⟨kept, -, h⟩ := exists_of_bind_eq_ok h
  obtain ⟨metrics, hmetrics, heq⟩ := exists_of_bind_eq_ok h
  obtain ⟨batches, hbatches, rfl⟩ := exists_of_map_eq_ok hmetrics
  cases heq
  exact ⟨hbatches, rfl, rfl, rfl⟩

/-- The batches that a run reports and those that it makes, both from the rules that are resolved
and the files that are kept: the first come from all rules, the others from each group. -/
theorem run_counts_batches (tree : FileTree) {a : Auditor} (files : List FilePath)
    (inputs : List RuleInput) (engine : Option String) {result : RunResult}
    (hlimits : a.settings.performance.Valid)
    (hrun : (a.run tree files inputs engine).result = .ok result) :
    let ready := (a.setUp tree).auditor
    let settings := a.settings.requesting engine
    let rules := (resolveRules settings ready.catalog inputs).rules
    let size := (resolveBatchSize settings.performance result.performance.optimizedFiles).toNat
    ∃ plan, (Routing.route ready.registry settings rules).2 = .ok plan ∧ 0 < size ∧
      result.performance.givenFiles = files.length ∧
      result.CountsBatches settings rules.length size plan.groups := by
  intro ready settings rules size
  obtain ⟨work, plan, course, hwork, hplan, hcourse, hresult⟩ := exists_stages_of_run hrun
  have houtcomes : result.outcomes = course.outcomes := by
    rw [hresult]
    rfl
  have hperformance : result.performance = work.2 := by
    rw [hresult]
    rfl
  have htotal : result.summary.totalBatches = result.outcomes.length := by
    rw [hresult]
    rfl
  obtain ⟨hcount, hgiven, hkept, hleft⟩ := exists_of_prepareWorkload hwork
  rw [← hperformance] at hcount hgiven hkept hleft
  have hvalid : settings.performance.Valid := by
    rw [Settings.requesting_performance]
    exact hlimits
  have hpos := hvalid.resolveBatchSize_pos result.performance.optimizedFiles
  have hsize : 0 < size := Int.lt_toNat.mpr hpos
  have hfirst : (firstAttempts result.outcomes).length =
      (plan.groups.map fun g => g.2.length ⌈/⌉ size).sum := by
    rw [houtcomes, length_firstAttempts hcourse, ← hkept]
  refine ⟨plan, hplan, hsize, hgiven, hfirst, fun hauto => ?_, fun hasked => ?_, ⟨?_, ?_⟩, ?_,
    fun hfew hsmall => ?_⟩
  · obtain ⟨hleast, hmost⟩ : rules.length ⌈/⌉ size ≤ (firstAttempts result.outcomes).length ∧
        (firstAttempts result.outcomes).length ≤
          rules.length ⌈/⌉ size + (plan.groups.length - 1) := by
      rw [hfirst]
      exact Routing.sum_ceilDiv_bounds hsize hauto hplan
    refine ⟨hleast, by omega, fun hone => ?_⟩
    rw [Nat.sub_eq_zero_of_le hone] at hmost
    exact Nat.le_antisymm hleast hmost
  · obtain ⟨asked, hasked⟩ := Option.ne_none_iff_exists'.mp hasked
    rw [hfirst]
    exact Routing.sum_ceilDiv_le_of_asked hsize hasked hplan
  · rw [htotal]
    exact List.length_filter_le _ _
  · rw [htotal]
    exact length_firstAttempts_eq_iff
  · rw [hgiven, hkept, hleft]
    omega
  · have hexact := batchCount_eq_ceilDiv (Int.toNat_of_nonneg hpos.le).symm hsize hfew
      (Binary64.log2_lt_of_lt_two_pow hsize hsmall)
    rw [← hkept] at hcount
    exact Except.ok.inj (hcount.symm.trans hexact)

/-- Three rules in one batch would do, but each of the two engines gets one of its own, and the
narrow one fails and is tried again in two slices. -/
theorem run_counts_batches_two_engines :
    let a : Auditor :=
      { twoEngines with
        settings := { twoEngines.settings with performance := { retryFailedBatches := true } } }
    let inputs : List RuleInput := [.id "c", .id "a", .rule { id := "B" }]
    ∃ result, (a.run {} [] inputs none).result = .ok result ∧
      a.settings.performance.Valid ∧ result.performance.ruleBatches = 1 ∧
      (firstAttempts result.outcomes).length = 2 ∧ result.summary.totalBatches = 4 ∧
      ∃ groups, result.CountsBatches a.settings 3 10 groups := by
  intro a inputs
  have hlimits : a.settings.performance.Valid := fun size hsize => by cases hsize
  have hshown : (a.run {} [] inputs none).result.toOption.map
      (fun result => (result.performance.ruleBatches, (firstAttempts result.outcomes).length,
        result.summary.totalBatches, result.performance.optimizedFiles)) =
          some (1, 2, 4, 0) := by decide +kernel
  cases hrun : (a.run {} [] inputs none).result with
  | error f =>
    rw [hrun] at hshown
    cases hshown
  | ok result =>
    rw [hrun] at hshown
    simp only [Except.toOption, Option.map_some, Option.some.injEq, Prod.mk.injEq] at hshown
    obtain ⟨hreported, hfirst, htotal, hkept⟩ := hshown
    obtain ⟨plan, -, -, -, hcounts⟩ := run_counts_batches {} [] inputs none hlimits hrun
    have hrules : (resolveRules (a.settings.requesting none) (a.setUp {}).auditor.catalog
      inputs).rules.length = 3 := by decide +kernel
    rw [hkept, hrules] at hcounts
    exact ⟨result, rfl, hlimits, hreported, hfirst, htotal, plan.groups, hcounts⟩

end Auditor

end RuleAudit
