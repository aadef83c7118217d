import RuleAudit.Proofs.BatchCounts
import RuleAudit.Proofs.Deadline

/-!
# How long a batch may take

The deadline of a batch grows with the files and with the rules of the batch, up to a ceiling. It is
worked out anew for every slice of a failed batch, from the rules of that slice, and from nothing
that other batches do (`execute_allows_for_workload`). The numbers in the limits may have any sign;
a slice has at most half the rules of what it was cut from, so no slice has a longer deadline when
rules do not cost negative time.
-/

namespace RuleAudit

/-! ## Counts -/

section Counts

variable (limits : Limits)

theorem adaptiveTimeout_natCast (files rules : Nat) :
    adaptiveTimeout limits files rules =
      min (limits.baseTimeoutMs + files * limits.timeoutPerFileMs +
        rules * limits.timeoutPerRuleMs) limits.maxTimeoutMs := by
  rw [adaptiveTimeout, max_eq_right (Int.natCast_nonneg files),
    max_eq_right (Int.natCast_nonneg rules)]

theorem adaptiveTimeout_le_maxTimeoutMs (files rules : Int) :
    adaptiveTimeout limits files rules ≤ limits.maxTimeoutMs :=
  min_le_right _ _

variable {limits}

/-- More rules have no less time, whatever a file costs. -/
theorem adaptiveTimeout_mono_rules (hrule : 0 ≤ limits.timeoutPerRuleMs) (files : Int)
    {rules more : Int} (h : rules ≤ more) :
    adaptiveTimeout limits files rules ≤ adaptiveTimeout limits files more := by
  have hcost := Int.mul_le_mul_of_nonneg_right (max_le_max_left 0 h) hrule
  exact min_le_min_right _ (by omega)

theorem adaptiveTimeout_mono_files (hfile : 0 ≤ limits.timeoutPerFileMs) (rules : Int)
    {files more : Int} (h : files ≤ more) :
    adaptiveTimeout limits files rules ≤ adaptiveTimeout limits more rules := by
  have hcost := Int.mul_le_mul_of_nonneg_right (max_le_max_left 0 h) hfile
  exact min_le_min_right _ (by omega)

end Counts

/-! ## Slices -/

namespace RetryForest

/-- Each outcome with each of those below it, at any depth. -/
def descents : RetryForest → List (Outcome × Outcome)
  | nil => []
  | cons root below beside =>
    below.preorder.map (Prod.mk root) ++ (below.descents ++ beside.descents)

theorem mem_preorder_of_mem_descents {f : RetryForest} :
    ∀ pair ∈ f.descents, pair.1 ∈ f.preorder ∧ pair.2 ∈ f.preorder := by
  induction f with
  | nil => intro pair hpair; cases hpair
  | cons root below beside hbelow hbeside =>
    intro pair hpair
    simp only [descents, preorder, List.mem_append, List.mem_map, List.mem_cons] at hpair ⊢
    rcases hpair with ⟨o, ho, rfl⟩ | hpair | hpair
    · exact ⟨.inl rfl, .inr (.inl ho)⟩
    · have hboth := hbelow pair hpair
      exact ⟨.inr (.inl hboth.1), .inr (.inl hboth.2)⟩
    · have hboth := hbeside pair hpair
      exact ⟨.inr (.inr hboth.1), .inr (.inr hboth.2)⟩

/-- What does not stand at the top stands below something. -/
theorem exists_mem_descents {f : RetryForest} :
    ∀ o ∈ f.preorder, o ∈ f.roots ∨ ∃ above, (above, o) ∈ f.descents := by
  induction f with
  | nil => intro o ho; cases ho
  | cons root below beside _ hbeside =>
    intro o ho
    rw [preorder, List.mem_cons, List.mem_append] at ho
    rcases ho with rfl | ho | ho
    · exact .inl (by simp [roots])
    · exact .inr ⟨root, List.mem_append_left _ (List.mem_map_of_mem ho)⟩
    · rcases hbeside o ho with hroot | ⟨above, habove⟩
      · exact .inl (List.mem_cons_of_mem _ hroot)
      · refine .inr ⟨above, ?_⟩
        exact List.mem_append_right _ (List.mem_append_right _ habove)

/-- The slices that stand below an outcome have at most half its rules each. -/
theorem length_rules_le_half {limits : Limits} {root : Outcome} {below beside : RetryForest}
    (h : (cons root below beside).Splits limits) :
    ∀ slice ∈ below.roots, slice.rules.length ≤ root.rules.length / 2 := by
  intro slice hslice
  have hne : below.roots ≠ [] := List.ne_nil_of_mem hslice
  exact ((h.2.1 hne).two_le (h.1.mp hne).2.2.2.2).2 slice hslice

/-- No outcome has more rules than the roots have at most. -/
theorem length_rules_le {limits : Limits} {f : RetryForest} (h : f.Splits limits) {most : Nat}
    (hroots : ∀ root ∈ f.roots, root.rules.length ≤ most) :
    ∀ o ∈ f.preorder, o.rules.length ≤ most := by
  induction f with
  | nil => intro o ho; cases ho
  | cons root below beside hbelow hbeside =>
    have hroot : root.rules.length ≤ most := hroots root (by simp [roots])
    have hhalf := length_rules_le_half h
    obtain ⟨-, -, hsplitsBelow, hsplitsBeside⟩ := h
    intro o ho
    rw [preorder, List.mem_cons, List.mem_append] at ho
    rcases ho with rfl | ho | ho
    · exact hroot
    · refine hbelow hsplitsBelow (fun slice hslice => ?_) o ho
      have hslice := hhalf slice hslice
      omega
    · exact hbeside hsplitsBeside (fun other hother => hroots other (by simp [roots, hother])) o ho

/-- What stands below an outcome has at most half its rules. -/
theorem length_rules_le_of_mem_descents {limits : Limits} {f : RetryForest}
    (h : f.Splits limits) :
    ∀ pair ∈ f.descents, pair.2.rules.length ≤ pair.1.rules.length / 2 := by
  induction f with
  | nil => intro pair hpair; cases hpair
  | cons root below beside hbelow hbeside =>
    have hhalf := length_rules_le_half h
    obtain ⟨-, -, hsplitsBelow, hsplitsBeside⟩ := h
    intro pair hpair
    rw [descents, List.mem_append, List.mem_append, List.mem_map] at hpair
    rcases hpair with ⟨o, ho, rfl⟩ | hpair | hpair
    · exact length_rules_le hsplitsBelow hhalf o ho
    · exact hbelow hsplitsBelow pair hpair
    · exact hbeside hsplitsBeside pair hpair

end RetryForest

/-! ## Outcomes -/

/-- Every outcome has the deadline that its own rules give. -/
theorem Unfolds.timeoutMs_eq {setup : RunSetup} {answers : Job → Except Fault Report → Prop}
    {jobs : List Job} {outcomes : List Outcome} (h : Unfolds setup answers jobs outcomes) :
    ∀ o ∈ outcomes,
      o.timeoutMs = adaptiveTimeout setup.limits setup.files.length o.rules.length := by
  intro o ho
  obtain ⟨job, result, -, -, rfl⟩ := h.exists_of_mem (p := fun _ => True)
    (fun _ _ _ _ _ => trivial) (fun _ _ => trivial) ho
  rw [Job.outcome_timeoutMs, Job.outcome_rules, Batch.ruleIds, List.length_map, Job.timeoutMs]

/-- The deadlines of outcomes over so many files are those of their own rules. -/
structure AllowsForWorkload (limits : Limits) (files : Nat) (outcomes : List Outcome) :
    Prop where
  timeout : ∀ o ∈ outcomes, o.timeoutMs =
    min (limits.baseTimeoutMs + files * limits.timeoutPerFileMs +
      o.rules.length * limits.timeoutPerRuleMs) limits.maxTimeoutMs
  ceiling : ∀ o ∈ outcomes, o.timeoutMs ≤ limits.maxTimeoutMs
  /-- The outcomes are trees of retries below first attempts, and no deadline is longer than one
  that stands above it. -/
  slices : ∃ f : RetryForest, f.preorder = outcomes ∧ f.Splits limits ∧
    (∀ root ∈ f.roots, root.attempt = 0) ∧
    (∀ o ∈ outcomes, o.attempt ≠ 0 → ∃ above, (above, o) ∈ f.descents) ∧
    (0 ≤ limits.timeoutPerRuleMs → ∀ pair ∈ f.descents, pair.2.timeoutMs ≤ pair.1.timeoutMs)

theorem AllowsForWorkload.of_unfolds {setup : RunSetup}
    {answers : Job → Except Fault Report → Prop} {batches : List Batch} {outcomes : List Outcome}
    (h : Unfolds setup answers (jobsOf batches) outcomes) :
    AllowsForWorkload setup.limits setup.files.length outcomes := by
  have hown := h.timeoutMs_eq
  obtain ⟨f, hpreorder, hsplits, horigin⟩ := h.exists_forest
  have hroots : ∀ root ∈ f.roots, root.attempt = 0 := by
    intro root hroot
    have hmem : root.origin ∈ (jobsOf batches).map Job.origin := by
      rw [← horigin]
      exact List.mem_map_of_mem hroot
    rw [jobsOf, List.map_map, List.mem_map] at hmem
    obtain ⟨batch, -, hbatch⟩ := hmem
    exact (congrArg Origin.attempt hbatch).symm
  refine ⟨fun o ho => ?_, fun o ho => ?_, f, hpreorder, hsplits, hroots, fun o ho hagain => ?_,
    fun hrule pair hpair => ?_⟩
  · rw [hown o ho, adaptiveTimeout_natCast]
  · rw [hown o ho]
    exact adaptiveTimeout_le_maxTimeoutMs _ _ _
  · rw [← hpreorder] at ho
    exact (RetryForest.exists_mem_descents o ho).resolve_left fun hroot => hagain (hroots o hroot)
  · obtain ⟨habove, hbelow⟩ := RetryForest.mem_preorder_of_mem_descents pair hpair
    rw [hpreorder] at habove hbelow
    rw [hown _ habove, hown _ hbelow]
    have hfewer := RetryForest.length_rules_le_of_mem_descents hsplits pair hpair
    exact adaptiveTimeout_mono_rules hrule _ (by omega)

/-! ## Runs -/

/-- Every outcome, of a retry slice too, has the deadline that the number of files and of its own
rules give, up to the ceiling; the same number of rules has the same deadline in any other execution
with these limits and as many files. Where neither files nor rules cost negative time the deadline
does not fall as either number grows, and no slice has a longer one than any batch or slice above
it. In a run the files are those that the filters kept. -/
theorem execute_allows_for_workload (setup : RunSetup) (registry : Registry)
    {groups : Keyed (List Rule)} {course : SequenceCourse}
    (hcourse : execute setup registry groups = .ok course) :
    AllowsForWorkload setup.limits setup.files.length course.outcomes ∧
    (∀ (setup' : RunSetup) (registry' : Registry) (groups' : Keyed (List Rule))
      (course' : SequenceCourse), execute setup' registry' groups' = .ok course' →
      setup'.limits = setup.limits → setup'.files.length = setup.files.length →
      ∀ o ∈ course.outcomes, ∀ o' ∈ course'.outcomes, o'.rules.length = o.rules.length →
        o'.timeoutMs = o.timeoutMs) ∧
    (0 ≤ setup.limits.timeoutPerFileMs → 0 ≤ setup.limits.timeoutPerRuleMs →
      ∀ files moreFiles rules moreRules : Int, files ≤ moreFiles → rules ≤ moreRules →
        adaptiveTimeout setup.limits files rules ≤
          adaptiveTimeout setup.limits moreFiles moreRules) ∧
    ∀ (tree : FileTree) (a : Auditor) (files : List FilePath) (inputs : List RuleInput)
      (requested : Option String) (result : RunResult),
      (a.run tree files inputs requested).result = .ok result →
      ∃ kept, filterFiles tree a.settings.performance files = .ok kept ∧
        result.performance.optimizedFiles = kept.length ∧
        AllowsForWorkload a.settings.performance kept.length result.outcomes := by
  have hany : ∀ {setup : RunSetup} {registry : Registry} {groups : Keyed (List Rule)}
      {course : SequenceCourse}, execute setup registry groups = .ok course →
      AllowsForWorkload setup.limits setup.files.length course.outcomes := by
    intro setup registry groups course hcourse
    obtain ⟨batches, -, hunfolds⟩ := exists_of_execute_eq_ok hcourse
    exact .of_unfolds hunfolds
  refine ⟨hany hcourse, ?_, fun hfile hrule files moreFiles rules moreRules hfiles hrules =>
    (adaptiveTimeout_mono_files hfile rules hfiles).trans
      (adaptiveTimeout_mono_rules hrule moreFiles hrules), ?_⟩
  · intro setup' registry' groups' course' hcourse' hlimits hfiles o ho o' ho' hrules
    rw [(hany hcourse).timeout o ho, (hany hcourse').timeout o' ho', hlimits, hfiles, hrules]
  · intro tree a files inputs requested result hrun
    obtain ⟨work, plan, course, hwork, -, hexecute, rfl⟩ := Auditor.exists_stages_of_run hrun
    obtain ⟨-, -, hcount, -⟩ := Auditor.exists_of_prepareWorkload hwork
    obtain ⟨kept, hkept, hmetrics⟩ := exists_of_bind_eq_ok hwork
    obtain ⟨metrics, -, heq⟩ := exists_of_bind_eq_ok hmetrics
    obtain rfl : (kept, metrics) = work := Except.ok.inj heq
    have hall := hany hexecute
    rw [Settings.requesting_performance] at hkept hall
    exact ⟨kept, hkept, hcount, hall⟩

/-- Five rules for the narrow engine, with a ceiling that the first attempt reaches: each slice gets
the time of its own rules. -/
theorem execute_allows_for_workload_narrow :
    let setup : RunSetup :=
      { limits :=
          { retryFailedBatches := true
            maxRetries := 3
            baseTimeoutMs := 100
            timeoutPerFileMs := 50
            timeoutPerRuleMs := 10
            maxTimeoutMs := 245 }
        files := ["a.py", "b.py"].map FilePath.ofText }
    let registry : Registry := { entries := [("narrow", narrowEngine)] }
    let rules : List Rule := ["A", "B", "C", "D", "E"].map fun id => { id := id }
    ∃ course, execute setup registry [("narrow", rules)] = .ok course ∧
      course.outcomes.map (fun o => (o.rules.length, o.timeoutMs)) =
        [(5, 245), (2, 220), (1, 210), (1, 210), (2, 220), (1, 210), (1, 210), (1, 210)] ∧
      AllowsForWorkload setup.limits 2 course.outcomes := by
  intro setup registry rules
  have hshown : (execute setup registry [("narrow", rules)]).toOption.map (fun course =>
      course.outcomes.map fun o => (o.rules.length, o.timeoutMs)) =
      some [(5, 245), (2, 220), (1, 210), (1, 210), (2, 220), (1, 210), (1, 210), (1, 210)] := by
    decide +kernel
  cases hcourse : execute setup registry [("narrow", rules)] with
  | error f =>
    rw [hcourse] at hshown
    cases hshown
  | ok course =>
    rw [hcourse] at hshown
    obtain ⟨hall, -⟩ := execute_allows_for_workload setup registry hcourse
    exact ⟨course, rfl, Option.some.inj hshown, hall⟩

end RuleAudit
