import RuleAudit.Merge
import RuleAudit.Proofs.Keyed
import RuleAudit.Proofs.Run.Unfolding

/-!
# What a merge records of each engine

The tally of an engine lists the rules of its outcomes, each once (`Merge.get?_tallies_fold`). The
slices of a batch name only rules that the batch has named before them, so that the outcomes of jobs
list the rules of the jobs (`Unfolds.foldl_addNew`), whatever failed and was tried again.
-/

namespace RuleAudit

namespace Merge

theorem addNew_of_subset {seen items : List String} (h : ∀ item ∈ items, item ∈ seen) :
    addNew seen items = seen := by
  induction items with
  | nil => rfl
  | cons item rest ih =>
    have hitem : seen.contains item = true := by simpa using h item (by simp)
    rw [addNew, List.foldl_cons, if_pos hitem]
    exact ih fun other hother => h other (by simp [hother])

theorem addNew_of_nodup {seen items : List String} (h : (seen ++ items).Nodup) :
    addNew seen items = seen ++ items := by
  induction items generalizing seen with
  | nil => simp [addNew]
  | cons item rest ih =>
    have hitem : ¬ seen.contains item = true := by
      rw [List.contains_iff_mem]
      intro hmem
      exact (List.nodup_append.mp h).2.2 item hmem item (by simp) rfl
    rw [addNew, List.foldl_cons, if_neg hitem]
    rw [List.append_cons seen item rest] at h ⊢
    exact ih h

theorem mem_addNew {seen items : List String} {a : String} :
    a ∈ addNew seen items ↔ a ∈ seen ∨ a ∈ items := by
  induction items generalizing seen with
  | nil => simp [addNew]
  | cons item rest ih =>
    show a ∈ addNew (if seen.contains item then seen else seen ++ [item]) rest ↔ _
    rw [ih]
    split
    · rename_i hitem
      rw [List.contains_iff_mem] at hitem
      constructor
      · rintro (h | h)
        · exact .inl h
        · exact .inr (by simp [h])
      · rintro (h | h)
        · exact .inl h
        · rcases List.mem_cons.mp h with rfl | hrest
          · exact .inl hitem
          · exact .inr hrest
    · simp [or_assoc]

/-- Lists added one after another, when nothing comes twice. -/
theorem foldl_addNew_of_nodup {α : Type} (f : α → List String) {lists : List α} {seen : List String}
    (h : (seen ++ lists.flatMap f).Nodup) :
    lists.foldl (fun acc a => addNew acc (f a)) seen = seen ++ lists.flatMap f := by
  induction lists generalizing seen with
  | nil => simp
  | cons first rest ih =>
    rw [List.flatMap_cons, ← List.append_assoc] at h ⊢
    rw [List.foldl_cons, addNew_of_nodup (List.Nodup.of_append_left h)]
    exact ih h

/-! ## Tallies -/

theorem tallies_step (categories : Keyed String) (s : State) (o : Outcome) :
    (step categories s o).tallies = s.tallies.alter o.engine {} (tallyOutcome o) := by
  unfold step
  dsimp only
  split <;> rfl

/-- The tally of an engine after outcomes: its own outcomes are added to it one by one. -/
theorem get?_tallies_foldl (categories : Keyed String) (engine : String) (outcomes : List Outcome)
    (s : State) :
    (outcomes.foldl (step categories) s).tallies.get? engine =
      if (outcomes.filter fun o => o.engine == engine).isEmpty then s.tallies.get? engine
      else
        some ((outcomes.filter fun o => o.engine == engine).foldl (fun t o => tallyOutcome o t)
          ((s.tallies.get? engine).getD {})) := by
  induction outcomes generalizing s with
  | nil => rfl
  | cons o rest ih =>
    rw [List.foldl_cons, ih, tallies_step]
    by_cases hengine : o.engine = engine
    -- the tally starts from nothing when the engine is met for the first time
    · subst hengine
      rw [Keyed.get?_alter_self, List.filter_cons_of_pos (by simp), Option.getD_some,
        List.foldl_cons]
      split
      · rename_i hnone
        rw [List.isEmpty_iff] at hnone
        simp [hnone]
      · simp
    · rw [Keyed.get?_alter_ne _ _ _ (Ne.symm hengine),
        List.filter_cons_of_neg (by simpa using hengine)]

theorem rules_foldl_tallyOutcome (outcomes : List Outcome) (t : EngineTally) :
    (outcomes.foldl (fun t o => tallyOutcome o t) t).rules =
      outcomes.foldl (fun acc o => addNew acc o.rules) t.rules := by
  induction outcomes generalizing t with
  | nil => rfl
  | cons o rest ih => exact ih (tallyOutcome o t)

/-- The rules that the tally of an engine lists: those of its outcomes, each once. -/
theorem get?_tallies_fold (categories : Keyed String) (engine : String) (outcomes : List Outcome) :
    ((fold categories outcomes).tallies.get? engine).map EngineTally.rules =
      if (outcomes.filter fun o => o.engine == engine).isEmpty then none
      else some ((outcomes.filter fun o => o.engine == engine).foldl
        (fun acc o => addNew acc o.rules) []) := by
  unfold fold
  rw [get?_tallies_foldl]
  split
  · rfl
  · exact congrArg some (rules_foldl_tallyOutcome _ {})

/-- The violations that a result has from an outcome: none if it failed. -/
def contributed (o : Outcome) : List Violation :=
  if o.success then o.allViolations else []

theorem violations_foldl (categories : Keyed String) (outcomes : List Outcome) (s : State) :
    (outcomes.foldl (step categories) s).violations =
      s.violations ++ outcomes.flatMap contributed := by
  induction outcomes generalizing s with
  | nil => simp
  | cons o rest ih =>
    have hstep : (step categories s o).violations = s.violations ++ contributed o := by
      unfold step contributed
      dsimp only
      split
      · rfl
      · exact (List.append_nil _).symm
    rw [List.foldl_cons, ih, hstep, List.flatMap_cons, List.append_assoc]

/-! ## Counts -/

/-- Counting items under keys adds to each key the number of its items. -/
theorem get?_foldl_count {α : Type} (keyOf : α → String) (items : List α) (counts : Keyed Nat)
    (key : String) :
    (items.foldl (fun counts a => count counts (keyOf a)) counts).get? key =
      if (items.map keyOf).count key = 0 then counts.get? key
      else some ((counts.get? key).getD 0 + (items.map keyOf).count key) := by
  induction items generalizing counts with
  | nil => simp
  | cons a rest ih =>
    rw [List.foldl_cons, ih, List.map_cons, List.count_cons]
    by_cases hkey : keyOf a = key
    · subst hkey
      have hone : (count counts (keyOf a)).get? (keyOf a) =
          some ((counts.get? (keyOf a)).getD 0 + 1) := Keyed.get?_alter_self ..
      simp only [hone, BEq.rfl, if_true, Option.getD_some, Nat.succ_ne_zero, if_false]
      split
      · rename_i hzero
        rw [hzero]
      · rw [Nat.add_assoc, Nat.add_comm 1]
    · have hother : (count counts (keyOf a)).get? key = counts.get? key :=
        Keyed.get?_alter_ne _ _ _ (Ne.symm hkey)
      simp only [hother, hkey, beq_iff_eq, if_false, Nat.add_zero]

/-- What is counted does not depend on the order. -/
theorem get?_foldl_count_of_perm {α : Type} (keyOf : α → String) {items items' : List α}
    (h : items.Perm items') (counts : Keyed Nat) (key : String) :
    (items.foldl (fun counts a => count counts (keyOf a)) counts).get? key =
      (items'.foldl (fun counts a => count counts (keyOf a)) counts).get? key := by
  rw [get?_foldl_count, get?_foldl_count, (h.map keyOf).count_eq key]

/-- The categories and severities are counted over the violations that the result has. -/
theorem counts_foldl (categories : Keyed String) (outcomes : List Outcome) (s : State) :
    (outcomes.foldl (step categories) s).categories =
        (outcomes.flatMap contributed).foldl
          (fun counts v => count counts (categoryOf categories v)) s.categories ∧
      (outcomes.foldl (step categories) s).severities =
        (outcomes.flatMap contributed).foldl
          (fun counts v => count counts v.severity.word) s.severities := by
  induction outcomes generalizing s with
  | nil => exact ⟨rfl, rfl⟩
  | cons o rest ih =>
    obtain ⟨hcategories, hseverities⟩ := ih (step categories s o)
    rw [List.foldl_cons, hcategories, hseverities, List.flatMap_cons, List.foldl_append,
      List.foldl_append]
    unfold step contributed
    dsimp only
    split
    · exact ⟨rfl, rfl⟩
    · exact ⟨rfl, rfl⟩

end Merge

/-! ## The rules of unfolded jobs -/

/-- A slice is for the same engine and has no other rules than its job. -/
theorem Job.of_mem_retries {setup : RunSetup} {job slice : Job} {result : Except Fault Report}
    (h : slice ∈ job.retries setup (job.outcome setup result)) :
    slice.batch.engine = job.batch.engine ∧ slice.attempt = job.attempt + 1 ∧
      ∀ id ∈ slice.batch.ruleIds, id ∈ job.batch.ruleIds := by
  obtain ⟨-, i, rules, hrules, rfl⟩ := exists_of_mem_retries h
  refine ⟨rfl, rfl, ?_⟩
  intro id hid
  obtain ⟨rule, hrule, rfl⟩ := List.mem_map.mp hid
  refine List.mem_map_of_mem ?_
  rw [← job.flatten_pieces]
  exact List.mem_flatten.mpr ⟨rules, List.mem_of_getElem? hrules, hrule⟩

namespace Unfolds

variable {setup : RunSetup} {answers : Job → Except Fault Report → Prop}

/-- Outcomes of jobs are no earlier attempts than the jobs. -/
theorem le_attempt {n : Nat} {jobs : List Job} {outcomes : List Outcome}
    (h : Unfolds setup answers jobs outcomes) (hjobs : ∀ job ∈ jobs, n ≤ job.attempt) :
    ∀ o ∈ outcomes, (n : Int) ≤ o.attempt := by
  induction h with
  | nil => simp
  | @cons job rest result below beside answer slices others hslices hothers =>
    intro o ho
    have hjob := hjobs job (by simp)
    rcases List.mem_cons.mp ho with rfl | ho
    · rw [Job.outcome_attempt]
      omega
    · rcases List.mem_append.mp ho with hbelow | hbeside
      · refine hslices (fun slice hslice => ?_) o hbelow
        rw [(Job.of_mem_retries hslice).2.1]
        omega
      · exact hothers (fun other hother => hjobs other (by simp [hother])) o hbeside

/-- The first attempts among the outcomes are those of the jobs that are first attempts. -/
theorem filter_attempt_zero {jobs : List Job} {outcomes : List Outcome}
    (h : Unfolds setup answers jobs outcomes) :
    (outcomes.filter fun o => o.attempt == 0).map (fun o => (o.engine, o.rules)) =
      (jobs.filter fun job => job.attempt == 0).map fun job =>
        (job.batch.engine, job.batch.ruleIds) := by
  induction h with
  | nil => rfl
  | @cons job rest result below beside answer slices others hslices hothers =>
    -- slices are retries, so whatever they come to is no first attempt
    have hbelow : below.filter (fun o => o.attempt == 0) = [] := by
      rw [List.filter_eq_nil_iff]
      intro o ho hzero
      have hone := slices.le_attempt (n := 1) (fun slice hslice => by
        rw [(Job.of_mem_retries hslice).2.1]
        omega) o ho
      rw [beq_iff_eq] at hzero
      omega
    rw [List.filter_cons, List.filter_cons, List.filter_append, hbelow, List.nil_append]
    by_cases hzero : job.attempt = 0
    · simp [hzero, hothers]
    · simp [hzero, hothers]

/-- The outcomes of an engine name the rules of its jobs, in the same order. -/
theorem foldl_addNew {jobs : List Job} {outcomes : List Outcome}
    (h : Unfolds setup answers jobs outcomes) (engine : String) (seen : List String) :
    (outcomes.filter fun o => o.engine == engine).foldl
        (fun acc o => Merge.addNew acc o.rules) seen =
      (jobs.filter fun job => job.batch.engine == engine).foldl
        (fun acc job => Merge.addNew acc job.batch.ruleIds) seen := by
  induction h generalizing seen with
  | nil => rfl
  | @cons job rest result below beside answer slices others hslices hothers =>
    rw [List.filter_cons, List.filter_cons, List.filter_append, Job.outcome_engine]
    by_cases hengine : job.batch.engine = engine
    · simp only [hengine, BEq.rfl, if_true, List.foldl_cons, List.foldl_append, hslices, hothers,
        Job.outcome_rules]
      congr 1
      -- the slices name nothing that the job has not named
      have hsame : ∀ slices : List Job, (∀ slice ∈ slices, ∀ id ∈ slice.batch.ruleIds,
          id ∈ Merge.addNew seen job.batch.ruleIds) →
          slices.foldl (fun acc job => Merge.addNew acc job.batch.ruleIds)
            (Merge.addNew seen job.batch.ruleIds) = Merge.addNew seen job.batch.ruleIds := by
        intro slices hslices
        induction slices with
        | nil => rfl
        | cons slice more ih =>
          rw [List.foldl_cons, Merge.addNew_of_subset (hslices slice (by simp))]
          exact ih fun other hother => hslices other (by simp [hother])
      refine hsame _ fun slice hslice id hid => ?_
      have hmem := (Job.of_mem_retries (List.mem_filter.mp hslice).1).2.2 id hid
      exact Merge.mem_addNew.mpr (.inr hmem)
    · have hnone : (job.retries setup (job.outcome setup result)).filter
          (fun slice => slice.batch.engine == engine) = [] := by
        rw [List.filter_eq_nil_iff]
        intro slice hslice
        rw [(Job.of_mem_retries hslice).1]
        simpa using hengine
      simp only [hengine, beq_iff_eq, if_false, List.foldl_append, hslices, hothers, hnone,
        List.foldl_nil]

/-- An engine that has outcomes has jobs. -/
theorem filter_engine_eq_nil {jobs : List Job} {outcomes : List Outcome}
    (h : Unfolds setup answers jobs outcomes) {engine : String}
    (hjobs : ∀ job ∈ jobs, job.batch.engine ≠ engine) :
    (outcomes.filter fun o => o.engine == engine) = [] := by
  induction h with
  | nil => rfl
  | @cons job rest result below beside answer slices others hslices hothers =>
    have hjob := hjobs job (by simp)
    rw [List.filter_cons_of_neg (by simpa using hjob), List.filter_append,
      hslices fun slice hslice => (Job.of_mem_retries hslice).1 ▸ hjob,
      hothers fun other hother => hjobs other (by simp [hother])]
    rfl

end Unfolds

end RuleAudit
