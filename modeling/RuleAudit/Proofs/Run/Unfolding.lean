import Mathlib.Algebra.Ring.Nat
import RuleAudit.Proofs.Chunks
import RuleAudit.Proofs.Run.Service

/-!
# How jobs unfold

A job gives an outcome, and a job that failed retryably is followed by jobs for its slices, which
unfold in turn. `Unfolds setup answers jobs outcomes` says that `outcomes` is what `jobs` come to
when every call is answered as `answers` allows: each outcome stands before those of its slices, and
these before the outcomes of the next job.

Slices weigh less than the job they come from (`Job.totalWeight_retries_lt`), so the fuel of
`runJobs` covers every job: `runJobs` is a run without a bound (`runJobs_cons`), and its outcomes
are an unfolding of its jobs (`unfolds_runJobs`).
-/

namespace RuleAudit

/-! ## What an outcome records -/

namespace Job

section Outcome

variable (setup : RunSetup) (job : Job) (result : Except Fault Report)

@[simp] theorem outcome_engine : (job.outcome setup result).engine = job.batch.engine := by
  cases result <;> rfl

@[simp] theorem outcome_batchNumber :
    (job.outcome setup result).batchNumber = job.batch.number := by
  cases result <;> rfl

@[simp] theorem outcome_totalBatches :
    (job.outcome setup result).totalBatches = job.batch.total := by
  cases result <;> rfl

@[simp] theorem outcome_rules : (job.outcome setup result).rules = job.batch.ruleIds := by
  cases result <;> rfl

@[simp] theorem outcome_attempt : (job.outcome setup result).attempt = job.attempt := by
  cases result <;> rfl

@[simp] theorem outcome_subBatch :
    (job.outcome setup result).subBatch = job.slice.map Int.ofNat := by
  cases result <;> rfl

/-- A retry is recommended only after a failure. -/
theorem success_eq_false_of_retryRecommended
    (h : (job.outcome setup result).retryRecommended = true) :
    (job.outcome setup result).success = false := by
  cases result with
  | ok report => cases h
  | error f => rfl

/-- The slices of a job that may be retried have half its rules, but at least one. -/
theorem sliceSize_outcome (h : (job.outcome setup result).retryRecommended = true) :
    sliceSize (job.outcome setup result) = max 1 (job.batch.rules.length / 2) := by
  cases result with
  | ok report => cases h
  | error f =>
    have hclass : (job.outcome setup (.error f)).classification =
        some (classify (job.failure setup f) job.batch.rules.length) := rfl
    unfold Outcome.retryRecommended at h
    rw [hclass] at h
    unfold sliceSize
    rw [hclass]
    unfold classify at h ⊢
    dsimp only at h ⊢
    split at h
    · rename_i hretryable
      simp only [hretryable, if_true, Option.getD_some]
      rw [Int.fdiv_eq_ediv_of_nonneg _ (by decide)]
      omega
    · cases h

end Outcome

/-! ## Slices -/

theorem shouldRetry_iff {setup : RunSetup} {job : Job} {o : Outcome} :
    job.shouldRetry setup o = true ↔
      setup.limits.retryFailedBatches = true ∧ o.retryRecommended = true ∧
        (job.attempt : Int) < setup.limits.maxRetries ∧ 1 < job.batch.rules.length := by
  simp [shouldRetry, and_assoc]

/-- The slice that takes some of a job's rules as its number `index`. -/
def sliceOf (job : Job) (index : Nat) (rules : List Rule) : Job :=
  { batch := { job.batch with rules := rules }, attempt := job.attempt + 1, slice := some index }

theorem slicesFrom_getElem? (job : Job) (first : Nat) (pieces : List (List Rule)) (i : Nat) :
    (job.slicesFrom first pieces)[i]? = pieces[i]?.map (job.sliceOf (first + i)) := by
  induction pieces generalizing first i with
  | nil => rfl
  | cons rules rest ih =>
    cases i with
    | zero => rfl
    | succ i =>
      rw [slicesFrom, List.getElem?_cons_succ, List.getElem?_cons_succ, ih (first + 1) i]
      rw [Nat.add_right_comm first 1 i, Nat.add_assoc]

theorem slicesFrom_map_rules (job : Job) (first : Nat) (pieces : List (List Rule)) :
    (job.slicesFrom first pieces).map (fun slice => slice.batch.rules) = pieces := by
  induction pieces generalizing first with
  | nil => rfl
  | cons rules rest ih => rw [slicesFrom, List.map_cons, ih]

/-- The pieces a job is retried in: half its rules each, but at least one. -/
def pieces (job : Job) : List (List Rule) :=
  chunks (max 1 (job.batch.rules.length / 2)) job.batch.rules

theorem flatten_pieces (job : Job) : job.pieces.flatten = job.batch.rules :=
  flatten_chunks (by omega) _

/-- A job that is retried is cut into at least two pieces, none of them empty. -/
theorem pieces_of_one_lt {job : Job} (h : 1 < job.batch.rules.length) :
    2 ≤ job.pieces.length ∧
      ∀ rules ∈ job.pieces, 0 < rules.length ∧ rules.length ≤ job.batch.rules.length / 2 := by
  refine ⟨two_le_length_chunks (by omega) (by omega), ?_⟩
  intro rules hrules
  have hbounds := length_of_mem_chunks (by omega) hrules
  omega

/-- The jobs that follow an outcome of a job: one for each piece, or none. -/
theorem retries_outcome (setup : RunSetup) (job : Job) (result : Except Fault Report) :
    job.retries setup (job.outcome setup result) =
      if job.shouldRetry setup (job.outcome setup result) then job.slicesFrom 1 job.pieces
      else [] := by
  unfold retries
  split
  · rename_i hretry
    rw [sliceSize_outcome setup job result (shouldRetry_iff.mp hretry).2.1]
    rfl
  · rfl

/-- What a job that follows an outcome is: a piece of the job, tried once more. -/
theorem exists_of_mem_retries {setup : RunSetup} {job slice : Job} {result : Except Fault Report}
    (h : slice ∈ job.retries setup (job.outcome setup result)) :
    1 < job.batch.rules.length ∧
      ∃ i rules, job.pieces[i]? = some rules ∧ slice = job.sliceOf (1 + i) rules := by
  rw [retries_outcome] at h
  split at h
  · rename_i hretry
    obtain ⟨i, hi⟩ := List.mem_iff_getElem?.mp h
    rw [slicesFrom_getElem?] at hi
    obtain ⟨rules, hrules, hslice⟩ := Option.map_eq_some_iff.mp hi
    exact ⟨(shouldRetry_iff.mp hretry).2.2.2, i, rules, hrules, hslice.symm⟩
  · cases h

/-- A slice belongs to the batch of its job and is no first attempt. -/
theorem batch_of_mem_retries {setup : RunSetup} {job slice : Job} {result : Except Fault Report}
    (h : slice ∈ job.retries setup (job.outcome setup result)) :
    slice.batch.engine = job.batch.engine ∧ slice.batch.number = job.batch.number ∧
      0 < slice.attempt := by
  obtain ⟨-, i, rules, -, rfl⟩ := exists_of_mem_retries h
  exact ⟨rfl, rfl, Nat.succ_pos _⟩

end Job

/-! ## Weights -/

@[simp] theorem totalWeight_nil : totalWeight [] = 0 := rfl

@[simp] theorem totalWeight_cons (job : Job) (rest : List Job) :
    totalWeight (job :: rest) = job.weight + totalWeight rest := rfl

theorem totalWeight_append (jobs more : List Job) :
    totalWeight (jobs ++ more) = totalWeight jobs + totalWeight more := by
  induction jobs with
  | nil => simp
  | cons job rest ih => rw [List.cons_append, totalWeight_cons, totalWeight_cons, ih]; omega

/-- A sum over a list of which one entry changes. -/
theorem sum_map_set {α : Type} (f : α → Nat) (b : α) {items : List α} {i : Nat} {a : α}
    (h : items[i]? = some a) :
    ((items.set i b).map f).sum + f a = (items.map f).sum + f b := by
  induction items generalizing i with
  | nil => cases h
  | cons first rest ih =>
    cases i with
    | zero =>
      cases h
      simp only [List.set_cons_zero, List.map_cons, List.sum_cons]
      omega
    | succ i =>
      have hrest := ih h
      simp only [List.set_cons_succ, List.map_cons, List.sum_cons]
      omega

theorem Job.one_le_weight (job : Job) : 1 ≤ job.weight := by
  unfold Job.weight
  omega

/-- Non-empty pieces weigh one less than two for each rule. -/
theorem Job.totalWeight_slicesFrom (job : Job) (first : Nat) {pieces : List (List Rule)}
    (h : ∀ rules ∈ pieces, 0 < rules.length) :
    totalWeight (job.slicesFrom first pieces) + pieces.length = 2 * pieces.flatten.length := by
  induction pieces generalizing first with
  | nil => rfl
  | cons rules rest ih =>
    have hrules : 0 < rules.length := h rules (by simp)
    have hrest := ih (first + 1) fun piece hpiece => h piece (by simp [hpiece])
    rw [Job.slicesFrom, totalWeight_cons, List.flatten_cons, List.length_append,
      List.length_cons]
    simp only [Job.weight]
    omega

/-- The slices of a job weigh less than the job. -/
theorem Job.totalWeight_retries_lt (setup : RunSetup) (job : Job) (result : Except Fault Report) :
    totalWeight (job.retries setup (job.outcome setup result)) < job.weight := by
  rw [retries_outcome]
  split
  · rename_i hretry
    obtain ⟨htwo, hpieces⟩ := pieces_of_one_lt (shouldRetry_iff.mp hretry).2.2.2
    have hweight := job.totalWeight_slicesFrom 1 fun rules hrules => (hpieces rules hrules).1
    rw [job.flatten_pieces] at hweight
    unfold Job.weight
    omega
  · exact job.one_le_weight

/-! ## Unfoldings -/

/-- Outcomes that jobs come to, in order; `answers` says which results a call may have. -/
inductive Unfolds (setup : RunSetup) (answers : Job → Except Fault Report → Prop) :
    List Job → List Outcome → Prop where
  | nil : Unfolds setup answers [] []
  | cons {job : Job} {rest : List Job} {result : Except Fault Report}
      {below beside : List Outcome} (answer : answers job result)
      (slices : Unfolds setup answers (job.retries setup (job.outcome setup result)) below)
      (others : Unfolds setup answers rest beside) :
      Unfolds setup answers (job :: rest) (job.outcome setup result :: (below ++ beside))

namespace Unfolds

variable {setup : RunSetup} {answers : Job → Except Fault Report → Prop}

theorem append {jobs more : List Job} {first later : List Outcome}
    (h : Unfolds setup answers jobs first) (hmore : Unfolds setup answers more later) :
    Unfolds setup answers (jobs ++ more) (first ++ later) := by
  induction h with
  | nil => exact hmore
  | cons answer slices _ _ ih =>
    rw [List.cons_append, List.cons_append, List.append_assoc]
    exact .cons answer slices ih

/-- The outcomes of jobs in a row come one part after the other. -/
theorem exists_of_append {jobs more : List Job} {outcomes : List Outcome}
    (h : Unfolds setup answers (jobs ++ more) outcomes) :
    ∃ first later, Unfolds setup answers jobs first ∧ Unfolds setup answers more later ∧
      outcomes = first ++ later := by
  induction jobs generalizing outcomes with
  | nil => exact ⟨[], outcomes, .nil, h, rfl⟩
  | cons job rest ih =>
    rw [List.cons_append] at h
    cases h with
    | @cons _ _ result below beside answer slices others =>
      obtain ⟨first, later, hfirst, hlater, rfl⟩ := ih others
      exact ⟨_, later, .cons answer slices hfirst, hlater, by simp⟩

/-- A job closed with its slices put in front of the others unfolds with them. -/
theorem of_retries_append {job : Job} {rest : List Job} {result : Except Fault Report}
    {outcomes : List Outcome} (answer : answers job result)
    (h : Unfolds setup answers (job.retries setup (job.outcome setup result) ++ rest) outcomes) :
    Unfolds setup answers (job :: rest) (job.outcome setup result :: outcomes) := by
  obtain ⟨below, beside, hbelow, hbeside, rfl⟩ := h.exists_of_append
  exact .cons answer hbelow hbeside

/-- Only the answers to jobs of a kind count, when slices are of the kind of their job. -/
theorem mono_on {p : Job → Prop} {answers' : Job → Except Fault Report → Prop}
    (hslices : ∀ job result, p job →
      ∀ slice ∈ job.retries setup (job.outcome setup result), p slice)
    (himp : ∀ job result, p job → answers job result → answers' job result) {jobs : List Job}
    {outcomes : List Outcome} (h : Unfolds setup answers jobs outcomes)
    (hjobs : ∀ job ∈ jobs, p job) : Unfolds setup answers' jobs outcomes := by
  induction h with
  | nil => exact .nil
  | @cons job rest result below beside answer slices others ihslices ihothers =>
    have hjob := hjobs job (by simp)
    refine .cons (himp job result hjob answer) ?_ ?_
    · exact ihslices (hslices job result hjob)
    · exact ihothers fun other hother => hjobs other (by simp [hother])

theorem mono {answers' : Job → Except Fault Report → Prop}
    (himp : ∀ job result, answers job result → answers' job result) {jobs : List Job}
    {outcomes : List Outcome} (h : Unfolds setup answers jobs outcomes) :
    Unfolds setup answers' jobs outcomes :=
  h.mono_on (p := fun _ => True) (fun _ _ _ _ _ => trivial)
    (fun job result _ => himp job result) fun _ _ => trivial

/-- Every outcome is that of a job, of the kind of the jobs when slices are of their job's kind. -/
theorem exists_of_mem {p : Job → Prop}
    (hslices : ∀ job result, p job →
      ∀ slice ∈ job.retries setup (job.outcome setup result), p slice)
    {jobs : List Job} {outcomes : List Outcome} (h : Unfolds setup answers jobs outcomes)
    (hjobs : ∀ job ∈ jobs, p job) {o : Outcome} (ho : o ∈ outcomes) :
    ∃ job result, p job ∧ answers job result ∧ o = job.outcome setup result := by
  induction h with
  | nil => cases ho
  | @cons job rest result below beside answer slices others ihslices ihothers =>
    have hjob := hjobs job (by simp)
    rcases List.mem_cons.mp ho with rfl | ho
    · exact ⟨job, result, hjob, answer, rfl⟩
    · rcases List.mem_append.mp ho with hbelow | hbeside
      · exact ihslices (hslices job result hjob) hbelow
      · exact ihothers (fun other hother => hjobs other (by simp [hother])) hbeside

/-- Where a job has only one answer, jobs unfold in only one way. -/
theorem unique {answer : Job → Except Fault Report} {jobs : List Job}
    {outcomes outcomes' : List Outcome}
    (h : Unfolds setup (fun job result => result = answer job) jobs outcomes)
    (h' : Unfolds setup (fun job result => result = answer job) jobs outcomes') :
    outcomes = outcomes' := by
  induction h generalizing outcomes' with
  | nil => cases h'; rfl
  | cons hanswer _ _ hslices hothers =>
    cases h' with
    | cons hanswer' slices' others' =>
      subst hanswer
      subst hanswer'
      rw [hslices slices', hothers others']

/-- Jobs unfold one by one. -/
theorem exists_flatMap {solo : Job → List Outcome} {jobs : List Job}
    (h : ∀ job ∈ jobs, Unfolds setup answers [job] (solo job)) :
    Unfolds setup answers jobs (jobs.flatMap solo) := by
  induction jobs with
  | nil => exact .nil
  | cons job rest ih =>
    have hfirst := h job (by simp)
    have hrest := ih fun other hother => h other (by simp [hother])
    exact hfirst.append hrest

/-- Lists of jobs unfold one after the other. -/
theorem flatten {lanes : List (List Job)} {outcomes : List (List Outcome)}
    (hlength : outcomes.length = lanes.length)
    (h : ∀ (i : Nat) (jobs : List Job) (first : List Outcome), lanes[i]? = some jobs →
      outcomes[i]? = some first → Unfolds setup answers jobs first) :
    Unfolds setup answers lanes.flatten outcomes.flatten := by
  induction lanes generalizing outcomes with
  | nil =>
    obtain rfl := List.length_eq_zero_iff.mp hlength
    exact .nil
  | cons jobs rest ih =>
    obtain ⟨first, later, rfl⟩ := List.exists_cons_of_length_eq_add_one hlength
    have hrest := ih (Nat.succ.inj hlength) fun i jobs first => h (i + 1) jobs first
    exact (h 0 jobs first rfl rfl).append hrest

end Unfolds

/-! ## Running jobs without a bound -/

/-- Fuel that covers the weight of the jobs is enough. -/
theorem runJobsWithin_eq (setup : RunSetup) :
    ∀ (fuel : Nat) (registry : Registry) (jobs : List Job), totalWeight jobs ≤ fuel →
      runJobsWithin setup fuel registry jobs = runJobs setup registry jobs := by
  intro fuel
  induction fuel using Nat.strongRecOn with
  | ind fuel ih =>
    intro registry jobs hweight
    match jobs with
    | [] => cases fuel <;> rfl
    | job :: rest =>
      -- both sides run `job` and go on with jobs that weigh less
      have hone := job.one_le_weight
      have hless := job.totalWeight_retries_lt setup (job.answer setup registry)
      rw [← Job.run_outcome] at hless
      rw [totalWeight_cons] at hweight
      have hlater : totalWeight (job.retries setup (job.run setup registry).outcome ++ rest)
          ≤ job.weight + totalWeight rest - 1 := by
        rw [totalWeight_append]
        omega
      obtain ⟨fuel, rfl⟩ : ∃ n, fuel = n + 1 := ⟨fuel - 1, by omega⟩
      obtain ⟨weight, hsum⟩ : ∃ n, job.weight + totalWeight rest = n + 1 :=
        ⟨job.weight + totalWeight rest - 1, by omega⟩
      rw [hsum, Nat.add_sub_cancel] at hlater
      have hleft := ih fuel (by omega) (job.run setup registry).registry _
        (Nat.le_trans hlater (by omega))
      have hright := ih weight (by omega) (job.run setup registry).registry _ hlater
      unfold runJobs
      rw [totalWeight_cons, hsum, runJobsWithin, runJobsWithin, hleft, hright]

/-- A job runs, then its slices, then the others. -/
theorem runJobs_cons (setup : RunSetup) (registry : Registry) (job : Job) (rest : List Job) :
    runJobs setup registry (job :: rest) =
      let course := job.run setup registry
      let slices := job.retries setup course.outcome
      let later := runJobs setup course.registry (slices ++ rest)
      { registry := later.registry
        notices := course.notices ++ job.announceRetries course.outcome slices ++ later.notices
        outcomes := course.outcome :: later.outcomes } := by
  have hless := job.totalWeight_retries_lt setup (job.answer setup registry)
  rw [← Job.run_outcome] at hless
  rw [← runJobsWithin_eq setup (totalWeight (job :: rest) + 1) registry _ (by omega),
    runJobsWithin, runJobsWithin_eq]
  rw [totalWeight_append, totalWeight_cons]
  omega

/-- What a call may come to while a registry is at work. -/
def Registry.Answers (setup : RunSetup) (registry : Registry) (job : Job)
    (result : Except Fault Report) : Prop :=
  ∃ later, Registry.Later setup.tree registry later ∧ result = job.answer setup later

/-- With engines without memory, a call comes to what it comes to at the start. -/
theorem Registry.Answers.eq_answer {setup : RunSetup} {registry : Registry} {job : Job}
    {result : Except Fault Report} (h : registry.Answers setup job result)
    (hkeyed : registry.WellKeyed) (hsteady : registry.Steady setup.tree) :
    result = job.answer setup registry := by
  obtain ⟨later, hlater, rfl⟩ := h
  exact Job.answer_later hlater hkeyed hsteady job

/-- The outcomes of a run are an unfolding of its jobs. -/
theorem unfolds_runJobs (setup : RunSetup) (start registry : Registry) (jobs : List Job)
    (hstart : Registry.Later setup.tree start registry) :
    Unfolds setup (start.Answers setup) jobs (runJobs setup registry jobs).outcomes := by
  induction hweight : totalWeight jobs using Nat.strongRecOn generalizing registry jobs with
  | ind weight ih =>
    match jobs with
    | [] => exact .nil
    | job :: rest =>
      -- a job weighs more than its slices together, so the weight of what is left falls
      have hless := job.totalWeight_retries_lt setup (job.answer setup registry)
      rw [runJobs_cons]
      dsimp only
      rw [Job.run_outcome]
      refine .of_retries_append ⟨registry, hstart, rfl⟩ ?_
      refine ih _ ?_ _ _ (hstart.trans (job.run_later setup registry)) rfl
      rw [← hweight, totalWeight_append, totalWeight_cons]
      omega

end RuleAudit
