import RuleAudit.Proofs.Run.LaneEnd
import RuleAudit.Proofs.Run.RetryTree
import RuleAudit.Run

/-!
# Concurrent and sequential runs agree

However the batches of the groups are put into lanes, the lanes hold them in the order of the groups
(`lanesOf_flatten`), and whatever is run, the outcomes are an unfolding of the batches in that order
(`unfolds_execute`). Engines without memory answer a job alike at any moment, so there is only one
unfolding: the outcomes that the batches have when each is run alone, one after the other
(`execute_agrees`).
-/

namespace RuleAudit

/-- The batches of all groups, in order. -/
def batchesOf (setup : RunSetup) : Keyed (List Rule) → Except Fault (List Batch)
  | [] => .ok []
  | (engine, rules) :: rest => do
    let first ← createBatches engine rules (resolveBatchSize setup.limits setup.files.length)
    let later ← batchesOf setup rest
    return first ++ later

/-- The outcomes of a batch and its slices when nothing else runs. -/
def soloOutcomes (setup : RunSetup) (registry : Registry) (batch : Batch) : List Outcome :=
  (runJobs setup registry [{ batch := batch }]).outcomes

/-! ## Lanes hold the batches in order -/

theorem groupLanes_flatten (setup : RunSetup) (registry : Registry) (engine : String)
    (rules : List Rule) :
    (groupLanes setup registry engine rules).map List.flatten =
      (createBatches engine rules (resolveBatchSize setup.limits setup.files.length)).map
        jobsOf := by
  unfold groupLanes
  dsimp only
  cases createBatches engine rules (resolveBatchSize setup.limits setup.files.length) with
  | error f => rfl
  | ok batches =>
    have hsingle : ∀ jobs : List Job, (jobs.map fun job => [job]).flatten = jobs := by
      intro jobs
      rw [← List.flatMap_def, List.flatMap_singleton']
    dsimp only [bind, Except.bind]
    split
    · exact congrArg Except.ok (hsingle _)
    · exact congrArg Except.ok (List.append_nil _)

/-- Lists that agree under `f` and `g`, or fail alike, do so when they are joined. -/
theorem map_append_congr {α β γ : Type} {f : List α → List γ} {g : List β → List γ}
    (hf : ∀ a b, f (a ++ b) = f a ++ f b) (hg : ∀ a b, g (a ++ b) = g a ++ g b)
    {x y : Except Fault (List α)} {x' y' : Except Fault (List β)} (h : x.map f = x'.map g)
    (h' : y.map f = y'.map g) :
    (do let a ← x; let b ← y; return a ++ b : Except Fault (List α)).map f =
      (do let a ← x'; let b ← y'; return a ++ b : Except Fault (List β)).map g := by
  cases x with
  | error e =>
    cases x' with
    | error e' => exact h
    | ok a' => cases h
  | ok a =>
    cases x' with
    | error e' => cases h
    | ok a' =>
      cases y with
      | error e =>
        cases y' with
        | error e' => exact h'
        | ok b' => cases h'
      | ok b =>
        cases y' with
        | error e' => cases h'
        | ok b' =>
          show Except.ok (f (a ++ b)) = Except.ok (g (a' ++ b'))
          rw [hf, hg, Except.ok.inj h, Except.ok.inj h']

/-- Lane after lane, the jobs are those of the batches in order. -/
theorem lanesOf_flatten (setup : RunSetup) (registry : Registry) (groups : Keyed (List Rule)) :
    (lanesOf setup registry groups).map List.flatten =
      (batchesOf setup groups).map jobsOf := by
  induction groups with
  | nil => rfl
  | cons group rest ih =>
    exact map_append_congr (fun _ _ => List.flatten_append) (fun _ _ => List.map_append)
      (groupLanes_flatten setup registry group.1 group.2) ih

/-! ## Outcomes -/

/-- Groups that cannot be cut into batches do not run. -/
theorem execute_of_error {setup : RunSetup} (registry : Registry) {groups : Keyed (List Rule)}
    {f : Fault} (h : batchesOf setup groups = .error f) :
    execute setup registry groups = .error f := by
  have hflatten := lanesOf_flatten setup registry groups
  rw [h] at hflatten
  cases hlanes : lanesOf setup registry groups with
  | error g =>
    rw [hlanes] at hflatten
    obtain rfl : g = f := Except.error.inj hflatten
    rw [execute, hlanes]
    rfl
  | ok lanes =>
    rw [hlanes] at hflatten
    cases hflatten

theorem exists_lanesOf {setup : RunSetup} (registry : Registry) {groups : Keyed (List Rule)}
    {batches : List Batch} (h : batchesOf setup groups = .ok batches) :
    ∃ lanes, lanesOf setup registry groups = .ok lanes ∧ lanes.flatten = jobsOf batches := by
  have hflatten := lanesOf_flatten setup registry groups
  rw [h] at hflatten
  cases hlanes : lanesOf setup registry groups with
  | error g =>
    rw [hlanes] at hflatten
    cases hflatten
  | ok lanes =>
    rw [hlanes] at hflatten
    exact ⟨lanes, rfl, Except.ok.inj hflatten⟩

/-- Groups that can be cut into batches run, and the outcomes are an unfolding of the batches. -/
theorem unfolds_execute {setup : RunSetup} (registry : Registry) {groups : Keyed (List Rule)}
    {batches : List Batch} (h : batchesOf setup groups = .ok batches) :
    ∃ course, execute setup registry groups = .ok course ∧
      Unfolds setup (registry.Answers setup) (jobsOf batches) course.outcomes := by
  obtain ⟨lanes, hlanes, hjobs⟩ := exists_lanesOf registry h
  by_cases hslots : setup.limits.maxConcurrentBatches ≤ 1
  · refine ⟨runJobs setup registry lanes.flatten, ?_, ?_⟩
    · rw [execute, hlanes]
      exact if_pos hslots
    · rw [← hjobs]
      exact unfolds_runJobs setup registry registry lanes.flatten .refl
  · refine ⟨runLanes setup registry setup.limits.maxConcurrentBatches.toNat lanes, ?_, ?_⟩
    · rw [execute, hlanes]
      exact if_neg hslots
    · rw [← hjobs]
      exact unfolds_runLanes setup registry (by omega) lanes

/-- What has run is an unfolding of batches. -/
theorem exists_of_execute_eq_ok {setup : RunSetup} {registry : Registry}
    {groups : Keyed (List Rule)} {course : SequenceCourse}
    (h : execute setup registry groups = .ok course) :
    ∃ batches, batchesOf setup groups = .ok batches ∧
      Unfolds setup (registry.Answers setup) (jobsOf batches) course.outcomes := by
  cases hbatches : batchesOf setup groups with
  | error f =>
    rw [execute_of_error registry hbatches] at h
    cases h
  | ok batches =>
    obtain ⟨found, hfound, hunfolds⟩ := unfolds_execute registry hbatches
    obtain rfl : found = course := Except.ok.inj (hfound.symm.trans h)
    exact ⟨batches, rfl, hunfolds⟩

/-- With engines without memory, an unfolding of batches is what they come to one by one. -/
theorem Unfolds.eq_flatMap_soloOutcomes {setup : RunSetup} {registry : Registry}
    (hkeyed : registry.WellKeyed) (hsteady : registry.Steady setup.tree) {batches : List Batch}
    {outcomes : List Outcome}
    (h : Unfolds setup (registry.Answers setup) (jobsOf batches) outcomes) :
    outcomes = batches.flatMap (soloOutcomes setup registry) := by
  -- whenever a job is served, its answer is the one it has at the start
  have honly : ∀ job result, registry.Answers setup job result →
      result = job.answer setup registry := fun _ _ h => h.eq_answer hkeyed hsteady
  have hsolo : Unfolds setup (fun job result => result = job.answer setup registry)
      (jobsOf batches)
      ((jobsOf batches).flatMap fun job => (runJobs setup registry [job]).outcomes) :=
    Unfolds.exists_flatMap fun job _ =>
      (unfolds_runJobs setup registry registry [job] .refl).mono honly
  rw [(h.mono honly).unique hsolo, jobsOf, List.flatMap_map]
  rfl

/-- Engines without memory give the same outcomes under every schedule. A run of groups, in lanes or
not, gives those that the batches have when each is run alone, in the order of the groups and their
batches. Lanes that interleave in any way under as many slots never go on for ever, never get stuck,
and end with these outcomes. -/
theorem execute_agrees (setup : RunSetup) (registry : Registry) (groups : Keyed (List Rule))
    (hkeyed : registry.WellKeyed) (hsteady : registry.Steady setup.tree)
    (hslots : 1 ≤ setup.limits.maxConcurrentBatches) :
    (execute setup registry groups).map SequenceCourse.outcomes =
        (batchesOf setup groups).map (List.flatMap (soloOutcomes setup registry)) ∧
      WellFounded (fun s' s => Interleaving.Step setup s s') ∧
      ∀ batches lanes, batchesOf setup groups = .ok batches →
        lanesOf setup registry groups = .ok lanes →
        ∀ s, Interleaving.Reaches setup
            (Interleaving.start registry setup.limits.maxConcurrentBatches.toNat lanes) s →
          (∃ s', Interleaving.Step setup s s') ∨
            s.Finished ∧ s.outcomes = batches.flatMap (soloOutcomes setup registry) := by
  refine ⟨?_, Interleaving.wellFounded_step setup, ?_⟩
  · cases hbatches : batchesOf setup groups with
    | error f =>
      rw [execute_of_error registry hbatches]
      rfl
    | ok batches =>
      obtain ⟨course, hcourse, hunfolds⟩ := unfolds_execute registry hbatches
      rw [hcourse]
      exact congrArg Except.ok (hunfolds.eq_flatMap_soloOutcomes hkeyed hsteady)
  · intro batches lanes hbatches hlanes s hreaches
    have hinv := (Interleaving.Invariant.start setup registry
      setup.limits.maxConcurrentBatches.toNat lanes).of_reaches hreaches
    by_cases hfinished : s.Finished
    · obtain ⟨found, hfound, hjobs⟩ := exists_lanesOf registry hbatches
      obtain rfl : found = lanes := Except.ok.inj (hfound.symm.trans hlanes)
      have hunfolds := hinv.unfolds_of_finished hfinished
      rw [hjobs] at hunfolds
      exact .inr ⟨hfinished, hunfolds.eq_flatMap_soloOutcomes hkeyed hsteady⟩
    · exact .inl (hinv.exists_step (by omega) hfinished)

/-- An engine that takes five milliseconds for each rule and serves one call at a time. -/
def patientEngine : Engine :=
  .ofBehaviour "patient" "1.0.0" [] false
    { analyze := fun _ call => { pauseMs := 5 * call.rules.length, answer := .ok (.report {}) } }
    1

/-- Two engines, batches of two rules and two slots: the first batch of the narrow engine fails and
is tried again in slices, while the patient engine serves its batches one after the other. -/
theorem execute_two_engines_two_slots :
    let setup : RunSetup :=
      { limits :=
          { retryFailedBatches := true
            maxRetries := 1
            ruleBatchSize := some 2
            maxConcurrentBatches := 2 }
        files := [] }
    let registry : Registry :=
      { entries := [("narrow", narrowEngine), ("patient", patientEngine)] }
    let groups : Keyed (List Rule) :=
      [("narrow", [{ id := "A" }, { id := "B" }, { id := "C" }]),
       ("patient", [{ id := "D" }, { id := "E" }, { id := "F" }])]
    registry.WellKeyed ∧ registry.Steady setup.tree ∧ 1 ≤ setup.limits.maxConcurrentBatches ∧
      (execute setup registry groups).toOption.map (fun course => course.outcomes.map Outcome.rules)
        = some [["A", "B"], ["A"], ["B"], ["C"], ["D", "E"], ["F"]] := by
  intro setup registry groups
  have hget : ∀ id e, registry.get? id = some e →
      (id = "narrow" ∧ e = narrowEngine) ∨ (id = "patient" ∧ e = patientEngine) := by
    intro id e he
    simp only [registry, Registry.get?, Keyed.get?, beq_iff_eq] at he
    split at he
    · exact .inl ⟨by simp_all, (Option.some.inj he).symm⟩
    · split at he
      · exact .inr ⟨by simp_all, (Option.some.inj he).symm⟩
      · cases he
  have hkeyed : registry.WellKeyed := by
    intro id e he
    rcases hget id e he with ⟨rfl, rfl⟩ | ⟨rfl, rfl⟩ <;> rfl
  have hsteady : registry.Steady setup.tree := by
    intro id e he
    rcases hget id e he with ⟨-, rfl⟩ | ⟨-, rfl⟩
    · exact Engine.steady_of_supplied rfl fun _ _ _ => rfl
    · exact Engine.steady_of_supplied rfl fun _ _ _ => rfl
  refine ⟨hkeyed, hsteady, by decide, ?_⟩
  have hagrees := (execute_agrees setup registry groups hkeyed hsteady (by decide)).1
  have hsame : ∀ (x : Except Fault SequenceCourse) (y : Except Fault (List Outcome)),
      x.map SequenceCourse.outcomes = y →
      x.toOption.map (fun course => course.outcomes.map Outcome.rules) =
        y.toOption.map (List.map Outcome.rules) := by
    rintro x y rfl
    cases x <;> rfl
  rw [hsame _ _ hagrees]
  decide +kernel

end RuleAudit
