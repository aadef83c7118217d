import RuleAudit.Proofs.Escape

/-!
# Batch sizes

Rules can be cut into batches of any positive size and of no other. Whatever is asked of settings
that were read, with shipped profiles in between, the limits stay valid
(`Settings.valid_adjustAll`), so the size they give is positive. A run then never fails to cut rules
into batches, nor a failed batch into slices (`Job.partition_slices`).
-/

namespace RuleAudit

/-! ## Limits over time -/

/-- A shipped profile cuts rules into batches. -/
theorem Profile.ruleBatchSize_pos {p : Profile} (h : p ∈ shipped) : 0 < p.ruleBatchSize := by
  revert p
  decide

theorem Profile.mem_shipped_of_named {name : String} {p : Profile} (h : named name = .ok p) :
    p ∈ shipped := by
  unfold named ofName? at h
  split at h
  · rename_i found hfound
    cases h
    exact List.mem_of_find?_eq_some hfound
  · cases h

/-- A profile fills in its own batch size or leaves the one that was given. -/
theorem Profile.apply_ruleBatchSize (p : Profile) (l : Limits) :
    (p.apply l).ruleBatchSize = l.ruleBatchSize ∨
      (p.apply l).ruleBatchSize = some p.ruleBatchSize := by
  unfold apply
  dsimp only
  split <;> split <;> split <;> simp [Limits.markExplicit_ruleBatchSize]

theorem Limits.Valid.apply {l : Limits} (h : l.Valid) {p : Profile} (hp : 0 < p.ruleBatchSize) :
    (p.apply l).Valid := by
  intro size hsize
  rcases p.apply_ruleBatchSize l with hsame | hfilled
  · exact h size (hsame ▸ hsize)
  · obtain rfl : p.ruleBatchSize = size := Option.some.inj (hfilled.symm.trans hsize)
    exact hp

namespace Settings

/-- What may be asked of settings: a section or a field is assigned, or a shipped profile
applied. -/
inductive Adjustment where
  | assign (path : List String) (v : Value)
  | profile (name : String)

/-- Settings after they were asked; what is refused leaves them as they are. -/
def adjust (s : Settings) : Adjustment → Settings
  | .assign path v =>
    match s.assign path v with
    | .ok (s', _) => s'
    | .error _ => s
  | .profile name =>
    match Profile.named name with
    | .ok p => s.applyProfile p
    | .error _ => s

/-- Settings after they were asked one thing after another. -/
def adjustAll (s : Settings) (history : List Adjustment) : Settings :=
  history.foldl adjust s

/-- Settings that were read, or whose limits were read by themselves. -/
def Given (s : Settings) : Prop :=
  (∃ v, read v = .ok s) ∨ ∃ v, Limits.read v = .ok s.performance

theorem Given.valid {s : Settings} (h : s.Given) : s.performance.Valid := by
  rcases h with ⟨v, hv⟩ | ⟨v, hv⟩
  · exact valid_of_read hv
  · exact Verdict.Ensures.of_toExcept (Limits.ensures_check v) hv

theorem valid_adjust {s : Settings} (h : s.performance.Valid) (a : Adjustment) :
    (s.adjust a).performance.Valid := by
  unfold adjust
  cases a with
  | assign path v =>
    dsimp only
    split
    · rename_i s' stored hassign
      exact valid_of_assign h hassign
    · exact h
  | profile name =>
    dsimp only
    split
    · rename_i p hnamed
      exact Limits.Valid.apply h (Profile.ruleBatchSize_pos (Profile.mem_shipped_of_named hnamed))
    · exact h

theorem valid_adjustAll {s : Settings} (h : s.performance.Valid) (history : List Adjustment) :
    (s.adjustAll history).performance.Valid := by
  induction history generalizing s with
  | nil => exact h
  | cons a rest ih => exact ih (valid_adjust h a)

end Settings

/-! ## Slices -/

/-- The size at which a failed batch is to be cut again: the one suggested, or one rule. -/
def Outcome.slicesAsked (o : Outcome) : Int :=
  (o.classification.bind Classification.suggestedSize).getD 1

/-- Cutting a batch again does not fail. -/
theorem Job.partition_slices (setup : RunSetup) (job : Job) (result : Except Fault Report) :
    partition (job.outcome setup result).slicesAsked job.batch.rules =
      .ok (chunks (sliceSize (job.outcome setup result)) job.batch.rules) := by
  have hasked : 0 < (job.outcome setup result).slicesAsked ∧
      (job.outcome setup result).slicesAsked.toNat = sliceSize (job.outcome setup result) := by
    cases result with
    | ok report => exact ⟨Int.one_pos, rfl⟩
    | error f =>
      have hclass : (job.outcome setup (.error f)).classification =
          some (classify (job.failure setup f) job.batch.rules.length) := rfl
      unfold Outcome.slicesAsked sliceSize
      rw [hclass]
      unfold classify
      dsimp only
      split
      · rw [Option.bind_some, Option.getD_some]
        omega
      · exact ⟨Int.one_pos, rfl⟩
  unfold partition
  rw [if_neg (by omega), hasked.2]

/-! ## Cutting rules -/

/-- Rules are cut evenly for every positive size and refused for any other. The limits of settings
that were read give a positive size whatever is asked of them afterwards, so that every group of
rules is cut and runs, and so does every slice. -/
theorem rules_are_cut_evenly :
    (∀ (engine : String) (rules : List Rule) (size : Int), 0 < size →
      ∃ batches, createBatches engine rules size = .ok batches ∧
        CutsEvenly engine rules size.toNat batches) ∧
    (∀ (engine : String) (rules : List Rule) (size : Int), size ≤ 0 →
      createBatches engine rules size =
        .error (.plain .value (some "batch size must be positive"))) ∧
    (∀ s : Settings, s.Given → ∀ history : List Settings.Adjustment,
      (∀ files : Int, 0 < resolveBatchSize (s.adjustAll history).performance files) ∧
      ∀ (setup : RunSetup) (registry : Registry) (groups : Keyed (List Rule)),
        setup.limits = (s.adjustAll history).performance →
          ∃ course, execute setup registry groups = .ok course) ∧
    ∀ (setup : RunSetup) (job : Job) (result : Except Fault Report),
      partition (job.outcome setup result).slicesAsked job.batch.rules =
        .ok (chunks (Job.sliceSize (job.outcome setup result)) job.batch.rules) := by
  refine ⟨fun engine rules size hsize => ?_, fun engine rules size hsize => ?_,
    fun s hs history => ?_, Job.partition_slices⟩
  · exact ⟨_, createBatches_of_pos hsize engine rules,
      createBatches_cutsEvenly (createBatches_of_pos hsize engine rules)⟩
  · exact createBatches_of_nonpos hsize engine rules
  · have hvalid := Settings.valid_adjustAll hs.valid history
    refine ⟨hvalid.resolveBatchSize_pos, fun setup registry groups hlimits => ?_⟩
    cases hcourse : execute setup registry groups with
    | ok course => exact ⟨course, rfl⟩
    | error f => exact absurd hcourse (execute_ne_error (hlimits ▸ hvalid))

/-- Five rules, two at a time. A batch size of zero is refused, a profile then fills one in, and
another finds it given; a section that is no table and an unknown profile change nothing. -/
theorem rules_are_cut_evenly_five :
    let rules : List Rule := ["A", "B", "C", "D", "E"].map fun id => { id }
    let history : List Settings.Adjustment :=
      [.assign ["performance", "rule_batch_size"] (.int 0), .profile "careful", .profile "fast",
        .assign ["performance"] (.int 1), .profile "slow"]
    (∃ batches, createBatches "narrow" rules 2 = .ok batches ∧
      CutsEvenly "narrow" rules 2 batches ∧
      batches.map Batch.ruleIds = [["A", "B"], ["C", "D"], ["E"]]) ∧
    createBatches "narrow" [] 0 = .error (.plain .value (some "batch size must be positive")) ∧
    (Settings.adjustAll {} history).performance.ruleBatchSize = some 10 ∧
    (∀ files : Int, 0 < resolveBatchSize (Settings.adjustAll {} history).performance files) ∧
    ∃ course, execute
      { limits := (Settings.adjustAll {} history).performance, files := [] } {}
      [("narrow", rules)] = .ok course := by
  intro rules history
  obtain ⟨hcut, hrefused, hlimits, -⟩ := rules_are_cut_evenly
  obtain ⟨batches, hbatches, heven⟩ := hcut "narrow" rules 2 (by decide)
  have hgiven : Settings.Given {} := .inl ⟨.table [], rfl⟩
  obtain ⟨hpos, hruns⟩ := hlimits {} hgiven history
  have hids : (createBatches "narrow" rules 2).toOption.map (·.map Batch.ruleIds) =
      some [["A", "B"], ["C", "D"], ["E"]] := by decide +kernel
  rw [hbatches] at hids
  exact ⟨⟨batches, hbatches, heven, Option.some.inj hids⟩, hrefused _ _ _ (by decide),
    by decide +kernel, hpos, hruns _ _ _ rfl⟩

end RuleAudit
