import RuleAudit.Proofs.Conservation
import RuleAudit.Proofs.Run.Calls
import RuleAudit.Proofs.Verdict

/-!
# Limits on concurrent calls

The batches of an engine are numbered in order, and unless the engine can serve several calls at
once they are all in one lane. So in every state that lanes can come to, as many calls as there are
slots may be under way, such an engine has at most one of them, and its calls begin batch by batch
(`execute_limits_calls`).
-/

namespace RuleAudit

open Interleaving (State Track Trace)

/-! ## Batches in order -/

theorem pairwise_numberBatches (engine : String) (total first : Nat) (pieces : List (List Rule)) :
    (∀ b ∈ numberBatches engine total first pieces, first ≤ b.number) ∧
      (numberBatches engine total first pieces).Pairwise fun b c => b.number < c.number := by
  induction pieces generalizing first with
  | nil => exact ⟨fun b hb => absurd hb List.not_mem_nil, .nil⟩
  | cons rules rest ih =>
    obtain ⟨hleast, hlater⟩ := ih (first + 1)
    refine ⟨fun b hb => ?_, .cons (fun b hb => hleast b hb) hlater⟩
    rcases List.mem_cons.mp hb with rfl | hb
    · exact Nat.le_refl _
    · exact Nat.le_of_succ_le (hleast b hb)

/-- The batches of an engine have increasing numbers. -/
theorem pairwise_createBatches {engine : String} {rules : List Rule} {size : Int}
    {batches : List Batch} (h : createBatches engine rules size = .ok batches) :
    batches.Pairwise fun b c => b.number < c.number := by
  obtain ⟨pieces, -, rfl⟩ := exists_of_map_eq_ok h
  exact (pairwise_numberBatches engine pieces.length 1 pieces).2

section Batches

variable {setup : RunSetup} {groups : Keyed (List Rule)} {batches : List Batch}

theorem exists_of_batchesOf_cons {engine : String} {rules : List Rule}
    (h : batchesOf setup ((engine, rules) :: groups) = .ok batches) :
    ∃ first later,
      createBatches engine rules (resolveBatchSize setup.limits setup.files.length) = .ok first ∧
      batchesOf setup groups = .ok later ∧ batches = first ++ later := by
  obtain ⟨first, hfirst, hrest⟩ := exists_of_bind_eq_ok h
  obtain ⟨later, hlater, heq⟩ := exists_of_bind_eq_ok hrest
  exact ⟨first, later, hfirst, hlater, (Except.ok.inj heq).symm⟩

/-- Batches are for the engines of the groups. -/
theorem engine_mem_keys (h : batchesOf setup groups = .ok batches) :
    ∀ b ∈ batches, b.engine ∈ groups.keys := by
  induction groups generalizing batches with
  | nil =>
    cases h
    exact fun b hb => absurd hb List.not_mem_nil
  | cons group rest ih =>
    obtain ⟨first, later, hfirst, hlater, rfl⟩ := exists_of_batchesOf_cons h
    intro b hb
    rcases List.mem_append.mp hb with hb | hb
    · rw [((createBatches_eq_ok hfirst).1 b hb).1]
      exact List.mem_cons_self
    · exact List.mem_cons_of_mem _ (ih hlater b hb)

/-- The jobs of each engine are in the order in which it is to be called. -/
theorem pairwise_before_jobsOf (h : batchesOf setup groups = .ok batches)
    (hkeys : groups.keys.Nodup) (engine : String) :
    (jobsFor engine (jobsOf batches)).Pairwise Job.Before := by
  induction groups generalizing batches with
  | nil =>
    cases h
    exact .nil
  | cons group rest ih =>
    obtain ⟨name, rules⟩ := group
    obtain ⟨hname, hrest⟩ := List.nodup_cons.mp hkeys
    obtain ⟨first, later, hfirst, hlater, rfl⟩ := exists_of_batchesOf_cons h
    have hfor : ∀ job ∈ jobsOf first, job.batch.engine = name := by
      intro job hjob
      obtain ⟨b, hb, rfl⟩ := List.mem_map.mp hjob
      exact ((createBatches_eq_ok hfirst).1 b hb).1
    rw [show jobsOf (first ++ later) = jobsOf first ++ jobsOf later from List.map_append,
      jobsFor_append]
    by_cases hengine : name = engine
    · subst hengine
      have hothers : jobsFor name (jobsOf later) = [] := by
        refine jobsFor_eq_nil _ fun job hjob heq => ?_
        obtain ⟨b, hb, rfl⟩ := List.mem_map.mp hjob
        exact hname (heq ▸ engine_mem_keys hlater b hb)
      rw [hothers, List.append_nil, jobsFor_eq_self _ hfor]
      exact List.pairwise_map.mpr ((pairwise_createBatches hfirst).imp Or.inl)
    · rw [jobsFor_eq_nil _ fun job hjob => by rwa [hfor job hjob], List.nil_append]
      exact ih hlater hrest

end Batches

/-! ## The lane of an engine -/

section Lanes

variable {setup : RunSetup} {registry : Registry} {groups : Keyed (List Rule)}
  {lanes : List (List Job)}

theorem exists_batchesOf (h : lanesOf setup registry groups = .ok lanes) :
    ∃ batches, batchesOf setup groups = .ok batches ∧ lanes.flatten = jobsOf batches := by
  have hflatten := lanesOf_flatten setup registry groups
  rw [h] at hflatten
  obtain ⟨batches, hbatches, heq⟩ := exists_of_map_eq_ok hflatten.symm
  exact ⟨batches, hbatches, heq.symm⟩

theorem engine_mem_keys_of_lanesOf (h : lanesOf setup registry groups = .ok lanes)
    {jobs : List Job} (hjobs : jobs ∈ lanes) {job : Job} (hjob : job ∈ jobs) :
    job.batch.engine ∈ groups.keys := by
  obtain ⟨batches, hbatches, hflatten⟩ := exists_batchesOf h
  have hmem : job ∈ jobsOf batches := hflatten ▸ List.mem_flatten.mpr ⟨jobs, hjobs, hjob⟩
  obtain ⟨b, hb, rfl⟩ := List.mem_map.mp hmem
  exact engine_mem_keys hbatches b hb

/-- The lanes of a group are for its engine; there is one unless the engine can serve several calls
at once. -/
theorem groupLanes_eq_ok {engine : String} {rules : List Rule}
    (h : groupLanes setup registry engine rules = .ok lanes) :
    (∀ jobs ∈ lanes, ∀ job ∈ jobs, job.batch.engine = engine) ∧
      ((∀ e, registry.get? engine = some e → e.concurrencySafe = false) →
        ∃ jobs, lanes = [jobs]) := by
  refine ⟨fun jobs hjobs job hjob => ?_, fun hserial => ?_⟩
  · have hflatten := groupLanes_flatten setup registry engine rules
    rw [h] at hflatten
    obtain ⟨batches, hbatches, heq⟩ := exists_of_map_eq_ok hflatten.symm
    have hmem : job ∈ jobsOf batches := heq ▸ List.mem_flatten.mpr ⟨jobs, hjobs, hjob⟩
    obtain ⟨b, hb, rfl⟩ := List.mem_map.mp hmem
    exact ((createBatches_eq_ok hbatches).1 b hb).1
  · have hsafe : ((registry.get? engine).map Engine.concurrencySafe).getD false = false := by
      cases hget : registry.get? engine with
      | none => rfl
      | some e => exact hserial e hget
    obtain ⟨batches, -, hlanes⟩ := exists_of_bind_eq_ok h
    dsimp only at hlanes
    rw [hsafe] at hlanes
    exact ⟨jobsOf batches, (Except.ok.inj hlanes).symm⟩

/-- The jobs of an engine that serves one call at a time are all in one lane. -/
theorem exists_lane_of_engine {engine : String}
    (hserial : ∀ e, registry.get? engine = some e → e.concurrencySafe = false)
    (hkeys : groups.keys.Nodup) (h : lanesOf setup registry groups = .ok lanes) :
    ∃ i : Nat, ∀ (j : Nat) (jobs : List Job), lanes[j]? = some jobs → j ≠ i →
      ∀ job ∈ jobs, job.batch.engine ≠ engine := by
  induction groups generalizing lanes with
  | nil =>
    cases h
    exact ⟨0, by simp⟩
  | cons group rest ih =>
    obtain ⟨name, rules⟩ := group
    obtain ⟨hname, hrest⟩ := List.nodup_cons.mp hkeys
    obtain ⟨first, hfirst, hmore⟩ := exists_of_bind_eq_ok h
    obtain ⟨later, hlater, heq⟩ := exists_of_bind_eq_ok hmore
    obtain rfl : first ++ later = lanes := Except.ok.inj heq
    obtain ⟨hfor, hone⟩ := groupLanes_eq_ok hfirst
    by_cases hengine : name = engine
    · -- the group is that of the engine, and it has one lane, the first
      subst hengine
      obtain ⟨jobs, rfl⟩ := hone hserial
      refine ⟨0, fun j other hj hne job hjob heq => ?_⟩
      obtain ⟨k, rfl⟩ := Nat.exists_eq_succ_of_ne_zero hne
      have hmem : other ∈ later := List.mem_of_getElem? (i := k) hj
      exact hname (heq ▸ engine_mem_keys_of_lanesOf hlater hmem hjob)
    · obtain ⟨i, hi⟩ := ih hrest hlater
      refine ⟨first.length + i, fun j jobs hj hne job hjob => ?_⟩
      rw [List.getElem?_append] at hj
      split at hj
      · rw [hfor jobs (List.mem_of_getElem? hj) job hjob]
        exact hengine
      · exact hi (j - first.length) jobs hj (by omega) job hjob

end Lanes

/-! ## Where a run starts from -/

/-- The lanes of a run and its slots before anything has happened. With one slot there is one lane,
which has all jobs in order. -/
def Interleaving.opening (setup : RunSetup) (registry : Registry) (groups : Keyed (List Rule)) :
    Except Fault State := do
  let lanes ← lanesOf setup registry groups
  if setup.limits.maxConcurrentBatches ≤ 1 then return start registry 1 [lanes.flatten]
  return start registry setup.limits.maxConcurrentBatches.toNat lanes

section Opening

variable {setup : RunSetup} {registry : Registry} {groups : Keyed (List Rule)} {first : State}

theorem exists_of_opening_eq_ok (h : Interleaving.opening setup registry groups = .ok first) :
    ∃ lanes, lanesOf setup registry groups = .ok lanes ∧
      (setup.limits.maxConcurrentBatches ≤ 1 ∧
          first = Interleaving.start registry 1 [lanes.flatten] ∨
        1 < setup.limits.maxConcurrentBatches ∧
          first = Interleaving.start registry setup.limits.maxConcurrentBatches.toNat lanes) := by
  obtain ⟨lanes, hlanes, hrest⟩ := exists_of_bind_eq_ok h
  refine ⟨lanes, hlanes, ?_⟩
  split at hrest
  · rename_i hone
    exact .inl ⟨hone, (Except.ok.inj hrest).symm⟩
  · exact .inr ⟨by omega, (Except.ok.inj hrest).symm⟩

/-- Whatever is done from there, no more calls are under way than the limit allows. -/
theorem length_calls_le_limit (h : Interleaving.opening setup registry groups = .ok first)
    {begun : List Job} {s : State} (htrace : Trace setup first begun s) :
    (s.calls.length : Int) ≤ max 1 setup.limits.maxConcurrentBatches := by
  obtain ⟨lanes, -, ⟨-, rfl⟩ | ⟨hmany, rfl⟩⟩ := exists_of_opening_eq_ok h
  · have hcalls := ((Interleaving.Invariant.start setup registry 1 [lanes.flatten]).of_reaches
      htrace.reaches).length_calls_le
    omega
  · have hcalls := ((Interleaving.Invariant.start setup registry
      setup.limits.maxConcurrentBatches.toNat lanes).of_reaches htrace.reaches).length_calls_le
    omega

/-- The jobs of a lane that starts are ahead of it. -/
theorem Interleaving.start_track {slots : Nat} {lanes : List (List Job)} {j : Nat} {t : Track}
    (h : (start registry slots lanes).tracks[j]? = some t) :
    ∃ jobs, lanes[j]? = some jobs ∧ t.phase = .idle ∧ t.pending = jobs ∧ t.ahead = jobs := by
  simp only [start, List.getElem?_map, Option.map_eq_some_iff] at h
  obtain ⟨jobs, hjobs, rfl⟩ := h
  exact ⟨jobs, hjobs, rfl, rfl, rfl⟩

/-- Lanes that have an engine's jobs in one of them, in order, start in order. -/
theorem Interleaving.Ordered.start (registry : Registry) (slots : Nat) {lanes : List (List Job)}
    {engine : String} {i : Nat}
    (hapart : ∀ (j : Nat) (jobs : List Job), lanes[j]? = some jobs → j ≠ i →
      ∀ job ∈ jobs, job.batch.engine ≠ engine)
    (horder : (jobsFor engine lanes.flatten).Pairwise Job.Before) :
    Ordered engine i [] (start registry slots lanes) := by
  refine ⟨fun j t ht hj job hjob => ?_, fun t job result ht hphase => ?_, ?_⟩
  · obtain ⟨jobs, hjobs, -, hpending, -⟩ := start_track ht
    exact hapart j jobs hjobs hj job (hpending ▸ hjob)
  · obtain ⟨jobs, -, hidle, -⟩ := start_track ht
    rw [hidle] at hphase
    cases hphase
  · cases ht : (Interleaving.start registry slots lanes).tracks[i]? with
    | none =>
      unfold State.ahead
      rw [ht]
      exact .nil
    | some t =>
      obtain ⟨jobs, hjobs, -, -, hahead⟩ := start_track ht
      rw [State.ahead_of_getElem? ht, hahead]
      exact horder.sublist ((List.sublist_flatten_of_mem (List.mem_of_getElem? hjobs)).filter _)

/-- An engine that serves one call at a time has its calls in order wherever steps lead to. -/
theorem exists_ordered (h : Interleaving.opening setup registry groups = .ok first)
    (hkeys : groups.keys.Nodup) {engine : String}
    (hserial : ∀ e, registry.get? engine = some e → e.concurrencySafe = false)
    {begun : List Job} {s : State} (htrace : Trace setup first begun s) :
    ∃ i, Interleaving.Ordered engine i begun s := by
  obtain ⟨lanes, hlanes, hstart⟩ := exists_of_opening_eq_ok h
  obtain ⟨batches, hbatches, hflatten⟩ := exists_batchesOf hlanes
  have horder : (jobsFor engine lanes.flatten).Pairwise Job.Before := by
    rw [hflatten]
    exact pairwise_before_jobsOf hbatches hkeys engine
  rcases hstart with ⟨-, rfl⟩ | ⟨-, rfl⟩
  · refine ⟨0, (Interleaving.Ordered.start registry 1 (fun j jobs hjobs hj => ?_) ?_).of_trace
      htrace⟩
    · rw [List.getElem?_eq_none (by simp; omega)] at hjobs
      cases hjobs
    · rwa [List.flatten_singleton]
  · obtain ⟨i, hi⟩ := exists_lane_of_engine hserial hkeys hlanes
    exact ⟨i, (Interleaving.Ordered.start registry _ hi horder).of_trace htrace⟩

end Opening

/-! ## Runs -/

/-- The jobs whose calls are under way in the lanes of a machine. -/
def Machine.calls (m : Machine) : List Job :=
  m.lanes.filterMap fun lane => lane.live.map LiveCall.job

/-- The calls under way in a machine are those of the lanes it shows. -/
theorem Machine.Shows.calls_eq {m : Machine} {stages : Nat → Option Stage} {s : State}
    (h : m.Shows stages s) : s.calls = m.calls := by
  have hmap : s.tracks.map (fun t => t.phase.call?) =
      m.lanes.map fun lane => lane.live.map LiveCall.job := by
    refine List.ext_getElem? fun i => ?_
    rw [List.getElem?_map, List.getElem?_map, h.tracks]
    cases hlane : m.lanes[i]? with
    | none => rfl
    | some lane => exact congrArg some (Lane.call?_track (h.fits i lane hlane))
  have hcalls := congrArg (List.filterMap id) hmap
  rw [List.filterMap_map, List.filterMap_map] at hcalls
  exact hcalls

section Runs

variable {setup : RunSetup} {registry : Registry} {groups : Keyed (List Rule)} {first : State}

/-- A run is a trace to its end: it has its outcomes and tells of its calls. -/
theorem exists_trace_execute (h : Interleaving.opening setup registry groups = .ok first) :
    ∃ course begun s, execute setup registry groups = .ok course ∧ Trace setup first begun s ∧
      s.Finished ∧ s.outcomes = course.outcomes ∧
      toldCalls course.notices = callsOf setup begun := by
  obtain ⟨lanes, hlanes, ⟨hone, rfl⟩ | ⟨hmany, rfl⟩⟩ := exists_of_opening_eq_ok h
  · obtain ⟨batches, -, hflatten⟩ := exists_batchesOf hlanes
    -- no slice comes first
    have hgoes : Interleaving.goesOn lanes.flatten = false := by
      rw [hflatten]
      cases batches <;> rfl
    have hstart : Interleaving.start registry 1 [lanes.flatten] =
        Interleaving.between registry lanes.flatten [] := by
      unfold Interleaving.start Interleaving.between
      rw [hgoes]
      rfl
    obtain ⟨begun, htold, htrace⟩ :=
      Interleaving.exists_trace_runJobs setup registry lanes.flatten []
    refine ⟨_, begun, _, ?_, hstart ▸ htrace, ?_, ?_, htold⟩
    · rw [execute, hlanes]
      exact if_pos hone
    · intro t ht
      obtain rfl := List.mem_singleton.mp ht
      exact ⟨rfl, rfl⟩
    · exact List.append_nil _
  · refine ⟨runLanes setup registry setup.limits.maxConcurrentBatches.toNat lanes, ?_⟩
    obtain ⟨stages, begun, s, htrace, hshows, htold⟩ := Machine.recounts_runWithin setup registry
      setup.limits.maxConcurrentBatches.toNat lanes (laneFuel setup lanes)
    refine ⟨begun, s, ?_, htrace, hshows.finished_of_laneFuel htrace.reaches (by omega),
      hshows.outcomes, htold⟩
    rw [execute, hlanes]
    exact if_neg (by omega)

/-- At every moment of a run in lanes, the calls under way are those of a state that a trace leads
to, and what has been told of calls is what has begun along it. -/
theorem exists_trace_moment (h : Interleaving.opening setup registry groups = .ok first)
    (hmany : 1 < setup.limits.maxConcurrentBatches) {lanes : List (List Job)}
    (hlanes : lanesOf setup registry groups = .ok lanes) (fuel : Nat) :
    let m := (Machine.initial registry setup.limits.maxConcurrentBatches.toNat lanes).runWithin
      setup fuel
    ∃ begun s, Trace setup first begun s ∧ s.calls = m.calls ∧
      toldCalls m.notices = callsOf setup begun := by
  obtain ⟨found, hfound, ⟨hone, -⟩ | ⟨-, rfl⟩⟩ := exists_of_opening_eq_ok h
  · omega
  · obtain rfl : found = lanes := Except.ok.inj (hfound.symm.trans hlanes)
    obtain ⟨stages, begun, s, htrace, hshows, htold⟩ := Machine.recounts_runWithin setup registry
      setup.limits.maxConcurrentBatches.toNat found fuel
    exact ⟨begun, s, htrace, hshows.calls_eq, htold⟩

end Runs

/-- In every state that a run can come to, whatever its lanes do in which order, no more calls are
under way than the limit allows. An engine that serves one call at a time has at most one of them,
and its calls have begun with increasing batch numbers, the slices of a batch before the next batch.
A run of groups is such a trace to its end, with the outcomes and the calls that it tells of; and at
every moment of a run in lanes its calls under way and the calls told of so far are those of a
trace. -/
theorem execute_limits_calls (setup : RunSetup) (registry : Registry) {groups : Keyed (List Rule)}
    (hgroups : groups.keys.Nodup) {first : State}
    (hfirst : Interleaving.opening setup registry groups = .ok first) :
    (∀ begun s, Trace setup first begun s →
      (s.calls.length : Int) ≤ max 1 setup.limits.maxConcurrentBatches ∧
      ∀ engine, (∀ e, registry.get? engine = some e → e.concurrencySafe = false) →
        (jobsFor engine s.calls).length ≤ 1 ∧
        (jobsFor engine begun).Pairwise fun x y =>
          x.batch.number < y.batch.number ∨ x.batch.number = y.batch.number ∧ 0 < y.attempt) ∧
    (∃ course begun s, execute setup registry groups = .ok course ∧ Trace setup first begun s ∧
      s.Finished ∧ s.outcomes = course.outcomes ∧
      toldCalls course.notices = callsOf setup begun) ∧
    ∀ lanes fuel, lanesOf setup registry groups = .ok lanes →
      1 < setup.limits.maxConcurrentBatches →
      let m := (Machine.initial registry setup.limits.maxConcurrentBatches.toNat lanes).runWithin
        setup fuel
      ∃ begun s, Trace setup first begun s ∧ s.calls = m.calls ∧
        toldCalls m.notices = callsOf setup begun := by
  refine ⟨fun begun s htrace => ⟨length_calls_le_limit hfirst htrace, fun engine hserial => ?_⟩,
    exists_trace_execute hfirst,
    fun lanes fuel hlanes hmany => exists_trace_moment hfirst hmany hlanes fuel⟩
  obtain ⟨i, hordered⟩ := exists_ordered hfirst hgroups hserial htrace
  exact ⟨hordered.length_calls_le_one, (List.pairwise_append.mp hordered.order).1⟩

/-- The narrow engine, made to serve one call at a time. -/
def crampedEngine : Engine :=
  { narrowEngine with id := "cramped", concurrencySafe := false }

/-- Two slots for three engines. The narrow one serves its second batch before the slices of its
first; the cramped one, which fails in the same way, never does. -/
theorem execute_limits_calls_three_engines :
    let setup : RunSetup :=
      { limits :=
          { retryFailedBatches := true
            maxRetries := 1
            ruleBatchSize := some 2
            maxConcurrentBatches := 2 }
        files := [] }
    let registry : Registry :=
      { entries :=
          [("narrow", narrowEngine), ("cramped", crampedEngine), ("patient", patientEngine)] }
    let groups : Keyed (List Rule) :=
      [("narrow", [{ id := "A" }, { id := "B" }, { id := "C" }]),
       ("cramped", [{ id := "D" }, { id := "E" }, { id := "F" }]),
       ("patient", [{ id := "G" }])]
    groups.keys.Nodup ∧ ∃ first, Interleaving.opening setup registry groups = .ok first ∧
      (∀ begun s, Trace setup first begun s → (s.calls.length : Int) ≤ 2 ∧
        (jobsFor "cramped" s.calls).length ≤ 1 ∧
        (jobsFor "cramped" begun).Pairwise fun x y =>
          x.batch.number < y.batch.number ∨ x.batch.number = y.batch.number ∧ 0 < y.attempt) ∧
      (execute setup registry groups).toOption.map (fun course =>
        (toldCalls course.notices).map fun call => (call.batch, call.rules.map Rule.id)) =
        some [(1, ["A", "B"]), (2, ["C"]), (1, ["A"]), (1, ["D", "E"]), (1, ["B"]), (1, ["D"]),
          (1, ["G"]), (1, ["E"]), (2, ["F"])] := by
  intro setup registry groups
  have hgroups : groups.keys.Nodup := by decide
  have hsome : (Interleaving.opening setup registry groups).toOption.isSome = true := by
    decide +kernel
  have hserial : ∀ e, registry.get? "cramped" = some e → e.concurrencySafe = false := by
    intro e he
    have hget : registry.get? "cramped" = some crampedEngine := rfl
    obtain rfl := Option.some.inj (hget.symm.trans he)
    rfl
  cases hfirst : Interleaving.opening setup registry groups with
  | error f =>
    rw [hfirst] at hsome
    cases hsome
  | ok first =>
    refine ⟨hgroups, first, rfl, fun begun s htrace => ?_, by decide +kernel⟩
    obtain ⟨hlimit, hengines⟩ := (execute_limits_calls setup registry hgroups hfirst).1 begun s
      htrace
    exact ⟨hlimit, hengines "cramped" hserial⟩

end RuleAudit
