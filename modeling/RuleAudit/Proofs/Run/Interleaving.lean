import RuleAudit.Proofs.Run.Unfolding
import RuleAudit.Run.Lanes

/-!
# Interleavings of lanes

Lanes share a number of slots and otherwise go their own way. `Interleaving.Step` lets any lane take
its next step at any moment: acquire a free slot for its next batch, open a job, begin its call, and
close it. A lane keeps its slot while slices of the batch are left and gives it back after that. No
order among lanes and no order of waiting is fixed, so the steps cover every schedule that the slots
admit.

* `Invariant.step`: along every interleaving each lane's outcomes are a part of an unfolding of its
  jobs, engines change only by serving calls, and free and held slots add up.
* `Invariant.exists_step`: while work is left some lane can take a step.
* `wellFounded_step`: no interleaving goes on for ever.
* `Invariant.unfolds_of_finished`: at the end the outcomes, lane after lane, are an unfolding of the
  jobs, lane after lane.
-/

namespace RuleAudit.Interleaving

/-- What a lane is doing. -/
inductive Phase where
  /-- It holds no slot. -/
  | idle
  /-- It holds a slot and goes on with its next job. -/
  | ready
  /-- It has opened a job, whose call has not begun. -/
  | opened (job : Job) (call : Call)
  /-- The call of a job is under way and will come to `result`. -/
  | running (job : Job) (result : Except Fault Report)

/-- Whether a lane holds a slot. -/
def Phase.holds : Phase → Bool
  | .idle => false
  | _ => true

/-- A lane: the jobs to come, what it is doing, and the outcomes so far. -/
structure Track where
  jobs : List Job
  phase : Phase := .idle
  outcomes : List Outcome := []

/-- The jobs a lane has not closed. -/
def Track.pending (t : Track) : List Job :=
  match t.phase with
  | .opened job _ | .running job _ => job :: t.jobs
  | _ => t.jobs

/-- Whether the first of some jobs is a slice of the batch before it. -/
def goesOn : List Job → Bool
  | next :: _ => next.attempt > 0
  | [] => false

/-- A lane after it has closed a job. -/
def Track.close (setup : RunSetup) (t : Track) (job : Job) (result : Except Fault Report) : Track :=
  let o := job.outcome setup result
  let jobs := job.retries setup o ++ t.jobs
  { jobs := jobs
    phase := if goesOn jobs then .ready else .idle
    outcomes := t.outcomes ++ [o] }

/-- A lane that has closed a job goes on or gives its slot back. -/
theorem Track.phase_close (setup : RunSetup) (t : Track) (job : Job)
    (result : Except Fault Report) :
    (t.close setup job result).phase = .ready ∨ (t.close setup job result).phase = .idle := by
  unfold Track.close
  dsimp only
  split
  · exact .inl rfl
  · exact .inr rfl

theorem Track.pending_close (setup : RunSetup) (t : Track) (job : Job)
    (result : Except Fault Report) :
    (t.close setup job result).pending =
      job.retries setup (job.outcome setup result) ++ t.jobs := by
  unfold Track.pending
  rcases t.phase_close setup job result with h | h <;> rw [h] <;> rfl

/-- Lanes with their engines and the slots that none of them holds. -/
structure State where
  registry : Registry
  free : Nat
  tracks : List Track

/-- The lanes after one of them has closed a job; it gives its slot back unless it goes on. -/
def State.close (setup : RunSetup) (s : State) (i : Nat) (t : Track) (job : Job)
    (result : Except Fault Report) : State :=
  let closed := t.close setup job result
  { s with
    free := if closed.phase.holds then s.free else s.free + 1
    tracks := s.tracks.set i closed }

/-- One step of one lane. -/
inductive Step (setup : RunSetup) (s : State) : State → Prop where
  /-- A lane with work takes a free slot. -/
  | acquire {i : Nat} {t : Track} (track : s.tracks[i]? = some t) (phase : t.phase = .idle)
      (work : t.jobs ≠ []) (slot : 0 < s.free) :
      Step setup s
        { s with free := s.free - 1, tracks := s.tracks.set i { t with phase := .ready } }
  /-- A lane closes a job that no call can be made for. -/
  | refuse {i : Nat} {t : Track} {job : Job} {rest : List Job} {f : Fault}
      (track : s.tracks[i]? = some t) (phase : t.phase = .ready) (next : t.jobs = job :: rest)
      (refused : job.prepareCall setup s.registry = .error f) :
      Step setup s (s.close setup i { t with jobs := rest } job (.error f))
  /-- A lane opens its next job. -/
  | openJob {i : Nat} {t : Track} {job : Job} {rest : List Job} {engine : Engine} {call : Call}
      (track : s.tracks[i]? = some t) (phase : t.phase = .ready) (next : t.jobs = job :: rest)
      (made : job.prepareCall setup s.registry = .ok (engine, call)) :
      Step setup s
        { s with tracks := s.tracks.set i { t with jobs := rest, phase := .opened job call } }
  /-- The call of a lane begins. -/
  | beginCall {i : Nat} {t : Track} {job : Job} {call : Call} {engine : Engine}
      (track : s.tracks[i]? = some t) (phase : t.phase = .opened job call)
      (found : s.registry.get? job.batch.engine = some engine) :
      Step setup s
        { s with
          registry := s.registry.serve setup.tree engine call
          tracks := s.tracks.set i
            { t with
              phase := .running job (job.judge setup (engine.analyze setup.tree call).2.2) } }
  /-- A lane takes the result of its call. -/
  | closeCall {i : Nat} {t : Track} {job : Job} {result : Except Fault Report}
      (track : s.tracks[i]? = some t) (phase : t.phase = .running job result) :
      Step setup s (s.close setup i t job result)

/-- Lanes before anything has happened. -/
def start (registry : Registry) (slots : Nat) (lanes : List (List Job)) : State :=
  { registry := registry, free := slots, tracks := lanes.map fun jobs => { jobs := jobs } }

/-- A state that an interleaving leads to. -/
def Reaches (setup : RunSetup) : State → State → Prop :=
  Relation.ReflTransGen (Step setup)

/-- No lane has work left. -/
def State.Finished (s : State) : Prop :=
  ∀ t ∈ s.tracks, t.jobs = [] ∧ t.phase = .idle

/-- The outcomes so far, lane after lane. -/
def State.outcomes (s : State) : List Outcome :=
  s.tracks.flatMap Track.outcomes

/-! ## What every step keeps -/

/-- What holds of a lane that started with `jobs`, its engines with `first`. -/
structure Track.Sound (setup : RunSetup) (first : Registry) (jobs : List Job) (t : Track) :
    Prop where
  /-- Whatever the pending jobs unfold to, the lane's jobs unfold to after the outcomes so far. -/
  unfolds : ∀ outcomes, Unfolds setup (first.Answers setup) t.pending outcomes →
    Unfolds setup (first.Answers setup) jobs (t.outcomes ++ outcomes)
  ready : t.phase = .ready → t.jobs ≠ []
  opened : ∀ job call, t.phase = .opened job call →
    job.request setup = .ok call ∧ (first.get? job.batch.engine).isSome
  running : ∀ job result, t.phase = .running job result → first.Answers setup job result

/-- What holds along every interleaving of `lanes` under `slots` slots. -/
structure Invariant (setup : RunSetup) (first : Registry) (slots : Nat) (lanes : List (List Job))
    (s : State) : Prop where
  later : Registry.Later setup.tree first s.registry
  length : s.tracks.length = lanes.length
  slots : s.free + s.tracks.countP (fun t => t.phase.holds) = slots
  sound : ∀ (i : Nat) (jobs : List Job) (t : Track), lanes[i]? = some jobs →
    s.tracks[i]? = some t → t.Sound setup first jobs

variable {setup : RunSetup} {first : Registry} {slots : Nat} {lanes : List (List Job)} {s : State}

theorem Track.Sound.close {jobs rest : List Job} {t : Track} {job : Job}
    {result : Except Fault Report} (h : t.Sound setup first jobs)
    (hpending : t.pending = job :: rest) (hanswer : first.Answers setup job result) :
    (Track.close setup { t with jobs := rest } job result).Sound setup first jobs := by
  have hphase := Track.phase_close setup { t with jobs := rest } job result
  refine ⟨?_, ?_, ?_, ?_⟩
  · intro outcomes hrest
    rw [Track.pending_close] at hrest
    have hjob := h.unfolds _ (hpending ▸ Unfolds.of_retries_append hanswer hrest)
    simpa [Track.close] using hjob
  · intro hready hnil
    simp only [Track.close] at hready hnil
    rw [hnil] at hready
    cases hready
  · intro other call hopened
    rw [hopened] at hphase
    rcases hphase with h | h <;> cases h
  · intro other answer hrunning
    rw [hrunning] at hphase
    rcases hphase with h | h <;> cases h

theorem Invariant.exists_sound (h : Invariant setup first slots lanes s) {i : Nat} {t : Track}
    (htrack : s.tracks[i]? = some t) : ∃ jobs, t.Sound setup first jobs := by
  have hi := (List.getElem?_eq_some_iff.mp htrack).1
  exact ⟨_, h.sound i _ t (List.getElem?_eq_getElem (h.length ▸ hi)) htrack⟩

/-- Only one lane changes, and its slot moves between it and the free ones. -/
theorem Invariant.set (h : Invariant setup first slots lanes s) {i : Nat} {t t' : Track}
    {registry : Registry} {free : Nat} (htrack : s.tracks[i]? = some t)
    (hlater : Registry.Later setup.tree first registry)
    (hfree : free + (if t'.phase.holds then 1 else 0) = s.free + if t.phase.holds then 1 else 0)
    (hsound : ∀ jobs, lanes[i]? = some jobs → t.Sound setup first jobs →
      t'.Sound setup first jobs) :
    Invariant setup first slots lanes
      { registry := registry, free := free, tracks := s.tracks.set i t' } := by
  obtain ⟨hi, ht⟩ := List.getElem?_eq_some_iff.mp htrack
  refine ⟨hlater, by simpa using h.length, ?_, ?_⟩
  -- the count of slots loses what the old track held and gains what the new one holds
  · have hcount := h.slots
    have hpos : (if t.phase.holds then 1 else 0) ≤ s.tracks.countP (fun t => t.phase.holds) := by
      split
      · rename_i hholds
        exact List.countP_pos_iff.mpr ⟨t, List.mem_of_getElem? htrack, hholds⟩
      · exact Nat.zero_le _
    dsimp only
    rw [List.countP_set hi, ht]
    omega
  · intro j jobs u hjobs hu
    dsimp only at hu
    by_cases hij : i = j
    · subst hij
      rw [List.getElem?_set_self hi] at hu
      cases hu
      exact hsound jobs hjobs (h.sound i jobs t hjobs htrack)
    · rw [List.getElem?_set_ne hij] at hu
      exact h.sound j jobs u hjobs hu

/-- Closing a job of a lane that holds a slot. -/
theorem Invariant.close (h : Invariant setup first slots lanes s) {i : Nat} {t : Track} {job : Job}
    {rest : List Job} {result : Except Fault Report} (htrack : s.tracks[i]? = some t)
    (hholds : t.phase.holds = true) (hpending : t.pending = job :: rest)
    (hanswer : first.Answers setup job result) :
    Invariant setup first slots lanes (s.close setup i { t with jobs := rest } job result) := by
  refine h.set htrack h.later ?_ fun jobs _ hsound => hsound.close hpending hanswer
  rw [hholds]
  cases (Track.close setup { t with jobs := rest } job result).phase.holds <;> simp

/-- Every step keeps the invariant. -/
theorem Invariant.step (h : Invariant setup first slots lanes s) {s' : State}
    (hstep : Step setup s s') : Invariant setup first slots lanes s' := by
  cases hstep with
  | @acquire i t track phase work slot =>
    refine h.set track h.later ?_ fun jobs _ hsound => ⟨?_, fun _ => work, ?_, ?_⟩
    · rw [phase]
      simp only [Phase.holds, if_true, Bool.false_eq_true, if_false]
      omega
    · intro outcomes hrest
      exact hsound.unfolds outcomes (by simpa [Track.pending, phase] using hrest)
    · intro job call hopened; cases hopened
    · intro job result hrunning; cases hrunning
  | @refuse i t job rest f track phase next refused =>
    refine h.close track (by rw [phase]; rfl) (by simp [Track.pending, phase, next]) ?_
    exact ⟨s.registry, h.later, (Job.answer_of_error refused).symm⟩
  | @openJob i t job rest engine call track phase next made =>
    obtain ⟨hget, hrequest⟩ := Job.prepareCall_eq_ok_iff.mp made
    refine h.set track h.later (by rw [phase]; rfl) fun jobs _ hsound => ⟨?_, ?_, ?_, ?_⟩
    · intro outcomes hrest
      exact hsound.unfolds outcomes (by simpa [Track.pending, phase, next] using hrest)
    · intro hready; cases hready
    · intro other made hopened
      cases hopened
      exact ⟨hrequest, by rw [← h.later.isSome_get?, hget]; rfl⟩
    · intro other result hrunning; cases hrunning
  | @beginCall i t job call engine track phase found =>
    refine h.set track (h.later.trans (Registry.serve_later found call)) (by rw [phase]; rfl)
      fun jobs _ hsound => ⟨?_, ?_, ?_, ?_⟩
    · intro outcomes hrest
      exact hsound.unfolds outcomes (by simpa [Track.pending, phase] using hrest)
    · intro hready; cases hready
    · intro other made hopened; cases hopened
    · intro other result hrunning
      cases hrunning
      -- the answer is fixed when the call begins, with the engines as they are then
      have hrequest := (hsound.opened job call phase).1
      refine ⟨s.registry, h.later, ?_⟩
      rw [Job.answer_of_ok (Job.prepareCall_eq_ok_iff.mpr ⟨found, hrequest⟩)]
  | @closeCall i t job result track phase =>
    obtain ⟨jobs, hsound⟩ := h.exists_sound track
    exact h.close track (by rw [phase]; rfl) (by simp [Track.pending, phase])
      (hsound.running job result phase)

/-- The invariant holds before anything has happened. -/
theorem Invariant.start (setup : RunSetup) (first : Registry) (slots : Nat)
    (lanes : List (List Job)) :
    Invariant setup first slots lanes (start first slots lanes) := by
  refine ⟨.refl, by simp [Interleaving.start], ?_, ?_⟩
  · have hnone : (Interleaving.start first slots lanes).tracks.countP
        (fun t => t.phase.holds) = 0 := by
      rw [List.countP_eq_zero]
      intro t ht
      obtain ⟨jobs, -, rfl⟩ := List.mem_map.mp ht
      exact Bool.false_ne_true
    rw [hnone]
    rfl
  · intro i jobs t hjobs ht
    simp only [Interleaving.start, List.getElem?_map, hjobs, Option.map_some,
      Option.some.injEq] at ht
    subst ht
    refine ⟨fun outcomes h => h, ?_, ?_, ?_⟩
    · intro hready; cases hready
    · intro job call hopened; cases hopened
    · intro job result hrunning; cases hrunning

/-- The invariant holds wherever an interleaving leads to. -/
theorem Invariant.of_reaches {s s' : State} (h : Invariant setup first slots lanes s)
    (hreaches : Reaches setup s s') : Invariant setup first slots lanes s' := by
  induction hreaches with
  | refl => exact h
  | tail _ hstep ih => exact ih.step hstep

/-! ## Progress -/

/-- The engine of a job that a lane has opened is there. -/
theorem Invariant.exists_engine (h : Invariant setup first slots lanes s) {i : Nat} {t : Track}
    {job : Job} {call : Call} (htrack : s.tracks[i]? = some t)
    (hphase : t.phase = .opened job call) :
    ∃ engine, s.registry.get? job.batch.engine = some engine := by
  obtain ⟨jobs, hsound⟩ := h.exists_sound htrack
  have hsome := (hsound.opened job call hphase).2
  rw [← h.later.isSome_get?] at hsome
  exact Option.isSome_iff_exists.mp hsome

/-- A lane that holds a slot can always take its next step. -/
theorem Invariant.exists_step_of_holds (h : Invariant setup first slots lanes s) {i : Nat}
    {t : Track} (htrack : s.tracks[i]? = some t) (hholds : t.phase.holds = true) :
    ∃ s', Step setup s s' := by
  obtain ⟨jobs, hsound⟩ := h.exists_sound htrack
  cases hphase : t.phase with
  | idle =>
    rw [hphase] at hholds
    cases hholds
  | ready =>
    obtain ⟨job, rest, hjobs⟩ := List.exists_cons_of_ne_nil (hsound.ready hphase)
    cases hcall : job.prepareCall setup s.registry with
    | error f => exact ⟨_, .refuse htrack hphase hjobs hcall⟩
    | ok made => exact ⟨_, .openJob htrack hphase hjobs hcall⟩
  | opened job call =>
    obtain ⟨engine, hget⟩ := h.exists_engine htrack hphase
    exact ⟨_, .beginCall htrack hphase hget⟩
  | running job result => exact ⟨_, .closeCall htrack hphase⟩

/-- While a lane has work left, some lane can take a step. -/
theorem Invariant.exists_step (h : Invariant setup first slots lanes s) (hslots : 1 ≤ slots)
    (hwork : ¬ s.Finished) : ∃ s', Step setup s s' := by
  by_cases hholds : ∃ t ∈ s.tracks, t.phase.holds = true
  · obtain ⟨t, ht, hholds⟩ := hholds
    obtain ⟨i, hi⟩ := List.mem_iff_getElem?.mp ht
    exact h.exists_step_of_holds hi hholds
  · -- no lane holds a slot, so one is free for a lane with work
    have hidle : ∀ t ∈ s.tracks, t.phase = .idle := by
      intro t ht
      cases hphase : t.phase with
      | idle => rfl
      | ready | opened | running => exact absurd ⟨t, ht, by rw [hphase]; rfl⟩ hholds
    have hnone : s.tracks.countP (fun t => t.phase.holds) = 0 := by
      rw [List.countP_eq_zero]
      intro t ht hslot
      exact hholds ⟨t, ht, hslot⟩
    obtain ⟨t, ht, hjobs⟩ : ∃ t ∈ s.tracks, t.jobs ≠ [] := by
      by_contra hnot
      exact hwork fun t ht => ⟨by_contra fun hjobs => hnot ⟨t, ht, hjobs⟩, hidle t ht⟩
    obtain ⟨i, hi⟩ := List.mem_iff_getElem?.mp ht
    have hfree := h.slots
    exact ⟨_, .acquire hi (hidle t ht) hjobs (by omega)⟩

/-! ## Termination -/

/-- The steps a lane may still take inside its job. -/
def Phase.rank : Phase → Nat
  | .idle => 3
  | .ready => 2
  | .opened _ _ => 1
  | .running _ _ => 0

/-- The steps a lane may still take. -/
def Track.work (t : Track) : Nat :=
  4 * totalWeight t.pending + t.phase.rank

/-- The steps that lanes may still take. -/
def State.work (s : State) : Nat :=
  (s.tracks.map Track.work).sum

theorem Track.work_close_lt (setup : RunSetup) {t : Track} {job : Job} {rest : List Job}
    (hpending : t.pending = job :: rest) (result : Except Fault Report) :
    (Track.close setup { t with jobs := rest } job result).work < t.work := by
  have hless := job.totalWeight_retries_lt setup result
  have hrank : (Track.close setup { t with jobs := rest } job result).phase.rank ≤ 3 := by
    rcases Track.phase_close setup { t with jobs := rest } job result with h | h
    · rw [h]
      decide
    · rw [h]
      decide
  unfold Track.work
  rw [Track.pending_close, hpending, totalWeight_append, totalWeight_cons]
  dsimp only
  omega

theorem work_set_lt {s' : State} {i : Nat} {t t' : Track} (htrack : s.tracks[i]? = some t)
    (htracks : s'.tracks = s.tracks.set i t') (h : t'.work < t.work) : s'.work < s.work := by
  have hsum := sum_map_set Track.work t' htrack
  unfold State.work
  rw [htracks]
  omega

theorem Step.work_lt {s' : State} (h : Step setup s s') : s'.work < s.work := by
  cases h with
  | acquire track phase work slot =>
    exact work_set_lt track rfl (by simp [Track.work, Track.pending, phase, Phase.rank])
  | refuse track phase next refused =>
    exact work_set_lt track rfl
      (Track.work_close_lt setup (by simp [Track.pending, phase, next]) _)
  | openJob track phase next made =>
    exact work_set_lt track rfl (by simp [Track.work, Track.pending, phase, next, Phase.rank])
  | beginCall track phase found =>
    exact work_set_lt track rfl (by simp [Track.work, Track.pending, phase, Phase.rank])
  | closeCall track phase =>
    exact work_set_lt track rfl (Track.work_close_lt setup (by simp [Track.pending, phase]) _)

/-- No interleaving goes on for ever. -/
theorem wellFounded_step (setup : RunSetup) :
    WellFounded fun s' s : State => Step setup s s' :=
  Subrelation.wf Step.work_lt (measure State.work).wf

/-! ## The end -/

/-- When no lane has work left, the outcomes are an unfolding of all jobs. -/
theorem Invariant.unfolds_of_finished (h : Invariant setup first slots lanes s)
    (hfinished : s.Finished) :
    Unfolds setup (first.Answers setup) lanes.flatten s.outcomes := by
  refine Unfolds.flatten (by rw [List.length_map, h.length]) ?_
  intro i jobs outcomes hjobs houtcomes
  rw [List.getElem?_map] at houtcomes
  obtain ⟨t, ht, rfl⟩ := Option.map_eq_some_iff.mp houtcomes
  obtain ⟨hnil, hidle⟩ := hfinished t (List.mem_of_getElem? ht)
  have hpending : t.pending = [] := by rw [Track.pending, hidle, hnil]
  have hunfolds := (h.sound i jobs t hjobs ht).unfolds [] (hpending ▸ .nil)
  rwa [List.append_nil] at hunfolds

end RuleAudit.Interleaving
