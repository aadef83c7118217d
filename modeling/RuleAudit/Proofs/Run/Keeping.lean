import RuleAudit.Proofs.Run.Agreement
import RuleAudit.Proofs.Verdict

/-!
# Properties that serving calls keeps

`Registry.Later` allows an engine any call. Here the calls are those of jobs of a kind, and a
property of registries that such calls keep (`Keeps`) holds throughout: one job after another
(`Keeps.runJobs`), along every interleaving of lanes (`Keeps.unfolds_of_reaches`), and so in every
run of groups (`Keeps.execute`). The outcomes are then an unfolding of the batches in which every
call is answered by a registry with the property.
-/

namespace RuleAudit

open Interleaving (State Track Reaches)

/-! ## Rules of jobs -/

namespace Job

theorem rules_of_request {setup : RunSetup} {job : Job} {call : Call}
    (h : job.request setup = .ok call) : call.rules = job.batch.rules := by
  unfold request at h
  obtain ⟨token, -, rfl⟩ := exists_of_map_eq_ok h
  rfl

/-- A slice has only rules of its job. -/
theorem subset_of_mem_retries {setup : RunSetup} {job slice : Job} {result : Except Fault Report}
    (h : slice ∈ job.retries setup (job.outcome setup result)) :
    ∀ rule ∈ slice.batch.rules, rule ∈ job.batch.rules := by
  obtain ⟨-, i, rules, hpiece, rfl⟩ := exists_of_mem_retries h
  intro rule hrule
  rw [← job.flatten_pieces]
  exact List.mem_flatten.mpr ⟨rules, List.mem_of_getElem? hpiece, hrule⟩

end Job

/-- Serving the calls of jobs of a kind keeps a property of registries, and the slices of such a job
are of the kind too. -/
structure Keeps (setup : RunSetup) (kind : Job → Prop) (p : Registry → Prop) : Prop where
  slices : ∀ job result, kind job →
    ∀ slice ∈ job.retries setup (job.outcome setup result), kind slice
  serves : ∀ registry job engine call, p registry → kind job →
    job.prepareCall setup registry = .ok (engine, call) →
    p (registry.serve setup.tree engine call)

/-- What a call may come to when it is served by a registry with a property. -/
def AnswersUnder (setup : RunSetup) (p : Registry → Prop) (job : Job)
    (result : Except Fault Report) : Prop :=
  ∃ registry, p registry ∧ result = job.answer setup registry

/-- A lane whose jobs are of a kind and whose answers come from registries with a property. -/
structure Interleaving.Track.Kept (setup : RunSetup) (kind : Job → Prop) (p : Registry → Prop)
    (jobs : List Job) (t : Track) : Prop where
  pending : ∀ job ∈ t.pending, kind job
  /-- Whatever the pending jobs unfold to, the lane's jobs unfold to after the outcomes so far. -/
  unfolds : ∀ outcomes, Unfolds setup (AnswersUnder setup p) t.pending outcomes →
    Unfolds setup (AnswersUnder setup p) jobs (t.outcomes ++ outcomes)
  opened : ∀ job call, t.phase = .opened job call → job.request setup = .ok call
  running : ∀ job result, t.phase = .running job result → AnswersUnder setup p job result

/-- Lanes whose jobs are of a kind, with engines that have a property. -/
structure Interleaving.State.Kept (setup : RunSetup) (kind : Job → Prop) (p : Registry → Prop)
    (lanes : List (List Job)) (s : State) : Prop where
  registry : p s.registry
  length : s.tracks.length = lanes.length
  tracks : ∀ (i : Nat) (jobs : List Job) (t : Track), lanes[i]? = some jobs →
    s.tracks[i]? = some t → t.Kept setup kind p jobs

namespace Keeps

variable {setup : RunSetup} {kind : Job → Prop} {p : Registry → Prop}

/-! ## One job after another -/

theorem run (h : Keeps setup kind p) {registry : Registry} (hp : p registry) {job : Job}
    (hjob : kind job) : p (job.run setup registry).registry := by
  unfold Job.run
  split
  · exact hp
  · rename_i engine call hprepared
    show p (job.call setup registry engine call).1
    rw [Job.call_registry]
    exact h.serves registry job engine call hp hjob hprepared

/-- Jobs of the kind keep the property, and every answer is given under it. -/
theorem runJobs (h : Keeps setup kind p) {registry : Registry} (hp : p registry)
    {jobs : List Job} (hjobs : ∀ job ∈ jobs, kind job) :
    p (runJobs setup registry jobs).registry ∧
      Unfolds setup (AnswersUnder setup p) jobs (RuleAudit.runJobs setup registry jobs).outcomes := by
  induction hweight : totalWeight jobs using Nat.strongRecOn generalizing registry jobs with
  | ind weight ih =>
    match jobs with
    | [] => exact ⟨hp, .nil⟩
    | job :: rest =>
      -- a job weighs more than its slices together, so the weight of what is left falls
      have hless := job.totalWeight_retries_lt setup (job.answer setup registry)
      have hjob := hjobs job List.mem_cons_self
      have hleft : ∀ other ∈ job.retries setup (job.outcome setup (job.answer setup registry)) ++
          rest, kind other := by
        intro other hother
        rcases List.mem_append.mp hother with hslice | hrest
        · exact h.slices job _ hjob other hslice
        · exact hjobs other (List.mem_cons_of_mem _ hrest)
      have hlater := ih _ (by
        rw [← hweight, totalWeight_append, totalWeight_cons]
        omega) (h.run hp hjob) hleft rfl
      rw [runJobs_cons]
      dsimp only
      rw [Job.run_outcome]
      exact ⟨hlater.1, .of_retries_append ⟨registry, hp, rfl⟩ hlater.2⟩

/-! ## Lanes -/

section Lanes

variable {lanes : List (List Job)} {s : State}

theorem start {registry : Registry} (hp : p registry) (slots : Nat)
    (hjobs : ∀ jobs ∈ lanes, ∀ job ∈ jobs, kind job) :
    (Interleaving.start registry slots lanes).Kept setup kind p lanes := by
  refine ⟨hp, List.length_map _, fun i jobs t hlane htrack => ?_⟩
  simp only [Interleaving.start, List.getElem?_map, hlane, Option.map_some,
    Option.some.injEq] at htrack
  subst htrack
  refine ⟨hjobs jobs (List.mem_of_getElem? hlane), fun outcomes houtcomes => houtcomes, ?_, ?_⟩
  · intro job call hopened
    cases hopened
  · intro job result hrunning
    cases hrunning

/-- Only one lane changes. -/
theorem set (hs : s.Kept setup kind p lanes) {i : Nat} {t t' : Track} {registry : Registry}
    {free : Nat} (htrack : s.tracks[i]? = some t) (hp : p registry)
    (hkept : ∀ jobs, t.Kept setup kind p jobs → t'.Kept setup kind p jobs) :
    State.Kept setup kind p lanes
      { registry := registry, free := free, tracks := s.tracks.set i t' } := by
  refine ⟨hp, by simpa using hs.length, fun j jobs u hlane hu => ?_⟩
  obtain ⟨hi, -⟩ := List.getElem?_eq_some_iff.mp htrack
  dsimp only at hu
  by_cases hij : i = j
  · subst hij
    rw [List.getElem?_set_self hi] at hu
    cases hu
    exact hkept jobs (hs.tracks i jobs t hlane htrack)
  · rw [List.getElem?_set_ne hij] at hu
    exact hs.tracks j jobs u hlane hu

theorem exists_kept (hs : s.Kept setup kind p lanes) {i : Nat} {t : Track}
    (htrack : s.tracks[i]? = some t) : ∃ jobs, t.Kept setup kind p jobs := by
  have hi := (List.getElem?_eq_some_iff.mp htrack).1
  exact ⟨_, hs.tracks i _ t (List.getElem?_eq_getElem (hs.length ▸ hi)) htrack⟩

/-- A lane closes a job. -/
theorem close (h : Keeps setup kind p) {jobs rest : List Job} {t : Track} {job : Job}
    {result : Except Fault Report} (ht : t.Kept setup kind p jobs)
    (hpending : t.pending = job :: rest) (hanswer : AnswersUnder setup p job result) :
    (Track.close setup { t with jobs := rest } job result).Kept setup kind p jobs := by
  have hphase := Track.phase_close setup { t with jobs := rest } job result
  have hjobs : ∀ other ∈ job :: rest, kind other := hpending ▸ ht.pending
  refine ⟨?_, ?_, ?_, ?_⟩
  · intro other hother
    rw [Track.pending_close] at hother
    rcases List.mem_append.mp hother with hslice | hrest
    · exact h.slices job result (hjobs job List.mem_cons_self) other hslice
    · exact hjobs other (List.mem_cons_of_mem _ hrest)
  · intro outcomes hrest
    rw [Track.pending_close] at hrest
    have hunfolds := ht.unfolds _ (hpending ▸ Unfolds.of_retries_append hanswer hrest)
    simpa [Track.close] using hunfolds
  · intro other call hopened
    rw [hopened] at hphase
    rcases hphase with hphase | hphase <;> cases hphase
  · intro other answer hrunning
    rw [hrunning] at hphase
    rcases hphase with hphase | hphase <;> cases hphase

/-- Every step of lanes keeps the property. -/
theorem step (h : Keeps setup kind p) (hs : s.Kept setup kind p lanes) {s' : State}
    (hstep : Interleaving.Step setup s s') : s'.Kept setup kind p lanes := by
  cases hstep with
  | @acquire i t track phase work slot =>
    refine set hs track hs.registry fun jobs ht => ⟨?_, ?_, ?_, ?_⟩
    · intro job hjob
      exact ht.pending job (by simpa [Track.pending, phase] using hjob)
    · intro outcomes hrest
      exact ht.unfolds outcomes (by simpa [Track.pending, phase] using hrest)
    · intro job call hopened
      cases hopened
    · intro job result hrunning
      cases hrunning
  | @refuse i t job rest f track phase next refused =>
    refine set hs track hs.registry fun jobs ht => h.close ht ?_ ?_
    · simp [Track.pending, phase, next]
    · exact ⟨s.registry, hs.registry, (Job.answer_of_error refused).symm⟩
  | @openJob i t job rest engine call track phase next made =>
    refine set hs track hs.registry fun jobs ht => ⟨?_, ?_, ?_, ?_⟩
    · intro other hother
      exact ht.pending other (by simpa [Track.pending, phase, next] using hother)
    · intro outcomes hrest
      exact ht.unfolds outcomes (by simpa [Track.pending, phase, next] using hrest)
    · intro other made' hopened
      cases hopened
      exact (Job.prepareCall_eq_ok_iff.mp made).2
    · intro other result hrunning
      cases hrunning
  | @beginCall i t job call engine track phase found =>
    obtain ⟨jobs₀, ht₀⟩ := exists_kept hs track
    have hprepared : job.prepareCall setup s.registry = .ok (engine, call) :=
      Job.prepareCall_eq_ok_iff.mpr ⟨found, ht₀.opened job call phase⟩
    have hjob : kind job := ht₀.pending job (by simp [Track.pending, phase])
    refine set hs track (h.serves _ _ _ _ hs.registry hjob hprepared) fun jobs ht =>
      ⟨?_, ?_, ?_, ?_⟩
    · intro other hother
      exact ht.pending other (by simpa [Track.pending, phase] using hother)
    · intro outcomes hrest
      exact ht.unfolds outcomes (by simpa [Track.pending, phase] using hrest)
    · intro other made hopened
      cases hopened
    · intro other result hrunning
      cases hrunning
      -- the answer is fixed when the call begins, with the engines as they are then
      exact ⟨s.registry, hs.registry, (Job.answer_of_ok hprepared).symm⟩
  | @closeCall i t job result track phase =>
    refine set hs track hs.registry fun jobs ht => h.close ht ?_ (ht.running job result phase)
    simp [Track.pending, phase]

theorem of_reaches (h : Keeps setup kind p) (hs : s.Kept setup kind p lanes) {s' : State}
    (hreaches : Reaches setup s s') : s'.Kept setup kind p lanes := by
  induction hreaches with
  | refl => exact hs
  | tail _ hstep ih => exact h.step ih hstep

/-- When no lane has work left, the outcomes are an unfolding of all jobs. -/
theorem unfolds_of_finished (hs : s.Kept setup kind p lanes) (hfinished : s.Finished) :
    Unfolds setup (AnswersUnder setup p) lanes.flatten s.outcomes := by
  refine Unfolds.flatten (by rw [List.length_map, hs.length]) ?_
  intro i jobs outcomes hlane houtcomes
  rw [List.getElem?_map] at houtcomes
  obtain ⟨t, ht, rfl⟩ := Option.map_eq_some_iff.mp houtcomes
  obtain ⟨hnil, hidle⟩ := hfinished t (List.mem_of_getElem? ht)
  have hpending : t.pending = [] := by rw [Track.pending, hidle, hnil]
  have hunfolds := (hs.tracks i jobs t hlane ht).unfolds [] (hpending ▸ .nil)
  rwa [List.append_nil] at hunfolds

end Lanes

/-- Lanes that run to their end keep the property, and every answer is given under it. -/
theorem runLanes (h : Keeps setup kind p) {registry : Registry} (hp : p registry) {slots : Nat}
    (hslots : 1 ≤ slots) {lanes : List (List Job)} (hjobs : ∀ job ∈ lanes.flatten, kind job) :
    p (runLanes setup registry slots lanes).registry ∧
      Unfolds setup (AnswersUnder setup p) lanes.flatten
        (RuleAudit.runLanes setup registry slots lanes).outcomes := by
  have hinv := Interleaving.Invariant.start setup registry slots lanes
  obtain ⟨stages, s, hreaches, hshows⟩ :=
    (Machine.follows_initial setup registry slots lanes).runWithin hinv (laneFuel setup lanes)
  have hkept := h.of_reaches (start hp slots fun jobs hlane job hjob =>
    hjobs job (List.mem_flatten.mpr ⟨jobs, hlane, hjob⟩)) hreaches
  have hfinished := hshows.finished_of_laneFuel hreaches hslots
  refine ⟨?_, ?_⟩
  · have hregistry := hkept.registry
    rwa [hshows.registry] at hregistry
  · have hunfolds := unfolds_of_finished hkept hfinished
    rwa [hshows.outcomes] at hunfolds

/-! ## Groups -/

/-- A run of groups whose batches are of the kind keeps the property, and every answer is given
under it. -/
theorem execute (h : Keeps setup kind p) {registry : Registry} (hp : p registry)
    {groups : Keyed (List Rule)} {batches : List Batch}
    (hbatches : batchesOf setup groups = .ok batches) (hjobs : ∀ job ∈ jobsOf batches, kind job) :
    ∃ course, execute setup registry groups = .ok course ∧ p course.registry ∧
      Unfolds setup (AnswersUnder setup p) (jobsOf batches) course.outcomes := by
  obtain ⟨lanes, hlanes, hflatten⟩ := exists_lanesOf registry hbatches
  rw [← hflatten] at hjobs ⊢
  by_cases hslots : setup.limits.maxConcurrentBatches ≤ 1
  · refine ⟨RuleAudit.runJobs setup registry lanes.flatten, ?_, h.runJobs hp hjobs⟩
    rw [RuleAudit.execute, hlanes]
    exact if_pos hslots
  · refine ⟨RuleAudit.runLanes setup registry setup.limits.maxConcurrentBatches.toNat lanes, ?_,
      h.runLanes hp (by omega) hjobs⟩
    rw [RuleAudit.execute, hlanes]
    exact if_neg hslots

end Keeps

end RuleAudit
