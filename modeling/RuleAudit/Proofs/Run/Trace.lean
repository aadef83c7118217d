import RuleAudit.Proofs.Run.Interleaving

/-!
# Calls along an interleaving

The call of a lane is under way from the moment its job is opened until the job is closed.
`Interleaving.Trace` is an interleaving together with the calls that have begun along it, in order.

* `Invariant.length_calls_le`: no more calls are under way than there are slots.
* `Ordered.step`: an engine whose jobs are all in one lane has them begun in the order of its
  batches, the slices of a batch after its first attempt and before the next batch.
* `Ordered.length_calls_le_one`: such an engine has at most one call under way.
-/

namespace RuleAudit

/-- The order in which an engine is to be called: batch by batch, and within a batch the slices
after the first attempt. -/
def Job.Before (x y : Job) : Prop :=
  x.batch.number < y.batch.number ∨ x.batch.number = y.batch.number ∧ 0 < y.attempt

/-- The jobs for one engine. -/
def jobsFor (engine : String) (jobs : List Job) : List Job :=
  jobs.filter fun job => job.batch.engine == engine

theorem jobsFor_append (engine : String) (x y : List Job) :
    jobsFor engine (x ++ y) = jobsFor engine x ++ jobsFor engine y :=
  List.filter_append x y

theorem jobsFor_eq_nil {engine : String} (jobs : List Job)
    (h : ∀ job ∈ jobs, job.batch.engine ≠ engine) : jobsFor engine jobs = [] :=
  List.filter_eq_nil_iff.mpr fun job hjob => by simpa using h job hjob

theorem jobsFor_eq_self {engine : String} (jobs : List Job)
    (h : ∀ job ∈ jobs, job.batch.engine = engine) : jobsFor engine jobs = jobs :=
  List.filter_eq_self.mpr fun job hjob => by simpa using h job hjob

/-- Slices right after their job are in order. -/
theorem Job.pairwise_before_slices {earlier slices later : List Job} {job : Job}
    (hslices : ∀ slice ∈ slices, slice.batch.number = job.batch.number ∧ 0 < slice.attempt)
    (h : (earlier ++ job :: later).Pairwise Job.Before) :
    (earlier ++ job :: (slices ++ later)).Pairwise Job.Before := by
  rw [List.pairwise_append, List.pairwise_cons] at h ⊢
  obtain ⟨hearlier, ⟨hjob, hlater⟩, hcross⟩ := h
  refine ⟨hearlier, ⟨fun y hy => ?_, ?_⟩, fun x hx y hy => ?_⟩
  · rcases List.mem_append.mp hy with hy | hy
    · exact .inr ⟨(hslices y hy).1.symm, (hslices y hy).2⟩
    · exact hjob y hy
  · refine List.pairwise_append.mpr ⟨?_, hlater, fun x hx y hy => ?_⟩
    · refine List.pairwise_of_forall_mem_list fun x hx y hy => .inr ⟨?_, (hslices y hy).2⟩
      rw [(hslices x hx).1, (hslices y hy).1]
    · unfold Job.Before
      rw [(hslices x hx).1]
      exact hjob y hy
  · simp only [List.mem_cons, List.mem_append] at hy
    rcases hy with rfl | hy | hy
    · exact hcross x hx y List.mem_cons_self
    · -- what came before the job comes before its slices
      have hnumber := (hslices y hy).1
      have hattempt := (hslices y hy).2
      rcases hcross x hx job List.mem_cons_self with hless | ⟨heq, -⟩
      · exact .inl (by omega)
      · exact .inr ⟨by omega, hattempt⟩
    · exact hcross x hx y (List.mem_cons_of_mem _ hy)

namespace Interleaving

/-- The job whose call a lane has under way. -/
def Phase.call? : Phase → Option Job
  | .opened job _ | .running job _ => some job
  | _ => none

/-- The jobs whose calls are under way, lane after lane. -/
def State.calls (s : State) : List Job :=
  s.tracks.filterMap fun t => t.phase.call?

/-- The job whose call begins as a lane goes from one phase to another. -/
def Phase.begun? : Phase → Phase → Option Job
  | .opened job _, .running _ _ => some job
  | _, _ => none

/-- The jobs whose calls begin as lanes go from one state to another. -/
def State.begun (s s' : State) : List Job :=
  (s.tracks.zip s'.tracks).filterMap fun pair => pair.1.phase.begun? pair.2.phase

/-- An interleaving and the jobs whose calls have begun along it, the first one first. -/
inductive Trace (setup : RunSetup) (first : State) : List Job → State → Prop where
  | refl : Trace setup first [] first
  | tail {begun : List Job} {s s' : State} (trace : Trace setup first begun s)
      (step : Step setup s s') : Trace setup first (begun ++ s.begun s') s'

variable {setup : RunSetup} {s s' : State}

theorem Trace.single {begun : List Job} (hstep : Step setup s s') (h : s.begun s' = begun) :
    Trace setup s begun s' := by
  have htrace := Trace.refl.tail hstep
  rwa [h] at htrace

theorem Trace.trans {first : State} {begun later : List Job} (h : Trace setup first begun s)
    (h' : Trace setup s later s') : Trace setup first (begun ++ later) s' := by
  induction h' with
  | refl => rwa [List.append_nil]
  | tail _ hstep ih =>
    rw [← List.append_assoc]
    exact ih.tail hstep

theorem Trace.reaches {first : State} {begun : List Job} (h : Trace setup first begun s) :
    Reaches setup first s := by
  induction h with
  | refl => exact .refl
  | tail _ hstep ih => exact ih.tail hstep

theorem Phase.begun?_self (phase : Phase) : phase.begun? phase = none := by
  cases phase <;> rfl

/-- Where one lane changes, no call of another one begins. -/
theorem State.begun_set {i : Nat} {t : Track} (htrack : s.tracks[i]? = some t) (t' : Track)
    (htracks : s'.tracks = s.tracks.set i t') :
    s.begun s' = (t.phase.begun? t'.phase).toList := by
  have hsame : ∀ tracks : List Track,
      (tracks.zip tracks).filterMap (fun pair => pair.1.phase.begun? pair.2.phase) = [] := by
    intro tracks
    induction tracks with
    | nil => rfl
    | cons u rest ih => rw [List.zip_cons_cons, List.filterMap_cons, Phase.begun?_self, ih]
  unfold State.begun
  rw [htracks]
  clear htracks
  generalize s.tracks = tracks at htrack
  induction tracks generalizing i with
  | nil => cases htrack
  | cons u rest ih =>
    cases i with
    | zero =>
      cases htrack
      rw [List.set_cons_zero, List.zip_cons_cons, List.filterMap_cons, hsame]
      cases t.phase.begun? t'.phase <;> rfl
    | succ i =>
      rw [List.set_cons_succ, List.zip_cons_cons, List.filterMap_cons, Phase.begun?_self]
      exact ih htrack

theorem Phase.begun?_close (phase : Phase) (setup : RunSetup) (t : Track) (job : Job)
    (result : Except Fault Report) : phase.begun? (t.close setup job result).phase = none := by
  rcases t.phase_close setup job result with h | h <;> rw [h] <;> cases phase <;> rfl

/-- No call begins when a job is closed. -/
theorem State.begun_close {i : Nat} {t : Track} (htrack : s.tracks[i]? = some t) (u : Track)
    (job : Job) (result : Except Fault Report) : s.begun (s.close setup i u job result) = [] := by
  rw [State.begun_set htrack _ rfl, Phase.begun?_close]
  rfl

/-! ## Slots -/

/-- A lane with a call under way holds a slot, so there are no more calls than slots. -/
theorem Invariant.length_calls_le {first : Registry} {slots : Nat} {lanes : List (List Job)}
    (h : Invariant setup first slots lanes s) : s.calls.length ≤ slots := by
  have hholds : s.calls.length ≤ s.tracks.countP fun t => t.phase.holds := by
    unfold State.calls
    rw [List.length_filterMap_eq_countP]
    refine List.countP_mono_left fun t _ hcall => ?_
    cases hphase : t.phase with
    | idle =>
      rw [hphase] at hcall
      cases hcall
    | ready | opened | running => rfl
  have hslots := h.slots
  omega

/-! ## Order -/

/-- The jobs of a lane whose calls have not begun. -/
def Track.ahead (t : Track) : List Job :=
  match t.phase with
  | .opened job _ => job :: t.jobs
  | _ => t.jobs

/-- The jobs of one lane whose calls have not begun. -/
def State.ahead (s : State) (i : Nat) : List Job :=
  (s.tracks[i]?.map Track.ahead).getD []

/-- The jobs of an engine are all in one lane, and its calls begin in order. -/
structure Ordered (engine : String) (i : Nat) (begun : List Job) (s : State) : Prop where
  apart : ∀ (j : Nat) (t : Track), s.tracks[j]? = some t → j ≠ i →
    ∀ job ∈ t.pending, job.batch.engine ≠ engine
  /-- The call under way is the last one of the engine that has begun. -/
  running : ∀ (t : Track) (job : Job) (result : Except Fault Report), s.tracks[i]? = some t →
    t.phase = .running job result → job.batch.engine = engine →
    ∃ earlier, jobsFor engine begun = earlier ++ [job]
  order : (jobsFor engine begun ++ jobsFor engine (s.ahead i)).Pairwise Job.Before

section Order

variable {engine : String} {i : Nat} {begun : List Job}

theorem State.ahead_set_self {j : Nat} {t t' : Track} (htrack : s.tracks[j]? = some t)
    (htracks : s'.tracks = s.tracks.set j t') : s'.ahead j = t'.ahead := by
  unfold State.ahead
  rw [htracks, List.getElem?_set_self (List.getElem?_eq_some_iff.mp htrack).1]
  rfl

theorem State.ahead_of_getElem? {t : Track} (htrack : s.tracks[i]? = some t) :
    s.ahead i = t.ahead := by
  unfold State.ahead
  rw [htrack]
  rfl

/-- What has to be seen to when one lane changes: where the lane is that of the engine, the calls
stay in order; where it is not, nothing for the engine comes up. -/
theorem Ordered.set (h : Ordered engine i begun s) {j : Nat} {t t' : Track}
    (htrack : s.tracks[j]? = some t) (htracks : s'.tracks = s.tracks.set j t')
    (hpending : ∀ job ∈ t'.pending, ∃ old ∈ t.pending, job.batch.engine = old.batch.engine)
    (hbegun : ∀ job ∈ t.phase.begun? t'.phase, job ∈ t.pending)
    (hrunning : ∀ job result, t'.phase = .running job result → job.batch.engine = engine →
      ∃ earlier, jobsFor engine (begun ++ s.begun s') = earlier ++ [job])
    (horder : j = i →
      (jobsFor engine (begun ++ s.begun s') ++ jobsFor engine t'.ahead).Pairwise Job.Before) :
    Ordered engine i (begun ++ s.begun s') s' := by
  have hj := (List.getElem?_eq_some_iff.mp htrack).1
  -- a lane that is not the engine's begins no call of it
  have hother : j ≠ i → jobsFor engine (begun ++ s.begun s') = jobsFor engine begun := by
    intro hne
    rw [jobsFor_append, State.begun_set htrack t' htracks,
      jobsFor_eq_nil (Option.toList _), List.append_nil]
    intro job hjob
    exact h.apart j t htrack hne job (hbegun job (Option.mem_toList.mp hjob))
  have hsame : ∀ k, j ≠ k → s'.tracks[k]? = s.tracks[k]? := fun k hk => by
    rw [htracks, List.getElem?_set_ne hk]
  refine ⟨fun k u hu hk job hjob => ?_, fun u job result hu hphase hengine => ?_, ?_⟩
  · by_cases hjk : j = k
    · subst hjk
      rw [htracks, List.getElem?_set_self hj] at hu
      cases hu
      obtain ⟨old, hold, heq⟩ := hpending job hjob
      rw [heq]
      exact h.apart j t htrack hk old hold
    · exact h.apart k u (hsame k hjk ▸ hu) hk job hjob
  · by_cases hji : j = i
    · subst hji
      rw [htracks, List.getElem?_set_self hj] at hu
      cases hu
      exact hrunning job result hphase hengine
    · rw [hother hji]
      exact h.running u job result (hsame i hji ▸ hu) hphase hengine
  · by_cases hji : j = i
    · subst hji
      rw [State.ahead_set_self htrack htracks]
      exact horder rfl
    · rw [hother hji]
      unfold State.ahead
      rw [hsame i hji]
      exact h.order

theorem Track.ahead_close (setup : RunSetup) (t : Track) (job : Job)
    (result : Except Fault Report) :
    (t.close setup job result).ahead =
      job.retries setup (job.outcome setup result) ++ t.jobs := by
  unfold Track.ahead
  rcases t.phase_close setup job result with h | h <;> rw [h] <;> rfl

/-- The slices of a job that is closed take its place, or come right after it. -/
theorem pairwise_before_close {job : Job} {rest : List Job} {result : Except Fault Report}
    {ahead : List Job}
    (hahead : ahead = job :: rest ∨ ahead = rest ∧ (job.batch.engine = engine →
      ∃ earlier, jobsFor engine begun = earlier ++ [job]))
    (h : (jobsFor engine begun ++ jobsFor engine ahead).Pairwise Job.Before) :
    (jobsFor engine begun ++ jobsFor engine
      (job.retries setup (job.outcome setup result) ++ rest)).Pairwise Job.Before := by
  have hslices : ∀ slice ∈ job.retries setup (job.outcome setup result),
      slice.batch.engine = job.batch.engine ∧ slice.batch.number = job.batch.number ∧
        0 < slice.attempt := fun slice hslice => Job.batch_of_mem_retries hslice
  generalize job.retries setup (job.outcome setup result) = slices at hslices
  rw [jobsFor_append]
  by_cases hengine : job.batch.engine = engine
  · rw [jobsFor_eq_self slices fun slice hslice => (hslices slice hslice).1.trans hengine]
    have hplace := fun slice hslice => (hslices slice hslice).2
    rcases hahead with rfl | ⟨rfl, hlast⟩
    · have hjob : jobsFor engine (job :: rest) = job :: jobsFor engine rest :=
        List.filter_cons_of_pos (by simpa using hengine)
      rw [hjob] at h
      refine (Job.pairwise_before_slices hplace h).sublist ?_
      exact List.Sublist.append_left (List.sublist_cons_self _ _) _
    · obtain ⟨earlier, hearlier⟩ := hlast hengine
      rw [hearlier, List.append_assoc, List.singleton_append] at h ⊢
      exact Job.pairwise_before_slices hplace h
  · rw [jobsFor_eq_nil slices fun slice hslice => by rwa [(hslices slice hslice).1],
      List.nil_append]
    refine h.sublist (List.Sublist.append_left (List.Sublist.filter _ ?_) _)
    rcases hahead with rfl | ⟨rfl, -⟩
    · exact List.sublist_cons_self job rest
    · exact List.Sublist.refl _

/-- A lane closes a job, whose call, if it made one, was the last one to begin. -/
theorem Ordered.close (h : Ordered engine i begun s) {j : Nat} {t : Track} {job : Job}
    {rest : List Job} {result : Except Fault Report} (htrack : s.tracks[j]? = some t)
    (hpending : t.pending = job :: rest)
    (hahead : t.ahead = job :: rest ∨
      t.ahead = rest ∧ ∃ answer, t.phase = .running job answer) :
    Ordered engine i
      (begun ++ s.begun (s.close setup j { t with jobs := rest } job result))
      (s.close setup j { t with jobs := rest } job result) := by
  have hphase := Track.phase_close setup { t with jobs := rest } job result
  refine h.set htrack rfl (fun other hother => ?_) (fun other hother => ?_)
    (fun other answer hrunning => ?_) fun hji => ?_
  · rw [Track.pending_close] at hother
    rw [hpending]
    rcases List.mem_append.mp hother with hslice | hrest
    · exact ⟨job, List.mem_cons_self, (Job.batch_of_mem_retries hslice).1⟩
    · exact ⟨other, List.mem_cons_of_mem _ hrest, rfl⟩
  · rw [Phase.begun?_close] at hother
    cases hother
  · rw [hrunning] at hphase
    rcases hphase with hphase | hphase <;> cases hphase
  · subst hji
    rw [State.begun_close htrack, List.append_nil, Track.ahead_close]
    have horder := h.order
    rw [State.ahead_of_getElem? htrack] at horder
    refine pairwise_before_close (hahead.imp_right fun hlast => ?_) horder
    obtain ⟨hrest, answer, hanswer⟩ := hlast
    exact ⟨hrest, h.running t job answer htrack hanswer⟩

/-- Every step keeps the calls of an engine in one lane in order. -/
theorem Ordered.step (h : Ordered engine i begun s) (hstep : Step setup s s') :
    Ordered engine i (begun ++ s.begun s') s' := by
  cases hstep with
  | @acquire j t track phase work slot =>
    have hnone : t.phase.begun? .ready = none := by rw [phase]; rfl
    refine h.set track rfl (fun job hjob => ⟨job, ?_, rfl⟩) (fun job hjob => ?_)
      (by simp) fun hji => ?_
    · simpa [Track.pending, phase] using hjob
    · rw [hnone] at hjob
      cases hjob
    · subst hji
      have horder := h.order
      rw [State.begun_set track _ rfl, hnone]
      simpa [State.ahead_of_getElem? track, Track.ahead, phase] using horder
  | @refuse j t job rest f track phase next refused =>
    exact h.close track (by simp [Track.pending, phase, next])
      (.inl (by simp [Track.ahead, phase, next]))
  | @openJob j t job rest engine call track phase next made =>
    have hnone : t.phase.begun? (.opened job call) = none := by rw [phase]; rfl
    refine h.set track rfl (fun other hother => ⟨other, ?_, rfl⟩) (fun other hother => ?_)
      (by simp) fun hji => ?_
    · simpa [Track.pending, phase, next] using hother
    · rw [hnone] at hother
      cases hother
    · subst hji
      have horder := h.order
      rw [State.begun_set track _ rfl, hnone]
      simpa [State.ahead_of_getElem? track, Track.ahead, phase, next] using horder
  | @beginCall j t job call engine track phase found =>
    have hbegun : ∀ answer, t.phase.begun? (.running job answer) = some job := by
      intro answer
      rw [phase]
      rfl
    refine h.set track rfl (fun other hother => ⟨other, ?_, rfl⟩) (fun other hother => ?_)
      (fun other result hrunning hengine => ?_) fun hji => ?_
    · simpa [Track.pending, phase] using hother
    · obtain rfl : job = other := Option.some.inj ((hbegun _).symm.trans hother)
      simp [Track.pending, phase]
    · cases hrunning
      rw [State.begun_set track _ rfl, hbegun, jobsFor_append]
      exact ⟨jobsFor _ begun, congrArg _ (jobsFor_eq_self _ (by simpa using hengine))⟩
    · -- the job moves from those to begin to those begun
      subst hji
      have horder := h.order
      rw [State.ahead_of_getElem? track] at horder
      rw [State.begun_set track _ rfl, hbegun, jobsFor_append, List.append_assoc, ← jobsFor_append]
      simpa [Track.ahead, phase] using horder
  | @closeCall j t job result track phase =>
    exact h.close track (by simp [Track.pending, phase])
      (.inr ⟨by simp [Track.ahead, phase], result, phase⟩)

/-- A trace keeps the calls of an engine in one lane in order. -/
theorem Ordered.of_trace {first : State} (h : Ordered engine i [] first)
    (htrace : Trace setup first begun s) : Ordered engine i begun s := by
  induction htrace with
  | refl => exact h
  | tail _ hstep ih => exact ih.step hstep

theorem Track.mem_pending_of_call? {t : Track} {job : Job} (h : t.phase.call? = some job) :
    job ∈ t.pending := by
  unfold Track.pending
  cases hphase : t.phase with
  | idle | ready =>
    rw [hphase] at h
    cases h
  | opened other call =>
    rw [hphase] at h
    cases h
    exact List.mem_cons_self
  | running other result =>
    rw [hphase] at h
    cases h
    exact List.mem_cons_self

/-- An engine whose jobs are all in one lane has at most one call under way. -/
theorem Ordered.length_calls_le_one (h : Ordered engine i begun s) :
    (jobsFor engine s.calls).length ≤ 1 := by
  have hcalls : ∀ (j : Nat) (t : Track), s.tracks[j]? = some t → j ≠ i →
      ∀ job ∈ t.phase.call?, job.batch.engine ≠ engine := fun j t ht hj job hjob =>
    h.apart j t ht hj job (Track.mem_pending_of_call? hjob)
  unfold State.calls
  clear h
  generalize s.tracks = tracks at hcalls
  induction tracks generalizing i with
  | nil => exact Nat.zero_le 1
  | cons t rest ih =>
    have hcons : (t :: rest).filterMap (fun t => t.phase.call?) =
        t.phase.call?.toList ++ rest.filterMap fun t => t.phase.call? := by
      rw [List.filterMap_cons]
      cases t.phase.call? <;> rfl
    rw [hcons, jobsFor_append, List.length_append]
    cases i with
    | zero =>
      -- the lane of the engine is the first one
      have hrest : jobsFor engine (rest.filterMap fun t => t.phase.call?) = [] := by
        refine jobsFor_eq_nil _ fun job hjob => ?_
        obtain ⟨u, hu, hcall⟩ := List.mem_filterMap.mp hjob
        obtain ⟨j, hj⟩ := List.mem_iff_getElem?.mp hu
        exact hcalls (j + 1) u hj (Nat.succ_ne_zero j) job hcall
      have hone : (jobsFor engine t.phase.call?.toList).length ≤ t.phase.call?.toList.length :=
        List.length_filter_le _ _
      have hcall : t.phase.call?.toList.length ≤ 1 := by
        cases t.phase.call? <;> simp
      rw [hrest, List.length_nil]
      omega
    | succ i =>
      rw [jobsFor_eq_nil t.phase.call?.toList, List.length_nil, Nat.zero_add]
      · exact ih (i := i) fun j u hu hj => hcalls (j + 1) u hu (by omega)
      · intro job hjob
        exact hcalls 0 t rfl (Nat.succ_ne_zero i).symm job (Option.mem_toList.mp hjob)

end Order

end Interleaving

end RuleAudit
