import RuleAudit.Proofs.Run.Serving

/-!
# The calls that are told of

What a run tells of calls is the calls that begin along a trace, in their order. A machine begins
calls as the lanes that it shows (`Machine.Recounts.step`), and jobs one after another are the trace
of a single lane with a single slot (`exists_trace_runJobs`).
-/

namespace RuleAudit

open Interleaving (State Track Trace)

/-- The call that a notice tells of. -/
def Notice.call? : Notice → Option Call
  | .called _ call => some call
  | _ => none

/-- The calls that are told of, in order. -/
def toldCalls (notices : List Notice) : List Call :=
  notices.filterMap Notice.call?

/-- The calls of jobs, in order. -/
def callsOf (setup : RunSetup) (jobs : List Job) : List Call :=
  jobs.filterMap fun job => (job.request setup).toOption

theorem toldCalls_append (notices more : List Notice) :
    toldCalls (notices ++ more) = toldCalls notices ++ toldCalls more :=
  List.filterMap_append

theorem toldCalls_eq_nil {notices : List Notice} (h : ∀ tag call, .called tag call ∉ notices) :
    toldCalls notices = [] := by
  refine List.filterMap_eq_nil_iff.mpr fun n hn => ?_
  cases n with
  | called tag call => exact absurd hn (h tag call)
  | _ => rfl

theorem callsOf_append (setup : RunSetup) (jobs more : List Job) :
    callsOf setup (jobs ++ more) = callsOf setup jobs ++ callsOf setup more :=
  List.filterMap_append

theorem callsOf_singleton {setup : RunSetup} {job : Job} {call : Call}
    (h : job.request setup = .ok call) : callsOf setup [job] = [call] := by
  unfold callsOf
  rw [List.filterMap_cons, h]
  rfl

/-! ## Lanes -/

namespace Machine

section Frame

variable (setup : RunSetup) (m : Machine) (i : Nat)

theorem grant_notices : m.grant.notices = m.notices := by
  unfold grant
  split <;> rfl

theorem ask_notices : (m.ask i).notices = m.notices := by
  unfold ask
  split <;> rfl

theorem takeSlot_notices : (m.takeSlot i).notices = m.notices := by
  unfold takeSlot
  dsimp only
  split
  · exact grant_notices _
  · rfl

/-- What is told when a job is closed. -/
theorem conclude_notices (lane : Lane) (job : Job) (result : Except Fault Report) (ms : Int) :
    (m.conclude setup i lane job result ms).notices =
      m.notices ++ (job.report setup (job.outcome setup result) ms ++
        job.announceRetries (job.outcome setup result)
          (job.retries setup (job.outcome setup result))) := by
  unfold conclude
  dsimp only
  split
  · split
    · rfl
    · exact grant_notices _
  · exact grant_notices _

/-- Closing a job tells of no call. -/
theorem toldCalls_conclude (lane : Lane) (job : Job) (result : Except Fault Report) (ms : Int) :
    toldCalls (m.conclude setup i lane job result ms).notices = toldCalls m.notices := by
  rw [conclude_notices, toldCalls_append, toldCalls_append,
    toldCalls_eq_nil (not_called_of_countP (job.countP_isCall_report setup _ ms)),
    toldCalls_eq_nil (not_called_of_countP (job.countP_isCall_announceRetries _ _)),
    List.append_nil, List.append_nil]

theorem toldCalls_openJob (lane : Lane) (job : Job) (rest : List Job) :
    toldCalls (m.openJob setup i lane job rest).notices = toldCalls m.notices := by
  have htold : toldCalls (m.tell (job.announce setup)).notices = toldCalls m.notices := by
    show toldCalls (m.notices ++ job.announce setup) = _
    rw [toldCalls_append,
      toldCalls_eq_nil (not_called_of_countP (job.countP_isCall_announce setup)), List.append_nil]
  unfold openJob
  dsimp only
  split
  · exact (toldCalls_conclude setup _ i _ job _ 0).trans htold
  · exact htold

theorem toldCalls_closeCall (lane : Lane) (live : LiveCall) :
    toldCalls (m.closeCall setup i lane live).notices = toldCalls m.notices := by
  unfold closeCall
  dsimp only
  split
  · exact toldCalls_conclude setup _ i lane live.job live.result _
  · exact toldCalls_conclude setup m i lane live.job live.result _

/-- A call that begins is told of. -/
theorem toldCalls_beginCall (lane : Lane) (live : LiveCall) (engine : Engine) :
    toldCalls (m.beginCall setup i lane live engine).notices =
      toldCalls m.notices ++ [live.call] := by
  obtain ⟨quiet, hquiet, hnotices⟩ := beginCall_notices setup m i lane live engine
  have hcons : toldCalls (.called live.tag live.call :: quiet) = live.call :: toldCalls quiet := rfl
  rw [hnotices, toldCalls_append, hcons, toldCalls_eq_nil (not_called_of_isLog hquiet)]

/-- An event that begins no call tells of none. -/
theorem toldCalls_handle {e : LaneEvent} (he : ∀ i, e ≠ .begin i) :
    toldCalls (m.handle setup e).notices = toldCalls m.notices := by
  cases e with
  | ask i =>
    simp only [handle]
    split
    · exact congrArg toldCalls (ask_notices m i)
    · rfl
  | granted i => exact congrArg toldCalls (takeSlot_notices m i)
  | start i =>
    simp only [handle]
    split
    · split
      · exact toldCalls_openJob setup m i _ _ _
      · rfl
    · rfl
  | begin i => exact absurd rfl (he i)
  | finish i =>
    simp only [handle]
    split
    · exact (toldCalls_append _ _).trans (List.append_nil _)
    · rfl
  | close i =>
    simp only [handle]
    split
    · split
      · exact toldCalls_closeCall setup m i _ _
      · rfl
    · rfl
  | drop tag reason => exact (toldCalls_append _ _).trans (List.append_nil _)

end Frame

section Steps

variable {setup : RunSetup} {m : Machine} {first : Registry} {slots : Nat}
  {lanes : List (List Job)} {stages : Nat → Option Stage} {s : State}

/-- An event tells of the calls that begin with it. -/
theorem Shows.toldCalls_handle (h : m.Shows stages s)
    (hinv : Interleaving.Invariant setup first slots lanes s) {e : LaneEvent}
    {rest : List (Nat × LaneEvent)} (hqueue : m.queue = (0, e) :: rest) :
    toldCalls (({ m with queue := rest } : Machine).handle setup e).notices =
      toldCalls m.notices ++ callsOf setup (e.begins m) := by
  by_cases he : ∃ i, e = .begin i
  · obtain ⟨i, rfl⟩ := he
    have htakes : m.Takes i .opened _ := Takes.of_queue hqueue rfl
    obtain ⟨lane, hlane, ⟨live, hlive⟩, htrack⟩ := htakes.exists_lane h
    have hphase : (lane.track (some .opened)).phase = .opened live.job live.call := by
      simp only [Lane.track, hlive]
    obtain ⟨engine, hengine⟩ := hinv.exists_engine htrack hphase
    obtain ⟨jobs, hsound⟩ := hinv.exists_sound htrack
    have hbegins : LaneEvent.begins m (.begin i) = [live.job] := by
      simp only [LaneEvent.begins, hlane, Option.bind_some, hlive, Option.map_some,
        Option.toList_some]
    rw [hbegins, callsOf_singleton (hsound.opened live.job live.call hphase).1]
    rw [h.registry] at hengine
    simp only [Machine.handle, hlane, hlive, hengine]
    exact toldCalls_beginCall setup _ i lane live engine
  · have hquiet : ∀ i, e ≠ .begin i := fun i hi => he ⟨i, hi⟩
    have hnone : e.begins m = [] := by
      cases e with
      | begin i => exact absurd rfl (hquiet i)
      | _ => rfl
    rw [hnone]
    exact (Machine.toldCalls_handle setup _ hquiet).trans (List.append_nil _).symm

/-- A machine that shows lanes which a trace leads to, and tells of the calls of that trace. -/
def Recounts (setup : RunSetup) (first : State) (m : Machine) : Prop :=
  ∃ stages begun s, Trace setup first begun s ∧ m.Shows stages s ∧
    toldCalls m.notices = callsOf setup begun

/-- Every step begins the calls that it tells of. -/
theorem Recounts.step {start : State} (hinv : Interleaving.Invariant setup first slots lanes start)
    (h : m.Recounts setup start) {m' : Machine} (hstep : m.step setup = some m') :
    m'.Recounts setup start := by
  obtain ⟨stages, begun, s, htrace, hshows, htold⟩ := h
  have hreached := hinv.of_reaches htrace.reaches
  obtain ⟨stages', s', htrace', hshows'⟩ := hshows.step hreached hstep
  refine ⟨stages', begun ++ m.begins, s', htrace.trans htrace', hshows', ?_⟩
  rw [callsOf_append, ← htold]
  unfold Machine.step at hstep
  unfold Machine.begins
  split at hstep
  · rename_i e rest hqueue
    cases hstep
    rw [hqueue]
    exact hshows.toldCalls_handle hreached hqueue
  · rename_i passes e rest hqueue
    cases hstep
    rw [hqueue]
    exact (List.append_nil _).symm
  · rename_i hqueue
    split at hstep
    · cases hstep
    · cases hstep
      rw [hqueue]
      exact (List.append_nil _).symm

theorem Recounts.runWithin {start : State}
    (hinv : Interleaving.Invariant setup first slots lanes start) (h : m.Recounts setup start)
    (fuel : Nat) : (m.runWithin setup fuel).Recounts setup start := by
  induction fuel generalizing m with
  | zero => exact h
  | succ fuel ih =>
    unfold Machine.runWithin
    split
    · rename_i m' hstep
      exact ih (h.step hinv hstep)
    · exact h

end Steps

/-- At every moment of a run, lanes are where a trace leads to, and its calls are told of. -/
theorem recounts_runWithin (setup : RunSetup) (registry : Registry) (slots : Nat)
    (lanes : List (List Job)) (fuel : Nat) :
    ((initial registry slots lanes).runWithin setup fuel).Recounts setup
      (Interleaving.start registry slots lanes) :=
  Recounts.runWithin (Interleaving.Invariant.start setup registry slots lanes)
    ⟨_, [], _, .refl, shows_initial registry slots lanes, rfl⟩ fuel

end Machine

/-! ## One job after another -/

/-- A job that can make no call leaves the registry as it is and tells of no call. -/
theorem Job.run_of_error {setup : RunSetup} {registry : Registry} {job : Job} {f : Fault}
    (h : job.prepareCall setup registry = .error f) :
    (job.run setup registry).registry = registry ∧
      toldCalls (job.run setup registry).notices = [] := by
  unfold Job.run
  rw [h]
  refine ⟨rfl, ?_⟩
  dsimp only
  rw [toldCalls_append, toldCalls_eq_nil (not_called_of_countP (job.countP_isCall_announce setup)),
    toldCalls_eq_nil (not_called_of_countP (job.countP_isCall_report setup _ 0)), List.append_nil]

/-- A job that can make a call has its engine serve it, and tells of it. -/
theorem Job.run_of_ok {setup : RunSetup} {registry : Registry} {job : Job} {engine : Engine}
    {call : Call} (h : job.prepareCall setup registry = .ok (engine, call)) :
    (job.run setup registry).registry = registry.serve setup.tree engine call ∧
      toldCalls (job.run setup registry).notices = [call] := by
  have hserved := job.call_registry setup registry engine call
  have hcalls : toldCalls (job.call setup registry engine call).2.1 = [call] := by
    obtain ⟨quiet, hquiet, hnotices⟩ := job.call_notices setup registry engine call
    rw [hnotices, toldCalls_append]
    have hcons : toldCalls (.called engine.tag call :: quiet) = call :: toldCalls quiet := rfl
    rw [hcons, toldCalls_eq_nil (not_called_of_isLog hquiet)]
    split <;> rfl
  unfold Job.run
  rw [h]
  dsimp only
  generalize job.call setup registry engine call = course at hserved hcalls
  obtain ⟨after, notices, result, elapsed⟩ := course
  refine ⟨hserved, ?_⟩
  rw [toldCalls_append, toldCalls_append,
    toldCalls_eq_nil (not_called_of_countP (job.countP_isCall_announce setup)),
    toldCalls_eq_nil (not_called_of_countP (job.countP_isCall_report setup _ elapsed)),
    List.append_nil]
  exact hcalls

namespace Interleaving

/-- A single lane between two jobs; it holds the slot while slices come next. -/
def between (registry : Registry) (jobs : List Job) (outcomes : List Outcome) : State :=
  { registry := registry
    free := if goesOn jobs then 0 else 1
    tracks :=
      [{ jobs := jobs
         phase := if goesOn jobs then .ready else .idle
         outcomes := outcomes }] }

/-- A single lane that holds the slot. -/
def holding (registry : Registry) (t : Track) : State :=
  { registry := registry, free := 0, tracks := [t] }

theorem holding_close (setup : RunSetup) (registry : Registry) (t u : Track) (job : Job)
    (result : Except Fault Report) :
    (holding registry t).close setup 0 u job result =
      between registry (job.retries setup (job.outcome setup result) ++ u.jobs)
        (u.outcomes ++ [job.outcome setup result]) := by
  unfold State.close holding between Track.close
  dsimp only
  cases goesOn (job.retries setup (job.outcome setup result) ++ u.jobs) <;> rfl

/-- A lane with work takes the slot, unless it holds it already. -/
theorem trace_holding (setup : RunSetup) (registry : Registry) (job : Job) (rest : List Job)
    (outcomes : List Outcome) :
    Trace setup (between registry (job :: rest) outcomes) []
      (holding registry { jobs := job :: rest, phase := .ready, outcomes := outcomes }) := by
  cases hgoes : goesOn (job :: rest) with
  | true =>
    unfold between
    rw [hgoes]
    exact .refl
  | false =>
    unfold between
    rw [hgoes]
    exact .single (.acquire (i := 0) (t := { jobs := job :: rest, outcomes := outcomes }) rfl rfl
      (List.cons_ne_nil job rest) Nat.zero_lt_one) rfl

/-- Running a job is a trace of the lane. -/
theorem exists_trace_run (setup : RunSetup) (registry : Registry) (job : Job) (rest : List Job)
    (outcomes : List Outcome) :
    ∃ begun, toldCalls (job.run setup registry).notices = callsOf setup begun ∧
      Trace setup (between registry (job :: rest) outcomes) begun
        (between (job.run setup registry).registry
          (job.retries setup (job.run setup registry).outcome ++ rest)
          (outcomes ++ [(job.run setup registry).outcome])) := by
  have hholding := trace_holding setup registry job rest outcomes
  set ready : Track := { jobs := job :: rest, phase := .ready, outcomes := outcomes }
  rw [Job.run_outcome]
  cases hprepare : job.prepareCall setup registry with
  | error f =>
    obtain ⟨hregistry, htold⟩ := Job.run_of_error hprepare
    refine ⟨[], htold, ?_⟩
    have hrefuse : Step setup (holding registry ready) _ :=
      .refuse (i := 0) (t := ready) rfl rfl rfl hprepare
    have htrace := hholding.trans (.single hrefuse (State.begun_close (t := ready) rfl _ _ _))
    rw [holding_close] at htrace
    rw [hregistry, Job.answer_of_error hprepare]
    exact htrace
  | ok prepared =>
    obtain ⟨engine, call⟩ := prepared
    obtain ⟨hregistry, htold⟩ := Job.run_of_ok hprepare
    obtain ⟨hget, hrequest⟩ := Job.prepareCall_eq_ok_iff.mp hprepare
    refine ⟨[job], htold.trans (callsOf_singleton hrequest).symm, ?_⟩
    rw [hregistry, Job.answer_of_ok hprepare]
    set result := job.judge setup (engine.analyze setup.tree call).2.2
    let opened : Track := { jobs := rest, phase := .opened job call, outcomes := outcomes }
    let running : Track := { jobs := rest, phase := .running job result, outcomes := outcomes }
    have hopen : Step setup (holding registry ready) (holding registry opened) :=
      .openJob (i := 0) (t := ready) rfl rfl rfl hprepare
    have hbegin : Step setup (holding registry opened)
        (holding (registry.serve setup.tree engine call) running) :=
      .beginCall (i := 0) (t := opened) rfl rfl hget
    have hclose : Step setup (holding (registry.serve setup.tree engine call) running) _ :=
      .closeCall (i := 0) (t := running) rfl rfl
    have htrace := ((hholding.trans (.single hopen rfl)).trans (.single hbegin rfl)).trans
      (.single hclose (State.begun_close (t := running) rfl _ _ _))
    rw [holding_close] at htrace
    exact htrace

/-- Jobs one after another are a trace of a single lane to its end. -/
theorem exists_trace_runJobs (setup : RunSetup) (registry : Registry) (jobs : List Job)
    (outcomes : List Outcome) :
    ∃ begun, toldCalls (runJobs setup registry jobs).notices = callsOf setup begun ∧
      Trace setup (between registry jobs outcomes) begun
        (between (runJobs setup registry jobs).registry []
          (outcomes ++ (runJobs setup registry jobs).outcomes)) := by
  induction hweight : totalWeight jobs using Nat.strongRecOn generalizing registry jobs outcomes with
  | ind weight ih =>
    match jobs with
    | [] =>
      refine ⟨[], rfl, ?_⟩
      rw [show (runJobs setup registry []).outcomes = [] from rfl, List.append_nil]
      exact .refl
    | job :: rest =>
      have hless := job.totalWeight_retries_lt setup (job.answer setup registry)
      rw [← Job.run_outcome] at hless
      obtain ⟨begun, htold, htrace⟩ := exists_trace_run setup registry job rest outcomes
      obtain ⟨later, htoldLater, htraceLater⟩ :=
        ih _ (by rw [← hweight, totalWeight_append, totalWeight_cons]; omega)
          (job.run setup registry).registry
          (job.retries setup (job.run setup registry).outcome ++ rest)
          (outcomes ++ [(job.run setup registry).outcome]) rfl
      refine ⟨begun ++ later, ?_, ?_⟩
      · rw [runJobs_cons, callsOf_append, ← htold, ← htoldLater]
        dsimp only
        rw [toldCalls_append, toldCalls_append, toldCalls_eq_nil
          (not_called_of_countP (job.countP_isCall_announceRetries _ _)), List.append_nil]
      · rw [runJobs_cons]
        have hboth := htrace.trans htraceLater
        rw [List.append_assoc, List.singleton_append] at hboth
        exact hboth

end Interleaving

end RuleAudit
