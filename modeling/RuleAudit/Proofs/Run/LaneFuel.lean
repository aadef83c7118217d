import RuleAudit.Proofs.Run.Unfolding
import RuleAudit.Run.Lanes

/-!
# Lanes come to an end

`Machine.budget` bounds the steps a machine can still take. An event in the queue pays for itself
and for what it brings about, a timer pays for the move of the clock as well, and a job pays, each
time it is opened, for its begin and for the turns at which it is passed over. Every step spends
some of the budget (`Machine.budget_step_lt`), and `laneFuel` covers the budget of the lanes at the
start, so that `runLanes` stops only when nothing is left to happen
(`Machine.step_runWithin_laneFuel`).
-/

namespace RuleAudit

/-- The steps that an event pays for, its own included. -/
def LaneEvent.cost (files : Nat) : LaneEvent → Nat
  | .drop _ _ | .start _ => 1
  | .granted _ => 2
  | .ask _ => 3
  | .close _ => 5
  | .finish _ => 7
  | .begin _ => files + 10

/-- The jobs that a lane may still open, slices included. -/
def Lane.left (lane : Lane) : Nat :=
  totalWeight lane.jobs + match lane.live with
    | some live => live.job.weight - 1
    | none => 0

/-- A call once its engine has been asked. -/
def LiveCall.judged (setup : RunSetup) (live : LiveCall) (engine : Engine) : LiveCall :=
  let reply := (engine.analyze setup.tree live.call).2.2
  { live with
    result := live.job.judge setup reply
    lapsed := reply.lapses live.call.timeoutMs }

namespace Machine

/-! ## A call that begins -/

/-- The machine once the engine of a lane's call has been asked. -/
def begun (setup : RunSetup) (m : Machine) (i : Nat) (lane : Lane) (live : LiveCall)
    (engine : Engine) (notices : List Notice) : Machine :=
  { m with
    registry := m.registry.serve setup.tree engine live.call
    lanes := m.lanes.set i { lane with live := some (live.judged setup engine) }
    notices := notices }

/-- A call that begins asks its engine and leaves one event, for its end or its deadline. -/
theorem beginCall_eq (setup : RunSetup) (m : Machine) (i : Nat) (lane : Lane) (live : LiveCall)
    (engine : Engine) :
    ∃ notices, (∃ ms e, m.beginCall setup i lane live engine =
        (m.begun setup i lane live engine notices).after ms e ∧ (e = .close i ∨ e = .finish i)) ∨
      m.beginCall setup i lane live engine =
        (m.begun setup i lane live engine notices).next (.finish i) ∨
      ∃ turns, turns < setup.files.length ∧ m.beginCall setup i lane live engine =
        (m.begun setup i lane live engine notices).push turns (.finish i) := by
  unfold beginCall begun Registry.serve
  dsimp only
  split
  · exact ⟨_, .inl ⟨_, _, rfl, .inl rfl⟩⟩
  · split
    · exact ⟨_, .inl ⟨_, _, rfl, .inr rfl⟩⟩
    · split
      · exact ⟨_, .inr (.inl rfl)⟩
      · exact ⟨_, .inr (.inr ⟨_, by omega, rfl⟩)⟩

/-! ## The budget -/

/-- The steps paid for by what stands in the queue. -/
def queueBudget (files : Nat) (queue : List (Nat × LaneEvent)) : Nat :=
  (queue.map fun entry => entry.1 + entry.2.cost files).sum

/-- The steps paid for by timers, the move of the clock included. -/
def timerBudget (files : Nat) (timers : List (Int × LaneEvent)) : Nat :=
  (timers.map fun timer => 2 + timer.2.cost files).sum

/-- The steps paid for by the lanes that wait for a slot to be kept for them. -/
def lineBudget (waiting : List (Nat × Bool)) : Nat :=
  (waiting.map fun entry => if entry.2 then 0 else 2).sum

/-- The jobs that lanes may still open. -/
def jobsLeft (lanes : List Lane) : Nat :=
  (lanes.map Lane.left).sum

/-- A bound on the steps a machine can still take. -/
def budget (setup : RunSetup) (m : Machine) : Nat :=
  queueBudget setup.files.length m.queue + timerBudget setup.files.length m.timers +
    lineBudget m.waiting + (setup.files.length + 12) * jobsLeft m.lanes

variable (setup : RunSetup) {m : Machine}

@[simp] theorem queueBudget_nil (files : Nat) : queueBudget files [] = 0 := rfl

@[simp] theorem queueBudget_cons (files : Nat) (entry : Nat × LaneEvent)
    (rest : List (Nat × LaneEvent)) :
    queueBudget files (entry :: rest) = entry.1 + entry.2.cost files + queueBudget files rest := by
  simp [queueBudget]

@[simp] theorem queueBudget_append (files : Nat) (queue more : List (Nat × LaneEvent)) :
    queueBudget files (queue ++ more) = queueBudget files queue + queueBudget files more := by
  simp [queueBudget]

@[simp] theorem timerBudget_nil (files : Nat) : timerBudget files [] = 0 := rfl

@[simp] theorem timerBudget_cons (files : Nat) (timer : Int × LaneEvent)
    (rest : List (Int × LaneEvent)) :
    timerBudget files (timer :: rest) = 2 + timer.2.cost files + timerBudget files rest := by
  simp [timerBudget]

@[simp] theorem timerBudget_append (files : Nat) (timers more : List (Int × LaneEvent)) :
    timerBudget files (timers ++ more) = timerBudget files timers + timerBudget files more := by
  simp [timerBudget]

@[simp] theorem lineBudget_nil : lineBudget [] = 0 := rfl

@[simp] theorem lineBudget_cons (entry : Nat × Bool) (rest : List (Nat × Bool)) :
    lineBudget (entry :: rest) = (if entry.2 then 0 else 2) + lineBudget rest := by
  simp [lineBudget]

@[simp] theorem lineBudget_append (waiting more : List (Nat × Bool)) :
    lineBudget (waiting ++ more) = lineBudget waiting + lineBudget more := by
  simp [lineBudget]

/-! ## What the parts of a step spend -/

@[simp] theorem budget_tell (notices : List Notice) :
    (m.tell notices).budget setup = m.budget setup := rfl

theorem budget_push (passes : Nat) (e : LaneEvent) :
    (m.push passes e).budget setup = m.budget setup + passes + e.cost setup.files.length := by
  simp only [budget, push, queueBudget_append, queueBudget_cons, queueBudget_nil]
  omega

theorem budget_next (e : LaneEvent) :
    (m.next e).budget setup = m.budget setup + e.cost setup.files.length := by
  simp only [budget, next, queueBudget_cons]
  omega

theorem budget_after (ms : Int) (e : LaneEvent) :
    (m.after ms e).budget setup = m.budget setup + 2 + e.cost setup.files.length := by
  simp only [budget, after, timerBudget_append, timerBudget_cons, timerBudget_nil]
  omega

theorem budget_setLane {i : Nat} {lane : Lane} (h : m.lanes[i]? = some lane) (lane' : Lane) :
    (m.setLane i lane').budget setup + (setup.files.length + 12) * lane.left =
      m.budget setup + (setup.files.length + 12) * lane'.left := by
  have hsum := sum_map_set Lane.left lane' h
  have hleft : jobsLeft (m.setLane i lane').lanes + lane.left =
      jobsLeft m.lanes + lane'.left := hsum
  have hmul := congrArg ((setup.files.length + 12) * ·) hleft
  simp only [Nat.mul_add] at hmul
  simp only [budget]
  simp only [setLane] at hmul ⊢
  omega

theorem lineBudget_of_markFirst {waiting marked : List (Nat × Bool)} {i : Nat}
    (h : markFirst waiting = some (i, marked)) : lineBudget waiting = lineBudget marked + 2 := by
  induction waiting generalizing marked with
  | nil => cases h
  | cons entry rest ih =>
    obtain ⟨j, kept⟩ := entry
    cases kept with
    | false =>
      cases h
      simp only [lineBudget_cons, Bool.false_eq_true, if_true, if_false]
      omega
    | true =>
      obtain ⟨⟨k, later⟩, hlater, heq⟩ := Option.map_eq_some_iff.mp h
      cases heq
      simp only [lineBudget_cons, if_true]
      have hrest := ih hlater
      omega

/-- A slot kept for a lane spends nothing: the lane has paid for it in line. -/
theorem budget_grant_le : m.grant.budget setup ≤ m.budget setup := by
  unfold grant
  split
  · exact Nat.le_refl _
  · rename_i i marked h
    have hline := lineBudget_of_markFirst h
    rw [budget_push]
    simp only [budget, LaneEvent.cost]
    omega

theorem budget_release_le : m.release.budget setup ≤ m.budget setup :=
  budget_grant_le setup

/-- A job closed by a lane spends its own share and leaves those of its slices. -/
theorem budget_conclude_le {i : Nat} {old : Lane} (h : m.lanes[i]? = some old) (lane : Lane)
    (job : Job) (result : Except Fault Report) (ms : Int) :
    (m.conclude setup i lane job result ms).budget setup +
        (setup.files.length + 12) * old.left + (setup.files.length + 12) ≤
      m.budget setup + (setup.files.length + 12) * (job.weight + totalWeight lane.jobs) + 3 := by
  have hset := budget_setLane setup h
    { jobs := job.retries setup (job.outcome setup result) ++ lane.jobs
      live := none
      outcomes := lane.outcomes ++ [job.outcome setup result] }
  have hless := job.totalWeight_retries_lt setup result
  have hleft : (setup.files.length + 12) *
        totalWeight (job.retries setup (job.outcome setup result) ++ lane.jobs) +
      (setup.files.length + 12) ≤
        (setup.files.length + 12) * (job.weight + totalWeight lane.jobs) := by
    rw [← Nat.mul_succ, totalWeight_append]
    exact Nat.mul_le_mul_left _ (by omega)
  simp only [Lane.left, Nat.add_zero] at hset
  simp only [Lane.left] at hset ⊢
  unfold conclude
  dsimp only
  split
  · split
    · rw [budget_next, budget_tell]
      simp only [LaneEvent.cost]
      omega
    · rw [budget_next]
      refine Nat.le_trans (Nat.add_le_add_right (Nat.add_le_add_right
        (Nat.add_le_add_right (budget_release_le setup) _) _) _) ?_
      rw [budget_tell]
      simp only [LaneEvent.cost]
      omega
  · refine Nat.le_trans (Nat.add_le_add_right (Nat.add_le_add_right
      (budget_release_le setup) _) _) ?_
    rw [budget_tell]
    omega

/-! ## What an event spends -/

theorem budget_ask_lt (i : Nat) :
    (m.ask i).budget setup < m.budget setup + (LaneEvent.ask i).cost setup.files.length := by
  unfold ask
  split
  · rw [budget_next]
    simp only [budget, LaneEvent.cost]
    omega
  · simp only [budget, LaneEvent.cost, lineBudget_append, lineBudget_cons, lineBudget_nil,
      Bool.false_eq_true, if_false]
    omega

theorem lineBudget_filter_le (p : Nat × Bool → Bool) (waiting : List (Nat × Bool)) :
    lineBudget (waiting.filter p) ≤ lineBudget waiting := by
  induction waiting with
  | nil => exact Nat.le_refl _
  | cons entry rest ih =>
    rw [List.filter_cons]
    split
    · simp only [lineBudget_cons]
      omega
    · simp only [lineBudget_cons]
      omega

theorem budget_takeSlot_lt (i : Nat) :
    (m.takeSlot i).budget setup <
      m.budget setup + (LaneEvent.granted i).cost setup.files.length := by
  have hline := lineBudget_filter_le (fun entry => entry.1 != i) m.waiting
  have hleft : ({ m with waiting := m.waiting.filter fun entry => entry.1 != i } :
      Machine).budget setup ≤ m.budget setup := by
    simp only [budget]
    omega
  unfold takeSlot
  dsimp only
  rw [budget_next]
  simp only [LaneEvent.cost]
  split
  · have hgrant := budget_grant_le setup
      (m := { m with waiting := m.waiting.filter fun entry => entry.1 != i })
    omega
  · omega

theorem budget_openJob_lt {i : Nat} {lane : Lane} {job : Job} {rest : List Job}
    (h : m.lanes[i]? = some lane) (hjobs : lane.jobs = job :: rest) :
    (m.openJob setup i lane job rest).budget setup <
      m.budget setup + (LaneEvent.start i).cost setup.files.length := by
  have hleft : (setup.files.length + 12) * (job.weight + totalWeight rest) ≤
      (setup.files.length + 12) * lane.left :=
    Nat.mul_le_mul_left _ (by rw [Lane.left, hjobs, totalWeight_cons]; omega)
  unfold openJob
  dsimp only
  split
  · rename_i f _
    have hclosed := budget_conclude_le setup (m := m.tell (job.announce setup)) h
      { lane with jobs := rest } job (.error f) 0
    rw [budget_tell] at hclosed
    dsimp only at hclosed
    simp only [LaneEvent.cost]
    omega
  · rename_i engine call _
    have hset := budget_setLane setup (m := m.tell (job.announce setup)) h
      { jobs := rest
        live := some { job, call, startedMs := m.now, tag := engine.tag }
        outcomes := lane.outcomes }
    have hone := job.one_le_weight
    -- the share that the job gives up pays for its begin
    have hopened : (setup.files.length + 12) * (totalWeight rest + (job.weight - 1)) +
        (setup.files.length + 12) =
          (setup.files.length + 12) * (job.weight + totalWeight rest) := by
      rw [← Nat.mul_succ]
      congr 1
      omega
    rw [budget_tell] at hset
    simp only [Lane.left] at hset hleft
    rw [budget_push]
    simp only [LaneEvent.cost]
    simp only [tell] at hset ⊢
    omega

/-- A call that has begun keeps the share of its job, and the event of its end is paid for. -/
theorem budget_beginCall_lt {i : Nat} {lane : Lane} {live : LiveCall} (engine : Engine)
    (h : m.lanes[i]? = some lane) (hlive : lane.live = some live) :
    (m.beginCall setup i lane live engine).budget setup <
      m.budget setup + (LaneEvent.begin i).cost setup.files.length := by
  have hlanes := budget_setLane setup h { lane with live := some (live.judged setup engine) }
  have hleft : ({ lane with live := some (live.judged setup engine) } : Lane).left = lane.left := by
    simp only [Lane.left, hlive, LiveCall.judged]
  rw [hleft] at hlanes
  have hbegun : ∀ notices, (m.begun setup i lane live engine notices).budget setup =
      m.budget setup := fun notices => Nat.add_right_cancel hlanes
  obtain ⟨notices, ⟨ms, e, heq, rfl | rfl⟩ | heq | ⟨turns, hturns, heq⟩⟩ :=
    beginCall_eq setup m i lane live engine
  · rw [heq, budget_after, hbegun]
    simp only [LaneEvent.cost]
    omega
  · rw [heq, budget_after, hbegun]
    simp only [LaneEvent.cost]
    omega
  · rw [heq, budget_next, hbegun]
    simp only [LaneEvent.cost]
    omega
  · rw [heq, budget_push, hbegun]
    simp only [LaneEvent.cost]
    omega

theorem budget_closeCall_lt {i : Nat} {lane : Lane} {live : LiveCall}
    (h : m.lanes[i]? = some lane) (hlive : lane.live = some live) :
    (m.closeCall setup i lane live).budget setup <
      m.budget setup + (LaneEvent.close i).cost setup.files.length := by
  have hone := live.job.one_le_weight
  have hleft : (setup.files.length + 12) * (live.job.weight + totalWeight lane.jobs) =
      (setup.files.length + 12) * lane.left + (setup.files.length + 12) := by
    rw [← Nat.mul_succ, Lane.left, hlive]
    congr 1
    dsimp only
    omega
  unfold closeCall
  dsimp only
  simp only [LaneEvent.cost]
  split
  · have hclosed := budget_conclude_le setup
      (m := m.push 0 (.drop live.tag (Job.lateReason live.call.timeoutMs))) h lane live.job
      live.result (m.now - live.startedMs)
    rw [budget_push] at hclosed
    simp only [LaneEvent.cost] at hclosed
    simp only [push] at hclosed ⊢
    omega
  · have hclosed := budget_conclude_le setup h lane live.job live.result
      (m.now - live.startedMs)
    omega

/-- What an event brings about costs less than the event. -/
theorem budget_handle_lt (e : LaneEvent) :
    (m.handle setup e).budget setup < m.budget setup + e.cost setup.files.length := by
  cases e with
  | ask i =>
    simp only [handle]
    split
    · exact budget_ask_lt setup i
    · simp [LaneEvent.cost]
  | granted i => exact budget_takeSlot_lt setup i
  | start i =>
    simp only [handle]
    split
    · rename_i lane hlane
      split
      · rename_i job rest hjobs
        exact budget_openJob_lt setup hlane hjobs
      · simp [LaneEvent.cost]
    · simp [LaneEvent.cost]
  | begin i =>
    simp only [handle]
    split
    · rename_i lane hlane
      split
      · rename_i live hlive
        split
        · rename_i engine _
          exact budget_beginCall_lt setup engine hlane hlive
        · simp [LaneEvent.cost]
      · simp [LaneEvent.cost]
    · simp [LaneEvent.cost]
  | finish i =>
    simp only [handle]
    split
    · rw [budget_push, budget_tell]
      simp only [LaneEvent.cost]
      omega
    · simp [LaneEvent.cost]
  | close i =>
    simp only [handle]
    split
    · rename_i lane hlane
      split
      · rename_i live hlive
        exact budget_closeCall_lt setup hlane hlive
      · simp [LaneEvent.cost]
    · simp [LaneEvent.cost]
  | drop tag reason => simp [handle, LaneEvent.cost]

/-! ## Steps and runs -/

theorem eq_nil_of_nextMoment_eq_none {timers : List (Int × LaneEvent)}
    (h : nextMoment timers = none) : timers = [] := by
  cases timers with
  | nil => rfl
  | cons timer rest =>
    unfold nextMoment at h
    split at h <;> cases h

/-- Some timer is set for the next moment. -/
theorem exists_of_nextMoment_eq_some {timers : List (Int × LaneEvent)} {t : Int}
    (h : nextMoment timers = some t) : ∃ timer ∈ timers, timer.1 ≤ t := by
  induction timers generalizing t with
  | nil => cases h
  | cons timer rest ih =>
    unfold nextMoment at h
    split at h
    · rename_i u hu
      cases h
      obtain ⟨other, hother, hle⟩ := ih hu
      by_cases hmin : timer.1 ≤ u
      · exact ⟨timer, by simp, by omega⟩
      · exact ⟨other, by simp [hother], by omega⟩
    · cases h
      exact ⟨timer, by simp, Int.le_refl _⟩

/-- The clock's move takes the timers that are due into the queue and spends one step for each. -/
theorem budget_due (files : Nat) (t : Int) (timers : List (Int × LaneEvent)) :
    queueBudget files ((timers.filter fun timer => timer.1 ≤ t).map fun timer => (1, timer.2)) +
        timerBudget files (timers.filter fun timer => t < timer.1) +
        (timers.filter fun timer => timer.1 ≤ t).length =
      timerBudget files timers := by
  induction timers with
  | nil => rfl
  | cons timer rest ih =>
    by_cases hdue : timer.1 ≤ t
    · rw [List.filter_cons_of_pos (by simpa using hdue),
        List.filter_cons_of_neg (by simpa using hdue), List.map_cons, List.length_cons,
        queueBudget_cons, timerBudget_cons, ← ih]
      dsimp only
      omega
    · rw [List.filter_cons_of_neg (by simpa using hdue),
        List.filter_cons_of_pos (by simpa using hdue), timerBudget_cons, timerBudget_cons, ← ih]
      omega

/-- Every step spends some of the budget. -/
theorem budget_step_lt {m' : Machine} (h : m.step setup = some m') :
    m'.budget setup < m.budget setup := by
  unfold step at h
  split at h
  · rename_i e rest hqueue
    cases h
    refine Nat.lt_of_lt_of_eq (budget_handle_lt setup e) ?_
    simp only [budget, hqueue, queueBudget_cons]
    omega
  · rename_i passes e rest hqueue
    cases h
    simp only [budget, hqueue, queueBudget_cons, queueBudget_append, queueBudget_nil]
    omega
  · rename_i hqueue
    split at h
    · cases h
    · rename_i t ht
      cases h
      obtain ⟨timer, htimer, hle⟩ := exists_of_nextMoment_eq_some ht
      have hdue := budget_due setup.files.length t m.timers
      have hsome : 0 < (m.timers.filter fun timer => timer.1 ≤ t).length :=
        List.length_pos_of_mem (List.mem_filter.mpr ⟨htimer, by simpa using hle⟩)
      simp only [budget, hqueue, queueBudget_nil]
      omega

/-- A run with fuel for its budget ends because nothing is left to happen. -/
theorem step_runWithin_eq_none {fuel : Nat} (h : m.budget setup ≤ fuel) :
    (m.runWithin setup fuel).step setup = none := by
  induction fuel generalizing m with
  | zero =>
    cases hstep : m.step setup with
    | none => exact hstep
    | some m' =>
      have hspent := budget_step_lt setup hstep
      omega
  | succ fuel ih =>
    unfold runWithin
    cases hstep : m.step setup with
    | none => exact hstep
    | some m' =>
      have hspent := budget_step_lt setup hstep
      exact ih (by omega)

theorem jobsLeft_initial (registry : Registry) (slots : Nat) (lanes : List (List Job)) :
    jobsLeft (initial registry slots lanes).lanes = totalWeight lanes.flatten := by
  simp only [jobsLeft, initial, List.map_map]
  induction lanes with
  | nil => rfl
  | cons jobs rest ih =>
    rw [List.map_cons, List.sum_cons, ih, List.flatten_cons, totalWeight_append]
    rfl

theorem budget_initial_le (registry : Registry) (slots : Nat) (lanes : List (List Job)) :
    (initial registry slots lanes).budget setup ≤ laneFuel setup lanes := by
  have hqueue : queueBudget setup.files.length (initial registry slots lanes).queue =
      3 * lanes.length := by
    simp [queueBudget, initial, Function.comp_def, LaneEvent.cost, Nat.mul_comm]
  have hmul : 3 * lanes.length ≤ (setup.files.length + 12) * lanes.length :=
    Nat.mul_le_mul_right _ (by omega)
  unfold laneFuel
  rw [budget, hqueue, jobsLeft_initial, Nat.mul_comm _ (setup.files.length + 12), Nat.mul_add,
    Nat.mul_add]
  simp only [initial, timerBudget_nil, lineBudget_nil]
  omega

/-- A run of lanes ends because nothing is left to happen. -/
theorem step_runWithin_laneFuel (registry : Registry) (slots : Nat) (lanes : List (List Job)) :
    ((initial registry slots lanes).runWithin setup (laneFuel setup lanes)).step setup = none :=
  step_runWithin_eq_none setup (budget_initial_le setup registry slots lanes)

theorem queue_timers_of_step_eq_none (h : m.step setup = none) :
    m.queue = [] ∧ m.timers = [] := by
  unfold step at h
  split at h
  · cases h
  · cases h
  · rename_i hqueue
    split at h
    · rename_i hmoment
      exact ⟨hqueue, eq_nil_of_nextMoment_eq_none hmoment⟩
    · cases h

end Machine

end RuleAudit
