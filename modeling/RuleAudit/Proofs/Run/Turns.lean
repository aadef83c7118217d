import RuleAudit.Proofs.Run.Agreement
import RuleAudit.Proofs.Run.Calls

/-!
# Batches take turns

A turn is one run of a batch or of a retry slice, as it is told of: the batch before it starts, the
call of its engine, and the outcome once it is over. Every run is made of turns, one for each
outcome (`execute_takes_turns`). One job after another, the turns come one after another. In lanes
they come one after another in each lane, and the lanes are woven together: a machine has told of
the turns that its lanes have finished and of the beginning of the one under way
(`Machine.TakesTurns`), and every step keeps it so (`Machine.TakesTurns.step`).
-/

namespace RuleAudit

open Interleaving (State)

/-! ## Threads -/

section Threads

variable {α : Type}

/-- What is told in one lane, of things told in lanes. -/
def threadOf (told : List (Nat × α)) (i : Nat) : List α :=
  (told.filter fun entry => entry.1 == i).map Prod.snd

theorem threadOf_append (told more : List (Nat × α)) (i : Nat) :
    threadOf (told ++ more) i = threadOf told i ++ threadOf more i := by
  rw [threadOf, List.filter_append, List.map_append]
  rfl

theorem threadOf_here (i : Nat) (items : List α) : threadOf (items.map (Prod.mk i)) i = items := by
  have hall : (items.map (Prod.mk i)).filter (fun entry => entry.1 == i) =
      items.map (Prod.mk i) := by
    refine List.filter_eq_self.mpr fun entry hentry => ?_
    obtain ⟨item, -, rfl⟩ := List.mem_map.mp hentry
    exact beq_self_eq_true i
  rw [threadOf, hall, List.map_map]
  exact List.map_id items

theorem threadOf_elsewhere {i j : Nat} (h : j ≠ i) (items : List α) :
    threadOf (items.map (Prod.mk i)) j = [] := by
  rw [threadOf, List.map_eq_nil_iff, List.filter_eq_nil_iff]
  intro entry hentry
  obtain ⟨item, -, rfl⟩ := List.mem_map.mp hentry
  simpa using Ne.symm h

theorem threadOf_sublist (told : List (Nat × α)) (i : Nat) :
    (threadOf told i).Sublist (told.map Prod.snd) :=
  List.filter_sublist.map _

/-- All that is told is told in some lane, and once. -/
theorem perm_flatMap_threadOf {told : List (Nat × α)} {n : Nat} (h : ∀ entry ∈ told, entry.1 < n) :
    (told.map Prod.snd).Perm ((List.range n).flatMap (threadOf told)) := by
  induction n generalizing told with
  | zero =>
    cases told with
    | nil => exact .nil
    | cons entry rest => exact absurd (h entry List.mem_cons_self) (Nat.not_lt_zero _)
  | succ n ih =>
    -- what is told in the last lane, and the rest
    have hrest : ∀ entry ∈ told.filter (fun entry => !(entry.1 == n)), entry.1 < n := by
      intro entry hentry
      obtain ⟨hmem, hne⟩ := List.mem_filter.mp hentry
      have hlt := h entry hmem
      have hother : entry.1 ≠ n := by simpa using hne
      omega
    have hsame : ∀ i ∈ List.range n,
        threadOf (told.filter fun entry => !(entry.1 == n)) i = threadOf told i := by
      intro i hi
      have hlt := List.mem_range.mp hi
      rw [threadOf, List.filter_filter, threadOf]
      refine congrArg (List.map Prod.snd) (List.filter_congr fun entry _ => ?_)
      by_cases hentry : entry.1 = i
      · have hne : i ≠ n := by omega
        simp [hentry, hne]
      · simp [hentry]
    have hsplit := (List.filter_append_perm (fun entry => entry.1 == n) told).map Prod.snd
    rw [List.map_append] at hsplit
    rw [List.range_succ, List.flatMap_append, List.flatMap_singleton,
      ← List.flatMap_congr hsame]
    exact hsplit.symm.trans (List.perm_append_comm.trans ((ih hrest).append_right _))

/-- A list in which others, each in its order, are woven together. -/
def Weaves (threads : List (List α)) (whole : List α) : Prop :=
  ∃ told : List (Nat × α), told.map Prod.snd = whole ∧
    (∀ entry ∈ told, entry.1 < threads.length) ∧
    ∀ i thread, threads[i]? = some thread → threadOf told i = thread

namespace Weaves

variable {threads : List (List α)} {whole : List α}

theorem singleton (items : List α) : Weaves [items] items := by
  refine ⟨items.map (Prod.mk 0), by simp, fun entry hentry => ?_, fun i thread hthread => ?_⟩
  · obtain ⟨item, -, rfl⟩ := List.mem_map.mp hentry
    exact Nat.one_pos
  · cases i with
    | zero =>
      cases hthread
      exact threadOf_here 0 items
    | succ i => cases hthread

theorem eq_of_singleton {items : List α} (h : Weaves [items] whole) : whole = items := by
  obtain ⟨told, rfl, hbound, hthreads⟩ := h
  rw [← hthreads 0 items rfl, threadOf, List.filter_eq_self.mpr fun entry hentry => ?_]
  have hzero : entry.1 = 0 := Nat.lt_one_iff.mp (hbound entry hentry)
  rw [hzero, beq_self_eq_true]

/-- Each of them keeps its order. -/
theorem sublist (h : Weaves threads whole) : ∀ thread ∈ threads, thread.Sublist whole := by
  obtain ⟨told, rfl, -, hthreads⟩ := h
  intro thread hthread
  obtain ⟨i, hi⟩ := List.mem_iff_getElem?.mp hthread
  rw [← hthreads i thread hi]
  exact threadOf_sublist told i

/-- Nothing is added and nothing lost. -/
theorem perm (h : Weaves threads whole) : whole.Perm threads.flatten := by
  obtain ⟨told, rfl, hbound, hthreads⟩ := h
  have heq : threads = (List.range threads.length).map (threadOf told) := by
    refine List.ext_getElem (by simp) fun i hi _ => ?_
    rw [List.getElem_map, List.getElem_range, hthreads i _ (List.getElem?_eq_getElem hi)]
  rw [heq, ← List.flatMap_def]
  exact perm_flatMap_threadOf hbound

end Weaves

end Threads

/-! ## Turns -/

namespace Notice

/-- Whether a notice is of a turn: before a batch, of its call, or after it. -/
def isTurn : Notice → Bool
  | .before _ | .called .. | .after _ => true
  | _ => false

/-- Whether a notice is what the hooks of a run get to see. -/
def isHook : Notice → Bool
  | .before _ | .after _ => true
  | _ => false

/-- The batch that is about to run. -/
def before? : Notice → Option Batch
  | .before batch => some batch
  | _ => none

/-- The outcome of what has run. -/
def after? : Notice → Option Outcome
  | .after outcome => some outcome
  | _ => none

theorem isTurn_of_isLog {n : Notice} (h : n.isLog = true) : n.isTurn = false := by
  cases n with
  | log => rfl
  | _ => cases h

end Notice

/-- What is told of batches, of all that is told. -/
def turnNotices (notices : List Notice) : List Notice :=
  notices.filter Notice.isTurn

theorem turnNotices_append (notices more : List Notice) :
    turnNotices (notices ++ more) = turnNotices notices ++ turnNotices more :=
  List.filter_append _ _

theorem turnNotices_of_isLog {notices : List Notice} (h : ∀ n ∈ notices, n.isLog = true) :
    turnNotices notices = [] := by
  refine List.filter_eq_nil_iff.mpr fun n hn => ?_
  rw [Notice.isTurn_of_isLog (h n hn)]
  exact Bool.false_ne_true

theorem turnNotices_announce (setup : RunSetup) (job : Job) :
    turnNotices (job.announce setup) = [.before job.batch] := rfl

theorem turnNotices_report (setup : RunSetup) (job : Job) (o : Outcome) (elapsedMs : Int) :
    turnNotices (job.report setup o elapsedMs) = [.after o] := by
  unfold Job.report Job.warning
  dsimp only
  split
  · rfl
  · split <;> rfl

theorem turnNotices_announceRetries (job : Job) (o : Outcome) (slices : List Job) :
    turnNotices (job.announceRetries o slices) = [] := by
  unfold Job.announceRetries
  split <;> rfl

/-- One run of a batch or of a retry slice. -/
structure Turn where
  batch : Batch
  /-- The call that is made, and the tag of the engine that gets it. -/
  call : Option (Nat × Call)
  outcome : Outcome

namespace Turn

/-- What is told of a turn. -/
def notices (t : Turn) : List Notice :=
  match t.call with
  | some (tag, call) => [.before t.batch, .called tag call, .after t.outcome]
  | none => [.before t.batch, .after t.outcome]

/-- A turn is of one batch throughout. The outcome is that of the call; where no call could be made,
it is that of the fault. -/
structure Sound (setup : RunSetup) (first : Registry) (t : Turn) : Prop where
  engine : t.outcome.engine = t.batch.engine
  number : t.outcome.batchNumber = t.batch.number
  total : t.outcome.totalBatches = t.batch.total
  rules : t.outcome.rules = t.batch.ruleIds
  served : ∀ tag call, t.call = some (tag, call) → ∃ v : Serving, v.Sound setup first ∧
    v.job.batch = t.batch ∧ v.engine.tag = tag ∧ v.call = call ∧ t.outcome = v.outcome setup
  refused : t.call = none → ∃ (later : Registry) (job : Job) (f : Fault),
    Registry.Later setup.tree first later ∧ job.batch = t.batch ∧
    job.prepareCall setup later = .error f ∧ t.outcome = job.outcome setup (.error f)

/-- The turn of a call. -/
def ofServing (setup : RunSetup) (v : Serving) : Turn :=
  ⟨v.job.batch, some (v.engine.tag, v.call), v.outcome setup⟩

/-- The turn of a job that can make no call. -/
def ofFault (setup : RunSetup) (job : Job) (f : Fault) : Turn :=
  ⟨job.batch, none, job.outcome setup (.error f)⟩

variable {setup : RunSetup} {first : Registry}

theorem sound_ofServing {v : Serving} (h : v.Sound setup first) :
    (ofServing setup v).Sound setup first where
  engine := Job.outcome_engine setup v.job _
  number := Job.outcome_batchNumber setup v.job _
  total := Job.outcome_totalBatches setup v.job _
  rules := Job.outcome_rules setup v.job _
  served := by
    intro tag call hcall
    cases hcall
    exact ⟨v, h, rfl, rfl, rfl, rfl⟩
  refused hnone := by cases hnone

theorem sound_ofFault {later : Registry} {job : Job} {f : Fault}
    (hlater : Registry.Later setup.tree first later)
    (h : job.prepareCall setup later = .error f) : (ofFault setup job f).Sound setup first where
  engine := Job.outcome_engine setup job _
  number := Job.outcome_batchNumber setup job _
  total := Job.outcome_totalBatches setup job _
  rules := Job.outcome_rules setup job _
  served tag call hcall := by cases hcall
  refused _ := ⟨later, job, f, hlater, rfl, h, rfl⟩

end Turn

/-! ## One job after another -/

/-- Running a job is a turn. -/
theorem Job.exists_turn_run (setup : RunSetup) {first registry : Registry}
    (hlater : Registry.Later setup.tree first registry) (job : Job) :
    ∃ t : Turn, t.Sound setup first ∧ t.outcome = (job.run setup registry).outcome ∧
      turnNotices (job.run setup registry).notices = t.notices := by
  cases hprepare : job.prepareCall setup registry with
  | error f =>
    refine ⟨.ofFault setup job f, Turn.sound_ofFault hlater hprepare, ?_, ?_⟩
    · rw [Job.run, hprepare]
      rfl
    · rw [Job.run, hprepare]
      dsimp only
      rw [turnNotices_append, turnNotices_announce, turnNotices_report]
      rfl
  | ok made =>
    obtain ⟨engine, call⟩ := made
    obtain ⟨hget, hrequest⟩ := Job.prepareCall_eq_ok_iff.mp hprepare
    obtain ⟨quiet, hlog, hnotices⟩ := job.call_notices setup registry engine call
    have hcall : turnNotices (job.call setup registry engine call).2.1 =
        [.called engine.tag call] := by
      have hquiet := turnNotices_of_isLog hlog
      rw [hnotices, List.cons_append, ← List.singleton_append, turnNotices_append,
        turnNotices_append, hquiet]
      split <;> rfl
    have houtcome : (Turn.ofServing setup ⟨job, engine, call⟩).outcome =
        (job.run setup registry).outcome := by
      rw [Job.run_outcome, Job.answer_of_ok hprepare]
      rfl
    have hrun : (job.run setup registry).notices = job.announce setup ++
        (job.call setup registry engine call).2.1 ++ job.report setup
          (job.run setup registry).outcome (job.call setup registry engine call).2.2.2 := by
      simp only [Job.run, hprepare]
    have hsound : Serving.Sound setup ⟨job, engine, call⟩ first :=
      ⟨⟨registry, hlater, hget⟩, hrequest⟩
    refine ⟨_, Turn.sound_ofServing hsound, houtcome, ?_⟩
    rw [hrun, turnNotices_append, turnNotices_append, turnNotices_announce, turnNotices_report,
      hcall, ← houtcome]
    rfl

/-- Jobs take turns, one after another. -/
theorem exists_turns_runJobs (setup : RunSetup) {first : Registry} (registry : Registry)
    (jobs : List Job) (hlater : Registry.Later setup.tree first registry) :
    ∃ turns : List Turn, (∀ t ∈ turns, t.Sound setup first) ∧
      turns.map Turn.outcome = (runJobs setup registry jobs).outcomes ∧
      turnNotices (runJobs setup registry jobs).notices = turns.flatMap Turn.notices := by
  induction hweight : totalWeight jobs using Nat.strongRecOn generalizing registry jobs with
  | ind weight ih =>
    match jobs with
    | [] => exact ⟨[], fun t ht => absurd ht List.not_mem_nil, rfl, rfl⟩
    | job :: rest =>
      have hless := job.totalWeight_retries_lt setup (job.answer setup registry)
      rw [← Job.run_outcome] at hless
      obtain ⟨turns, hsound, houtcomes, hnotices⟩ := ih _
        (by rw [← hweight, totalWeight_append, totalWeight_cons]; omega)
        (job.run setup registry).registry
        (job.retries setup (job.run setup registry).outcome ++ rest)
        (hlater.trans (job.run_later setup registry)) rfl
      obtain ⟨t, ht, hto, htn⟩ := job.exists_turn_run setup hlater
      refine ⟨t :: turns, fun u hu => ?_, ?_, ?_⟩
      · rcases List.mem_cons.mp hu with rfl | hu
        · exact ht
        · exact hsound u hu
      · rw [runJobs_cons, List.map_cons, hto, houtcomes]
      · rw [runJobs_cons]
        dsimp only
        rw [turnNotices_append, turnNotices_append, turnNotices_announceRetries, htn, hnotices,
          List.append_nil, List.flatMap_cons]

/-! ## Lanes -/

namespace Machine

/-- What has been told of the job under way in a lane. -/
structure Unfinished (m : Machine) (i : Nat) (lane : Lane) (told : List Notice) : Prop where
  idle : lane.live = none → told = []
  opening : ∀ live, lane.live = some live → m.Opening i → told = [.before live.job.batch]
  begun : ∀ live, lane.live = some live → ¬ m.Opening i →
    told = [.before live.job.batch, .called live.tag live.call]

/-- What has been told in a lane: of the turns that it has finished, and of its job under way. -/
def Thread (setup : RunSetup) (first : Registry) (m : Machine) (i : Nat) (lane : Lane)
    (told : List Notice) : Prop :=
  ∃ (turns : List Turn) (rest : List Notice), (∀ t ∈ turns, t.Sound setup first) ∧
    turns.map Turn.outcome = lane.outcomes ∧ m.Unfinished i lane rest ∧
    told = turns.flatMap Turn.notices ++ rest

/-- What has been told of batches, each in its lane. -/
def TakesTurns (setup : RunSetup) (first : Registry) (m : Machine) : Prop :=
  ∃ told : List (Nat × Notice), told.map Prod.snd = turnNotices m.notices ∧
    (∀ entry ∈ told, entry.1 < m.lanes.length) ∧
    ∀ i lane, m.lanes[i]? = some lane → m.Thread setup first i lane (threadOf told i)

variable {setup : RunSetup} {first : Registry} {m m' : Machine}

theorem Thread.congr {i : Nat} {lane : Lane} {told : List Notice}
    (h : m.Thread setup first i lane told) (hopening : m'.Opening i ↔ m.Opening i) :
    m'.Thread setup first i lane told := by
  obtain ⟨turns, rest, hsound, houtcomes, hrest, heq⟩ := h
  refine ⟨turns, rest, hsound, houtcomes, ⟨hrest.idle, fun live hlive hnow => ?_,
    fun live hlive hbegun => ?_⟩, heq⟩
  · exact hrest.opening live hlive (hopening.mp hnow)
  · exact hrest.begun live hlive fun hnow => hbegun (hopening.mpr hnow)

theorem TakesTurns.quiet (h : m.TakesTurns setup first) (hquiet : m.Quiet m')
    (hsame : turnNotices m'.notices = turnNotices m.notices) : m'.TakesTurns setup first := by
  obtain ⟨told, htold, hbound, hthreads⟩ := h
  exact ⟨told, htold.trans hsame.symm, hquiet.lanes ▸ hbound, fun i lane hlane =>
    (hthreads i lane (hquiet.lanes ▸ hlane)).congr (hquiet.opening_iff i)⟩

/-- Something is told in one lane. -/
theorem TakesTurns.change (h : m.TakesTurns setup first) {i : Nat} {old lane : Lane}
    (more : List Notice) (hold : m.lanes[i]? = some old) (hlanes : m'.lanes = m.lanes.set i lane)
    (hopening : ∀ j, j ≠ i → (m'.Opening j ↔ m.Opening j))
    (hnotices : turnNotices m'.notices = turnNotices m.notices ++ more)
    (hthread : ∀ told, m.Thread setup first i old told →
      m'.Thread setup first i lane (told ++ more)) : m'.TakesTurns setup first := by
  obtain ⟨told, htold, hbound, hthreads⟩ := h
  have hi : i < m.lanes.length := (List.getElem?_eq_some_iff.mp hold).1
  refine ⟨told ++ more.map (Prod.mk i), ?_, fun entry hentry => ?_, fun j other hother => ?_⟩
  · rw [List.map_append, htold, hnotices, List.map_map]
    exact congrArg _ (List.map_id more)
  · rw [hlanes, List.length_set]
    rcases List.mem_append.mp hentry with hentry | hentry
    · exact hbound entry hentry
    · obtain ⟨n, -, rfl⟩ := List.mem_map.mp hentry
      exact hi
  · rw [hlanes] at hother
    rw [threadOf_append]
    by_cases hj : j = i
    · subst hj
      rw [List.getElem?_set_self hi] at hother
      cases hother
      rw [threadOf_here]
      exact hthread _ (hthreads j old hold)
    · rw [List.getElem?_set_ne (Ne.symm hj)] at hother
      rw [threadOf_elsewhere hj, List.append_nil]
      exact (hthreads j other hother).congr (hopening j hj)

/-- A lane closes its job, and the turn is over. -/
theorem TakesTurns.conclude (h : m.TakesTurns setup first) (left : Machine)
    (more : List Notice) (hlanes : left.lanes = m.lanes)
    (hopening : ∀ j, left.Opening j ↔ m.Opening j)
    (hnotices : turnNotices left.notices = turnNotices m.notices ++ more) {i : Nat}
    {old lane : Lane} {job : Job} {result : Except Fault Report} {t : Turn}
    (hold : m.lanes[i]? = some old) (houtcomes : lane.outcomes = old.outcomes)
    (ht : t.Sound setup first) (ho : t.outcome = job.outcome setup result)
    (hturn : ∀ rest, m.Unfinished i old rest →
      rest ++ more ++ [.after (job.outcome setup result)] = t.notices) (ms : Int) :
    (left.conclude setup i lane job result ms).TakesTurns setup first := by
  have hquiet : Quiet _ (left.conclude setup i lane job result ms) :=
    .conclude i lane job result ms
  refine h.change (more ++ [.after t.outcome]) hold
    (hquiet.lanes.trans (congrArg (List.set · i _) hlanes))
    (fun j _ => (hquiet.opening_iff j).trans (hopening j)) ?_ ?_
  · rw [conclude_notices, turnNotices_append, turnNotices_append, turnNotices_report,
      turnNotices_announceRetries, hnotices, ho]
    simp
  · rintro told ⟨turns, rest, hsound, hturns, hrest, rfl⟩
    refine ⟨turns ++ [t], [], fun u hu => ?_, ?_, ⟨fun _ => rfl, fun live hlive => ?_,
      fun live hlive => ?_⟩, ?_⟩
    · rcases List.mem_append.mp hu with hu | hu
      · exact hsound u hu
      · obtain rfl := List.mem_singleton.mp hu
        exact ht
    · rw [List.map_append, hturns, houtcomes, List.map_singleton, ho]
    · cases hlive
    · cases hlive
    · rw [List.flatMap_append, List.flatMap_singleton, ← hturn rest hrest, ho]
      simp

section Events

variable {slots : Nat} {lanes : List (List Job)} {stages : Nat → Option Stage} {s : State}
  {i : Nat} {rest : List (Nat × LaneEvent)}

theorem TakesTurns.start (h : m.TakesTurns setup first) (hshows : m.Shows stages s)
    (hinv : Interleaving.Invariant setup first slots lanes s)
    (hqueue : m.queue = (0, .start i) :: rest) :
    (({ m with queue := rest } : Machine).handle setup (.start i)).TakesTurns setup first := by
  have htakes : m.Takes i .holds _ := Takes.of_queue hqueue rfl
  obtain ⟨lane, hlane, ⟨hjobs, hlive⟩, -⟩ := htakes.exists_lane hshows
  obtain ⟨job, later, hnext⟩ := List.exists_cons_of_ne_nil hjobs
  have hleft := h.quiet (Quiet.of_queue hqueue (by simp) (by simp)) rfl
  have htold : turnNotices (m.notices ++ job.announce setup) =
      turnNotices m.notices ++ [.before job.batch] := turnNotices_append _ _
  have hlater : Registry.Later setup.tree first m.registry := hshows.registry ▸ hinv.later
  simp only [Machine.handle, hlane, hnext]
  unfold Machine.openJob
  dsimp only
  split
  · rename_i f hprepare
    have hrecorded : ({ lane with jobs := later } : Lane).outcomes = lane.outcomes := rfl
    have houtcome : (Turn.ofFault setup job f).outcome = job.outcome setup (.error f) := rfl
    refine hleft.conclude (({ m with queue := rest } : Machine).tell (job.announce setup)) _ rfl
      (fun _ => Iff.rfl) htold hlane hrecorded
      (Turn.sound_ofFault hlater hprepare) houtcome (fun told hunfinished => ?_) 0
    rw [hunfinished.idle hlive]
    rfl
  · rename_i engine call _
    obtain ⟨hch, hopening⟩ := opened_changes
      (m := ({ m with queue := rest } : Machine).tell (job.announce setup))
      { lane with
        jobs := later
        live := some { job, call, startedMs := m.now, tag := engine.tag } } hlane rfl
    refine hleft.change _ hlane hch.lanes hch.opening htold ?_
    rintro told ⟨turns, unfinished, hsound, houtcomes, hunfinished, rfl⟩
    refine ⟨turns, [.before job.batch], hsound, houtcomes, ⟨fun hnone => ?_, fun live hnow _ => ?_,
      fun _ _ hbegun => absurd hopening hbegun⟩, ?_⟩
    · cases hnone
    · cases hnow
      rfl
    · rw [hunfinished.idle hlive, List.append_nil]

theorem TakesTurns.begin (h : m.TakesTurns setup first) (hshows : m.Shows stages s)
    (hinv : Interleaving.Invariant setup first slots lanes s)
    (hqueue : m.queue = (0, .begin i) :: rest) :
    (({ m with queue := rest } : Machine).handle setup (.begin i)).TakesTurns setup first := by
  have htakes : m.Takes i .opened _ := Takes.of_queue hqueue rfl
  obtain ⟨lane, live, engine, hlane, hlive, hfound, -⟩ := hshows.exists_engine hinv hqueue
  simp only [Machine.handle, hlane, hlive, hfound]
  obtain ⟨hch, hopening, hbegun⟩ :=
    begun_changes setup hqueue (htakes.count_self hshows .opened) hlane live engine
  obtain ⟨quiet, hlog, hnotices⟩ :=
    beginCall_notices setup { m with queue := rest } i lane live engine
  refine h.change [.called live.tag live.call] hlane hch.lanes hch.opening ?_ ?_
  · rw [hnotices, turnNotices_append, ← List.singleton_append, turnNotices_append,
      turnNotices_of_isLog hlog]
    rfl
  · rintro told ⟨turns, unfinished, hsound, houtcomes, hunfinished, rfl⟩
    refine ⟨turns, [.before live.job.batch, .called live.tag live.call], hsound, houtcomes,
      ⟨fun hnone => ?_, fun _ _ hnow => absurd hnow hbegun, fun now hnow _ => ?_⟩, ?_⟩
    · cases hnone
    · cases hnow
      rfl
    · rw [hunfinished.opening live hlive hopening, List.append_assoc]
      rfl

theorem TakesTurns.close (h : m.TakesTurns setup first) (haccounts : m.Accounts setup first)
    (hshows : m.Shows stages s) (hqueue : m.queue = (0, .close i) :: rest) :
    (({ m with queue := rest } : Machine).handle setup (.close i)).TakesTurns setup first := by
  have htakes : m.Takes i .runs _ := Takes.of_queue hqueue rfl
  obtain ⟨lane, hlane, ⟨live, hlive⟩, -⟩ := htakes.exists_lane hshows
  -- the call is under way, so it is known what it comes to
  have hbegun : ¬ m.Opening i := by
    refine List.count_eq_zero.mp ?_
    rw [hshows.tokens, htakes.stages_eq hshows]
    rfl
  obtain ⟨v, startedMs, hsound, -, rfl⟩ := haccounts.running i lane live hlane hlive hbegun
  simp only [Machine.handle, hlane, hlive]
  unfold Machine.closeCall
  dsimp only
  set left : Machine := if (v.live setup startedMs).lapsed = true then _ else _ with hleft
  have hquiet : m.Quiet left := by
    have hrest : m.Quiet { m with queue := rest } := .of_queue hqueue (by simp) (by simp)
    rw [hleft]
    split
    · exact hrest.trans (.push 0 (by simp))
    · exact hrest
  have htold : turnNotices left.notices = turnNotices m.notices ++ [] := by
    rw [List.append_nil, hleft]
    split <;> rfl
  refine h.conclude left [] hquiet.lanes hquiet.opening_iff htold hlane rfl
    (Turn.sound_ofServing hsound) rfl (fun told hunfinished => ?_) _
  rw [hunfinished.begun _ hlive hbegun]
  rfl

/-- The other events tell of no batch. -/
theorem turnNotices_handle (setup : RunSetup) (m : Machine) {e : LaneEvent}
    (hstart : ∀ i, e ≠ .start i) (hbegin : ∀ i, e ≠ .begin i) (hclose : ∀ i, e ≠ .close i) :
    turnNotices (m.handle setup e).notices = turnNotices m.notices := by
  cases e with
  | ask i =>
    simp only [Machine.handle]
    split
    · exact congrArg turnNotices (ask_notices m i)
    · rfl
  | granted i => exact congrArg turnNotices (takeSlot_notices m i)
  | start i => exact absurd rfl (hstart i)
  | begin i => exact absurd rfl (hbegin i)
  | finish i =>
    simp only [Machine.handle]
    split
    · exact (turnNotices_append _ _).trans (List.append_nil _)
    · rfl
  | close i => exact absurd rfl (hclose i)
  | drop tag reason => exact (turnNotices_append _ _).trans (List.append_nil _)

/-- Every event keeps the turns. -/
theorem TakesTurns.handle (h : m.TakesTurns setup first) (haccounts : m.Accounts setup first)
    (hshows : m.Shows stages s) (hinv : Interleaving.Invariant setup first slots lanes s)
    {e : LaneEvent} (hqueue : m.queue = (0, e) :: rest) :
    (({ m with queue := rest } : Machine).handle setup e).TakesTurns setup first := by
  cases e with
  | start i => exact h.start hshows hinv hqueue
  | begin i => exact h.begin hshows hinv hqueue
  | close i => exact h.close haccounts hshows hqueue
  | ask | granted | finish | drop =>
    exact h.quiet (.handle hqueue (by simp) (by simp) (by simp))
      (turnNotices_handle setup _ (by simp) (by simp) (by simp))

/-- So does every step. -/
theorem TakesTurns.step (h : m.TakesTurns setup first) (haccounts : m.Accounts setup first)
    (hshows : m.Shows stages s) (hinv : Interleaving.Invariant setup first slots lanes s)
    (hstep : m.step setup = some m') : m'.TakesTurns setup first := by
  rcases step_cases hstep with ⟨e, rest, hqueue, rfl⟩ | ⟨hquiet, hnotices⟩
  · exact h.handle haccounts hshows hinv hqueue
  · exact h.quiet hquiet (congrArg turnNotices hnotices)

theorem TakesTurns.runWithin (h : m.TakesTurns setup first) (haccounts : m.Accounts setup first)
    (hkeyed : first.WellKeyed) (hinv : Interleaving.Invariant setup first slots lanes s)
    (hfollows : m.Follows setup s) (fuel : Nat) :
    (m.runWithin setup fuel).TakesTurns setup first := by
  induction fuel generalizing m with
  | zero => exact h
  | succ fuel ih =>
    unfold Machine.runWithin
    split
    · rename_i next hstep
      obtain ⟨stages, s', hreaches, hshows⟩ := hfollows
      have hinv' := hinv.of_reaches hreaches
      exact ih (h.step haccounts hshows hinv' hstep) (haccounts.step hkeyed hshows hinv' hstep)
        ((hshows.step hinv' hstep).follows.head hreaches)
    · exact h

end Events

/-- Before anything has happened no lane has taken a turn. -/
theorem takesTurns_initial (setup : RunSetup) (registry : Registry) (slots : Nat)
    (lanes : List (List Job)) : (initial registry slots lanes).TakesTurns setup registry := by
  refine ⟨[], rfl, fun _ hentry => absurd hentry List.not_mem_nil, fun i lane hlane => ?_⟩
  obtain ⟨jobs, -, rfl⟩ := List.mem_map.mp (List.mem_of_getElem? hlane)
  refine ⟨[], [], fun _ ht => absurd ht List.not_mem_nil, rfl, ⟨fun _ => rfl, fun live hlive => ?_,
    fun live hlive => ?_⟩, rfl⟩
  · cases hlive
  · cases hlive

/-- When no lane has a job under way, every turn is over. -/
theorem TakesTurns.exists_turns (h : m.TakesTurns setup first)
    (hidle : ∀ lane ∈ m.lanes, lane.live = none) :
    ∃ turns : List (List Turn), (∀ t ∈ turns.flatten, t.Sound setup first) ∧
      turns.flatten.map Turn.outcome = m.lanes.flatMap Lane.outcomes ∧
      Weaves (turns.map (List.flatMap Turn.notices)) (turnNotices m.notices) := by
  obtain ⟨told, htold, hbound, hthreads⟩ := h
  have hover : ∀ i lane, m.lanes[i]? = some lane → ∃ turns : List Turn,
      (∀ t ∈ turns, t.Sound setup first) ∧ turns.map Turn.outcome = lane.outcomes ∧
        threadOf told i = turns.flatMap Turn.notices := by
    intro i lane hlane
    obtain ⟨turns, unfinished, hsound, houtcomes, hunfinished, heq⟩ := hthreads i lane hlane
    rw [hunfinished.idle (hidle lane (List.mem_of_getElem? hlane)), List.append_nil] at heq
    exact ⟨turns, hsound, houtcomes, heq⟩
  choose! turnsOf hturnsOf using hover
  have hget : ∀ i, (m.lanes.mapIdx turnsOf)[i]? = m.lanes[i]?.map (turnsOf i) :=
    fun i => List.getElem?_mapIdx
  refine ⟨m.lanes.mapIdx turnsOf, fun t ht => ?_, ?_, told, htold, ?_, fun i thread hthread => ?_⟩
  · obtain ⟨turns, hmem, ht⟩ := List.mem_flatten.mp ht
    obtain ⟨i, hi⟩ := List.mem_iff_getElem?.mp hmem
    rw [hget] at hi
    obtain ⟨lane, hlane, rfl⟩ := Option.map_eq_some_iff.mp hi
    exact (hturnsOf i lane hlane).1 t ht
  · have hmap : (m.lanes.mapIdx turnsOf).map (List.map Turn.outcome) =
        m.lanes.map Lane.outcomes := by
      refine List.ext_getElem? fun i => ?_
      rw [List.getElem?_map, List.getElem?_map, hget, Option.map_map]
      cases hlane : m.lanes[i]? with
      | none => rfl
      | some lane => exact congrArg some (hturnsOf i lane hlane).2.1
    rw [List.map_flatten, hmap, List.flatMap_def]
  · rwa [List.length_map, List.length_mapIdx]
  · rw [List.getElem?_map, hget, Option.map_map] at hthread
    obtain ⟨lane, hlane, rfl⟩ := Option.map_eq_some_iff.mp hthread
    exact (hturnsOf i lane hlane).2.2

end Machine

/-- Lanes that run to their end take turns. -/
theorem exists_turns_runLanes (setup : RunSetup) {registry : Registry}
    (hkeyed : registry.WellKeyed) {slots : Nat} (hslots : 1 ≤ slots) (lanes : List (List Job)) :
    ∃ turns : List (List Turn), (∀ t ∈ turns.flatten, t.Sound setup registry) ∧
      turns.flatten.map Turn.outcome = (runLanes setup registry slots lanes).outcomes ∧
      Weaves (turns.map (List.flatMap Turn.notices))
        (turnNotices (runLanes setup registry slots lanes).notices) := by
  have hstart := Interleaving.Invariant.start setup registry slots lanes
  have hfollows := Machine.follows_initial setup registry slots lanes
  have hturns := (Machine.takesTurns_initial setup registry slots lanes).runWithin
    (Machine.accounts_initial setup registry slots lanes) hkeyed hstart hfollows
    (laneFuel setup lanes)
  obtain ⟨stages, s, hreaches, hshows⟩ := hfollows.runWithin hstart (laneFuel setup lanes)
  have hfinished := hshows.finished_of_laneFuel hreaches hslots
  refine hturns.exists_turns fun lane hlane => ?_
  obtain ⟨i, hi⟩ := List.mem_iff_getElem?.mp hlane
  exact hshows.live_eq_none hfinished hi

/-! ## Hooks -/

/-- What a filter that looks at batches alone makes of all that is told. -/
theorem filterMap_turnNotices {β : Type} {f : Notice → Option β}
    (h : ∀ n, n.isTurn = false → f n = none) (notices : List Notice) :
    (turnNotices notices).filterMap f = notices.filterMap f := by
  rw [turnNotices, List.filterMap_filter]
  refine List.filterMap_congr fun n _ => ?_
  cases hn : n.isTurn with
  | true => rfl
  | false => exact (h n hn).symm

theorem filterMap_after?_turnNotices (notices : List Notice) :
    (turnNotices notices).filterMap Notice.after? = notices.filterMap Notice.after? :=
  filterMap_turnNotices (fun n hn => by
    cases n with
    | after => cases hn
    | _ => rfl) notices

theorem filterMap_before?_turnNotices (notices : List Notice) :
    (turnNotices notices).filterMap Notice.before? = notices.filterMap Notice.before? :=
  filterMap_turnNotices (fun n hn => by
    cases n with
    | before => cases hn
    | _ => rfl) notices

theorem filter_isHook_turnNotices (notices : List Notice) :
    (turnNotices notices).filter Notice.isHook = notices.filter Notice.isHook := by
  rw [turnNotices, List.filter_filter]
  refine List.filter_congr fun n _ => ?_
  cases n <;> rfl

theorem Turn.filterMap_after?_notices (turns : List Turn) :
    (turns.flatMap Turn.notices).filterMap Notice.after? = turns.map Turn.outcome := by
  have heach : ∀ t : Turn, t.notices.filterMap Notice.after? = [t.outcome] := by
    rintro ⟨batch, _ | ⟨tag, call⟩, outcome⟩ <;> rfl
  rw [List.filterMap_flatMap]
  simp only [heach]
  exact List.flatMap_pure_eq_map Turn.outcome turns

theorem Turn.filterMap_before?_notices (turns : List Turn) :
    (turns.flatMap Turn.notices).filterMap Notice.before? = turns.map Turn.batch := by
  have heach : ∀ t : Turn, t.notices.filterMap Notice.before? = [t.batch] := by
    rintro ⟨batch, _ | ⟨tag, call⟩, outcome⟩ <;> rfl
  rw [List.filterMap_flatMap]
  simp only [heach]
  exact List.flatMap_pure_eq_map Turn.batch turns

theorem Turn.filter_isHook_notices (turns : List Turn) :
    (turns.flatMap Turn.notices).filter Notice.isHook =
      turns.flatMap fun t => [.before t.batch, .after t.outcome] := by
  have heach : ∀ t : Turn,
      t.notices.filter Notice.isHook = [.before t.batch, .after t.outcome] := by
    rintro ⟨batch, _ | ⟨tag, call⟩, outcome⟩ <;> rfl
  rw [List.filter_flatMap]
  simp only [heach]

/-! ## Runs -/

/-- Every execution is made of turns in lanes, one turn for each outcome, and what is told of
batches weaves the turns together, each lane in its order: of each batch and each retry slice once
before its engine is called, if it is called at all, and once after that with the very outcome that
is returned. So the outcomes told of are those returned, in some order. With one slot the hooks see
a batch, then its outcome, then the next batch and so on, and the outcomes in the order in which
they are returned. -/
theorem execute_takes_turns (setup : RunSetup) {registry : Registry} (hkeyed : registry.WellKeyed)
    {groups : Keyed (List Rule)} {course : SequenceCourse}
    (hcourse : execute setup registry groups = .ok course) :
    ∃ lanes : List (List Turn),
      (∀ t ∈ lanes.flatten, t.Sound setup registry) ∧
      lanes.flatten.map Turn.outcome = course.outcomes ∧
      Weaves (lanes.map (List.flatMap Turn.notices)) (course.notices.filter Notice.isTurn) ∧
      (∀ lane ∈ lanes, (lane.flatMap Turn.notices).Sublist course.notices) ∧
      (course.notices.filterMap Notice.after?).Perm course.outcomes ∧
      (course.notices.filterMap Notice.before?).Perm (lanes.flatten.map Turn.batch) ∧
      (setup.limits.maxConcurrentBatches ≤ 1 →
        course.notices.filter Notice.isHook =
          lanes.flatten.flatMap (fun t => [.before t.batch, .after t.outcome]) ∧
        course.notices.filterMap Notice.after? = course.outcomes) := by
  obtain ⟨lanes, hsound, houtcomes, hweaves, hsingle⟩ : ∃ lanes : List (List Turn),
      (∀ t ∈ lanes.flatten, t.Sound setup registry) ∧
      lanes.flatten.map Turn.outcome = course.outcomes ∧
      Weaves (lanes.map (List.flatMap Turn.notices)) (turnNotices course.notices) ∧
      (setup.limits.maxConcurrentBatches ≤ 1 → ∃ turns, lanes = [turns]) := by
    unfold execute at hcourse
    obtain ⟨lanes, -, hcourse⟩ := exists_of_bind_eq_ok hcourse
    split at hcourse
    · cases hcourse
      obtain ⟨turns, hsound, houtcomes, hnotices⟩ :=
        exists_turns_runJobs setup registry lanes.flatten .refl
      refine ⟨[turns], ?_, ?_, ?_, fun _ => ⟨turns, rfl⟩⟩
      · rwa [List.flatten_singleton]
      · rwa [List.flatten_singleton]
      · rw [hnotices]
        exact .singleton _
    · rename_i hslots
      cases hcourse
      have hpositive : 1 ≤ setup.limits.maxConcurrentBatches.toNat := by omega
      obtain ⟨turns, hsound, houtcomes, hweaves⟩ :=
        exists_turns_runLanes setup hkeyed hpositive lanes
      exact ⟨turns, hsound, houtcomes, hweaves, fun hone => absurd hone hslots⟩
  have hperm : (turnNotices course.notices).Perm (lanes.flatten.flatMap Turn.notices) := by
    have hflatten : lanes.flatten.flatMap Turn.notices =
        (lanes.map (List.flatMap Turn.notices)).flatten := by
      rw [List.flatMap_def, List.map_flatten, List.flatten_flatten, List.map_map]
      rfl
    rw [hflatten]
    exact hweaves.perm
  refine ⟨lanes, hsound, houtcomes, hweaves, fun lane hlane => ?_, ?_, ?_, fun hone => ?_⟩
  · exact (hweaves.sublist _ (List.mem_map_of_mem hlane)).trans List.filter_sublist
  · have hafter := hperm.filterMap Notice.after?
    rwa [filterMap_after?_turnNotices, Turn.filterMap_after?_notices, houtcomes] at hafter
  · have hbefore := hperm.filterMap Notice.before?
    rwa [filterMap_before?_turnNotices, Turn.filterMap_before?_notices] at hbefore
  · obtain ⟨turns, rfl⟩ := hsingle hone
    have htold : turnNotices course.notices = turns.flatMap Turn.notices :=
      hweaves.eq_of_singleton
    rw [List.flatten_singleton] at houtcomes ⊢
    rw [← filter_isHook_turnNotices, ← filterMap_after?_turnNotices, htold,
      Turn.filter_isHook_notices, Turn.filterMap_after?_notices]
    exact ⟨rfl, houtcomes⟩

/-- While the patient engine is at work, the narrow one fails and is tried again in slices, and a
batch of an engine that is not there fails without a call: the last outcome told of is the first one
returned. -/
theorem execute_takes_turns_two_slots :
    let setup : RunSetup :=
      { limits :=
          { retryFailedBatches := true
            maxRetries := 1
            ruleBatchSize := some 2
            maxConcurrentBatches := 2 }
        files := [] }
    let registry := (Registry.registerAll {} [narrowEngine, patientEngine]).1
    let groups : Keyed (List Rule) :=
      [("patient", [{ id := "A" }, { id := "B" }]), ("narrow", [{ id := "C" }, { id := "D" }]),
       ("absent", [{ id := "E" }])]
    registry.WellKeyed ∧ ∃ course, execute setup registry groups = .ok course ∧
      course.outcomes.map Outcome.rules = [["A", "B"], ["C", "D"], ["C"], ["D"], ["E"]] ∧
      (course.notices.filterMap Notice.before?).map Batch.ruleIds =
        [["A", "B"], ["C", "D"], ["C"], ["D"], ["E"]] ∧
      (course.notices.filterMap Notice.after?).map Outcome.rules =
        [["C", "D"], ["C"], ["D"], ["E"], ["A", "B"]] ∧
      (course.notices.filterMap Notice.after?).Perm course.outcomes := by
  intro setup registry groups
  have hkeyed : registry.WellKeyed := by
    refine Registry.WellKeyed.registerAll (r := {}) (fun id e h => ?_) _
    cases h
  have hshown : (execute setup registry groups).toOption.map (fun course =>
      (course.outcomes.map Outcome.rules,
        (course.notices.filterMap Notice.before?).map Batch.ruleIds,
        (course.notices.filterMap Notice.after?).map Outcome.rules)) =
      some ([["A", "B"], ["C", "D"], ["C"], ["D"], ["E"]],
        [["A", "B"], ["C", "D"], ["C"], ["D"], ["E"]],
        [["C", "D"], ["C"], ["D"], ["E"], ["A", "B"]]) := by
    decide +kernel
  cases hcourse : execute setup registry groups with
  | error f =>
    rw [hcourse] at hshown
    cases hshown
  | ok course =>
    rw [hcourse] at hshown
    simp only [Except.toOption, Option.map_some, Option.some.injEq, Prod.mk.injEq] at hshown
    obtain ⟨houtcomes, hbefore, hafter⟩ := hshown
    obtain ⟨lanes, -, -, -, -, hperm, -⟩ := execute_takes_turns setup hkeyed hcourse
    exact ⟨hkeyed, course, rfl, houtcomes, hbefore, hafter, hperm⟩

end RuleAudit
