import RuleAudit.Proofs.Run.Lateness
import RuleAudit.Proofs.Run.LaneEnd
import RuleAudit.Proofs.Run.RetryTree
import RuleAudit.Run

/-!
# Every call is accounted for

`Serving` is a call that a job made, with the engine that served it as it was then. What is told of
a run and its outcomes account for each other (`execute_accounts`): an outcome is that of a job that
could make no call, or of a call that was told of; and every call that was told of has its outcome,
and, when its deadline found it under way, was told that it is given up, and why.

With jobs one after another this is read off each job. In lanes a call is under way for a while, and
the engine of a call that was given up hears of it later: `Machine.Accounts` is what holds in
between, and every step keeps it (`Machine.Accounts.step`).
-/

namespace RuleAudit

open Interleaving (State Track Reaches)

/-- A call that a job made, and the engine as it was when it served the call. -/
structure Serving where
  job : Job
  engine : Engine
  call : Call

namespace Serving

variable (setup : RunSetup) (v : Serving)

/-- What the engine replied. -/
def reply : Reply :=
  (v.engine.analyze setup.tree v.call).2.2

/-- Whether the deadline of the call found it under way. -/
def lapsed : Bool :=
  (v.reply setup).lapses v.call.timeoutMs

/-- The outcome that the call gives. -/
def outcome : Outcome :=
  v.job.outcome setup (v.job.judge setup (v.reply setup))

/-- The call is the job's, and the engine is that of a registry after calls it has served. -/
structure Sound (first : Registry) : Prop where
  engine : ∃ later, Registry.Later setup.tree first later ∧
    later.get? v.job.batch.engine = some v.engine
  request : v.job.request setup = .ok v.call

/-- The call is told of, and so is that it was given up, if its deadline found it under way. -/
structure Told (tells : Notice → Prop) : Prop where
  called : tells (.called v.engine.tag v.call)
  late : v.lapsed setup = true → tells (.late v.engine.tag (Job.lateReason v.call.timeoutMs))

variable {setup v}

theorem Told.mono {tells tells' : Notice → Prop} (himp : ∀ n, tells n → tells' n)
    (h : v.Told setup tells) : v.Told setup tells' :=
  ⟨himp _ h.called, fun hlapsed => himp _ (h.late hlapsed)⟩

end Serving

/-- An outcome of a job that could make no call, or of a call that is told of. -/
def Outcome.Explained (setup : RunSetup) (first : Registry) (tells : Notice → Prop) (o : Outcome) :
    Prop :=
  (∃ (job : Job) (f : Fault), o = job.outcome setup (.error f)) ∨
    ∃ v : Serving, v.Sound setup first ∧ v.Told setup tells ∧ o = v.outcome setup

theorem Outcome.Explained.mono {setup : RunSetup} {first : Registry} {tells tells' : Notice → Prop}
    (himp : ∀ n, tells n → tells' n) {o : Outcome} (h : o.Explained setup first tells) :
    o.Explained setup first tells' :=
  h.imp_right fun ⟨v, hsound, htold, ho⟩ => ⟨v, hsound, htold.mono himp, ho⟩

/-- What is told of a run and its outcomes account for each other. -/
structure SequenceCourse.Accounts (setup : RunSetup) (first : Registry) (course : SequenceCourse) :
    Prop where
  outcomes : ∀ o ∈ course.outcomes, o.Explained setup first (· ∈ course.notices)
  calls : ∀ tag call, .called tag call ∈ course.notices →
    ∃ v : Serving, v.engine.tag = tag ∧ v.call = call ∧ v.Sound setup first ∧
      v.Told setup (· ∈ course.notices) ∧ v.outcome setup ∈ course.outcomes

/-! ## One job after another -/

/-- Notices without calls. -/
theorem not_called_of_countP {notices : List Notice} (h : notices.countP Notice.isCall = 0)
    (tag : Nat) (call : Call) : .called tag call ∉ notices :=
  fun hmem => List.countP_eq_zero.mp h _ hmem rfl

theorem not_called_of_isLog {notices : List Notice} (h : ∀ n ∈ notices, n.isLog = true)
    (tag : Nat) (call : Call) : .called tag call ∉ notices := by
  intro hmem
  cases h _ hmem

/-- Serving calls leaves an engine its tag. -/
theorem Engine.after_tag (tree : FileTree) (e : Engine) (history : List Call) :
    (e.after tree history).tag = e.tag := by
  unfold Engine.after
  induction history generalizing e with
  | nil => rfl
  | cons call rest ih =>
    rw [List.foldl_cons, ih]
    unfold Engine.analyze
    split <;> rfl

/-- What is told of the call of a job: its begin, what its engine tells, and its end. -/
theorem Job.call_notices (setup : RunSetup) (registry : Registry) (job : Job) (engine : Engine)
    (call : Call) :
    ∃ quiet, (∀ n ∈ quiet, n.isLog = true) ∧
      (job.call setup registry engine call).2.1 = .called engine.tag call :: quiet ++
        if (engine.analyze setup.tree call).2.2.lapses call.timeoutMs then
          [.late engine.tag (Job.lateReason call.timeoutMs), .ended engine.tag]
        else [.ended engine.tag] := by
  unfold Job.call
  dsimp only
  split
  · exact ⟨_, engine.isLog_analyze setup.tree { call with files := call.files.take 1 }, rfl⟩
  · exact ⟨_, engine.isLog_analyze setup.tree call, rfl⟩

/-- A job makes one call, or none. -/
theorem Job.run_accounts (setup : RunSetup) {first registry : Registry}
    (hlater : Registry.Later setup.tree first registry) (job : Job) :
    ((∀ tag call, .called tag call ∉ (job.run setup registry).notices) ∧
        ∃ f, (job.run setup registry).outcome = job.outcome setup (.error f)) ∨
      ∃ v : Serving, v.Sound setup first ∧ v.Told setup (· ∈ (job.run setup registry).notices) ∧
        (job.run setup registry).outcome = v.outcome setup ∧
        ∀ tag call, .called tag call ∈ (job.run setup registry).notices →
          v.engine.tag = tag ∧ v.call = call := by
  have hannounce := not_called_of_countP (job.countP_isCall_announce setup)
  have hreport := fun o ms => not_called_of_countP (job.countP_isCall_report setup o ms)
  cases hprepare : job.prepareCall setup registry with
  | error f =>
    refine .inl ⟨fun tag call => ?_, f, ?_⟩
    · rw [Job.run, hprepare]
      simp only [List.mem_append, not_or]
      exact ⟨hannounce tag call, hreport _ _ tag call⟩
    · rw [Job.run, hprepare]
  | ok made =>
    obtain ⟨engine, call⟩ := made
    obtain ⟨hget, hrequest⟩ := Job.prepareCall_eq_ok_iff.mp hprepare
    obtain ⟨quiet, hlog, hnotices⟩ := job.call_notices setup registry engine call
    have hquiet := not_called_of_isLog hlog
    have hrun : (job.run setup registry).notices = job.announce setup ++
        (job.call setup registry engine call).2.1 ++ job.report setup
          (job.outcome setup (job.call setup registry engine call).2.2.1)
          (job.call setup registry engine call).2.2.2 := by
      rw [Job.run, hprepare]
    refine .inr ⟨⟨job, engine, call⟩, ⟨⟨registry, hlater, hget⟩, hrequest⟩, ⟨?_, ?_⟩, ?_, ?_⟩
    · rw [hrun, hnotices]
      simp
    · intro hlapsed
      have hlapses : (engine.analyze setup.tree call).2.2.lapses call.timeoutMs = true := hlapsed
      rw [hrun, hnotices, if_pos hlapses]
      simp
    · rw [Job.run_outcome, Job.answer_of_ok hprepare]
      rfl
    · intro tag other hother
      rw [hrun, hnotices] at hother
      simp only [List.mem_append, List.mem_cons, hannounce tag other, hreport _ _ tag other,
        hquiet tag other, or_false, false_or] at hother
      rcases hother with hcalled | hend
      · cases hcalled
        exact ⟨rfl, rfl⟩
      · split at hend <;> simp at hend

/-- The outcomes of jobs and the calls told of account for each other. -/
theorem runJobs_accounts (setup : RunSetup) {first : Registry} (registry : Registry)
    (jobs : List Job) (hlater : Registry.Later setup.tree first registry) :
    (runJobs setup registry jobs).Accounts setup first := by
  induction hweight : totalWeight jobs using Nat.strongRecOn generalizing registry jobs with
  | ind weight ih =>
    match jobs with
    | [] => exact ⟨fun o ho => absurd ho List.not_mem_nil, fun _ _ h => absurd h List.not_mem_nil⟩
    | job :: rest =>
      have hless := job.totalWeight_retries_lt setup (job.answer setup registry)
      rw [← Job.run_outcome] at hless
      have hrest := ih _ (by rw [← hweight, totalWeight_append, totalWeight_cons]; omega)
        (job.run setup registry).registry
        (job.retries setup (job.run setup registry).outcome ++ rest)
        (hlater.trans (job.run_later setup registry)) rfl
      have hfirst := job.run_accounts setup hlater
      rw [runJobs_cons]
      dsimp only
      generalize runJobs setup (job.run setup registry).registry _ = later at hrest ⊢
      generalize job.run setup registry = course at hfirst ⊢
      -- what is told of the first job is told of all of them, and so it is of the others
      have hhere : ∀ n ∈ course.notices, n ∈ course.notices ++
          job.announceRetries course.outcome (job.retries setup course.outcome) ++
          later.notices := by
        intro n hn
        simp [hn]
      have hthere : ∀ n ∈ later.notices, n ∈ course.notices ++
          job.announceRetries course.outcome (job.retries setup course.outcome) ++
          later.notices := by
        intro n hn
        simp [hn]
      refine ⟨fun o ho => ?_, fun tag call hcalled => ?_⟩
      · rcases List.mem_cons.mp ho with rfl | ho
        · rcases hfirst with ⟨-, f, hf⟩ | ⟨v, hsound, htold, hv, -⟩
          · exact .inl ⟨job, f, hf⟩
          · exact .inr ⟨v, hsound, htold.mono hhere, hv⟩
        · exact (hrest.outcomes o ho).mono hthere
      · have hretries := not_called_of_countP (job.countP_isCall_announceRetries course.outcome
          (job.retries setup course.outcome)) tag call
        simp only [List.mem_append, hretries, or_false] at hcalled
        rcases hcalled with hcalled | hcalled
        · rcases hfirst with ⟨hnone, -⟩ | ⟨v, hsound, htold, hv, honly⟩
          · exact absurd hcalled (hnone tag call)
          · obtain ⟨htag, hcall⟩ := honly tag call hcalled
            exact ⟨v, htag, hcall, hsound, htold.mono hhere, by simp [hv]⟩
        · obtain ⟨v, htag, hcall, hsound, htold, hv⟩ := hrest.calls tag call hcalled
          exact ⟨v, htag, hcall, hsound, htold.mono hthere, by simp [hv]⟩

/-! ## Lanes -/

/-- The call under way in a lane since some moment. -/
def Serving.live (setup : RunSetup) (v : Serving) (startedMs : Int) : LiveCall :=
  { job := v.job
    call := v.call
    startedMs := startedMs
    tag := v.engine.tag
    result := v.job.judge setup (v.reply setup)
    lapsed := v.lapsed setup }

namespace Machine

/-- A machine has told something, or will tell it when a call that was given up comes to its
end. -/
def Tells (m : Machine) (n : Notice) : Prop :=
  n ∈ m.notices ∨
    ∃ passes tag reason, (passes, LaneEvent.drop tag reason) ∈ m.queue ∧ n = .late tag reason

/-- The call of a lane has yet to begin. -/
def Opening (m : Machine) (i : Nat) : Prop :=
  (i, Stage.opened) ∈ m.tokens

/-- A call that was told of: its outcome is recorded, or it is under way. -/
def Keeps (setup : RunSetup) (m : Machine) (v : Serving) : Prop :=
  (v.Told setup m.Tells ∧ ∃ lane ∈ m.lanes, v.outcome setup ∈ lane.outcomes) ∨
    ∃ i lane startedMs, m.lanes[i]? = some lane ∧ lane.live = some (v.live setup startedMs) ∧
      ¬ m.Opening i

/-- What is told by a machine and what its lanes hold account for each other. -/
structure Accounts (setup : RunSetup) (first : Registry) (m : Machine) : Prop where
  tagged : ∀ lane ∈ m.lanes, ∀ live, lane.live = some live →
    ∃ e, first.get? live.job.batch.engine = some e ∧ live.tag = e.tag
  running : ∀ i lane live, m.lanes[i]? = some lane → lane.live = some live → ¬ m.Opening i →
    ∃ (v : Serving) (startedMs : Int), v.Sound setup first ∧
      .called v.engine.tag v.call ∈ m.notices ∧ live = v.live setup startedMs
  outcomes : ∀ lane ∈ m.lanes, ∀ o ∈ lane.outcomes, o.Explained setup first m.Tells
  calls : ∀ tag call, .called tag call ∈ m.notices →
    ∃ v : Serving, v.engine.tag = tag ∧ v.call = call ∧ v.Sound setup first ∧ m.Keeps setup v

/-! ### Changes that concern no call -/

/-- A change outside the lanes that tells of no call and begins none. -/
structure Quiet (m m' : Machine) : Prop where
  lanes : m'.lanes = m.lanes
  notices : ∀ n ∈ m.notices, n ∈ m'.notices
  tells : ∀ n, m.Tells n → m'.Tells n
  calls : ∀ tag call, .called tag call ∈ m'.notices → .called tag call ∈ m.notices
  opening : ∀ i, m'.tokens.count (i, .opened) = m.tokens.count (i, .opened)

variable {setup : RunSetup} {first : Registry} {m m' : Machine}

theorem Quiet.opening_iff (h : m.Quiet m') (i : Nat) : m'.Opening i ↔ m.Opening i := by
  unfold Opening
  rw [← List.count_pos_iff, ← List.count_pos_iff, h.opening]

theorem Quiet.trans {m'' : Machine} (h : m.Quiet m') (h' : m'.Quiet m'') : m.Quiet m'' :=
  ⟨h'.lanes.trans h.lanes, fun n hn => h'.notices n (h.notices n hn),
    fun n hn => h'.tells n (h.tells n hn),
    fun tag call hcalled => h.calls tag call (h'.calls tag call hcalled),
    fun i => (h'.opening i).trans (h.opening i)⟩

theorem Quiet.tell {notices : List Notice} (h : ∀ tag call, .called tag call ∉ notices) :
    m.Quiet (m.tell notices) := by
  refine ⟨rfl, fun n hn => List.mem_append_left _ hn, fun n hn => ?_, fun tag call hcalled => ?_,
    fun _ => rfl⟩
  · exact hn.imp_left fun hn => List.mem_append_left _ hn
  · exact (List.mem_append.mp hcalled).resolve_right (h tag call)

theorem count_opened_of_ne {e : LaneEvent} (h : ∀ i, e ≠ .begin i) (i : Nat) :
    e.token?.toList.count (i, .opened) = 0 := by
  cases e with
  | begin j => exact absurd rfl (h j)
  | ask | granted | start | finish | close | drop => simp [LaneEvent.token?]

theorem Quiet.push (passes : Nat) {e : LaneEvent} (h : ∀ i, e ≠ .begin i) :
    m.Quiet (m.push passes e) := by
  refine ⟨rfl, fun n hn => hn, fun n hn => ?_, fun _ _ hcalled => hcalled, fun i => ?_⟩
  · refine hn.imp_right fun ⟨p, tag, reason, hmem, hn⟩ => ⟨p, tag, reason, ?_, hn⟩
    exact List.mem_append_left _ hmem
  · rw [count_tokens_push, count_opened_of_ne h, Nat.add_zero]

theorem Quiet.next {e : LaneEvent} (h : ∀ i, e ≠ .begin i) : m.Quiet (m.next e) := by
  refine ⟨rfl, fun n hn => hn, fun n hn => ?_, fun _ _ hcalled => hcalled, fun i => ?_⟩
  · refine hn.imp_right fun ⟨p, tag, reason, hmem, hn⟩ => ⟨p, tag, reason, ?_, hn⟩
    exact List.mem_cons_of_mem _ hmem
  · rw [count_tokens_next, count_opened_of_ne h, Nat.add_zero]

theorem Quiet.grant : m.Quiet m.grant := by
  unfold Machine.grant
  split
  · exact ⟨rfl, fun _ h => h, fun _ h => h, fun _ _ h => h, fun _ => rfl⟩
  · rename_i j marked hmarked
    have hleft : m.Quiet { m with waiting := marked, free := m.free - 1 } := by
      refine ⟨rfl, fun _ h => h, fun _ h => h, fun _ _ h => h, fun i => ?_⟩
      have hcount := count_tokens_of_markFirst m (i, .opened) hmarked
      simp only [List.count_singleton, Prod.mk.injEq, reduceCtorEq, and_false, beq_iff_eq,
        if_false, Nat.add_zero] at hcount
      exact hcount.symm
    exact hleft.trans (.push 0 (by simp))

theorem Quiet.ask (i : Nat) : m.Quiet (m.ask i) := by
  unfold Machine.ask
  split
  · have hleft : m.Quiet { m with free := m.free - 1 } :=
      ⟨rfl, fun _ h => h, fun _ h => h, fun _ _ h => h, fun _ => rfl⟩
    exact hleft.trans (.next (by simp))
  · refine ⟨rfl, fun _ h => h, fun _ h => h, fun _ _ h => h, fun j => ?_⟩
    rw [count_tokens_wait]
    simp

theorem Quiet.takeSlot (i : Nat) : m.Quiet (m.takeSlot i) := by
  have hleft : m.Quiet { m with waiting := m.waiting.filter fun entry => entry.1 != i } := by
    refine ⟨rfl, fun _ h => h, fun _ h => h, fun _ _ h => h, fun j => ?_⟩
    have hnone : ∀ waiting : List (Nat × Bool),
        (waiting.filterMap lineToken?).count (j, .opened) = 0 := by
      intro waiting
      refine List.count_eq_zero.mpr fun hmem => ?_
      obtain ⟨⟨k, kept⟩, -, htoken⟩ := List.mem_filterMap.mp hmem
      cases kept <;> cases htoken
    simp only [Machine.tokens, List.count_append, hnone]
  unfold Machine.takeSlot
  dsimp only
  split
  · exact (hleft.trans .grant).trans (.next (by simp))
  · exact hleft.trans (.next (by simp))

/-- Apart from the lane that it changes, closing a job concerns no call. -/
theorem Quiet.conclude (i : Nat) (lane : Lane) (job : Job) (result : Except Fault Report)
    (ms : Int) :
    (m.setLane i
      { jobs := job.retries setup (job.outcome setup result) ++ lane.jobs
        live := none
        outcomes := lane.outcomes ++ [job.outcome setup result] }).Quiet
      (m.conclude setup i lane job result ms) := by
  have hreport : ∀ tag call, .called tag call ∉ job.report setup (job.outcome setup result) ms ++
      job.announceRetries (job.outcome setup result)
        (job.retries setup (job.outcome setup result)) := by
    intro tag call
    simp only [List.mem_append, not_or]
    exact ⟨not_called_of_countP (job.countP_isCall_report setup _ ms) tag call,
      not_called_of_countP (job.countP_isCall_announceRetries _ _) tag call⟩
  have hrelease : ∀ m : Machine, m.Quiet m.release := by
    intro m
    have hfree : m.Quiet { m with free := m.free + 1 } :=
      ⟨rfl, fun _ h => h, fun _ h => h, fun _ _ h => h, fun _ => rfl⟩
    exact hfree.trans .grant
  unfold Machine.conclude
  dsimp only
  split
  · split
    · exact (Quiet.tell hreport).trans (.next (by simp))
    · exact ((Quiet.tell hreport).trans (hrelease _)).trans (.next (by simp))
  · exact (Quiet.tell hreport).trans (hrelease _)

theorem Keeps.quiet {v : Serving} (h : m.Keeps setup v) (hquiet : m.Quiet m') :
    m'.Keeps setup v := by
  rcases h with ⟨htold, hlane⟩ | ⟨i, lane, startedMs, hlane, hlive, hbegun⟩
  · exact .inl ⟨htold.mono hquiet.tells, hquiet.lanes ▸ hlane⟩
  · refine .inr ⟨i, lane, startedMs, hquiet.lanes ▸ hlane, hlive, ?_⟩
    rwa [hquiet.opening_iff]

theorem Accounts.quiet (h : m.Accounts setup first) (hquiet : m.Quiet m') :
    m'.Accounts setup first := by
  refine ⟨?_, ?_, ?_, ?_⟩
  · rw [hquiet.lanes]
    exact h.tagged
  · intro i lane live hlane hlive hbegun
    rw [hquiet.lanes] at hlane
    rw [hquiet.opening_iff] at hbegun
    obtain ⟨v, startedMs, hsound, hcalled, hv⟩ := h.running i lane live hlane hlive hbegun
    exact ⟨v, startedMs, hsound, hquiet.notices _ hcalled, hv⟩
  · rw [hquiet.lanes]
    exact fun lane hlane o ho => (h.outcomes lane hlane o ho).mono hquiet.tells
  · intro tag call hcalled
    obtain ⟨v, htag, hcall, hsound, hkeeps⟩ := h.calls tag call (hquiet.calls tag call hcalled)
    exact ⟨v, htag, hcall, hsound, hkeeps.quiet hquiet⟩

/-! ### Changes of one lane -/

/-- A change of one lane: what is told and the other lanes stay, and the lane keeps its outcomes. -/
structure Changes (m m' : Machine) (i : Nat) (old lane : Lane) : Prop where
  at_lane : m.lanes[i]? = some old
  lanes : m'.lanes = m.lanes.set i lane
  recorded : ∀ o ∈ old.outcomes, o ∈ lane.outcomes
  notices : ∀ n ∈ m.notices, n ∈ m'.notices
  tells : ∀ n, m.Tells n → m'.Tells n
  opening : ∀ j, j ≠ i → (m'.Opening j ↔ m.Opening j)

section Changes

variable {i : Nat} {old lane : Lane}

theorem Changes.get_self (hch : m.Changes m' i old lane) : m'.lanes[i]? = some lane := by
  rw [hch.lanes]
  exact List.getElem?_set_self (List.getElem?_eq_some_iff.mp hch.at_lane).1

theorem Changes.get_ne (hch : m.Changes m' i old lane) {j : Nat} (hj : j ≠ i) :
    m'.lanes[j]? = m.lanes[j]? := by
  rw [hch.lanes]
  exact List.getElem?_set_ne (Ne.symm hj)

/-- A call that was kept is kept, unless it is the one under way in the lane. -/
theorem Changes.keeps (hch : m.Changes m' i old lane) {v : Serving} (h : m.Keeps setup v)
    (hlive : ∀ startedMs, old.live = some (v.live setup startedMs) → ¬ m.Opening i →
      m'.Keeps setup v) : m'.Keeps setup v := by
  rcases h with ⟨htold, other, hother, hv⟩ | ⟨j, other, startedMs, hother, hfound, hbegun⟩
  · refine .inl ⟨htold.mono hch.tells, ?_⟩
    obtain ⟨j, hj⟩ := List.mem_iff_getElem?.mp hother
    by_cases hji : j = i
    · subst hji
      obtain rfl : old = other := Option.some.inj (hch.at_lane.symm.trans hj)
      exact ⟨lane, List.mem_of_getElem? hch.get_self, hch.recorded _ hv⟩
    · exact ⟨other, List.mem_of_getElem? ((hch.get_ne hji).trans hj), hv⟩
  · by_cases hji : j = i
    · subst hji
      obtain rfl : old = other := Option.some.inj (hch.at_lane.symm.trans hother)
      exact hlive startedMs hfound hbegun
    · exact .inr ⟨j, other, startedMs, (hch.get_ne hji).trans hother, hfound,
        by rwa [hch.opening j hji]⟩

/-- What has to be seen to when one lane changes. -/
theorem Accounts.change (h : m.Accounts setup first) (hch : m.Changes m' i old lane)
    (htagged : ∀ live, lane.live = some live →
      ∃ e, first.get? live.job.batch.engine = some e ∧ live.tag = e.tag)
    (hrunning : ∀ live, lane.live = some live → ¬ m'.Opening i →
      ∃ (v : Serving) (startedMs : Int), v.Sound setup first ∧
        .called v.engine.tag v.call ∈ m'.notices ∧ live = v.live setup startedMs)
    (hnew : ∀ o ∈ lane.outcomes, o ∈ old.outcomes ∨ o.Explained setup first m'.Tells)
    (hover : ∀ (v : Serving) startedMs, old.live = some (v.live setup startedMs) →
      ¬ m.Opening i → .called v.engine.tag v.call ∈ m.notices → m'.Keeps setup v)
    (hcalls : ∀ tag call, .called tag call ∈ m'.notices → .called tag call ∈ m.notices ∨
      ∃ v : Serving, v.engine.tag = tag ∧ v.call = call ∧ v.Sound setup first ∧
        m'.Keeps setup v) : m'.Accounts setup first := by
  have hcases : ∀ other ∈ m'.lanes, other ∈ m.lanes ∨ other = lane := by
    intro other hother
    rw [hch.lanes] at hother
    exact List.mem_or_eq_of_mem_set hother
  refine ⟨?_, ?_, ?_, ?_⟩
  · intro other hother live hlive
    rcases hcases other hother with hold | rfl
    · exact h.tagged other hold live hlive
    · exact htagged live hlive
  · intro j other live hother hlive hbegun
    by_cases hj : j = i
    · subst hj
      obtain rfl : lane = other := Option.some.inj (hch.get_self.symm.trans hother)
      exact hrunning live hlive hbegun
    · rw [hch.get_ne hj] at hother
      rw [hch.opening j hj] at hbegun
      obtain ⟨v, startedMs, hsound, hcalled, hv⟩ := h.running j other live hother hlive hbegun
      exact ⟨v, startedMs, hsound, hch.notices _ hcalled, hv⟩
  · intro other hother o ho
    rcases hcases other hother with hold | rfl
    · exact (h.outcomes other hold o ho).mono hch.tells
    · rcases hnew o ho with hold | hexplained
      · exact (h.outcomes old (List.mem_of_getElem? hch.at_lane) o hold).mono hch.tells
      · exact hexplained
  · intro tag call hcalled
    rcases hcalls tag call hcalled with hold | hnow
    · obtain ⟨v, rfl, rfl, hsound, hkeeps⟩ := h.calls tag call hold
      exact ⟨v, rfl, rfl, hsound, hch.keeps hkeeps fun startedMs hlive hbegun =>
        hover v startedMs hlive hbegun hold⟩
    · exact hnow

end Changes

/-- A lane records the outcome of its job, whose call, if there was one, is over. -/
theorem Accounts.record (h : m.Accounts setup first) {i : Nat} {old lane : Lane} {o : Outcome}
    (hlane : m.lanes[i]? = some old) (houtcomes : lane.outcomes = old.outcomes ++ [o])
    (hnone : lane.live = none) (ho : o.Explained setup first m.Tells)
    (hover : ∀ (v : Serving) startedMs, old.live = some (v.live setup startedMs) →
      o = v.outcome setup ∧ (v.lapsed setup = true →
        m.Tells (.late v.engine.tag (Job.lateReason v.call.timeoutMs)))) :
    (m.setLane i lane).Accounts setup first := by
  have hch : m.Changes (m.setLane i lane) i old lane :=
    ⟨hlane, rfl, fun p hp => by simp [houtcomes, hp], fun _ hn => hn, fun _ hn => hn,
      fun _ _ => Iff.rfl⟩
  refine h.change hch (fun live hlive => ?_) (fun live hlive => ?_) (fun p hp => ?_)
    (fun v startedMs hlive _ hcalled => ?_) fun tag call hcalled => .inl hcalled
  · rw [hnone] at hlive
    cases hlive
  · rw [hnone] at hlive
    cases hlive
  · rw [houtcomes] at hp
    refine (List.mem_append.mp hp).imp_right fun hp => ?_
    obtain rfl := List.mem_singleton.mp hp
    exact ho
  · obtain ⟨rfl, hlate⟩ := hover v startedMs hlive
    exact .inl ⟨⟨.inl hcalled, hlate⟩, lane, List.mem_of_getElem? hch.get_self,
      by simp [houtcomes]⟩

/-- A lane that takes a call which has yet to begin. -/
theorem opened_changes {i : Nat} {old : Lane} (lane : Lane) (hlane : m.lanes[i]? = some old)
    (houtcomes : lane.outcomes = old.outcomes) :
    m.Changes ((m.setLane i lane).push 0 (.begin i)) i old lane ∧
      ((m.setLane i lane).push 0 (.begin i)).Opening i := by
  have hcount : ∀ j, ((m.setLane i lane).push 0 (.begin i)).tokens.count (j, .opened) =
      m.tokens.count (j, .opened) + [(i, Stage.opened)].count (j, .opened) := fun j =>
    count_tokens_push (m.setLane i lane) (j, .opened) 0 (.begin i)
  refine ⟨⟨hlane, rfl, fun p hp => houtcomes ▸ hp, fun _ hn => hn, fun n hn => ?_,
    fun j hj => ?_⟩, ?_⟩
  · refine hn.imp_right fun ⟨p, tag, reason, hmem, hn⟩ => ⟨p, tag, reason, ?_, hn⟩
    exact List.mem_append_left _ hmem
  · have hzero : [(i, Stage.opened)].count (j, .opened) = 0 :=
      List.count_eq_zero_of_not_mem (by simp [hj])
    unfold Opening
    rw [← List.count_pos_iff, ← List.count_pos_iff, hcount, hzero, Nat.add_zero]
  · refine List.count_pos_iff.mp ?_
    rw [hcount, List.count_singleton_self]
    exact Nat.succ_pos _

/-- A lane without a call under way takes one that has yet to begin. -/
theorem Accounts.opened (h : m.Accounts setup first) {i : Nat} {old lane : Lane} {live : LiveCall}
    (hlane : m.lanes[i]? = some old) (hfree : old.live = none)
    (houtcomes : lane.outcomes = old.outcomes) (hlive : lane.live = some live)
    (htag : ∃ e, first.get? live.job.batch.engine = some e ∧ live.tag = e.tag) :
    ((m.setLane i lane).push 0 (.begin i)).Accounts setup first := by
  obtain ⟨hch, hopening⟩ := opened_changes lane hlane houtcomes
  refine h.change hch (fun found hfound => ?_) (fun found _ hbegun => absurd hopening hbegun)
    (fun p hp => .inl (houtcomes ▸ hp)) (fun v startedMs hfound => ?_)
    fun tag call hcalled => .inl hcalled
  · obtain rfl : live = found := Option.some.inj (hlive.symm.trans hfound)
    exact htag
  · rw [hfree] at hfound
    cases hfound

/-- What is told when a call begins. -/
theorem beginCall_notices (setup : RunSetup) (m : Machine) (i : Nat) (lane : Lane)
    (live : LiveCall) (engine : Engine) :
    ∃ quiet, (∀ n ∈ quiet, n.isLog = true) ∧
      (m.beginCall setup i lane live engine).notices =
        m.notices ++ .called live.tag live.call :: quiet := by
  have hserved := engine.isLog_analyze setup.tree live.call
  unfold Machine.beginCall
  dsimp only
  split
  · refine ⟨_, engine.isLog_analyze setup.tree
      { live.call with files := live.call.files.take 1 }, ?_⟩
    exact List.append_assoc _ _ _
  · split
    · exact ⟨_, hserved, List.append_assoc _ _ _⟩
    · split
      · exact ⟨_, hserved, List.append_assoc _ _ _⟩
      · exact ⟨_, hserved, List.append_assoc _ _ _⟩

/-- A call that begins changes its lane alone; the events left are there, and none begins a call. -/
theorem beginCall_changes (setup : RunSetup) (m : Machine) {i : Nat} {lane : Lane}
    (hlane : m.lanes[i]? = some lane) (live : LiveCall) (engine : Engine) :
    m.Changes (m.beginCall setup i lane live engine) i lane
        { lane with live := some (live.judged setup engine) } ∧
      ((m.beginCall setup i lane live engine).Opening i ↔ m.Opening i) := by
  obtain ⟨quiet, -, hnotices⟩ := beginCall_notices setup m i lane live engine
  have hkept : (m.beginCall setup i lane live engine).lanes =
        m.lanes.set i { lane with live := some (live.judged setup engine) } ∧
      (∀ entry ∈ m.queue, entry ∈ (m.beginCall setup i lane live engine).queue) ∧
      ∀ j, (m.beginCall setup i lane live engine).tokens.count (j, .opened) =
        m.tokens.count (j, .opened) := by
    have hfinish : ∀ k, LaneEvent.finish i ≠ .begin k := by simp
    obtain ⟨notices, ⟨ms, e, heq, he⟩ | heq | ⟨turns, -, heq⟩⟩ :=
      beginCall_eq setup m i lane live engine
    · refine heq ▸ ⟨rfl, fun entry hentry => hentry, fun j => ?_⟩
      rw [count_tokens_after, count_opened_of_ne (by rintro k rfl; simp at he), Nat.add_zero]
      rfl
    · refine heq ▸ ⟨rfl, fun entry hentry => List.mem_cons_of_mem _ hentry, fun j => ?_⟩
      rw [count_tokens_next, count_opened_of_ne hfinish, Nat.add_zero]
      rfl
    · refine heq ▸ ⟨rfl, fun entry hentry => List.mem_append_left _ hentry, fun j => ?_⟩
      rw [count_tokens_push, count_opened_of_ne hfinish, Nat.add_zero]
      rfl
  obtain ⟨hlanes, hqueue, hcount⟩ := hkept
  have hopening : ∀ j, (m.beginCall setup i lane live engine).Opening j ↔ m.Opening j := by
    intro j
    unfold Opening
    rw [← List.count_pos_iff, ← List.count_pos_iff, hcount]
  refine ⟨⟨hlane, hlanes, fun o ho => ho, fun n hn => ?_, fun n hn => ?_, fun j _ => hopening j⟩,
    hopening i⟩
  · rw [hnotices]
    exact List.mem_append_left _ hn
  · rcases hn with hn | ⟨p, tag, reason, hmem, hn⟩
    · exact .inl (by rw [hnotices]; exact List.mem_append_left _ hn)
    · exact .inr ⟨p, tag, reason, hqueue _ hmem, hn⟩

/-! ### Events and steps -/

/-- Taking an event out of the queue loses nothing that will be told, unless it is what tells it. -/
theorem Tells.of_queue {n : Notice} (h : m.Tells n) {passes : Nat} {e : LaneEvent}
    {rest : List (Nat × LaneEvent)} (hqueue : m.queue = (passes, e) :: rest)
    (he : ∀ tag reason, e ≠ .drop tag reason) : ({ m with queue := rest } : Machine).Tells n := by
  refine h.imp_right fun ⟨p, tag, reason, hmem, hn⟩ => ⟨p, tag, reason, ?_, hn⟩
  rw [hqueue] at hmem
  rcases List.mem_cons.mp hmem with heq | hrest
  · exact absurd (congrArg Prod.snd heq).symm (he tag reason)
  · exact hrest

theorem Quiet.of_queue {passes : Nat} {e : LaneEvent} {rest : List (Nat × LaneEvent)}
    (hqueue : m.queue = (passes, e) :: rest) (he : ∀ tag reason, e ≠ .drop tag reason)
    (hbegin : ∀ i, e ≠ .begin i) : m.Quiet { m with queue := rest } := by
  refine ⟨rfl, fun _ hn => hn, fun n hn => hn.of_queue hqueue he, fun _ _ hn => hn, fun i => ?_⟩
  rw [m.count_tokens_of_queue (i, .opened) hqueue, count_opened_of_ne hbegin, Nat.add_zero]

/-- The call of a lane that waited for its begin has begun. -/
theorem begun_changes (setup : RunSetup) {i : Nat} {rest : List (Nat × LaneEvent)}
    (hqueue : m.queue = (0, .begin i) :: rest)
    (honly : ({ m with queue := rest } : Machine).tokens.count (i, .opened) = 0) {lane : Lane}
    (hlane : m.lanes[i]? = some lane) (live : LiveCall) (engine : Engine) :
    m.Changes (({ m with queue := rest } : Machine).beginCall setup i lane live engine) i lane
        { lane with live := some (live.judged setup engine) } ∧
      m.Opening i ∧
      ¬ (({ m with queue := rest } : Machine).beginCall setup i lane live engine).Opening i := by
  obtain ⟨hch, hopening⟩ := beginCall_changes setup { m with queue := rest } hlane live engine
  have hcount := fun j => m.count_tokens_of_queue (j, .opened) hqueue
  refine ⟨⟨hlane, hch.lanes, hch.recorded, hch.notices, fun n hn => ?_, fun j hj => ?_⟩, ?_, ?_⟩
  · exact hch.tells n (hn.of_queue hqueue (by simp))
  · have hzero : (LaneEvent.begin i).token?.toList.count (j, .opened) = 0 :=
      List.count_eq_zero_of_not_mem (by simp [LaneEvent.token?, hj])
    rw [hch.opening j hj]
    unfold Opening
    rw [← List.count_pos_iff, ← List.count_pos_iff, hcount j, hzero, Nat.add_zero]
  · refine List.count_pos_iff.mp ?_
    rw [hcount i]
    exact Nat.lt_add_left _ (by simp [LaneEvent.token?])
  · rw [hopening]
    exact List.count_eq_zero.mp honly

/-- The call of a lane begins. -/
theorem Accounts.begun (h : m.Accounts setup first) {i : Nat} {rest : List (Nat × LaneEvent)}
    (hqueue : m.queue = (0, .begin i) :: rest)
    (honly : ({ m with queue := rest } : Machine).tokens.count (i, .opened) = 0) {lane : Lane}
    {live : LiveCall} (hlane : m.lanes[i]? = some lane) (hlive : lane.live = some live)
    {engine : Engine} (hsound : Serving.Sound setup ⟨live.job, engine, live.call⟩ first)
    (htag : live.tag = engine.tag) :
    (({ m with queue := rest } : Machine).beginCall setup i lane live engine).Accounts
      setup first := by
  set v : Serving := ⟨live.job, engine, live.call⟩ with hv
  obtain ⟨hfrom, hopening, hbegun⟩ := begun_changes setup hqueue honly hlane live engine
  obtain ⟨quiet, hlog, hnotices⟩ :=
    beginCall_notices setup { m with queue := rest } i lane live engine
  have hquiet := not_called_of_isLog hlog
  generalize ({ m with queue := rest } : Machine).beginCall setup i lane live engine = m'
    at hfrom hbegun hnotices ⊢
  have hjudged : live.judged setup engine = v.live setup live.startedMs := by
    unfold LiveCall.judged Serving.live
    rw [htag]
    rfl
  have hcalled : .called v.engine.tag v.call ∈ m'.notices := by
    rw [hnotices, hv, ← htag]
    simp
  refine h.change hfrom (fun found hfound => ?_) (fun found hfound _ => ?_) (fun o ho => .inl ho)
    (fun w startedMs _ hnot => absurd hopening hnot) fun tag call htold => ?_
  · cases hfound
    exact h.tagged lane (List.mem_of_getElem? hlane) live hlive
  · cases hfound
    exact ⟨v, live.startedMs, hsound, hcalled, hjudged⟩
  · rw [hnotices] at htold
    simp only [List.mem_append, List.mem_cons, hquiet tag call, or_false] at htold
    refine htold.imp_right fun heq => ?_
    cases heq
    refine ⟨v, htag.symm, rfl, hsound, .inr ⟨i, _, live.startedMs, hfrom.get_self, ?_, hbegun⟩⟩
    exact congrArg some hjudged

/-- A lane closes its job, whose call, if there was one, is over. -/
theorem Accounts.conclude (h : m.Accounts setup first) {i : Nat} {old lane : Lane} {job : Job}
    {result : Except Fault Report} (hlane : m.lanes[i]? = some old)
    (houtcomes : lane.outcomes = old.outcomes)
    (ho : (job.outcome setup result).Explained setup first m.Tells)
    (hover : ∀ (v : Serving) startedMs, old.live = some (v.live setup startedMs) →
      job.outcome setup result = v.outcome setup ∧ (v.lapsed setup = true →
        m.Tells (.late v.engine.tag (Job.lateReason v.call.timeoutMs)))) (ms : Int) :
    (m.conclude setup i lane job result ms).Accounts setup first := by
  refine Accounts.quiet (h.record hlane ?_ rfl ho hover) (Quiet.conclude i lane job result ms)
  rw [houtcomes]

section Events

variable {slots : Nat} {lanes : List (List Job)} {stages : Nat → Option Stage} {s : State}
  {i : Nat} {rest : List (Nat × LaneEvent)}

theorem Accounts.start (h : m.Accounts setup first) (hkeyed : first.WellKeyed)
    (hshows : m.Shows stages s) (hinv : Interleaving.Invariant setup first slots lanes s)
    (hqueue : m.queue = (0, .start i) :: rest) :
    (({ m with queue := rest } : Machine).handle setup (.start i)).Accounts setup first := by
  have htakes : m.Takes i .holds _ := Takes.of_queue hqueue rfl
  obtain ⟨lane, hlane, ⟨hjobs, hlive⟩, -⟩ := htakes.exists_lane hshows
  obtain ⟨job, later, hnext⟩ := List.exists_cons_of_ne_nil hjobs
  have htold := (h.quiet (Quiet.of_queue hqueue (by simp) (by simp))).quiet (Quiet.tell (not_called_of_countP
      (job.countP_isCall_announce setup)))
  simp only [Machine.handle, hlane, hnext]
  unfold Machine.openJob
  dsimp only
  split
  · rename_i f _
    have hrecorded : ({ lane with jobs := later } : Lane).outcomes = lane.outcomes := rfl
    refine htold.conclude hlane hrecorded (.inl ⟨job, f, rfl⟩) (fun v startedMs hv => ?_) 0
    rw [hlive] at hv
    cases hv
  · rename_i engine call hmade
    obtain ⟨hget, -⟩ := Job.prepareCall_eq_ok_iff.mp hmade
    refine htold.opened hlane hlive rfl rfl ?_
    -- the engine is that of the start after some calls, and has kept its tag
    have hlater : Registry.Later setup.tree first m.registry := hshows.registry ▸ hinv.later
    obtain ⟨e, he⟩ : ∃ e, first.get? job.batch.engine = some e := by
      refine Option.isSome_iff_exists.mp ?_
      rw [← hlater.isSome_get?, show m.registry.get? job.batch.engine = some engine from hget]
      rfl
    obtain ⟨history, hhistory⟩ := hlater.get?_after hkeyed he
    obtain rfl : engine = e.after setup.tree history :=
      Option.some.inj (hget.symm.trans hhistory)
    exact ⟨e, he, Engine.after_tag setup.tree e history⟩

/-- The call of a lane that waits for its begin, and the engine that will serve it. -/
theorem Shows.exists_engine (hshows : m.Shows stages s)
    (hinv : Interleaving.Invariant setup first slots lanes s)
    (hqueue : m.queue = (0, .begin i) :: rest) :
    ∃ lane live engine, m.lanes[i]? = some lane ∧ lane.live = some live ∧
      m.registry.get? live.job.batch.engine = some engine ∧
      live.job.request setup = .ok live.call := by
  have htakes : m.Takes i .opened _ := Takes.of_queue hqueue rfl
  obtain ⟨lane, hlane, ⟨live, hlive⟩, htrack⟩ := htakes.exists_lane hshows
  have hphase : (lane.track (some .opened)).phase = .opened live.job live.call := by
    simp only [Lane.track, hlive]
  obtain ⟨engine, hengine⟩ := hinv.exists_engine htrack hphase
  obtain ⟨jobs, htracked⟩ := hinv.exists_sound htrack
  exact ⟨lane, live, engine, hlane, hlive, hshows.registry ▸ hengine,
    (htracked.opened live.job live.call hphase).1⟩

theorem Accounts.begin (h : m.Accounts setup first) (hkeyed : first.WellKeyed)
    (hshows : m.Shows stages s) (hinv : Interleaving.Invariant setup first slots lanes s)
    (hqueue : m.queue = (0, .begin i) :: rest) :
    (({ m with queue := rest } : Machine).handle setup (.begin i)).Accounts setup first := by
  have htakes : m.Takes i .opened _ := Takes.of_queue hqueue rfl
  obtain ⟨lane, live, engine, hlane, hlive, hfound, hrequest⟩ := hshows.exists_engine hinv hqueue
  obtain ⟨e, he, htag⟩ := h.tagged lane (List.mem_of_getElem? hlane) live hlive
  have hlater : Registry.Later setup.tree first m.registry := hshows.registry ▸ hinv.later
  obtain ⟨history, hhistory⟩ := hlater.get?_after hkeyed he
  obtain rfl : engine = e.after setup.tree history :=
    Option.some.inj (hfound.symm.trans hhistory)
  simp only [Machine.handle, hlane, hlive, hfound]
  refine h.begun hqueue (htakes.count_self hshows .opened) hlane hlive
    ⟨⟨m.registry, hlater, hfound⟩, hrequest⟩ ?_
  rw [htag, Engine.after_tag]

theorem Accounts.close (h : m.Accounts setup first) (hshows : m.Shows stages s)
    (hqueue : m.queue = (0, .close i) :: rest) :
    (({ m with queue := rest } : Machine).handle setup (.close i)).Accounts setup first := by
  have htakes : m.Takes i .runs _ := Takes.of_queue hqueue rfl
  obtain ⟨lane, hlane, ⟨live, hlive⟩, -⟩ := htakes.exists_lane hshows
  -- the call is under way, so it is known what it comes to
  have hbegun : ¬ m.Opening i := by
    refine List.count_eq_zero.mp ?_
    rw [hshows.tokens, htakes.stages_eq hshows]
    rfl
  obtain ⟨v, startedMs, hsound, hcalled, rfl⟩ := h.running i lane live hlane hlive hbegun
  have hleft := h.quiet (Quiet.of_queue hqueue (by simp) (by simp))
  simp only [Machine.handle, hlane, hlive]
  unfold Machine.closeCall
  dsimp only
  have hover : ∀ m' : Machine, (v.lapsed setup = true →
        m'.Tells (.late v.engine.tag (Job.lateReason v.call.timeoutMs))) →
      ∀ (w : Serving) (ms : Int), lane.live = some (w.live setup ms) →
      v.job.outcome setup (v.job.judge setup (v.reply setup)) = w.outcome setup ∧
        (w.lapsed setup = true →
          m'.Tells (.late w.engine.tag (Job.lateReason w.call.timeoutMs))) := by
    intro m' hlate w ms hw
    rw [hlive] at hw
    have hsame := Option.some.inj hw
    simp only [Serving.live, LiveCall.mk.injEq] at hsame
    obtain ⟨hjob, hcall, -, htag, hresult, hlapsed⟩ := hsame
    refine ⟨?_, ?_⟩
    · rw [hresult, hjob]
      rfl
    · rw [← hlapsed, ← htag, ← hcall]
      exact hlate
  by_cases hlapsed : (v.live setup startedMs).lapsed = true
  · rw [if_pos hlapsed]
    have hpushed := hleft.quiet (Quiet.push 0 (e := .drop v.engine.tag
      (Job.lateReason v.call.timeoutMs)) (by simp))
    have hlate : (({ m with queue := rest } : Machine).push 0 (.drop v.engine.tag
        (Job.lateReason v.call.timeoutMs))).Tells
          (.late v.engine.tag (Job.lateReason v.call.timeoutMs)) :=
      .inr ⟨0, _, _, by simp [Machine.push], rfl⟩
    exact hpushed.conclude hlane rfl (.inr ⟨v, hsound, ⟨.inl hcalled, fun _ => hlate⟩, rfl⟩)
      (hover _ fun _ => hlate) _
  · rw [if_neg hlapsed]
    exact hleft.conclude hlane rfl
      (.inr ⟨v, hsound, ⟨.inl hcalled, fun hlate => absurd hlate hlapsed⟩, rfl⟩)
      (hover _ fun hlate => absurd hlate hlapsed) _

/-- The other events concern no call. -/
theorem Quiet.handle {e : LaneEvent} (hqueue : m.queue = (0, e) :: rest)
    (hstart : ∀ i, e ≠ .start i) (hbegin : ∀ i, e ≠ .begin i) (hclose : ∀ i, e ≠ .close i) :
    m.Quiet (({ m with queue := rest } : Machine).handle setup e) := by
  have hleft : (∀ tag reason, e ≠ .drop tag reason) → m.Quiet { m with queue := rest } :=
    fun hdrop => .of_queue hqueue hdrop hbegin
  cases e with
  | ask i =>
    have hquiet := hleft (by simp)
    simp only [Machine.handle]
    split
    · exact hquiet.trans (.ask i)
    · exact hquiet
  | granted i => exact (hleft (by simp)).trans (.takeSlot i)
  | start i => exact absurd rfl (hstart i)
  | begin i => exact absurd rfl (hbegin i)
  | finish i =>
    have hquiet := hleft (by simp)
    simp only [Machine.handle]
    split
    · exact (hquiet.trans (.tell (by simp))).trans (.push 1 (by simp))
    · exact hquiet
  | close i => exact absurd rfl (hclose i)
  | drop tag reason =>
    refine ⟨rfl, fun n hn => List.mem_append_left _ hn, fun n hn => ?_,
      fun tag call hcalled => ?_, fun i => ?_⟩
    · rcases hn with hn | ⟨p, tag', reason', hmem, rfl⟩
      · exact .inl (List.mem_append_left _ hn)
      · rw [hqueue] at hmem
        rcases List.mem_cons.mp hmem with heq | hrest
        · cases heq
          exact .inl (List.mem_append_right _ (by simp))
        · exact .inr ⟨p, tag', reason', hrest, rfl⟩
    · exact (List.mem_append.mp hcalled).resolve_right (by simp)
    · rw [m.count_tokens_of_queue (i, .opened) hqueue]
      rfl

/-- Every event leaves what is told and what the lanes hold in accord. -/
theorem Accounts.handle (h : m.Accounts setup first) (hkeyed : first.WellKeyed)
    (hshows : m.Shows stages s) (hinv : Interleaving.Invariant setup first slots lanes s)
    {e : LaneEvent} (hqueue : m.queue = (0, e) :: rest) :
    (({ m with queue := rest } : Machine).handle setup e).Accounts setup first := by
  cases e with
  | start i => exact h.start hkeyed hshows hinv hqueue
  | begin i => exact h.begin hkeyed hshows hinv hqueue
  | close i => exact h.close hshows hqueue
  | ask | granted | finish | drop =>
    exact h.quiet (.handle hqueue (by simp) (by simp) (by simp))

/-- A step is an event, or it passes one over or moves the clock and concerns no call. -/
theorem step_cases (h : m.step setup = some m') :
    (∃ e rest, m.queue = (0, e) :: rest ∧
      m' = ({ m with queue := rest } : Machine).handle setup e) ∨
    m.Quiet m' ∧ m'.notices = m.notices := by
  unfold Machine.step at h
  split at h
  · rename_i e rest hqueue
    cases h
    exact .inl ⟨e, rest, hqueue, rfl⟩
  · rename_i passes e rest hqueue
    cases h
    refine .inr ⟨⟨rfl, fun _ hn => hn, fun n hn => ?_, fun _ _ hn => hn, fun i => ?_⟩, rfl⟩
    · refine hn.imp_right fun ⟨p, tag, reason, hmem, hn⟩ => ?_
      rw [hqueue] at hmem
      rcases List.mem_cons.mp hmem with heq | hrest
      · cases heq
        exact ⟨passes, tag, reason, by simp, hn⟩
      · exact ⟨p, tag, reason, by simp [hrest], hn⟩
    · rw [m.count_tokens_of_queue (i, .opened) hqueue]
      exact count_tokens_push { m with queue := rest } (i, .opened) passes e
  · rename_i hqueue
    split at h
    · cases h
    · rename_i t _
      cases h
      refine .inr ⟨⟨rfl, fun _ hn => hn, fun n hn => ?_, fun _ _ hn => hn,
        fun i => count_tokens_due m (i, .opened) t _ hqueue⟩, rfl⟩
      refine hn.imp_right fun ⟨p, tag, reason, hmem, hn⟩ => ?_
      rw [hqueue] at hmem
      cases hmem

/-- So does every step. -/
theorem Accounts.step (h : m.Accounts setup first) (hkeyed : first.WellKeyed)
    (hshows : m.Shows stages s) (hinv : Interleaving.Invariant setup first slots lanes s)
    (hstep : m.step setup = some m') : m'.Accounts setup first := by
  rcases step_cases hstep with ⟨e, rest, hqueue, rfl⟩ | ⟨hquiet, -⟩
  · exact h.handle hkeyed hshows hinv hqueue
  · exact h.quiet hquiet

theorem Accounts.runWithin (h : m.Accounts setup first) (hkeyed : first.WellKeyed)
    (hinv : Interleaving.Invariant setup first slots lanes s) (hfollows : m.Follows setup s)
    (fuel : Nat) : (m.runWithin setup fuel).Accounts setup first := by
  induction fuel generalizing m with
  | zero => exact h
  | succ fuel ih =>
    unfold Machine.runWithin
    split
    · rename_i next hstep
      obtain ⟨stages, s', hreaches, hshows⟩ := hfollows
      have hinv' := hinv.of_reaches hreaches
      exact ih (h.step hkeyed hshows hinv' hstep) ((hshows.step hinv' hstep).follows.head hreaches)
    · exact h

end Events

/-- Before anything has happened there is nothing to account for. -/
theorem accounts_initial (setup : RunSetup) (registry : Registry) (slots : Nat)
    (lanes : List (List Job)) :
    (initial registry slots lanes).Accounts setup registry := by
  have hfresh : ∀ lane ∈ (initial registry slots lanes).lanes,
      lane.live = none ∧ lane.outcomes = [] := by
    intro lane hlane
    obtain ⟨jobs, -, rfl⟩ := List.mem_map.mp hlane
    exact ⟨rfl, rfl⟩
  refine ⟨fun lane hlane live hlive => ?_, fun i lane live hlane hlive => ?_,
    fun lane hlane o ho => ?_, fun tag call hcalled => absurd hcalled List.not_mem_nil⟩
  · rw [(hfresh lane hlane).1] at hlive
    cases hlive
  · rw [(hfresh lane (List.mem_of_getElem? hlane)).1] at hlive
    cases hlive
  · rw [(hfresh lane hlane).2] at ho
    cases ho

end Machine

/-- When nothing is left to happen in lanes, every call that was told of is over. -/
theorem runLanes_accounts (setup : RunSetup) {registry : Registry} (hkeyed : registry.WellKeyed)
    {slots : Nat} (hslots : 1 ≤ slots) (lanes : List (List Job)) :
    (runLanes setup registry slots lanes).Accounts setup registry := by
  have hstart := Interleaving.Invariant.start setup registry slots lanes
  have hfollows := Machine.follows_initial setup registry slots lanes
  have haccounts := (Machine.accounts_initial setup registry slots lanes).runWithin hkeyed hstart
    hfollows (laneFuel setup lanes)
  obtain ⟨stages, s, hreaches, hshows⟩ := hfollows.runWithin hstart (laneFuel setup lanes)
  have hfinished := hshows.finished_of_laneFuel hreaches hslots
  have hqueue := (Machine.queue_timers_of_step_eq_none setup
    (Machine.step_runWithin_laneFuel setup registry slots lanes)).1
  show SequenceCourse.Accounts setup registry
    { registry := ((Machine.initial registry slots lanes).runWithin setup
        (laneFuel setup lanes)).registry
      notices := ((Machine.initial registry slots lanes).runWithin setup
        (laneFuel setup lanes)).notices
      outcomes := ((Machine.initial registry slots lanes).runWithin setup
        (laneFuel setup lanes)).lanes.flatMap Lane.outcomes }
  generalize (Machine.initial registry slots lanes).runWithin setup (laneFuel setup lanes) = m
    at haccounts hshows hqueue ⊢
  -- the queue is empty, so all has been told
  have htells : ∀ n, m.Tells n → n ∈ m.notices := by
    rintro n (hn | ⟨p, tag, reason, hmem, -⟩)
    · exact hn
    · rw [hqueue] at hmem
      cases hmem
  refine ⟨fun o ho => ?_, fun tag call hcalled => ?_⟩
  · obtain ⟨lane, hlane, ho⟩ := List.mem_flatMap.mp ho
    exact (haccounts.outcomes lane hlane o ho).mono htells
  · obtain ⟨v, htag, hcall, hsound, hkeeps⟩ := haccounts.calls tag call hcalled
    rcases hkeeps with ⟨htold, lane, hlane, hv⟩ | ⟨i, lane, startedMs, hlane, hlive, -⟩
    · exact ⟨v, htag, hcall, hsound, htold.mono htells, List.mem_flatMap.mpr ⟨lane, hlane, hv⟩⟩
    · rw [hshows.live_eq_none hfinished hlane] at hlive
      cases hlive

/-- What is told of a run of groups and its outcomes account for each other. -/
theorem execute_accounts {setup : RunSetup} {registry : Registry} (hkeyed : registry.WellKeyed)
    {groups : Keyed (List Rule)} {course : SequenceCourse}
    (h : execute setup registry groups = .ok course) : course.Accounts setup registry := by
  unfold execute at h
  cases hlanes : lanesOf setup registry groups with
  | error f =>
    rw [hlanes] at h
    cases h
  | ok lanes =>
    rw [hlanes] at h
    dsimp only [bind, Except.bind, pure, Except.pure] at h
    split at h
    · cases h
      exact runJobs_accounts setup registry lanes.flatten .refl
    · cases h
      exact runLanes_accounts setup hkeyed (by omega) lanes

end RuleAudit
