import RuleAudit.Proofs.Alike
import RuleAudit.Proofs.Run.LaneFuel

/-!
# Late replies change nothing

Two registries whose engines reply alike to every call until its deadline: a call ends by itself in
the same way with both, or its deadline finds it under way with both, and then no more is asked of
what the two engines do afterwards. Runs over the two give the same outcomes and tell the same
(`execute_alike`), one job after another as in lanes.
-/

namespace RuleAudit

/-- Replies that are equal, or both found under way by the deadline of the call. -/
def equalUntilDeadline : ReplyRelation :=
  fun _ call reply reply' => reply = reply' ∨
    reply.lapses call.timeoutMs = true ∧ reply'.lapses call.timeoutMs = true

theorem equalUntilDeadline_refl (id : String) (call : Call) (reply : Reply) :
    equalUntilDeadline id call reply reply :=
  .inl rfl

/-! ## One job after another -/

namespace Job

variable {setup : RunSetup} {job : Job} {call : Call}

theorem timeoutMs_of_request (h : job.request setup = .ok call) :
    call.timeoutMs = job.timeoutMs setup := by
  unfold request at h
  cases htoken : Token.start (.ofInt 0) (some (job.timeoutMs setup)) with
  | error f =>
    rw [htoken] at h
    cases h
  | ok token =>
    rw [htoken] at h
    cases h
    rfl

/-- A call that its deadline finds under way is judged by that alone. -/
theorem judge_of_lapses {reply : Reply} (h : reply.lapses (job.timeoutMs setup) = true) :
    job.judge setup reply = .error (.deadline (job.context setup)) :=
  if_pos h

/-- Engines that are alike serve the call of a job alike. -/
theorem call_alike {r r' : Registry} (h : r.Alike equalUntilDeadline r') {e e' : Engine}
    (he : e.Alike equalUntilDeadline e') (hcall : call.timeoutMs = job.timeoutMs setup) :
    (job.call setup r e call).1.Alike equalUntilDeadline (job.call setup r' e' call).1 ∧
      (job.call setup r' e' call).2 = (job.call setup r e call).2 := by
  obtain ⟨hserved, hnotices, hreply⟩ := he.analyze equalUntilDeadline_refl setup.tree call
  obtain ⟨hcut, hcutNotices⟩ := he.analyzeCut equalUntilDeadline_refl setup.tree call
  unfold Job.call
  rw [he.tag_eq]
  generalize e.analyze setup.tree call = x at hserved hnotices hreply ⊢
  generalize e'.analyze setup.tree call = x' at hserved hnotices hreply ⊢
  generalize e.analyzeCut setup.tree call = y at hcut hcutNotices ⊢
  generalize e'.analyzeCut setup.tree call = y' at hcut hcutNotices ⊢
  obtain ⟨served, notices, reply⟩ := x
  obtain ⟨served', notices', reply'⟩ := x'
  obtain ⟨cut, told⟩ := y
  obtain ⟨cut', told'⟩ := y'
  obtain rfl : notices' = notices := hnotices
  obtain rfl : told' = told := hcutNotices
  dsimp only at hreply ⊢
  rcases hreply with rfl | ⟨hlapses, hlapses'⟩
  · split
    · exact ⟨h.update hcut, rfl⟩
    · exact ⟨h.update hserved, rfl⟩
  · rw [if_pos hlapses, if_pos hlapses', judge_of_lapses (hcall ▸ hlapses),
      judge_of_lapses (hcall ▸ hlapses')]
    exact ⟨h.update hcut, rfl⟩

/-- A job runs alike on registries that are alike. -/
theorem run_alike (setup : RunSetup) (job : Job) {r r' : Registry}
    (h : r.Alike equalUntilDeadline r') :
    (job.run setup r).registry.Alike equalUntilDeadline (job.run setup r').registry ∧
      (job.run setup r').notices = (job.run setup r).notices ∧
      (job.run setup r').outcome = (job.run setup r).outcome := by
  unfold run
  rw [prepareCall_eq, prepareCall_eq]
  rcases h.get? job.batch.engine with ⟨hnone, hnone'⟩ | ⟨e, e', hsome, hsome', halike⟩
  · rw [hnone, hnone']
    exact ⟨h, rfl, rfl⟩
  · rw [hsome, hsome']
    dsimp only
    cases hrequest : job.request setup with
    | error f => exact ⟨h, rfl, rfl⟩
    | ok call =>
      obtain ⟨hafter, hrest⟩ := call_alike h halike (timeoutMs_of_request hrequest)
      dsimp only [Except.map]
      generalize job.call setup r e call = course at hafter hrest ⊢
      generalize job.call setup r' e' call = course' at hafter hrest ⊢
      obtain ⟨after, rest⟩ := course
      obtain ⟨after', rest'⟩ := course'
      obtain rfl : rest' = rest := hrest
      exact ⟨hafter, rfl, rfl⟩

end Job

theorem runJobsWithin_alike (setup : RunSetup) (fuel : Nat) {r r' : Registry}
    (h : r.Alike equalUntilDeadline r') (jobs : List Job) :
    let course := runJobsWithin setup fuel r jobs
    let course' := runJobsWithin setup fuel r' jobs
    course.registry.Alike equalUntilDeadline course'.registry ∧
      course'.notices = course.notices ∧ course'.outcomes = course.outcomes := by
  induction fuel generalizing r r' jobs with
  | zero => exact ⟨h, rfl, rfl⟩
  | succ fuel ih =>
    cases jobs with
    | nil => exact ⟨h, rfl, rfl⟩
    | cons job rest =>
      obtain ⟨hregistry, hnotices, houtcome⟩ := job.run_alike setup h
      obtain ⟨hlater, hlaterNotices, hlaterOutcomes⟩ :=
        ih hregistry (job.retries setup (job.run setup r).outcome ++ rest)
      dsimp only [runJobsWithin]
      rw [hnotices, houtcome, hlaterNotices, hlaterOutcomes]
      exact ⟨hlater, rfl, rfl⟩

/-! ## Lanes -/

namespace Machine

/-! ### What the parts of a step leave alone -/

section Frame

variable (setup : RunSetup) (m : Machine) (i : Nat)

@[simp] theorem grant_lanes : m.grant.lanes = m.lanes := by
  unfold grant
  split <;> rfl

@[simp] theorem grant_registry : m.grant.registry = m.registry := by
  unfold grant
  split <;> rfl

@[simp] theorem ask_lanes : (m.ask i).lanes = m.lanes := by
  unfold ask
  split <;> rfl

@[simp] theorem ask_registry : (m.ask i).registry = m.registry := by
  unfold ask
  split <;> rfl

@[simp] theorem takeSlot_lanes : (m.takeSlot i).lanes = m.lanes := by
  unfold takeSlot
  dsimp only
  split
  · exact grant_lanes _
  · rfl

@[simp] theorem takeSlot_registry : (m.takeSlot i).registry = m.registry := by
  unfold takeSlot
  dsimp only
  split
  · exact grant_registry _
  · rfl

/-- A lane that closes a job has no call under way. -/
@[simp] theorem conclude_lanes (lane : Lane) (job : Job) (result : Except Fault Report) (ms : Int) :
    (m.conclude setup i lane job result ms).lanes =
      m.lanes.set i
        { jobs := job.retries setup (job.outcome setup result) ++ lane.jobs
          live := none
          outcomes := lane.outcomes ++ [job.outcome setup result] } := by
  unfold conclude
  dsimp only
  split
  · split
    · rfl
    · exact grant_lanes _
  · exact grant_lanes _

@[simp] theorem conclude_registry (lane : Lane) (job : Job) (result : Except Fault Report)
    (ms : Int) : (m.conclude setup i lane job result ms).registry = m.registry := by
  unfold conclude
  dsimp only
  split
  · split
    · rfl
    · exact grant_registry _
  · exact grant_registry _

end Frame

/-! ### Another registry -/

/-- The machine at work on another registry. -/
def withRegistry (m : Machine) (r : Registry) : Machine :=
  { m with registry := r }

section Parts

variable (setup : RunSetup) (m : Machine) (r : Registry) (i : Nat)

@[simp] theorem setLane_withRegistry (lane : Lane) :
    (m.withRegistry r).setLane i lane = (m.setLane i lane).withRegistry r := rfl

@[simp] theorem tell_withRegistry (notices : List Notice) :
    (m.withRegistry r).tell notices = (m.tell notices).withRegistry r := rfl

@[simp] theorem next_withRegistry (e : LaneEvent) :
    (m.withRegistry r).next e = (m.next e).withRegistry r := rfl

@[simp] theorem grant_withRegistry : (m.withRegistry r).grant = m.grant.withRegistry r := by
  unfold grant withRegistry
  dsimp only
  split <;> rfl

@[simp] theorem release_withRegistry : (m.withRegistry r).release = m.release.withRegistry r :=
  grant_withRegistry { m with free := m.free + 1 } r

@[simp] theorem conclude_withRegistry (lane : Lane) (job : Job) (result : Except Fault Report)
    (ms : Int) :
    (m.withRegistry r).conclude setup i lane job result ms =
      (m.conclude setup i lane job result ms).withRegistry r := by
  unfold conclude
  simp only [setLane_withRegistry, tell_withRegistry, release_withRegistry, next_withRegistry]
  split
  · split <;> rfl
  · rfl

theorem ask_withRegistry : (m.withRegistry r).ask i = (m.ask i).withRegistry r := by
  unfold ask withRegistry
  dsimp only
  split <;> rfl

theorem takeSlot_withRegistry : (m.withRegistry r).takeSlot i = (m.takeSlot i).withRegistry r := by
  have hgrant := grant_withRegistry
    { m with waiting := m.waiting.filter fun entry => entry.1 != i } r
  unfold takeSlot
  dsimp only
  by_cases hfree : m.free > 0
  · rw [if_pos hfree, if_pos (show (m.withRegistry r).free > 0 from hfree)]
    exact congrArg (fun m => m.next (.start i)) hgrant
  · rw [if_neg hfree, if_neg (show ¬ (m.withRegistry r).free > 0 from hfree)]
    rfl

end Parts

/-- Every call under way has the deadline of its job. -/
def Timed (setup : RunSetup) (m : Machine) : Prop :=
  ∀ lane ∈ m.lanes, ∀ live, lane.live = some live →
    live.call.timeoutMs = live.job.timeoutMs setup

variable {setup : RunSetup} {m : Machine}

theorem Timed.of_lanes (h : m.Timed setup) {m' : Machine} (hlanes : m'.lanes = m.lanes) :
    m'.Timed setup := by
  intro lane hlane
  exact h lane (hlanes ▸ hlane)

theorem Timed.setLane (h : m.Timed setup) (i : Nat) {lane : Lane}
    (hlane : ∀ live, lane.live = some live → live.call.timeoutMs = live.job.timeoutMs setup) :
    (m.setLane i lane).Timed setup := by
  intro other hother
  rcases List.mem_or_eq_of_mem_set hother with hold | rfl
  · exact h other hold
  · exact hlane

/-- Two machines that differ at most in registries that are alike, with calls that have the
deadlines of their jobs. -/
structure Alike (setup : RunSetup) (m m' : Machine) : Prop where
  registry : m.registry.Alike equalUntilDeadline m'.registry
  rest : m' = m.withRegistry m'.registry
  timed : m.Timed setup

/-- Both machines with a change that leaves the registry alone. -/
theorem Alike.map {m' : Machine} (h : m.Alike setup m') {f : Machine → Machine}
    (hregistry : ∀ m : Machine, (f m).registry = m.registry)
    (hwith : ∀ (m : Machine) (r : Registry), f (m.withRegistry r) = (f m).withRegistry r)
    (htimed : (f m).Timed setup) : (f m).Alike setup (f m') := by
  have hsame : f m' = (f m).withRegistry m'.registry := by
    rw [← hwith, ← h.rest]
  refine ⟨?_, ?_, htimed⟩
  · rw [hregistry, hregistry]
    exact h.registry
  · rw [hregistry]
    exact hsame

theorem Alike.conclude {m' : Machine} (h : m.Alike setup m') (i : Nat) (lane : Lane) (job : Job)
    (result : Except Fault Report) (ms : Int) :
    (m.conclude setup i lane job result ms).Alike setup
      (m'.conclude setup i lane job result ms) := by
  refine h.map (f := fun m => m.conclude setup i lane job result ms)
    (fun m => conclude_registry setup m i lane job result ms)
    (fun m r => conclude_withRegistry setup m r i lane job result ms) ?_
  refine Timed.of_lanes (m := m.setLane i _) ?_ (conclude_lanes setup m i lane job result ms)
  exact h.timed.setLane i (by simp)

theorem Alike.closeCall {m' : Machine} (h : m.Alike setup m') (i : Nat) (lane : Lane)
    (live : LiveCall) :
    (m.closeCall setup i lane live).Alike setup (m'.closeCall setup i lane live) := by
  have hnow : m'.now = m.now := by
    rw [h.rest]
    rfl
  unfold Machine.closeCall
  dsimp only
  split
  · have hpushed : ∀ e, (m.push 0 e).Alike setup (m'.push 0 e) := fun e =>
      h.map (f := fun m => m.push 0 e) (fun _ => rfl) (fun _ _ => rfl) h.timed
    exact hnow ▸ (hpushed _).conclude i lane live.job live.result _
  · exact hnow ▸ h.conclude i lane live.job live.result _

theorem Alike.tell {m' : Machine} (h : m.Alike setup m') (notices : List Notice) :
    (m.tell notices).Alike setup (m'.tell notices) :=
  h.map (f := fun m => m.tell notices) (fun _ => rfl) (fun _ _ => rfl) h.timed

theorem Alike.openJob {m' : Machine} (h : m.Alike setup m') (i : Nat) (lane : Lane) (job : Job)
    (rest : List Job) :
    (m.openJob setup i lane job rest).Alike setup (m'.openJob setup i lane job rest) := by
  have hnow : m'.now = m.now := by
    rw [h.rest]
    rfl
  have htold := h.tell (job.announce setup)
  unfold Machine.openJob
  dsimp only
  rw [Job.prepareCall_eq, Job.prepareCall_eq]
  rcases htold.registry.get? job.batch.engine with
    ⟨hnone, hnone'⟩ | ⟨e, e', hsome, hsome', halike⟩
  · rw [hnone, hnone']
    exact htold.conclude i _ job _ 0
  · rw [hsome, hsome']
    dsimp only
    cases hrequest : job.request setup with
    | error f => exact htold.conclude i _ job _ 0
    | ok call =>
      dsimp only [Except.map]
      rw [halike.tag_eq, show (m'.tell (job.announce setup)).now =
        (m.tell (job.announce setup)).now from hnow]
      refine htold.map (f := fun m => (m.setLane i _).push 0 (.begin i)) (fun _ => rfl)
        (fun _ _ => rfl) ?_
      refine htold.timed.setLane i fun live hlive => ?_
      cases hlive
      exact Job.timeoutMs_of_request hrequest

theorem Alike.beginCall {m' : Machine} (h : m.Alike setup m') (i : Nat) {lane : Lane}
    {live : LiveCall} (hlive : live.call.timeoutMs = live.job.timeoutMs setup) {e e' : Engine}
    (he : e.Alike equalUntilDeadline e') :
    (m.beginCall setup i lane live e).Alike setup (m'.beginCall setup i lane live e') := by
  obtain ⟨hserved, hnotices, hreply⟩ := he.analyze equalUntilDeadline_refl setup.tree live.call
  obtain ⟨hcut, hcutNotices⟩ := he.analyzeCut equalUntilDeadline_refl setup.tree live.call
  have htimed : ∀ (result : Except Fault Report) (lapsed : Bool),
      (m.setLane i { lane with live := some { live with result, lapsed } }).Timed setup :=
    fun result lapsed => h.timed.setLane i fun other hother => by
      cases hother
      exact hlive
  unfold Machine.beginCall
  generalize e.analyze setup.tree live.call = x at hserved hnotices hreply ⊢
  generalize e'.analyze setup.tree live.call = x' at hserved hnotices hreply ⊢
  generalize e.analyzeCut setup.tree live.call = y at hcut hcutNotices ⊢
  generalize e'.analyzeCut setup.tree live.call = y' at hcut hcutNotices ⊢
  obtain ⟨served, notices, reply⟩ := x
  obtain ⟨served', notices', reply'⟩ := x'
  obtain ⟨cut, told⟩ := y
  obtain ⟨cut', told'⟩ := y'
  obtain rfl : notices' = notices := hnotices
  obtain rfl : told' = told := hcutNotices
  dsimp only at hreply hserved hcut ⊢
  rcases hreply with rfl | ⟨hlapses, hlapses'⟩
  · rw [h.rest]
    split
    · exact ⟨h.registry.update hcut, rfl, htimed _ _⟩
    · split
      · exact ⟨h.registry.update hserved, rfl, htimed _ _⟩
      · split
        · exact ⟨h.registry.update hserved, rfl, htimed _ _⟩
        · exact ⟨h.registry.update hserved, rfl, htimed _ _⟩
  · rw [h.rest, if_pos hlapses, if_pos hlapses', Job.judge_of_lapses (hlive ▸ hlapses),
      Job.judge_of_lapses (hlive ▸ hlapses'), hlapses, hlapses']
    exact ⟨h.registry.update hcut, rfl, htimed _ _⟩

theorem Alike.handle {m' : Machine} (h : m.Alike setup m') (e : LaneEvent) :
    (m.handle setup e).Alike setup (m'.handle setup e) := by
  have hlanes : m'.lanes = m.lanes := by
    rw [h.rest]
    rfl
  cases e with
  | ask i =>
    simp only [Machine.handle, hlanes]
    split
    · exact h.map (f := fun m => m.ask i) (fun m => ask_registry m i)
        (fun m r => ask_withRegistry m r i) (h.timed.of_lanes (ask_lanes m i))
    · exact h
  | granted i =>
    exact h.map (f := fun m => m.takeSlot i) (fun m => takeSlot_registry m i)
      (fun m r => takeSlot_withRegistry m r i) (h.timed.of_lanes (takeSlot_lanes m i))
  | start i =>
    simp only [Machine.handle, hlanes]
    split
    · split
      · exact h.openJob i _ _ _
      · exact h
    · exact h
  | begin i =>
    simp only [Machine.handle, hlanes]
    split
    · rename_i lane hlane
      split
      · rename_i live hlive
        rcases h.registry.get? live.job.batch.engine with
          ⟨hnone, hnone'⟩ | ⟨e, e', hsome, hsome', halike⟩
        · rw [hnone, hnone']
          exact h
        · rw [hsome, hsome']
          exact h.beginCall i (h.timed lane (List.mem_of_getElem? hlane) live hlive) halike
      · exact h
    · exact h
  | finish i =>
    simp only [Machine.handle, hlanes]
    split
    · exact h.map (f := fun m => (m.tell _).push 1 (.close i)) (fun _ => rfl) (fun _ _ => rfl)
        h.timed
    · exact h
  | close i =>
    simp only [Machine.handle, hlanes]
    split
    · split
      · exact h.closeCall i _ _
      · exact h
    · exact h
  | drop tag reason => exact h.tell _

/-- Machines that are alike take steps alike. -/
theorem Alike.step {m' : Machine} (h : m.Alike setup m') :
    (m.step setup = none ∧ m'.step setup = none) ∨
      ∃ next next', m.step setup = some next ∧ m'.step setup = some next' ∧
        next.Alike setup next' := by
  obtain ⟨hregistry, hrest, htimed⟩ := h
  generalize m'.registry = r at hregistry hrest
  subst hrest
  unfold Machine.step
  simp only [withRegistry]
  split
  · rename_i e rest _
    have hleft : ({ m with queue := rest } : Machine).Alike setup
        { m with registry := r, queue := rest } := ⟨hregistry, rfl, htimed⟩
    exact .inr ⟨_, _, rfl, rfl, hleft.handle e⟩
  · exact .inr ⟨_, _, rfl, rfl, hregistry, rfl, htimed⟩
  · split
    · exact .inl ⟨rfl, rfl⟩
    · exact .inr ⟨_, _, rfl, rfl, hregistry, rfl, htimed⟩

theorem Alike.runWithin {m' : Machine} (h : m.Alike setup m') (fuel : Nat) :
    (m.runWithin setup fuel).Alike setup (m'.runWithin setup fuel) := by
  induction fuel generalizing m m' with
  | zero => exact h
  | succ fuel ih =>
    unfold Machine.runWithin
    rcases h.step with ⟨hnone, hnone'⟩ | ⟨next, next', hsome, hsome', hnext⟩
    · rw [hnone, hnone']
      exact h
    · rw [hsome, hsome']
      exact ih hnext

end Machine

/-- Groups run alike on registries whose engines reply alike until the deadlines: with the same
outcomes, and telling the same. -/
theorem execute_alike (setup : RunSetup) {r r' : Registry} (h : r.Alike equalUntilDeadline r')
    (groups : Keyed (List Rule)) :
    (∃ f, execute setup r groups = .error f ∧ execute setup r' groups = .error f) ∨
    ∃ course course', execute setup r groups = .ok course ∧ execute setup r' groups = .ok course' ∧
      course.registry.Alike equalUntilDeadline course'.registry ∧
      course'.notices = course.notices ∧ course'.outcomes = course.outcomes := by
  unfold execute
  rw [h.lanesOf_eq]
  cases lanesOf setup r groups with
  | error f => exact .inl ⟨f, rfl, rfl⟩
  | ok lanes =>
    dsimp only [bind, Except.bind, pure, Except.pure]
    split
    · exact .inr ⟨_, _, rfl, rfl, runJobsWithin_alike setup _ h lanes.flatten⟩
    · have hinitial : (Machine.initial r setup.limits.maxConcurrentBatches.toNat lanes).Alike setup
          (Machine.initial r' setup.limits.maxConcurrentBatches.toNat lanes) := by
        refine ⟨h, rfl, fun lane hlane live hlive => ?_⟩
        obtain ⟨jobs, -, rfl⟩ := List.mem_map.mp hlane
        cases hlive
      have hend := hinitial.runWithin (laneFuel setup lanes)
      refine .inr ⟨_, _, rfl, rfl, hend.registry, ?_, ?_⟩
      · unfold runLanes
        rw [hend.rest]
        rfl
      · unfold runLanes
        rw [hend.rest]
        rfl

end RuleAudit
