import Mathlib.Data.List.Nodup
import RuleAudit.Proofs.Run.LaneFuel
import RuleAudit.Proofs.Run.Trace

/-!
# The machine follows an interleaving

A machine keeps, for every lane with work left, one event, timer or place in line. `Stage` reads off
it what the lane is about to do, and `Machine.Shows` relates a machine to a state of the lanes under
any schedule. Every step of a machine is matched by steps of its lanes (`Machine.Shows.step`): a
slot is acquired when it is kept for a lane, and a job is opened, begun and closed by the events of
these names. So is a whole run (`Machine.Follows.runWithin`).
-/

namespace RuleAudit

open Interleaving (State Track Trace Reaches)

/-- What a lane is about to do. -/
inductive Stage where
  /-- It will ask for a slot. -/
  | asks
  /-- It waits in line for a slot. -/
  | inLine
  /-- It holds a slot and will open its next job. -/
  | holds
  /-- The call of its job will begin. -/
  | opened
  /-- The call of its job is under way. -/
  | runs
  deriving DecidableEq

/-- The lane that an event is about and its stage. -/
def LaneEvent.token? : LaneEvent → Option (Nat × Stage)
  | .ask i => some (i, .asks)
  | .granted i | .start i => some (i, .holds)
  | .begin i => some (i, .opened)
  | .finish i | .close i => some (i, .runs)
  | .drop _ _ => none

/-- The jobs whose calls begin with an event. -/
def LaneEvent.begins (m : Machine) : LaneEvent → List Job
  | .begin i => ((m.lanes[i]?.bind Lane.live).map LiveCall.job).toList
  | _ => []

/-- A lane as it shows under a stage. -/
def Lane.track (stage : Option Stage) (lane : Lane) : Track :=
  { jobs := lane.jobs
    phase := match stage, lane.live with
      | some .holds, _ => .ready
      | some .opened, some live => .opened live.job live.call
      | some .runs, some live => .running live.job live.result
      | _, _ => .idle
    outcomes := lane.outcomes }

/-- Whether a lane has what its stage needs. -/
def Lane.Fits (lane : Lane) : Option Stage → Prop
  | none => lane.jobs = [] ∧ lane.live = none
  | some .asks => lane.live = none
  | some .inLine | some .holds => lane.jobs ≠ [] ∧ lane.live = none
  | some .opened | some .runs => ∃ live, lane.live = some live

/-- The call under way in a lane is the one it shows. -/
theorem Lane.call?_track {lane : Lane} {stage : Option Stage} (h : lane.Fits stage) :
    (lane.track stage).phase.call? = lane.live.map LiveCall.job := by
  cases stage with
  | none =>
    rw [h.2]
    rfl
  | some stage =>
    cases stage with
    | asks =>
      rw [show lane.live = none from h]
      rfl
    | inLine | holds =>
      rw [h.2]
      rfl
    | opened | runs =>
      obtain ⟨live, hlive⟩ := h
      simp only [Lane.track, hlive]
      rfl

namespace Machine

/-- The jobs whose calls begin with the next step. -/
def begins (m : Machine) : List Job :=
  match m.queue with
  | (0, e) :: _ => e.begins m
  | _ => []

/-- The token of a place in line; once a slot is kept for the lane its event takes over. -/
def lineToken? : Nat × Bool → Option (Nat × Stage)
  | (i, false) => some (i, .inLine)
  | (_, true) => none

/-- The lanes that something is kept for, with their stages. -/
def tokens (m : Machine) : List (Nat × Stage) :=
  m.queue.filterMap (fun entry => entry.2.token?) ++
    m.timers.filterMap (fun timer => timer.2.token?) ++
    m.waiting.filterMap lineToken?

/-- A machine whose lanes stand at `stages` and show as `s`. -/
structure Shows (m : Machine) (stages : Nat → Option Stage) (s : State) : Prop where
  registry : s.registry = m.registry
  free : s.free = m.free
  tracks : ∀ i : Nat, s.tracks[i]? = m.lanes[i]?.map (Lane.track (stages i))
  tokens : ∀ i stage, m.tokens.count (i, stage) = if stages i = some stage then 1 else 0
  fits : ∀ (i : Nat) (lane : Lane), m.lanes[i]? = some lane → lane.Fits (stages i)
  bound : ∀ i stage, stages i = some stage → i < m.lanes.length

/-- A machine that shows lanes which steps lead to. -/
def Follows (m : Machine) (setup : RunSetup) (s : State) : Prop :=
  ∃ stages s', Reaches setup s s' ∧ m.Shows stages s'

/-- A machine that shows lanes which a trace leads to, with the calls that begin along it. -/
def Traces (m : Machine) (setup : RunSetup) (s : State) (begun : List Job) : Prop :=
  ∃ stages s', Trace setup s begun s' ∧ m.Shows stages s'

/-- A machine and what is left of it when the event of a lane is taken out. -/
structure Takes (m : Machine) (i : Nat) (stage : Stage) (left : Machine) : Prop where
  tokens : ∀ x, m.tokens.count x = left.tokens.count x + [(i, stage)].count x
  lanes : left.lanes = m.lanes
  registry : left.registry = m.registry
  free : left.free = m.free

theorem set_of_getElem? {α : Type} {items : List α} {i : Nat} {a : α} (h : items[i]? = some a) :
    items.set i a = items := by
  obtain ⟨hi, rfl⟩ := List.getElem?_eq_some_iff.mp h
  exact List.set_getElem_self hi

/-! ## Tokens -/

section Tokens

variable (m : Machine) (x : Nat × Stage)

theorem count_tokens_push (passes : Nat) (e : LaneEvent) :
    (m.push passes e).tokens.count x = m.tokens.count x + e.token?.toList.count x := by
  cases he : e.token? <;>
    simp only [tokens, push, List.filterMap_append, List.filterMap_cons, List.filterMap_nil, he,
      List.count_append, Option.toList_none, Option.toList_some, List.count_nil] <;> omega

theorem count_tokens_next (e : LaneEvent) :
    (m.next e).tokens.count x = m.tokens.count x + e.token?.toList.count x := by
  cases he : e.token? <;>
    simp only [tokens, next, List.filterMap_cons, he, List.count_append, List.count_cons,
      Option.toList_none, Option.toList_some, List.count_nil] <;> omega

theorem count_tokens_after (ms : Int) (e : LaneEvent) :
    (m.after ms e).tokens.count x = m.tokens.count x + e.token?.toList.count x := by
  cases he : e.token? <;>
    simp only [tokens, after, List.filterMap_append, List.filterMap_cons, List.filterMap_nil, he,
      List.count_append, Option.toList_none, Option.toList_some, List.count_nil] <;> omega

/-- An event in front of the queue and what is left without it. -/
theorem count_tokens_of_queue {passes : Nat} {e : LaneEvent} {rest : List (Nat × LaneEvent)}
    (h : m.queue = (passes, e) :: rest) :
    m.tokens.count x =
      ({ m with queue := rest } : Machine).tokens.count x + e.token?.toList.count x := by
  cases he : e.token? <;>
    simp only [tokens, h, List.filterMap_cons, he, List.count_append, List.count_cons,
      Option.toList_none, Option.toList_some, List.count_nil] <;> omega

theorem count_tokens_wait (i : Nat) :
    ({ m with waiting := m.waiting ++ [(i, false)] } : Machine).tokens.count x =
      m.tokens.count x + [(i, Stage.inLine)].count x := by
  simp only [tokens, List.filterMap_append, List.filterMap_cons, List.filterMap_nil, lineToken?,
    List.count_append]
  omega

theorem count_line_of_markFirst {waiting marked : List (Nat × Bool)} {i : Nat}
    (h : markFirst waiting = some (i, marked)) :
    (waiting.filterMap lineToken?).count x =
      (marked.filterMap lineToken?).count x + [(i, Stage.inLine)].count x := by
  induction waiting generalizing marked with
  | nil => cases h
  | cons entry rest ih =>
    obtain ⟨j, kept⟩ := entry
    cases kept with
    | false =>
      cases h
      simp only [List.filterMap_cons, lineToken?, List.count_cons, List.count_nil, Nat.zero_add]
    | true =>
      obtain ⟨⟨k, later⟩, hlater, heq⟩ := Option.map_eq_some_iff.mp h
      cases heq
      simp only [List.filterMap_cons, lineToken?]
      exact ih hlater

theorem count_tokens_of_markFirst {i : Nat} {marked : List (Nat × Bool)}
    (h : markFirst m.waiting = some (i, marked)) :
    m.tokens.count x =
      ({ m with waiting := marked } : Machine).tokens.count x + [(i, Stage.inLine)].count x := by
  simp only [tokens, List.count_append, count_line_of_markFirst x h]
  omega

/-- A lane that does not wait for a slot to be kept leaves no token behind in line. -/
theorem filterMap_filter_line {i : Nat} {waiting : List (Nat × Bool)}
    (h : (i, Stage.inLine) ∉ waiting.filterMap lineToken?) :
    (waiting.filter fun entry => entry.1 != i).filterMap lineToken? =
      waiting.filterMap lineToken? := by
  induction waiting with
  | nil => rfl
  | cons entry rest ih =>
    obtain ⟨j, kept⟩ := entry
    cases kept with
    | false =>
      simp only [List.filterMap_cons, lineToken?, List.mem_cons, Prod.mk.injEq, and_true,
        not_or] at h
      rw [List.filter_cons_of_pos (by simpa using Ne.symm h.1)]
      simp only [List.filterMap_cons, lineToken?, ih h.2]
    | true =>
      simp only [List.filterMap_cons, lineToken?] at h
      rw [List.filter_cons]
      split
      · simp only [List.filterMap_cons, lineToken?, ih h]
      · simp only [List.filterMap_cons, lineToken?, ih h]

end Tokens

theorem Takes.of_queue {m : Machine} {passes : Nat} {e : LaneEvent}
    {rest : List (Nat × LaneEvent)} {i : Nat} {stage : Stage}
    (h : m.queue = (passes, e) :: rest) (he : e.token? = some (i, stage)) :
    m.Takes i stage { m with queue := rest } := by
  refine ⟨?_, rfl, rfl, rfl⟩
  intro x
  rw [m.count_tokens_of_queue x h, he]
  rfl

theorem Takes.tell {m left : Machine} {i : Nat} {stage : Stage} (h : m.Takes i stage left)
    (notices : List Notice) : m.Takes i stage (left.tell notices) :=
  ⟨h.tokens, h.lanes, h.registry, h.free⟩

theorem Takes.push_drop {m left : Machine} {i : Nat} {stage : Stage} (h : m.Takes i stage left)
    (passes tag : Nat) (reason : String) :
    m.Takes i stage (left.push passes (.drop tag reason)) := by
  refine ⟨?_, h.lanes, h.registry, h.free⟩
  intro x
  rw [count_tokens_push]
  exact h.tokens x

/-! ## Moving one lane -/

section Moves

variable {setup : RunSetup} {m left : Machine} {stages : Nat → Option Stage} {s : State} {i : Nat}
  {stage : Stage}

/-- A machine with the same lanes and the same tokens in another order. -/
theorem Shows.congr (h : m.Shows stages s) {m' : Machine}
    (htokens : ∀ x, m'.tokens.count x = m.tokens.count x) (hlanes : m'.lanes = m.lanes)
    (hregistry : m'.registry = m.registry) (hfree : m'.free = m.free) : m'.Shows stages s := by
  refine ⟨by rw [hregistry, h.registry], by rw [hfree, h.free], ?_, ?_, ?_, ?_⟩
  · intro i
    rw [hlanes, h.tracks]
  · intro i stage
    rw [htokens, h.tokens]
  · intro i lane hlane
    exact h.fits i lane (hlanes ▸ hlane)
  · intro i stage hstage
    exact hlanes ▸ h.bound i stage hstage

/-- An event that is taken out says where its lane stands. -/
theorem Takes.stages_eq (htakes : m.Takes i stage left) (h : m.Shows stages s) :
    stages i = some stage := by
  have hcount := htakes.tokens (i, stage)
  rw [h.tokens, List.count_singleton_self] at hcount
  by_contra hne
  rw [if_neg hne] at hcount
  omega

theorem Takes.exists_lane (htakes : m.Takes i stage left) (h : m.Shows stages s) :
    ∃ lane, m.lanes[i]? = some lane ∧ lane.Fits (some stage) ∧
      s.tracks[i]? = some (lane.track (some stage)) := by
  have hstage := htakes.stages_eq h
  have hlane := List.getElem?_eq_getElem (h.bound i stage hstage)
  refine ⟨_, hlane, ?_, ?_⟩
  · exact hstage ▸ h.fits i _ hlane
  · rw [h.tracks, hlane, hstage]
    rfl

/-- Nothing is left for a lane whose event is taken out. -/
theorem Takes.count_self (htakes : m.Takes i stage left) (h : m.Shows stages s) (other : Stage) :
    left.tokens.count (i, other) = 0 := by
  have hcount := htakes.tokens (i, other)
  rw [h.tokens, htakes.stages_eq h] at hcount
  by_cases hother : stage = other
  · subst hother
    rw [if_pos rfl, List.count_singleton_self] at hcount
    omega
  · rw [if_neg (by simpa using hother)] at hcount
    omega

theorem Takes.count_of_ne (htakes : m.Takes i stage left) {j : Nat} (hj : j ≠ i) (other : Stage) :
    left.tokens.count (j, other) = m.tokens.count (j, other) := by
  have hother : [(i, stage)].count (j, other) = 0 :=
    List.count_eq_zero_of_not_mem (by simp [hj])
  rw [htakes.tokens, hother, Nat.add_zero]

/-- Only the lane whose event was taken out changes: it has a new stage or none. -/
theorem Takes.shows (htakes : m.Takes i stage left) (h : m.Shows stages s) {m' : Machine}
    (lane : Lane) (stage' : Option Stage) (hfits : lane.Fits stage')
    (hlanes : m'.lanes = m.lanes.set i lane)
    (htokens : ∀ x, m'.tokens.count x =
      left.tokens.count x + (stage'.toList.map (Prod.mk i)).count x) :
    m'.Shows (Function.update stages i stage')
      { registry := m'.registry
        free := m'.free
        tracks := s.tracks.set i (lane.track stage') } := by
  have hstage := htakes.stages_eq h
  have hi := h.bound i stage hstage
  have hlength : i < s.tracks.length := by
    obtain ⟨old, -, -, htrack⟩ := htakes.exists_lane h
    exact (List.getElem?_eq_some_iff.mp htrack).1
  refine ⟨rfl, rfl, ?_, ?_, ?_, ?_⟩
  · intro j
    dsimp only
    by_cases hj : j = i
    · subst hj
      rw [hlanes, List.getElem?_set_self hlength, List.getElem?_set_self hi, Function.update_self]
      rfl
    · rw [hlanes, List.getElem?_set_ne (Ne.symm hj), List.getElem?_set_ne (Ne.symm hj),
        Function.update_of_ne hj, h.tracks]
  · intro j other
    rw [htokens]
    by_cases hj : j = i
    · subst hj
      rw [htakes.count_self h, Function.update_self]
      cases stage' with
      | none => rfl
      | some new => simp [List.count_singleton]
    · have hother : (stage'.toList.map (Prod.mk i)).count (j, other) = 0 :=
        List.count_eq_zero_of_not_mem (by simp [Ne.symm hj])
      rw [htakes.count_of_ne hj, h.tokens, Function.update_of_ne hj, hother, Nat.add_zero]
  · intro j lane' hlane'
    by_cases hj : j = i
    · subst hj
      rw [hlanes, List.getElem?_set_self hi] at hlane'
      cases hlane'
      rwa [Function.update_self]
    · rw [hlanes, List.getElem?_set_ne (Ne.symm hj)] at hlane'
      rw [Function.update_of_ne hj]
      exact h.fits j lane' hlane'
  · intro j other hother
    rw [hlanes, List.length_set]
    by_cases hj : j = i
    · exact hj ▸ hi
    · rw [Function.update_of_ne hj] at hother
      exact h.bound j other hother

/-- A lane in line that a free slot is kept for. -/
theorem Shows.grant (h : m.Shows stages s) (hfree : 0 < m.free) : m.grant.Traces setup s [] := by
  unfold Machine.grant
  split
  · exact ⟨stages, s, .refl, h⟩
  · rename_i i marked hmarked
    have htakes : m.Takes i .inLine { m with waiting := marked } :=
      ⟨fun x => count_tokens_of_markFirst m x hmarked, rfl, rfl, rfl⟩
    obtain ⟨lane, hlane, ⟨hjobs, hlive⟩, htrack⟩ := htakes.exists_lane h
    have hstep : Interleaving.Step setup s _ := .acquire htrack rfl hjobs (h.free ▸ hfree)
    rw [h.registry, h.free] at hstep
    refine ⟨_, _, .single hstep (State.begun_set htrack _ rfl),
      htakes.shows h lane (some .holds) ⟨hjobs, hlive⟩ ?_ ?_⟩
    · exact (set_of_getElem? hlane).symm
    · intro x
      rw [count_tokens_push]
      rfl

/-- Steps before a machine that follows. -/
theorem Follows.head {s' : State} (h : m.Follows setup s') (hreaches : Reaches setup s s') :
    m.Follows setup s := by
  obtain ⟨stages, last, hlast, hshows⟩ := h
  exact ⟨stages, last, hreaches.trans hlast, hshows⟩

theorem Traces.head {s' : State} {begun later : List Job} (h : m.Traces setup s' later)
    (htrace : Trace setup s begun s') : m.Traces setup s (begun ++ later) := by
  obtain ⟨stages, last, hlast, hshows⟩ := h
  exact ⟨stages, last, htrace.trans hlast, hshows⟩

theorem Traces.follows {begun : List Job} (h : m.Traces setup s begun) : m.Follows setup s := by
  obtain ⟨stages, s', htrace, hshows⟩ := h
  exact ⟨stages, s', htrace.reaches, hshows⟩

theorem grant_next (e : LaneEvent) : m.grant.next e = (m.next e).grant := by
  unfold Machine.grant Machine.next
  dsimp only
  split <;> rfl

/-- The lane and its slot once a job is closed. -/
theorem Takes.conclude (htakes : m.Takes i stage left) (h : m.Shows stages s) (lane : Lane)
    {t : Track} {job : Job} {result : Except Fault Report} (hjobs : t.jobs = lane.jobs)
    (houtcomes : t.outcomes = lane.outcomes)
    (hstep : Interleaving.Step setup s (s.close setup i t job result)) (ms : Int) :
    (left.conclude setup i lane job result ms).Traces setup s [] := by
  obtain ⟨_, _, _, htrack⟩ := htakes.exists_lane h
  have htrace : Trace setup s [] _ := .single hstep (State.begun_close htrack t job result)
  have hclose : t.close setup job result =
      { jobs := job.retries setup (job.outcome setup result) ++ lane.jobs
        phase := if Interleaving.goesOn (job.retries setup (job.outcome setup result) ++ lane.jobs)
          then .ready else .idle
        outcomes := lane.outcomes ++ [job.outcome setup result] } := by
    rw [Track.close, hjobs, houtcomes]
  unfold State.close at htrace
  rw [hclose, h.registry, h.free, ← htakes.registry, ← htakes.free] at htrace
  unfold Machine.conclude
  dsimp only at htrace ⊢
  generalize job.retries setup (job.outcome setup result) ++ lane.jobs = jobs at *
  cases jobs with
  | nil =>
    -- the lane has no work left
    unfold Machine.release
    refine Traces.head ?_ htrace
    exact Shows.grant (htakes.shows h { jobs := [], live := none, outcomes := _ } none ⟨rfl, rfl⟩
      (by rw [← htakes.lanes]; rfl) fun x => rfl) (Nat.succ_pos _)
  | cons following later =>
    dsimp only
    by_cases hgoes : following.attempt > 0
    · -- the lane keeps its slot for a slice
      rw [if_pos hgoes]
      simp only [Interleaving.goesOn, hgoes, decide_true, if_true, Interleaving.Phase.holds]
        at htrace
      refine ⟨_, _, htrace, htakes.shows h
        { jobs := following :: later, live := none, outcomes := _ } (some .holds)
        ⟨List.cons_ne_nil _ _, rfl⟩ (by rw [← htakes.lanes]; rfl) fun x => ?_⟩
      rw [count_tokens_next]
      rfl
    · -- the lane gives its slot back and asks again
      rw [if_neg hgoes]
      simp only [Interleaving.goesOn, hgoes, decide_false, if_false, Interleaving.Phase.holds,
        Bool.false_eq_true] at htrace
      unfold Machine.release
      rw [grant_next]
      refine Traces.head ?_ htrace
      refine Shows.grant (htakes.shows h { jobs := following :: later, live := none, outcomes := _ }
        (some .asks) rfl (by rw [← htakes.lanes]; rfl) fun x => ?_) (Nat.succ_pos _)
      rw [count_tokens_next]
      rfl

/-! ## Events -/

theorem Takes.ask (htakes : m.Takes i .asks left) (h : m.Shows stages s) :
    (left.handle setup (.ask i)).Traces setup s [] := by
  obtain ⟨lane, hlane, hlive, htrack⟩ := htakes.exists_lane h
  have hsame := (set_of_getElem? hlane).symm
  -- in line as before it, the lane shows as one without a slot
  have hidle : Trace setup s []
      { registry := left.registry
        free := left.free
        tracks := s.tracks.set i (lane.track (some .asks)) } := by
    rw [htakes.registry, htakes.free, set_of_getElem? htrack, ← h.registry, ← h.free]
    exact .refl
  obtain ⟨jobs, live, outcomes⟩ := lane
  simp only [Machine.handle, htakes.lanes, hlane]
  cases jobs with
  | nil =>
    exact ⟨_, _, hidle, htakes.shows h _ none ⟨rfl, hlive⟩ (htakes.lanes ▸ hsame) fun x => rfl⟩
  | cons job rest =>
    dsimp only
    unfold Machine.ask
    split
    · rename_i hfree
      -- a free slot that nobody waits for is taken at once
      have hslot : 0 < s.free := by
        rw [h.free, ← htakes.free]
        simp only [Bool.and_eq_true, decide_eq_true_eq] at hfree
        exact hfree.1
      have hstep : Interleaving.Step setup s _ :=
        .acquire htrack rfl (List.cons_ne_nil job rest) hslot
      rw [h.registry, h.free, ← htakes.registry, ← htakes.free] at hstep
      refine ⟨_, _, .single hstep (State.begun_set htrack _ rfl), htakes.shows h _ (some .holds)
        ⟨List.cons_ne_nil job rest, hlive⟩ (htakes.lanes ▸ hsame) fun x => ?_⟩
      rw [count_tokens_next]
      rfl
    · refine ⟨_, _, hidle, htakes.shows h _ (some .inLine) ⟨List.cons_ne_nil job rest, hlive⟩
        (htakes.lanes ▸ hsame) fun x => ?_⟩
      rw [count_tokens_wait]
      rfl

theorem Takes.takeSlot (htakes : m.Takes i .holds left) (h : m.Shows stages s) :
    (left.takeSlot i).Traces setup s [] := by
  -- the lane has one token only, so leaving the line takes nobody else's
  have hnone : (i, Stage.inLine) ∉ left.waiting.filterMap lineToken? := by
    have hcount := htakes.count_self h .inLine
    simp only [Machine.tokens, List.count_append] at hcount
    exact List.count_eq_zero.mp (by omega)
  have hshows : (({ left with
      waiting := left.waiting.filter fun entry => entry.1 != i } : Machine).next
        (.start i)).Shows stages s := by
    refine h.congr (fun x => ?_) htakes.lanes htakes.registry htakes.free
    rw [count_tokens_next, htakes.tokens]
    simp only [Machine.tokens, filterMap_filter_line hnone]
    rfl
  unfold Machine.takeSlot
  dsimp only
  split
  · rename_i hfree
    rw [grant_next]
    exact hshows.grant hfree
  · exact ⟨stages, s, .refl, hshows⟩

theorem Takes.openJob (htakes : m.Takes i .holds left) (h : m.Shows stages s) :
    (left.handle setup (.start i)).Traces setup s [] := by
  obtain ⟨lane, hlane, ⟨hjobs, hlive⟩, htrack⟩ := htakes.exists_lane h
  obtain ⟨job, rest, hnext⟩ := List.exists_cons_of_ne_nil hjobs
  simp only [Machine.handle, htakes.lanes, hlane, hnext]
  unfold Machine.openJob
  dsimp only
  have hregistry : (left.tell (job.announce setup)).registry = s.registry := by
    rw [h.registry]
    exact htakes.registry
  rw [hregistry]
  split
  · rename_i f hrefused
    have hstep : Interleaving.Step setup s _ := .refuse htrack rfl hnext hrefused
    exact (htakes.tell _).conclude h { lane with jobs := rest } rfl rfl hstep _
  · rename_i engine call hmade
    have hstep : Interleaving.Step setup s _ := .openJob htrack rfl hnext hmade
    rw [h.registry, h.free, ← htakes.registry, ← htakes.free] at hstep
    refine ⟨_, _, .single hstep (State.begun_set htrack _ rfl), htakes.shows h
      { lane with
        jobs := rest
        live := some { job, call, startedMs := left.now, tag := engine.tag } }
      (some .opened) ⟨_, rfl⟩ (by rw [← htakes.lanes]; rfl) fun x => ?_⟩
    rw [count_tokens_push]
    rfl

theorem Takes.beginCall {first : Registry} {slots : Nat} {lanes : List (List Job)}
    (htakes : m.Takes i .opened left) (h : m.Shows stages s)
    (hinv : Interleaving.Invariant setup first slots lanes s) :
    (left.handle setup (.begin i)).Traces setup s (LaneEvent.begins m (.begin i)) := by
  obtain ⟨lane, hlane, ⟨live, hlive⟩, htrack⟩ := htakes.exists_lane h
  have hphase : (lane.track (some .opened)).phase = .opened live.job live.call := by
    simp only [Lane.track, hlive]
  obtain ⟨engine, hengine⟩ := hinv.exists_engine htrack hphase
  have hfound : left.registry.get? live.job.batch.engine = some engine := by
    rw [htakes.registry, ← h.registry, hengine]
  simp only [Machine.handle, htakes.lanes, hlane, hlive, hfound]
  have hstep : Interleaving.Step setup s _ := .beginCall htrack hphase hengine
  have hbegun : LaneEvent.begins m (.begin i) = [live.job] := by
    simp only [LaneEvent.begins, hlane, Option.bind_some, hlive, Option.map_some,
      Option.toList_some]
  have htrace := Trace.single hstep (State.begun_set htrack _ rfl)
  rw [hphase, h.registry, h.free, ← htakes.registry, ← htakes.free] at htrace
  rw [hbegun]
  obtain ⟨notices, ⟨ms, e, heq, rfl | rfl⟩ | heq | ⟨turns, hturns, heq⟩⟩ :=
    beginCall_eq setup left i lane live engine
  all_goals
    rw [heq]
    refine ⟨_, _, htrace, htakes.shows h
      { lane with live := some (live.judged setup engine) } (some .runs) ⟨_, rfl⟩
      (by rw [← htakes.lanes]; rfl) fun x => ?_⟩
    simp only [count_tokens_after, count_tokens_next, count_tokens_push]
    rfl

theorem Takes.finish (htakes : m.Takes i .runs left) (h : m.Shows stages s) :
    (left.handle setup (.finish i)).Traces setup s [] := by
  obtain ⟨lane, hlane, ⟨live, hlive⟩, htrack⟩ := htakes.exists_lane h
  obtain ⟨jobs, _, outcomes⟩ := lane
  cases hlive
  simp only [Machine.handle, htakes.lanes, hlane]
  refine ⟨stages, s, .refl, h.congr (fun x => ?_) htakes.lanes htakes.registry htakes.free⟩
  rw [count_tokens_push, htakes.tokens]
  rfl

theorem Takes.closeCall (htakes : m.Takes i .runs left) (h : m.Shows stages s) :
    (left.handle setup (.close i)).Traces setup s [] := by
  obtain ⟨lane, hlane, ⟨live, hlive⟩, htrack⟩ := htakes.exists_lane h
  have hphase : (lane.track (some .runs)).phase = .running live.job live.result := by
    simp only [Lane.track, hlive]
  have hstep : Interleaving.Step setup s _ := .closeCall htrack hphase
  simp only [Machine.handle, htakes.lanes, hlane, hlive]
  unfold Machine.closeCall
  dsimp only
  split
  · exact (htakes.push_drop 0 _ _).conclude h lane rfl rfl hstep _
  · exact htakes.conclude h lane rfl rfl hstep _

/-! ## Steps and runs -/

/-- Every event is matched by steps of the lanes. -/
theorem Shows.handle {first : Registry} {slots : Nat} {lanes : List (List Job)}
    (h : m.Shows stages s) (hinv : Interleaving.Invariant setup first slots lanes s)
    {e : LaneEvent} {rest : List (Nat × LaneEvent)} (hqueue : m.queue = (0, e) :: rest) :
    (({ m with queue := rest } : Machine).handle setup e).Traces setup s (e.begins m) := by
  cases e with
  | ask i => exact (Takes.of_queue hqueue rfl).ask h
  | granted i => exact (Takes.of_queue hqueue rfl).takeSlot h
  | start i => exact (Takes.of_queue hqueue rfl).openJob h
  | begin i => exact (Takes.of_queue hqueue rfl).beginCall h hinv
  | finish i => exact (Takes.of_queue hqueue rfl).finish h
  | close i => exact (Takes.of_queue hqueue rfl).closeCall h
  | drop tag reason =>
    refine ⟨stages, s, .refl, h.congr (fun x => ?_) rfl rfl rfl⟩
    rw [m.count_tokens_of_queue x hqueue]
    rfl

/-- The timers that are due are in the queue once the clock has moved. -/
theorem count_tokens_due (m : Machine) (x : Nat × Stage) (t now : Int) (h : m.queue = []) :
    ({ m with
      now := now
      timers := m.timers.filter fun timer => t < timer.1
      queue := (m.timers.filter fun timer => timer.1 ≤ t).map fun timer => (1, timer.2) } :
        Machine).tokens.count x = m.tokens.count x := by
  have hsplit : ∀ timers : List (Int × LaneEvent),
      (((timers.filter fun timer => timer.1 ≤ t).map fun timer => ((1 : Nat), timer.2)).filterMap
          fun entry => entry.2.token?).count x +
        ((timers.filter fun timer => t < timer.1).filterMap fun timer => timer.2.token?).count x =
      (timers.filterMap fun timer => timer.2.token?).count x := by
    intro timers
    induction timers with
    | nil => rfl
    | cons timer rest ih =>
      by_cases hdue : timer.1 ≤ t
      · rw [List.filter_cons_of_pos (by simpa using hdue),
          List.filter_cons_of_neg (by simpa using hdue), List.map_cons]
        cases htoken : timer.2.token? <;>
          simp only [List.filterMap_cons, htoken, List.count_cons] <;> omega
      · rw [List.filter_cons_of_neg (by simpa using hdue),
          List.filter_cons_of_pos (by simpa using hdue)]
        cases htoken : timer.2.token? <;>
          simp only [List.filterMap_cons, htoken, List.count_cons] <;> omega
  have hdue := hsplit m.timers
  simp only [Machine.tokens, h, List.filterMap_nil, List.count_append, List.count_nil]
  omega

/-- Every step of a machine is matched by steps of its lanes. -/
theorem Shows.step {first : Registry} {slots : Nat} {lanes : List (List Job)}
    (h : m.Shows stages s) (hinv : Interleaving.Invariant setup first slots lanes s)
    {m' : Machine} (hstep : m.step setup = some m') : m'.Traces setup s m.begins := by
  unfold Machine.step at hstep
  unfold Machine.begins
  split at hstep
  · rename_i e rest hqueue
    cases hstep
    rw [hqueue]
    exact h.handle hinv hqueue
  · rename_i passes e rest hqueue
    cases hstep
    rw [hqueue]
    refine ⟨stages, s, .refl, h.congr (fun x => ?_) rfl rfl rfl⟩
    rw [m.count_tokens_of_queue x hqueue]
    exact count_tokens_push { m with queue := rest } x passes e
  · rename_i hqueue
    split at hstep
    · cases hstep
    · rename_i t _
      cases hstep
      rw [hqueue]
      exact ⟨stages, s, .refl,
        h.congr (fun x => count_tokens_due m x t _ hqueue) rfl rfl rfl⟩

/-- A run of a machine is matched by steps of its lanes. -/
theorem Follows.runWithin {first : Registry} {slots : Nat} {lanes : List (List Job)}
    (hinv : Interleaving.Invariant setup first slots lanes s) (h : m.Follows setup s)
    (fuel : Nat) : (m.runWithin setup fuel).Follows setup s := by
  induction fuel generalizing m with
  | zero => exact h
  | succ fuel ih =>
    unfold Machine.runWithin
    split
    · rename_i m' hstep
      obtain ⟨stages, s', hreaches, hshows⟩ := h
      exact ih ((hshows.step (hinv.of_reaches hreaches) hstep).follows.head hreaches)
    · exact h

end Moves

/-- The machine before anything has happened shows lanes before anything has happened. -/
theorem shows_initial (registry : Registry) (slots : Nat) (lanes : List (List Job)) :
    (initial registry slots lanes).Shows (fun i => if i < lanes.length then some .asks else none)
      (Interleaving.start registry slots lanes) := by
  have htokens : (initial registry slots lanes).tokens =
      (List.range lanes.length).map fun i => (i, Stage.asks) := by
    simp only [tokens, initial, List.filterMap_nil, List.append_nil, List.filterMap_map]
    show List.filterMap (some ∘ fun i => (i, Stage.asks)) _ = _
    rw [List.filterMap_eq_map]
  refine ⟨rfl, rfl, ?_, ?_, ?_, ?_⟩
  · intro i
    simp only [Interleaving.start, initial, List.getElem?_map, Option.map_map]
    split <;> rfl
  · intro i stage
    have hnodup : ((List.range lanes.length).map fun i => (i, Stage.asks)).Nodup :=
      List.Nodup.map (fun i j h => congrArg Prod.fst h) List.nodup_range
    rw [htokens, hnodup.count]
    by_cases hi : i < lanes.length
    · simp [hi, eq_comm]
    · simp [hi]
  · intro i lane hlane
    simp only [initial, List.getElem?_map, Option.map_eq_some_iff] at hlane
    obtain ⟨jobs, hjobs, rfl⟩ := hlane
    have hi := (List.getElem?_eq_some_iff.mp hjobs).1
    rw [if_pos hi]
    rfl
  · intro i stage hstage
    by_cases hi : i < lanes.length
    · simpa [initial] using hi
    · rw [if_neg hi] at hstage
      cases hstage

theorem follows_initial (setup : RunSetup) (registry : Registry) (slots : Nat)
    (lanes : List (List Job)) :
    (initial registry slots lanes).Follows setup (Interleaving.start registry slots lanes) :=
  ⟨_, _, .refl, shows_initial registry slots lanes⟩

end Machine

end RuleAudit
