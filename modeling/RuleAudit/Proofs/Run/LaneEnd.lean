import RuleAudit.Proofs.Run.LaneSchedule

/-!
# Where a run of lanes ends

The line of lanes that wait for a slot stays in order (`Machine.Orderly.step`). So, when nothing is
left to happen, no lane is in line any more: with every slot free the first one in it would have
been given a slot, and the event of that would be left. A run of lanes is therefore an interleaving
that has come to its end (`exists_reaches_runLanes`), and its outcomes are an unfolding of the jobs
(`unfolds_runLanes`).
-/

namespace RuleAudit

open Interleaving (State Track Reaches)

namespace Machine

/-! ## The line -/

/-- The line is in order: lanes that a slot is kept for have their event, and a slot stays free with
a lane in line only while one is kept for another. -/
structure Orderly (m : Machine) : Prop where
  marked : ∀ i, (i, true) ∈ m.waiting → ∃ passes, (passes, .granted i) ∈ m.queue
  unmarked : ∀ i, (i, false) ∈ m.waiting → 0 < m.free → ∃ j, (j, true) ∈ m.waiting

section Line

variable {setup : RunSetup} {m : Machine}

/-- Changes outside the line and its slots, with no event lost. -/
theorem Orderly.mono (h : m.Orderly) {m' : Machine} (hwaiting : m'.waiting = m.waiting)
    (hfree : m'.free = m.free) (hqueue : ∀ entry ∈ m.queue, entry ∈ m'.queue) : m'.Orderly := by
  refine ⟨?_, ?_⟩
  · intro i hi
    obtain ⟨passes, hpasses⟩ := h.marked i (hwaiting ▸ hi)
    exact ⟨passes, hqueue _ hpasses⟩
  · intro i hi hpos
    rw [hwaiting] at hi ⊢
    exact h.unmarked i hi (hfree ▸ hpos)

theorem Orderly.tell (h : m.Orderly) (notices : List Notice) : (m.tell notices).Orderly :=
  h.mono rfl rfl fun _ hentry => hentry

theorem Orderly.setLane (h : m.Orderly) (i : Nat) (lane : Lane) : (m.setLane i lane).Orderly :=
  h.mono rfl rfl fun _ hentry => hentry

theorem Orderly.push (h : m.Orderly) (passes : Nat) (e : LaneEvent) : (m.push passes e).Orderly :=
  h.mono rfl rfl fun entry hentry => by simp [Machine.push, hentry]

theorem Orderly.next (h : m.Orderly) (e : LaneEvent) : (m.next e).Orderly :=
  h.mono rfl rfl fun entry hentry => by simp [Machine.next, hentry]

/-- Marking changes one entry of the line. -/
theorem mem_of_markFirst {waiting marked : List (Nat × Bool)} {i : Nat}
    (h : markFirst waiting = some (i, marked)) :
    (i, true) ∈ marked ∧ ∀ entry ∈ marked, entry = (i, true) ∨ entry ∈ waiting := by
  induction waiting generalizing marked with
  | nil => cases h
  | cons entry rest ih =>
    obtain ⟨j, kept⟩ := entry
    cases kept with
    | false =>
      cases h
      refine ⟨by simp, fun entry hentry => ?_⟩
      rcases List.mem_cons.mp hentry with rfl | hrest
      · exact .inl rfl
      · exact .inr (by simp [hrest])
    | true =>
      obtain ⟨⟨k, later⟩, hlater, heq⟩ := Option.map_eq_some_iff.mp h
      cases heq
      obtain ⟨hmem, hall⟩ := ih hlater
      refine ⟨by simp [hmem], fun entry hentry => ?_⟩
      rcases List.mem_cons.mp hentry with rfl | hrest
      · exact .inr (by simp)
      · exact (hall entry hrest).imp_right fun hold => by simp [hold]

theorem not_mem_of_markFirst {waiting : List (Nat × Bool)} (h : markFirst waiting = none)
    (i : Nat) : (i, false) ∉ waiting := by
  induction waiting with
  | nil => simp
  | cons entry rest ih =>
    obtain ⟨j, kept⟩ := entry
    cases kept with
    | false => cases h
    | true => simpa using ih (Option.map_eq_none_iff.mp h)

/-- After a slot is kept for the first lane in line, the line is in order. -/
theorem orderly_grant (h : ∀ i, (i, true) ∈ m.waiting → ∃ passes, (passes, .granted i) ∈ m.queue) :
    m.grant.Orderly := by
  unfold Machine.grant
  split
  · rename_i hnone
    exact ⟨h, fun i hi => absurd hi (not_mem_of_markFirst hnone i)⟩
  · rename_i i marked hmarked
    obtain ⟨hmem, hall⟩ := mem_of_markFirst hmarked
    refine ⟨fun j hj => ?_, fun j hj hfree => ⟨i, hmem⟩⟩
    rcases hall _ hj with heq | hold
    · cases heq
      exact ⟨0, by simp [Machine.push]⟩
    · obtain ⟨passes, hpasses⟩ := h j hold
      exact ⟨passes, by simp [Machine.push, hpasses]⟩

theorem Orderly.release (h : m.Orderly) : m.release.Orderly :=
  orderly_grant h.marked

theorem Orderly.conclude (h : m.Orderly) (i : Nat) (lane : Lane) (job : Job)
    (result : Except Fault Report) (ms : Int) :
    (m.conclude setup i lane job result ms).Orderly := by
  unfold Machine.conclude
  dsimp only
  split
  · split
    · exact ((h.setLane _ _).tell _).next _
    · exact ((h.setLane _ _).tell _).release.next _
  · exact ((h.setLane _ _).tell _).release

/-- A lane that cannot have a slot at once goes to the end of the line. -/
theorem Orderly.ask (h : m.Orderly) (i : Nat) : (m.ask i).Orderly := by
  unfold Machine.ask
  split
  · rename_i hfree
    simp only [Bool.and_eq_true, List.isEmpty_iff] at hfree
    refine Orderly.next ⟨fun j hj => ?_, fun j hj => ?_⟩ _
    · rw [hfree.2] at hj
      cases hj
    · rw [hfree.2] at hj
      cases hj
  · rename_i hbusy
    refine ⟨fun j hj => h.marked j (by simpa using hj), fun j hj hpos => ?_⟩
    -- the line was not empty, so someone in it has a slot kept
    obtain ⟨⟨k, kept⟩, hk⟩ : ∃ entry, entry ∈ m.waiting := by
      refine List.exists_mem_of_ne_nil _ fun hnil => ?_
      exact hbusy (by simpa [hnil] using hpos)
    cases kept with
    | true => exact ⟨k, by simp [hk]⟩
    | false =>
      obtain ⟨l, hl⟩ := h.unmarked k hk hpos
      exact ⟨l, by simp [hl]⟩

/-- A lane that takes its slot leaves the line; the first one without a slot is next. -/
theorem Orderly.takeSlot {i : Nat} {rest : List (Nat × LaneEvent)} (h : m.Orderly)
    (hqueue : m.queue = (0, .granted i) :: rest) :
    (({ m with queue := rest } : Machine).takeSlot i).Orderly := by
  have hmarked : ∀ j, (j, true) ∈ (m.waiting.filter fun entry => entry.1 != i) →
      ∃ passes, (passes, .granted j) ∈ rest := by
    intro j hj
    obtain ⟨hmem, hne⟩ := List.mem_filter.mp hj
    obtain ⟨passes, hpasses⟩ := h.marked j hmem
    rw [hqueue] at hpasses
    rcases List.mem_cons.mp hpasses with heq | hrest
    · cases heq
      simp at hne
    · exact ⟨passes, hrest⟩
  unfold Machine.takeSlot
  dsimp only
  split
  · exact (orderly_grant hmarked).next _
  · rename_i hnone
    exact Orderly.next (m := { m with
      queue := rest
      waiting := m.waiting.filter fun entry => entry.1 != i })
      ⟨hmarked, fun j _ hpos => absurd hpos hnone⟩ _

theorem Orderly.openJob (h : m.Orderly) (i : Nat) (lane : Lane) (job : Job) (rest : List Job) :
    (m.openJob setup i lane job rest).Orderly := by
  unfold Machine.openJob
  dsimp only
  split
  · exact (h.tell _).conclude _ _ _ _ _
  · exact ((h.tell _).setLane _ _).push _ _

theorem Orderly.beginCall (h : m.Orderly) (i : Nat) (lane : Lane) (live : LiveCall)
    (engine : Engine) : (m.beginCall setup i lane live engine).Orderly := by
  have hbegun : ∀ notices, (m.begun setup i lane live engine notices).Orderly := fun notices =>
    h.mono rfl rfl fun _ hentry => hentry
  obtain ⟨notices, ⟨ms, e, heq, -⟩ | heq | ⟨turns, -, heq⟩⟩ :=
    beginCall_eq setup m i lane live engine
  · rw [heq]
    exact (hbegun notices).mono rfl rfl fun _ hentry => hentry
  · rw [heq]
    exact (hbegun notices).next _
  · rw [heq]
    exact (hbegun notices).push _ _

theorem Orderly.closeCall (h : m.Orderly) (i : Nat) (lane : Lane) (live : LiveCall) :
    (m.closeCall setup i lane live).Orderly := by
  unfold Machine.closeCall
  dsimp only
  split
  · exact (h.push _ _).conclude _ _ _ _ _
  · exact h.conclude _ _ _ _ _

/-- An event other than that of a slot kept for a lane leaves the line in order. -/
theorem Orderly.handle (h : m.Orderly) {e : LaneEvent} (he : ∀ i, e ≠ .granted i) :
    (m.handle setup e).Orderly := by
  cases e with
  | granted i => exact absurd rfl (he i)
  | ask i =>
    simp only [Machine.handle]
    split
    · exact h.ask i
    · exact h
  | start i =>
    simp only [Machine.handle]
    split
    · split
      · exact h.openJob i _ _ _
      · exact h
    · exact h
  | begin i =>
    simp only [Machine.handle]
    split
    · split
      · split
        · exact h.beginCall i _ _ _
        · exact h
      · exact h
    · exact h
  | finish i =>
    simp only [Machine.handle]
    split
    · exact (h.tell _).push _ _
    · exact h
  | close i =>
    simp only [Machine.handle]
    split
    · split
      · exact h.closeCall i _ _
      · exact h
    · exact h
  | drop tag reason => exact h.tell _

/-- Every step leaves the line in order. -/
theorem Orderly.step (h : m.Orderly) {m' : Machine} (hstep : m.step setup = some m') :
    m'.Orderly := by
  unfold Machine.step at hstep
  split at hstep
  · rename_i e rest hqueue
    cases hstep
    by_cases he : ∃ i, e = .granted i
    · obtain ⟨i, rfl⟩ := he
      exact h.takeSlot hqueue
    · -- the event that is gone is not one that the line counts on
      have hrest : ({ m with queue := rest } : Machine).Orderly := by
        refine ⟨fun i hi => ?_, h.unmarked⟩
        obtain ⟨passes, hpasses⟩ := h.marked i hi
        rw [hqueue] at hpasses
        rcases List.mem_cons.mp hpasses with heq | hrest
        · exact absurd ⟨i, (congrArg Prod.snd heq).symm⟩ he
        · exact ⟨passes, hrest⟩
      exact hrest.handle fun i hi => he ⟨i, hi⟩
  · rename_i passes e rest hqueue
    cases hstep
    refine ⟨fun i hi => ?_, h.unmarked⟩
    obtain ⟨turns, hturns⟩ := h.marked i hi
    rw [hqueue] at hturns
    rcases List.mem_cons.mp hturns with heq | hrest
    · cases heq
      exact ⟨passes, by simp⟩
    · exact ⟨turns, by simp [hrest]⟩
  · rename_i hqueue
    split at hstep
    · cases hstep
    · cases hstep
      refine ⟨fun i hi => ?_, h.unmarked⟩
      obtain ⟨passes, hpasses⟩ := h.marked i hi
      rw [hqueue] at hpasses
      cases hpasses

theorem Orderly.runWithin (h : m.Orderly) (fuel : Nat) : (m.runWithin setup fuel).Orderly := by
  induction fuel generalizing m with
  | zero => exact h
  | succ fuel ih =>
    unfold Machine.runWithin
    split
    · rename_i m' hstep
      exact ih (h.step hstep)
    · exact h

end Line

/-! ## The end of a run -/

/-- A machine with nothing left to happen shows lanes without work. -/
theorem Shows.finished {setup : RunSetup} {first : Registry} {slots : Nat}
    {lanes : List (List Job)} {m : Machine} {stages : Nat → Option Stage} {s : State}
    (h : m.Shows stages s) (hinv : Interleaving.Invariant setup first slots lanes s)
    (hslots : 1 ≤ slots) (horderly : m.Orderly) (hend : m.step setup = none) : s.Finished := by
  obtain ⟨hqueue, htimers⟩ := queue_timers_of_step_eq_none setup hend
  have htokens : m.tokens = m.waiting.filterMap lineToken? := by
    simp [Machine.tokens, hqueue, htimers]
  -- only places in line are left, so no lane holds a slot
  have hstage : ∀ i stage, stages i = some stage → (i, false) ∈ m.waiting ∧ stage = .inLine := by
    intro i stage hi
    have hcount := h.tokens i stage
    rw [if_pos hi] at hcount
    have hmem : (i, stage) ∈ m.tokens := List.count_pos_iff.mp (by omega)
    rw [htokens] at hmem
    obtain ⟨⟨j, kept⟩, hentry, htoken⟩ := List.mem_filterMap.mp hmem
    cases kept with
    | false =>
      cases htoken
      exact ⟨hentry, rfl⟩
    | true => cases htoken
  have hidle : ∀ (i : Nat) (t : Track), s.tracks[i]? = some t → t.phase = .idle := by
    intro i t ht
    rw [h.tracks] at ht
    obtain ⟨lane, hlane, rfl⟩ := Option.map_eq_some_iff.mp ht
    cases hi : stages i with
    | none => rfl
    | some stage =>
      obtain ⟨-, rfl⟩ := hstage i stage hi
      rfl
  have hfree : 0 < m.free := by
    have hnone : s.tracks.countP (fun t => t.phase.holds) = 0 := by
      rw [List.countP_eq_zero]
      intro t ht
      obtain ⟨i, hi⟩ := List.mem_iff_getElem?.mp ht
      rw [hidle i t hi]
      exact Bool.false_ne_true
    have hsum := hinv.slots
    rw [← h.free]
    omega
  -- nobody is in line either: a slot would be kept for someone, whose event would be left
  have hdone : ∀ i, stages i = none := by
    intro i
    cases hi : stages i with
    | none => rfl
    | some stage =>
      obtain ⟨j, hj⟩ := horderly.unmarked i (hstage i stage hi).1 hfree
      obtain ⟨passes, hpasses⟩ := horderly.marked j hj
      rw [hqueue] at hpasses
      cases hpasses
  intro t ht
  obtain ⟨i, hi⟩ := List.mem_iff_getElem?.mp ht
  refine ⟨?_, hidle i t hi⟩
  rw [h.tracks] at hi
  obtain ⟨lane, hlane, rfl⟩ := Option.map_eq_some_iff.mp hi
  have hfits := h.fits i lane hlane
  rw [hdone i] at hfits
  exact hfits.1

/-- Lanes without work have no call under way. -/
theorem Shows.live_eq_none {m : Machine} {stages : Nat → Option Stage} {s : State}
    (h : m.Shows stages s) (hfinished : s.Finished) {i : Nat} {lane : Lane}
    (hlane : m.lanes[i]? = some lane) : lane.live = none := by
  have htrack : s.tracks[i]? = some (lane.track (stages i)) := by
    rw [h.tracks, hlane]
    rfl
  have hcall := Lane.call?_track (h.fits i lane hlane)
  rw [(hfinished _ (List.mem_of_getElem? htrack)).2] at hcall
  exact Option.map_eq_none_iff.mp hcall.symm

theorem orderly_initial (registry : Registry) (slots : Nat) (lanes : List (List Job)) :
    (initial registry slots lanes).Orderly :=
  ⟨fun _ hi => absurd hi List.not_mem_nil, fun _ hi => absurd hi List.not_mem_nil⟩

/-- Lanes that a whole run shows have no work left. -/
theorem Shows.finished_of_laneFuel {setup : RunSetup} {registry : Registry} {slots : Nat}
    {lanes : List (List Job)} {stages : Nat → Option Stage} {s : State}
    (h : ((initial registry slots lanes).runWithin setup (laneFuel setup lanes)).Shows stages s)
    (hreaches : Reaches setup (Interleaving.start registry slots lanes) s) (hslots : 1 ≤ slots) :
    s.Finished :=
  h.finished ((Interleaving.Invariant.start setup registry slots lanes).of_reaches hreaches) hslots
    ((orderly_initial registry slots lanes).runWithin _)
    (step_runWithin_laneFuel setup registry slots lanes)

/-- The outcomes of the lanes of a machine are those of the lanes it shows. -/
theorem Shows.outcomes {m : Machine} {stages : Nat → Option Stage} {s : State}
    (h : m.Shows stages s) : s.outcomes = m.lanes.flatMap Lane.outcomes := by
  have hmap : s.tracks.map Track.outcomes = m.lanes.map Lane.outcomes := by
    refine List.ext_getElem? fun i => ?_
    rw [List.getElem?_map, List.getElem?_map, h.tracks, Option.map_map]
    rfl
  rw [State.outcomes, List.flatMap_def, List.flatMap_def, hmap]

end Machine

/-- A run of lanes gives the outcomes of an interleaving that has come to its end. -/
theorem exists_reaches_runLanes (setup : RunSetup) (registry : Registry) {slots : Nat}
    (hslots : 1 ≤ slots) (lanes : List (List Job)) :
    ∃ s, Reaches setup (Interleaving.start registry slots lanes) s ∧ s.Finished ∧
      s.outcomes = (runLanes setup registry slots lanes).outcomes := by
  have hstart := Interleaving.Invariant.start setup registry slots lanes
  have hinitial := Machine.follows_initial setup registry slots lanes
  obtain ⟨stages, s, hreaches, hshows⟩ :=
    hinitial.runWithin hstart (laneFuel setup lanes)
  exact ⟨s, hreaches, hshows.finished_of_laneFuel hreaches hslots, hshows.outcomes⟩

/-- The outcomes of lanes are an unfolding of their jobs. -/
theorem unfolds_runLanes (setup : RunSetup) (registry : Registry) {slots : Nat}
    (hslots : 1 ≤ slots) (lanes : List (List Job)) :
    Unfolds setup (registry.Answers setup) lanes.flatten
      (runLanes setup registry slots lanes).outcomes := by
  obtain ⟨s, hreaches, hfinished, houtcomes⟩ :=
    exists_reaches_runLanes setup registry hslots lanes
  rw [← houtcomes]
  exact ((Interleaving.Invariant.start setup registry slots lanes).of_reaches
    hreaches).unfolds_of_finished hfinished

end RuleAudit
