import RuleAudit.Run.Sequence

/-!
# Lanes

With more than one slot, jobs run in lanes. A lane holds a slot while it runs a batch and the slices
of that batch, and gives it back before its next batch. Lanes that find no free slot wait in line,
and a slot given back goes to the first of them. The batches of an engine share a lane unless the
engine can serve several calls at once.

The machine takes events from a queue, in order. An event may have to be passed over a number of
times before it happens. When the queue is empty the clock moves on to the next timer.
-/

namespace RuleAudit

/-- A call under way in a lane. -/
structure LiveCall where
  job : Job
  call : Call
  startedMs : Int
  tag : Nat := 0
  result : Except Fault Report := .ok {}
  lapsed : Bool := false

/-- The jobs of a lane: those to come, the call under way, and the outcomes so far. -/
structure Lane where
  jobs : List Job
  live : Option LiveCall := none
  outcomes : List Outcome := []

/-- What can happen to a lane. -/
inductive LaneEvent where
  /-- The lane asks for a slot for its next batch. -/
  | ask (lane : Nat)
  /-- The lane goes on with a slot that was kept for it. -/
  | granted (lane : Nat)
  /-- The lane, holding a slot, opens its next job. -/
  | start (lane : Nat)
  /-- The call of the lane begins. -/
  | begin (lane : Nat)
  /-- The call of the lane ends by itself. -/
  | finish (lane : Nat)
  /-- The lane takes the result of its call. -/
  | close (lane : Nat)
  /-- A call that was given up comes to its end. -/
  | drop (tag : Nat) (reason : String)
  deriving Repr

/-- Lanes with their slots, waiting line, queue and clock. -/
structure Machine where
  registry : Registry
  lanes : List Lane
  free : Nat
  /-- Lanes in line; marked once a slot is kept for them. -/
  waiting : List (Nat × Bool) := []
  queue : List (Nat × LaneEvent) := []
  timers : List (Int × LaneEvent) := []
  now : Int := 0
  notices : List Notice := []

namespace Machine

/-- The machine with something told. -/
def tell (m : Machine) (notices : List Notice) : Machine :=
  { m with notices := m.notices ++ notices }

/-- The machine with an event at the end of the queue. -/
def push (m : Machine) (passes : Nat) (e : LaneEvent) : Machine :=
  { m with queue := m.queue ++ [(passes, e)] }

/-- The machine with an event that happens next. -/
def next (m : Machine) (e : LaneEvent) : Machine :=
  { m with queue := (0, e) :: m.queue }

/-- The machine with a timer. -/
def after (m : Machine) (ms : Int) (e : LaneEvent) : Machine :=
  { m with timers := m.timers ++ [(m.now + ms, e)] }

/-- The machine with one lane changed. -/
def setLane (m : Machine) (i : Nat) (lane : Lane) : Machine :=
  { m with lanes := m.lanes.set i lane }

/-- Mark the first lane in line that no slot is kept for. -/
def markFirst : List (Nat × Bool) → Option (Nat × List (Nat × Bool))
  | [] => none
  | (i, false) :: rest => some (i, (i, true) :: rest)
  | (i, true) :: rest => (markFirst rest).map fun (j, marked) => (j, (i, true) :: marked)

/-- Keep a free slot for the first lane in line. -/
def grant (m : Machine) : Machine :=
  match markFirst m.waiting with
  | none => m
  | some (i, marked) => { m with waiting := marked, free := m.free - 1 }.push 0 (.granted i)

/-- Give a slot back. -/
def release (m : Machine) : Machine :=
  { m with free := m.free + 1 }.grant

/-- Close a job: tell of it, put its slices in front, and keep the slot only for them. -/
def conclude (setup : RunSetup) (m : Machine) (i : Nat) (lane : Lane) (job : Job)
    (result : Except Fault Report) (elapsedMs : Int) : Machine :=
  let o := job.outcome setup result
  let slices := job.retries setup o
  let m := m.setLane i
    { jobs := slices ++ lane.jobs, live := none, outcomes := lane.outcomes ++ [o] }
  let m := m.tell (job.report setup o elapsedMs ++ job.announceRetries o slices)
  match slices ++ lane.jobs with
  | following :: _ => if following.attempt > 0 then m.next (.start i) else m.release.next (.ask i)
  | [] => m.release

/-- A lane asks for a slot. -/
def ask (m : Machine) (i : Nat) : Machine :=
  if m.free > 0 && m.waiting.isEmpty then { m with free := m.free - 1 }.next (.start i)
  else { m with waiting := m.waiting ++ [(i, false)] }

/-- A lane takes the slot kept for it; another free one goes to the next in line. -/
def takeSlot (m : Machine) (i : Nat) : Machine :=
  let m := { m with waiting := m.waiting.filter fun entry => entry.1 != i }
  let m := if m.free > 0 then m.grant else m
  m.next (.start i)

/-- A lane opens its next job. -/
def openJob (setup : RunSetup) (m : Machine) (i : Nat) (lane : Lane) (job : Job)
    (rest : List Job) : Machine :=
  let m := m.tell (job.announce setup)
  let lane := { lane with jobs := rest }
  match job.prepareCall setup m.registry with
  | .error f => m.conclude setup i lane job (.error f) 0
  | .ok (engine, call) =>
    let live : LiveCall := { job, call, startedMs := m.now, tag := engine.tag }
    (m.setLane i { lane with live := some live }).push 0 (.begin i)

/-- A call begins. It ends at once, after stepping aside, after a sleep, or at its deadline. -/
def beginCall (setup : RunSetup) (m : Machine) (i : Nat) (lane : Lane) (live : LiveCall)
    (engine : Engine) : Machine :=
  let (served, notices, reply) := engine.analyze setup.tree live.call
  let judged : LiveCall :=
    { live with
      result := live.job.judge setup reply
      lapsed := reply.lapses live.call.timeoutMs }
  let settled := m.setLane i { lane with live := some judged }
  let told := settled.tell [.called live.tag live.call]
  if reply.lapses live.call.timeoutMs then
    let (cut, notices) := engine.analyzeCut setup.tree live.call
    ({ told with registry := m.registry.update cut }.tell notices).after
      (max 0 live.call.timeoutMs) (.close i)
  else
    let told := { told with registry := m.registry.update served }.tell notices
    if reply.pauseMs > 0 then told.after reply.pauseMs (.finish i)
    else match min reply.turns setup.files.length with
      | 0 => told.next (.finish i)
      | turns + 1 => told.push turns (.finish i)

/-- A lane takes the result of its call; a call that its deadline found is given up. -/
def closeCall (setup : RunSetup) (m : Machine) (i : Nat) (lane : Lane) (live : LiveCall) :
    Machine :=
  let m := if live.lapsed then m.push 0 (.drop live.tag (Job.lateReason live.call.timeoutMs)) else m
  m.conclude setup i lane live.job live.result (m.now - live.startedMs)

/-- One event happens. -/
def handle (setup : RunSetup) (m : Machine) : LaneEvent → Machine
  | .ask i =>
    match m.lanes[i]? with
    | some { jobs := _ :: _, .. } => m.ask i
    | _ => m
  | .granted i => m.takeSlot i
  | .start i =>
    match m.lanes[i]? with
    | some lane =>
      match lane.jobs with
      | job :: rest => m.openJob setup i lane job rest
      | [] => m
    | none => m
  | .begin i =>
    match m.lanes[i]? with
    | some lane =>
      match lane.live with
      | some live =>
        match m.registry.get? live.job.batch.engine with
        | some engine => m.beginCall setup i lane live engine
        | none => m
      | none => m
    | none => m
  | .finish i =>
    match m.lanes[i]? with
    | some { live := some live, .. } => (m.tell [.ended live.tag]).push 1 (.close i)
    | _ => m
  | .close i =>
    match m.lanes[i]? with
    | some lane =>
      match lane.live with
      | some live => m.closeCall setup i lane live
      | none => m
    | none => m
  | .drop tag reason => m.tell [.late tag reason, .ended tag]

/-- The next moment a timer is set for. -/
def nextMoment : List (Int × LaneEvent) → Option Int
  | [] => none
  | (t, _) :: rest =>
    match nextMoment rest with
    | some u => some (min t u)
    | none => some t

/-- The next event, or the next move of the clock. -/
def step (setup : RunSetup) (m : Machine) : Option Machine :=
  match m.queue with
  | (0, e) :: rest => some ({ m with queue := rest }.handle setup e)
  | (passes + 1, e) :: rest => some { m with queue := rest ++ [(passes, e)] }
  | [] =>
    match nextMoment m.timers with
    | none => none
    | some t =>
      let due := m.timers.filter fun timer => timer.1 ≤ t
      some
        { m with
          now := max m.now t
          timers := m.timers.filter fun timer => t < timer.1
          queue := due.map fun timer => (1, timer.2) }

/-- Take steps until nothing is left to happen, at most `fuel` of them. -/
def runWithin (setup : RunSetup) : Nat → Machine → Machine
  | 0, m => m
  | fuel + 1, m =>
    match m.step setup with
    | some m => runWithin setup fuel m
    | none => m

/-- The machine before anything has happened. -/
def initial (registry : Registry) (slots : Nat) (lanes : List (List Job)) : Machine :=
  { registry := registry
    lanes := lanes.map fun jobs => { jobs := jobs }
    free := slots
    queue := (List.range lanes.length).map fun i => (0, .ask i) }

end Machine

/-- More steps than jobs in lanes can take: a job waits for its slot, is opened and begun, is passed
over at most once for each file, and is ended and closed. -/
def laneFuel (setup : RunSetup) (lanes : List (List Job)) : Nat :=
  (totalWeight lanes.flatten + lanes.length + 1) * (setup.files.length + 12)

/-- Run jobs in lanes; outcomes come in the order of the lanes. -/
def runLanes (setup : RunSetup) (registry : Registry) (slots : Nat) (lanes : List (List Job)) :
    SequenceCourse :=
  let m := (Machine.initial registry slots lanes).runWithin setup (laneFuel setup lanes)
  { registry := m.registry
    notices := m.notices
    outcomes := m.lanes.flatMap Lane.outcomes }

end RuleAudit
