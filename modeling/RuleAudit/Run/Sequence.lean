import RuleAudit.Run.Job

/-!
# One job after another

Jobs run in order; the slices of a failed job come right after it. Each job is run to its end, or
to its deadline, before the next one starts.
-/

namespace RuleAudit

/-- The course of one job. -/
structure JobCourse where
  registry : Registry
  notices : List Notice
  outcome : Outcome
  elapsedMs : Int := 0

/-- Make the call of a job and judge it. -/
def Job.call (setup : RunSetup) (registry : Registry) (job : Job) (engine : Engine) (call : Call) :
    Registry × List Notice × Except Fault Report × Int :=
  let (served, notices, reply) := engine.analyze setup.tree call
  let result := job.judge setup reply
  if reply.lapses call.timeoutMs then
    let (cut, notices) := engine.analyzeCut setup.tree call
    (registry.update cut,
      .called engine.tag call :: notices ++
        [.late engine.tag (Job.lateReason call.timeoutMs), .ended engine.tag],
      result, max 0 call.timeoutMs)
  else
    (registry.update served, .called engine.tag call :: notices ++ [.ended engine.tag],
      result, reply.restMs)

/-- Run one job. -/
def Job.run (setup : RunSetup) (registry : Registry) (job : Job) : JobCourse :=
  match job.prepareCall setup registry with
  | .error f =>
    let o := job.outcome setup (.error f)
    { registry := registry
      notices := job.announce setup ++ job.report setup o 0
      outcome := o }
  | .ok (engine, call) =>
    let (registry, notices, result, elapsed) := job.call setup registry engine call
    let o := job.outcome setup result
    { registry := registry
      notices := job.announce setup ++ notices ++ job.report setup o elapsed
      outcome := o
      elapsedMs := elapsed }

/-- The course of several jobs. -/
structure SequenceCourse where
  registry : Registry
  notices : List Notice := []
  outcomes : List Outcome := []

/-- Run jobs and the slices they leave, at most `fuel` of them. -/
def runJobsWithin (setup : RunSetup) : Nat → Registry → List Job → SequenceCourse
  | 0, registry, _ => { registry := registry }
  | _ + 1, registry, [] => { registry := registry }
  | fuel + 1, registry, job :: rest =>
    let course := job.run setup registry
    let slices := job.retries setup course.outcome
    let later := runJobsWithin setup fuel course.registry (slices ++ rest)
    { registry := later.registry
      notices := course.notices ++ job.announceRetries course.outcome slices ++ later.notices
      outcomes := course.outcome :: later.outcomes }

/-- The weight of jobs together: no more of them, slices included, can run. -/
def totalWeight (jobs : List Job) : Nat :=
  jobs.foldr (fun job total => job.weight + total) 0

/-- Run jobs and the slices they leave. -/
def runJobs (setup : RunSetup) (registry : Registry) (jobs : List Job) : SequenceCourse :=
  runJobsWithin setup (totalWeight jobs) registry jobs

end RuleAudit
