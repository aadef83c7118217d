import RuleAudit.Registry

/-!
# Jobs

A job is a batch, or a slice of a failed one, waiting for its call. Running a job opens it (a notice
and the call to make), judges how the call ended, and closes it with an outcome. A job that failed
for a reason a smaller batch may avoid is followed by jobs for its slices, down to a depth.
-/

namespace RuleAudit

/-- What all jobs of a run share. -/
structure RunSetup where
  tree : FileTree := []
  limits : Limits := {}
  engineSettings : Keyed (Keyed Value) := []
  output : OutputSettings := {}
  files : List FilePath

/-- A batch or a retry slice to run. -/
structure Job where
  batch : Batch
  attempt : Nat := 0
  slice : Option Nat := none
  deriving Repr, DecidableEq

namespace Job

/-- More than the weights of all slices together, so that work ends. -/
def weight (job : Job) : Nat :=
  max 1 (2 * job.batch.rules.length - 1)

/-- The deadline of a job in milliseconds after its start. -/
def timeoutMs (setup : RunSetup) (job : Job) : Int :=
  adaptiveTimeout setup.limits setup.files.length job.batch.rules.length

/-- The context of a failure of the job. -/
def context (setup : RunSetup) (job : Job) : BatchContext :=
  { engine := job.batch.engine
    batchNumber := job.batch.number
    totalBatches := job.batch.total
    fileCount := setup.files.length
    ruleCount := job.batch.rules.length
    timeoutMs := job.timeoutMs setup }

/-! ## Opening -/

/-- What is told before a job runs. -/
def announce (setup : RunSetup) (job : Job) : List Notice :=
  let b := job.batch
  let rules := ",".intercalate b.ruleIds
  [.before b,
   .trace (s!"run {b.engine} batch {b.number}/{b.total} rules={rules} " ++
     s!"files={setup.files.length} timeout={job.timeoutMs setup}ms")]

/-- The engine of a job and the call to make. -/
def prepareCall (setup : RunSetup) (registry : Registry) (job : Job) :
    Except Fault (Engine × Call) := do
  let engine ← registry.get job.batch.engine
  let token ← Token.start (.ofInt 0) (some (job.timeoutMs setup))
  return (engine,
    { files := setup.files
      rules := job.batch.rules
      batch := job.batch.number
      total := job.batch.total
      timeoutMs := job.timeoutMs setup
      verbose := setup.output.verbose
      extras := (setup.engineSettings.get? job.batch.engine).getD []
      token := token })

/-! ## Judging a call -/

/-- The reason given to a call that its deadline has found under way. -/
def lateReason (timeoutMs : Int) : String :=
  s!"deadline of {timeoutMs}ms exceeded"

/-- The report of a call that ended by itself, its violations all naming the engine. A call that
withdrew is a failure of the batch. -/
def judge (setup : RunSetup) (job : Job) (reply : Reply) : Except Fault Report :=
  if reply.lapses (job.timeoutMs setup) then .error (.deadline (job.context setup))
  else match reply.answer with
    | .error (.plain .withdrawn _) =>
      let cause : Fault := .plain .withdrawn (some "engine cancelled its own batch")
      .error (.batch cause (job.context setup))
    | .error f => .error f
    | .ok findings => findings.toReport.map (Report.stamp job.batch.engine)

/-- The failure of a batch: a deadline or a batch failure is one already. -/
def failure (setup : RunSetup) (job : Job) : Fault → Fault
  | .deadline c => .deadline c
  | .batch cause c => .batch cause c
  | f => .batch f (job.context setup)

/-! ## Closing -/

/-- The outcome that a call's report or fault gives. -/
def outcome (setup : RunSetup) (job : Job) (result : Except Fault Report) : Outcome :=
  let blank : Outcome :=
    { engine := job.batch.engine
      batchNumber := job.batch.number
      totalBatches := job.batch.total
      rules := job.batch.ruleIds
      fileCount := setup.files.length
      success := false
      timeoutMs := job.timeoutMs setup
      attempt := job.attempt
      subBatch := job.slice.map Int.ofNat }
  match result with
  | .ok report =>
    { blank with success := true, results := report.results, violations := report.violations }
  | .error f =>
    let fault := job.failure setup f
    { blank with
      error := some fault.message
      classification := some (classify fault job.batch.rules.length) }

/-- The warning for a failed job. -/
def warning (setup : RunSetup) (o : Outcome) : List Notice :=
  let hint := match o.classification with
    | some c =>
      if c.isRetryable then s!"; consider a batch size of {c.suggestedSize.getD 1}" else ""
    | none => ""
  if setup.output.quiet then []
  else [.console .warn (o.error.getD "" ++ hint) setup.output.emoji setup.output.color]

/-- What is told after a job ran for some milliseconds. -/
def report (setup : RunSetup) (job : Job) (o : Outcome) (elapsedMs : Int) : List Notice :=
  let b := job.batch
  let lines : List Notice :=
    if o.success then
      [.trace (s!"done {b.engine} batch {b.number}/{b.total}: " ++
        s!"{o.violationCount} violations in {elapsedMs}ms")]
    else warning setup o
  lines ++ [.after o]

/-! ## Retries -/

/-- The size of the slices of a failed batch. -/
def sliceSize (o : Outcome) : Nat :=
  match o.classification with
  | some c => max 1 (c.suggestedSize.getD 1).toNat
  | none => 1

/-- Whether a job is to be tried again in slices. -/
def shouldRetry (setup : RunSetup) (job : Job) (o : Outcome) : Bool :=
  setup.limits.retryFailedBatches && o.retryRecommended &&
    Int.ofNat job.attempt < setup.limits.maxRetries && 1 < job.batch.rules.length

/-- Jobs for pieces of a batch, numbered from `first`. -/
def slicesFrom (job : Job) : Nat → List (List Rule) → List Job
  | _, [] => []
  | first, rules :: rest =>
    { batch := { job.batch with rules := rules }
      attempt := job.attempt + 1
      slice := some first } :: slicesFrom job (first + 1) rest

/-- The jobs that follow a job that failed. -/
def retries (setup : RunSetup) (job : Job) (o : Outcome) : List Job :=
  if job.shouldRetry setup o then job.slicesFrom 1 (chunks (sliceSize o) job.batch.rules) else []

/-- What is told before the slices of a job run. -/
def announceRetries (job : Job) (o : Outcome) (slices : List Job) : List Notice :=
  if slices.isEmpty then []
  else
    [.trace (s!"retry {job.batch.engine} batch {job.batch.number} as {slices.length} slices " ++
      s!"of <= {sliceSize o} rules (depth {job.attempt + 1})")]

end Job

/-- The jobs of batches. -/
def jobsOf (batches : List Batch) : List Job :=
  batches.map fun b => { batch := b }

end RuleAudit
