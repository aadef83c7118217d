import RuleAudit.Report

/-!
# Outcomes

What is recorded for one run of a batch or of a retry slice: its findings when it succeeded, or the
error and how the failure is classed.
-/

namespace RuleAudit

/-- Whether a failed batch may be tried again in smaller slices. -/
inductive FailureKind where
  | retryable
  | fatal
  deriving Repr, DecidableEq

/-- The word for a failure kind. -/
def FailureKind.word : FailureKind → String
  | .retryable => "retryable"
  | .fatal => "fatal"

/-- The failure kind a word stands for. -/
def FailureKind.ofWord? : String → Option FailureKind
  | "retryable" => some .retryable
  | "fatal" => some .fatal
  | _ => none

/-- How a failure is classed: its kind, the name of its cause, and a smaller batch size. -/
structure Classification where
  kind : FailureKind
  reason : String
  suggestedSize : Option Int := none
  deriving Repr, DecidableEq

namespace Classification

/-- Whether the batch may be tried again. -/
def isRetryable (c : Classification) : Bool :=
  c.kind == .retryable

/-- A classification from a value. -/
def check : Value → Verdict Classification :=
  Check.model fun fields =>
    Classification.mk
      <$> Check.required fields "kind" (Check.member FailureKind.ofWord?)
      <*> Check.required fields "reason" Check.text
      <*> Check.optional fields "suggested_batch_size" none (Check.nullable Check.int)

/-- A classification as a value. -/
def toValue (c : Classification) : Value :=
  .table
    [("kind", .text c.kind.word),
     ("reason", .text c.reason),
     ("suggested_batch_size", .ofOption .int c.suggestedSize)]

end Classification

/-- The outcome of one run of a batch or retry slice. -/
structure Outcome where
  engine : String
  batchNumber : Int
  totalBatches : Int
  rules : List String
  fileCount : Int
  success : Bool
  results : List FileFindings := []
  violations : List Violation := []
  timeoutMs : Int := 0
  error : Option String := none
  classification : Option Classification := none
  attempt : Int := 0
  subBatch : Option Int := none
  deriving Repr

namespace Outcome

/-- Every violation of an outcome: those of the files first. -/
def allViolations (o : Outcome) : List Violation :=
  o.results.flatMap FileFindings.violations ++ o.violations

/-- The number of violations attached to an outcome. -/
def violationCount (o : Outcome) : Nat :=
  (o.results.flatMap FileFindings.violations).length + o.violations.length

/-- Whether a smaller retry is worth while. -/
def retryRecommended (o : Outcome) : Bool :=
  match o.classification with
  | some c => c.isRetryable
  | none => false

/-- An outcome from a value; a recorded duration must be a number and is dropped. -/
def check : Value → Verdict Outcome :=
  Check.model fun fields =>
    (fun engine number total rules files success results violations timeout _ error
        classification attempt subBatch =>
      Outcome.mk engine number total rules files success results violations timeout error
        classification attempt subBatch)
      <$> Check.required fields "engine" Check.text
      <*> Check.required fields "batch_number" Check.int
      <*> Check.required fields "total_batches" Check.int
      <*> Check.required fields "rules" (Check.sequence Check.text)
      <*> Check.required fields "file_count" Check.int
      <*> Check.required fields "success" Check.bool
      <*> Check.optional fields "results" [] (Check.sequence FileFindings.check)
      <*> Check.optional fields "violations" [] (Check.sequence Violation.check)
      <*> Check.optional fields "timeout_ms" 0 Check.int
      <*> Check.optional fields "duration_ms" () Check.number
      <*> Check.optional fields "error" none (Check.nullable Check.text)
      <*> Check.optional fields "classification" none (Check.nullable Classification.check)
      <*> Check.optional fields "attempt" 0 Check.int
      <*> Check.optional fields "sub_batch" none (Check.nullable Check.int)

/-- An outcome from a value, or why it is none. -/
def read (v : Value) : Except Fault Outcome :=
  (check v).toExcept "BatchOutcome"

/-- The fields of an outcome that identify and judge it. -/
def briefFields (o : Outcome) : List (String × Value) :=
  [("engine", .text o.engine),
   ("batch_number", .int o.batchNumber),
   ("total_batches", .int o.totalBatches),
   ("rules", .texts o.rules),
   ("file_count", .int o.fileCount),
   ("success", .bool o.success),
   ("timeout_ms", .int o.timeoutMs),
   ("error", .ofOption .text o.error),
   ("classification", .ofOption Classification.toValue o.classification),
   ("attempt", .int o.attempt),
   ("sub_batch", .ofOption .int o.subBatch)]

/-- The findings of an outcome. -/
def findingFields (o : Outcome) : List (String × Value) :=
  [("results", .list (o.results.map FileFindings.toValue)),
   ("violations", .list (o.violations.map Violation.toValue))]

end Outcome

end RuleAudit
