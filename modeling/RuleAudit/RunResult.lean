import RuleAudit.Outcome

/-!
# Run results

The totals of a run by engine, category and severity, together with everything they were counted
from.
-/

namespace RuleAudit

/-- Counters of the prepared workload. -/
structure Metrics where
  givenFiles : Int := 0
  optimizedFiles : Int := 0
  filteredFiles : Int := 0
  givenRules : Int := 0
  optimizedRules : Int := 0
  ruleBatches : Int := 0
  deriving Repr, DecidableEq

namespace Metrics

/-- Metrics from a value; a recorded preparation time must be a number and is dropped. -/
def check : Value → Verdict Metrics :=
  Check.model fun fields =>
    (fun a b c d e f _ => Metrics.mk a b c d e f)
      <$> Check.optional fields "original_files" 0 Check.int
      <*> Check.optional fields "optimized_files" 0 Check.int
      <*> Check.optional fields "filtered_files" 0 Check.int
      <*> Check.optional fields "original_rules" 0 Check.int
      <*> Check.optional fields "optimized_rules" 0 Check.int
      <*> Check.optional fields "rule_batches" 0 Check.int
      <*> Check.optional fields "optimization_time_ms" () Check.number

/-- Metrics from a value, or why it is none. -/
def read (v : Value) : Except Fault Metrics :=
  (check v).toExcept "PerformanceMetrics"

/-- Metrics as a value. -/
def toValue (m : Metrics) : Value :=
  .table
    [("original_files", .int m.givenFiles),
     ("optimized_files", .int m.optimizedFiles),
     ("filtered_files", .int m.filteredFiles),
     ("original_rules", .int m.givenRules),
     ("optimized_rules", .int m.optimizedRules),
     ("rule_batches", .int m.ruleBatches)]

end Metrics

/-- The statistics of one engine. -/
structure EngineTally where
  rules : List String := []
  violations : Nat := 0
  files : Int := 0
  batches : Nat := 0
  failedBatches : Nat := 0
  deriving Repr, DecidableEq

/-- An engine's statistics as a value. -/
def EngineTally.toValue (t : EngineTally) : Value :=
  .table
    [("rules", .texts t.rules),
     ("violations", .nat t.violations),
     ("files", .int t.files),
     ("batches", .nat t.batches),
     ("failed_batches", .nat t.failedBatches)]

/-- The totals of a run; engines, categories and severities in first-seen order. -/
structure RunSummary where
  totalEngines : Nat := 0
  totalBatches : Nat := 0
  failedBatches : Nat := 0
  totalViolations : Nat := 0
  totalFiles : Int := 0
  engines : Keyed EngineTally := []
  categories : Keyed Nat := []
  severities : Keyed Nat := []
  deriving Repr

/-- The totals of a run as a value. -/
def RunSummary.toValue (s : RunSummary) : Value :=
  .table
    [("total_engines", .nat s.totalEngines),
     ("total_batches", .nat s.totalBatches),
     ("failed_batches", .nat s.failedBatches),
     ("total_violations", .nat s.totalViolations),
     ("total_files", .int s.totalFiles),
     ("engines", .table (s.engines.map fun entry => (entry.1, entry.2.toValue))),
     ("categories", .table (s.categories.map fun entry => (entry.1, .nat entry.2))),
     ("severities", .table (s.severities.map fun entry => (entry.1, .nat entry.2)))]

/-- The result of a run. -/
structure RunResult where
  results : List FileFindings := []
  violations : List Violation := []
  summary : RunSummary := {}
  outcomes : List Outcome := []
  skippedRules : List String := []
  performance : Metrics := {}
  metadata : Keyed Value := []
  deriving Repr

namespace RunResult

/-- Whether any engine reported a violation. -/
def hasViolations (r : RunResult) : Bool :=
  !r.violations.isEmpty

/-- Whether any batch failed. -/
def hasFailures (r : RunResult) : Bool :=
  r.outcomes.any fun o => !o.success

/-- The result of a run as a document. -/
def toValue (r : RunResult) : Value :=
  .table
    [("results", .list (r.results.map FileFindings.toValue)),
     ("violations", .list (r.violations.map Violation.toValue)),
     ("summary", r.summary.toValue),
     ("outcomes", .list (r.outcomes.map fun o => .table (o.briefFields ++ o.findingFields))),
     ("skipped_rules", .texts r.skippedRules),
     ("performance", r.performance.toValue),
     ("metadata", .table r.metadata)]

end RunResult

end RuleAudit
