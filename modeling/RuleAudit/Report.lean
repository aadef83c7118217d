import RuleAudit.Violation

/-!
# Engine reports

What an engine returns for one batch: violations grouped by file, and those it could attribute to
no file.
-/

namespace RuleAudit

/-- The violations of one file. -/
structure FileFindings where
  file : String
  violations : List Violation := []
  deriving Repr

/-- The findings of one engine call. -/
structure Report where
  results : List FileFindings := []
  violations : List Violation := []
  metadata : Keyed Value := []
  deriving Repr

namespace FileFindings

/-- The violations of one file, from a report entry. -/
def check : Value → Verdict FileFindings :=
  Check.model fun fields =>
    FileFindings.mk
      <$> Check.required fields "file" (fun v => .valid v.display)
      <*> Check.optional fields "violations" [] (Check.list Violation.check)

/-- The violations of one file as a report entry. -/
def toValue (f : FileFindings) : Value :=
  .table [("file", .text f.file), ("violations", .list (f.violations.map Violation.toValue))]

/-- The findings of a file with missing engine names filled in. -/
def stamp (engine : String) (f : FileFindings) : FileFindings :=
  { f with violations := f.violations.map (Violation.stamp engine) }

end FileFindings

namespace Report

/-- A report from a value. -/
def check : Value → Verdict Report :=
  Check.model fun fields =>
    Report.mk
      <$> Check.optional fields "results" [] (Check.list FileFindings.check)
      <*> Check.optional fields "violations" [] (Check.list Violation.check)
      <*> Check.optional fields "metadata" [] Check.mapping

/-- A report from a value, or why it is none. -/
def read (v : Value) : Except Fault Report :=
  (check v).toExcept "EngineReport"

/-- Every violation: those of the files first, then the free-standing ones. -/
def allViolations (r : Report) : List Violation :=
  r.results.flatMap FileFindings.violations ++ r.violations

/-- The number of violations. -/
def count (r : Report) : Nat :=
  (r.results.flatMap FileFindings.violations).length + r.violations.length

/-- The report with missing engine names filled in. -/
def stamp (engine : String) (r : Report) : Report :=
  { r with
    results := r.results.map (FileFindings.stamp engine)
    violations := r.violations.map (Violation.stamp engine) }

/-- A report as a value. -/
def toValue (r : Report) : Value :=
  .table
    [("results", .list (r.results.map FileFindings.toValue)),
     ("violations", .list (r.violations.map Violation.toValue)),
     ("metadata", .table r.metadata)]

end Report

end RuleAudit
