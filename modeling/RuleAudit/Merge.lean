import RuleAudit.RunResult
import RuleAudit.Text.Casing

/-!
# Merging outcomes

The outcomes of a run are folded, in the order they were produced, into the run's result. Failed
outcomes count as batches but contribute no findings. A file count is taken once per engine, not
per batch, because every batch of a run shares the same files.
-/

namespace RuleAudit

/-- The category of a violation that has none and whose rule has none either. -/
def uncategorized : String := "uncategorized"

namespace Merge

/-- The fold between two outcomes. -/
structure State where
  results : List FileFindings := []
  violations : List Violation := []
  tallies : Keyed EngineTally := []
  categories : Keyed Nat := []
  severities : Keyed Nat := []

/-- Items of a list, each once, in the order of their first appearance, after those of `seen`. -/
def addNew (seen items : List String) : List String :=
  items.foldl (fun acc item => if acc.contains item then acc else acc ++ [item]) seen

/-- The category a violation is counted under. -/
def categoryOf (ruleCategories : Keyed String) (v : Violation) : String :=
  match v.category with
  | some c => if c.isEmpty then ofRule else c
  | none => ofRule
where
  ofRule : String := (ruleCategories.get? (Text.upper v.ruleId)).getD uncategorized

/-- One more under a key. -/
def count (counts : Keyed Nat) (key : String) : Keyed Nat :=
  counts.alter key 0 (· + 1)

/-- The tally of an engine with one more outcome. -/
def tallyOutcome (o : Outcome) (t : EngineTally) : EngineTally :=
  { rules := addNew t.rules o.rules
    violations := t.violations + if o.success then o.violationCount else 0
    files := max t.files o.fileCount
    batches := t.batches + 1
    failedBatches := t.failedBatches + if o.success then 0 else 1 }

/-- One outcome. -/
def step (ruleCategories : Keyed String) (s : State) (o : Outcome) : State :=
  let s := { s with tallies := s.tallies.alter o.engine {} (tallyOutcome o) }
  if o.success then
    { s with
      results := s.results ++ o.results
      violations := s.violations ++ o.allViolations
      categories := o.allViolations.foldl
        (fun counts v => count counts (categoryOf ruleCategories v)) s.categories
      severities := o.allViolations.foldl (fun counts v => count counts v.severity.word)
        s.severities }
  else s

/-- The fold over all outcomes. -/
def fold (ruleCategories : Keyed String) (outcomes : List Outcome) : State :=
  outcomes.foldl (step ruleCategories) {}

end Merge

/-- The result that outcomes add up to. -/
def merge (outcomes : List Outcome) (fileCount : Int := 0) (performance : Metrics := {})
    (skippedRules : List String := []) (ruleCategories : Keyed String := [])
    (metadata : Keyed Value := []) : RunResult :=
  let s := Merge.fold ruleCategories outcomes
  { results := s.results
    violations := s.violations
    summary :=
      { totalEngines := s.tallies.length
        totalBatches := outcomes.length
        failedBatches := s.tallies.values.foldr (fun t total => t.failedBatches + total) 0
        totalViolations := s.violations.length
        totalFiles := fileCount
        engines := s.tallies
        categories := s.categories
        severities := s.severities }
    outcomes := outcomes
    skippedRules := skippedRules
    performance := performance
    metadata := metadata }

end RuleAudit
