import RuleAudit.Run.Lanes

/-!
# Running groups of rules

The rules of each engine are cut into batches. With one slot the batches run one after another;
with more, in lanes. Either way the outcomes come in the order of the groups and their batches.
-/

namespace RuleAudit

/-- The lanes of a group: one for each batch when the engine serves several calls at once. -/
def groupLanes (setup : RunSetup) (registry : Registry) (engine : String) (rules : List Rule) :
    Except Fault (List (List Job)) := do
  let size := resolveBatchSize setup.limits setup.files.length
  let jobs := jobsOf (← createBatches engine rules size)
  let safe := ((registry.get? engine).map Engine.concurrencySafe).getD false
  if safe && setup.limits.maxConcurrentBatches > 1 then return jobs.map fun job => [job]
  return [jobs]

/-- The lanes of all groups, in order. -/
def lanesOf (setup : RunSetup) (registry : Registry) :
    Keyed (List Rule) → Except Fault (List (List Job))
  | [] => .ok []
  | (engine, rules) :: rest => do
    let first ← groupLanes setup registry engine rules
    let later ← lanesOf setup registry rest
    return first ++ later

/-- Run the rules of each engine over the files. -/
def execute (setup : RunSetup) (registry : Registry) (groups : Keyed (List Rule)) :
    Except Fault SequenceCourse := do
  let lanes ← lanesOf setup registry groups
  if setup.limits.maxConcurrentBatches ≤ 1 then return runJobs setup registry lanes.flatten
  return runLanes setup registry setup.limits.maxConcurrentBatches.toNat lanes

end RuleAudit
