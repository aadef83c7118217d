import RuleAudit.Engine

/-!
# Scripted engines

An engine that plays a part: a list of cues says how it answers, and the first cue that fits a call
is played. A call that no cue fits, or whose cue says nothing of the answer, finds one violation of
each rule in each file.
-/

namespace RuleAudit

/-- The answer a cue lays down. -/
inductive CueAnswer where
  /-- A value handed over as it is. -/
  | raw (v : Value)
  /-- A value read as a report. -/
  | report (v : Value)
  /-- One violation of each rule in each file. -/
  | everything

/-- How a script answers the calls that meet its conditions. -/
structure Cue where
  batch : Option Int := none
  minRules : Option Int := none
  rule : Option String := none
  delayMs : Int := 0
  poll : Bool := false
  fail : Option Fault := none
  answer : CueAnswer := .everything

/-- A part to play. -/
structure Script where
  cues : List Cue := []
  /-- Fields that every violation found without a laid-down report has. -/
  violation : Keyed Value := []

namespace Script

/-- Whether a call meets the conditions of a cue. -/
def Cue.fits (cue : Cue) (call : Call) : Bool :=
  (cue.batch.all fun n => n == Int.ofNat call.batch) &&
    (cue.minRules.all fun n => n ≤ Int.ofNat call.rules.length) &&
    (cue.rule.all fun id => call.ruleIds.contains id)

/-- The violation of a rule in a file, with the script's fields. -/
def violationOf (s : Script) (file : String) (rule : Rule) : Except Fault Violation :=
  let fields : Keyed Value :=
    [("rule_id", .text rule.id),
     ("file", .text file),
     ("line", .int 1),
     ("message", .text (rule.id ++ " found")),
     ("severity", .text rule.severity.word),
     ("category", .text rule.category),
     ("engine", .null)]
  let fields := s.violation.foldl (fun fs entry => fs.put entry.1 entry.2) fields
  (Violation.check (.table fields)).toExcept "Violation"

/-- One violation of each rule in each file. -/
def everything (s : Script) (call : Call) : Except Fault Report := do
  let results ← call.files.mapM fun p => do
    let found ← call.rules.mapM fun rule => s.violationOf p.text rule
    return ({ file := p.text, violations := found } : FileFindings)
  return { results := results }

/-- The answer of a cue, after any sleep. -/
def answer (s : Script) (cue : Cue) (call : Call) : Except Fault Findings := do
  if cue.poll then call.token.check
  match cue.fail with
  | some f => .error f
  | none =>
    match cue.answer with
    | .raw v => return .raw v
    | .report v => return .report (← Report.read v)
    | .everything => return .report (← s.everything call)

/-- The course of a call under a script. -/
def play (s : Script) (call : Call) : Reply :=
  let cue := (s.cues.find? fun cue => Cue.fits cue call).getD {}
  { pauseMs := cue.delayMs
    turns := if cue.delayMs < 0 then 1 else 0
    answer := s.answer cue call }

/-- The behaviour of a script; set-up and shutdown may be laid down to fail. -/
def behaviour (s : Script) (declared : List String) (setUp tearDown : Option Fault) : Behaviour :=
  { declared := declared
    setUp := fun _ _ => setUp
    tearDown := fun _ => tearDown
    analyze := fun _ call => s.play call }

end Script

end RuleAudit
