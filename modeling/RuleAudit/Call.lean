import RuleAudit.Report
import RuleAudit.Token

/-!
# Engine calls

What an engine is asked for one batch, and what becomes of it: how long the call sleeps, how often
it steps aside for other calls, and the answer it ends with.
-/

namespace RuleAudit

/-- A request to run rules over files. -/
structure Call where
  files : List FilePath
  rules : List Rule
  batch : Nat := 1
  total : Nat := 1
  timeoutMs : Int := 0
  verbose : Bool := false
  extras : Keyed Value := []
  token : Token := {}
  deriving Repr

/-- The identifiers of the rules asked for. -/
def Call.ruleIds (c : Call) : List String :=
  c.rules.map Rule.id

/-- Findings as an engine hands them over: a report, or a value that should read as one. -/
inductive Findings where
  | report (r : Report)
  | raw (v : Value)
  deriving Repr

/-- The findings as a report. -/
def Findings.toReport : Findings → Except Fault Report
  | .report r => .ok r
  | .raw v => Report.read v

/-- The course of a call. -/
structure Reply where
  /-- Milliseconds asleep; none unless positive. -/
  pauseMs : Int := 0
  /-- How often the call steps aside without sleeping. -/
  turns : Nat := 0
  answer : Except Fault Findings

namespace Reply

/-- Whether a deadline of `timeoutMs` milliseconds finds the call still under way. A sleeping call
is found when it sleeps longer than that. A deadline that is over at once comes up after the first
turn, and so finds a call that takes a second one. -/
def lapses (r : Reply) (timeoutMs : Int) : Bool :=
  if r.pauseMs > 0 then r.pauseMs > timeoutMs else timeoutMs ≤ 0 && r.turns ≥ 2

/-- The milliseconds a call that its deadline does not find is under way. -/
def restMs (r : Reply) : Int :=
  max 0 r.pauseMs

end Reply

end RuleAudit
