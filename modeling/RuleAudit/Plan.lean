import RuleAudit.Rule

/-!
# Routing plans

Which engine each rule goes to and why, and the rules of each engine.
-/

namespace RuleAudit

/-- The policy that named the candidate engines of a rule. -/
inductive Preference where
  | requested
  | ruleOverride
  | configured
  | integration
  | analyzer
  | standard
  deriving Repr, DecidableEq

/-- The word for a policy. -/
def Preference.word : Preference → String
  | .requested => "requested"
  | .ruleOverride => "rule-override"
  | .configured => "config"
  | .integration => "integration"
  | .analyzer => "analyzer"
  | .standard => "default"

/-- Where one rule goes; nowhere when the one engine asked for does not support it. -/
structure Decision where
  ruleId : String
  engine : Option String
  candidates : List String
  source : Preference
  fallback : Bool := false
  deriving Repr, DecidableEq

/-- The rules of each engine, in the order of first use, and those that go nowhere. -/
structure Plan where
  groups : Keyed (List Rule) := []
  skipped : List Rule := []
  decisions : List Decision := []
  deriving Repr

namespace Plan

/-- The identifiers of the rules that go nowhere. -/
def skippedIds (p : Plan) : List String :=
  p.skipped.map Rule.id

/-- The engines that got at least one rule. -/
def engines (p : Plan) : List String :=
  p.groups.keys

/-- The plan with one more rule placed as decided. -/
def place (p : Plan) (rule : Rule) (d : Decision) : Plan :=
  let p := { p with decisions := p.decisions ++ [d] }
  match d.engine with
  | none => { p with skipped := p.skipped ++ [rule] }
  | some engine => { p with groups := p.groups.alter engine [] (· ++ [rule]) }

end Plan

end RuleAudit
