import RuleAudit.Fault
import RuleAudit.Text.Casing
import RuleAudit.Value

/-!
# Rule categories

Each category stands for quality principles that a rule of the category serves.
-/

namespace RuleAudit

/-- Quality principles. -/
inductive Principle where
  | codeQuality
  | designPatterns
  | integration
  | maintainability
  | performance
  | reliability
  | security
  | testability
  | usability
  deriving Repr, DecidableEq

/-- The name of a principle. -/
def Principle.name : Principle → String
  | .codeQuality => "CODE_QUALITY"
  | .designPatterns => "DESIGN_PATTERNS"
  | .integration => "INTEGRATION"
  | .maintainability => "MAINTAINABILITY"
  | .performance => "PERFORMANCE"
  | .reliability => "RELIABILITY"
  | .security => "SECURITY"
  | .testability => "TESTABILITY"
  | .usability => "USABILITY"

namespace Category

/-- The known categories and what they stand for. -/
def table : List (String × List Principle) :=
  [("security", [.security]),
   ("quality", [.codeQuality]),
   ("performance", [.performance]),
   ("maintainability", [.maintainability]),
   ("testability", [.testability]),
   ("reliability", [.reliability]),
   ("design", [.designPatterns]),
   ("integration", [.integration]),
   ("usability", [.usability])]

/-- The known categories. -/
def known : List String :=
  table.map Prod.fst

/-- The names of the principles of a category, in any case; none for an unknown one. -/
def principles (category : String) : List String :=
  match table.find? (·.1 == Text.lower category) with
  | some (_, ps) => ps.map Principle.name
  | none => []

/-- The principles of a category given as a value: none for an empty one, and else it is a text. -/
def principlesOf (v : Value) : Except Fault (List String) :=
  if v.isTruthy then
    match v with
    | .text category => .ok (principles category)
    | v => .error (.noMember v.kindName "lower")
  else .ok []

end Category

end RuleAudit
