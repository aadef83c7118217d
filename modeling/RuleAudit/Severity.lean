/-!
# Severities
-/

namespace RuleAudit

/-- How serious a violation is. -/
inductive Severity where
  | error
  | warning
  | info
  | hint
  deriving Repr, DecidableEq

namespace Severity

/-- The word for a severity. -/
def word : Severity → String
  | .error => "error"
  | .warning => "warning"
  | .info => "info"
  | .hint => "hint"

/-- The severity a word stands for. -/
def ofWord? : String → Option Severity
  | "error" => some .error
  | "warning" => some .warning
  | "info" => some .info
  | "hint" => some .hint
  | _ => none

@[simp] theorem ofWord?_word (s : Severity) : ofWord? s.word = some s := by
  cases s <;> rfl

end Severity

end RuleAudit
