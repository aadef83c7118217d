/-!
# Issues of a rejected value

A value that does not fit its model is rejected with the list of everything wrong with it: where,
and what kind of mismatch it is.
-/

namespace RuleAudit

/-- One step into a value: a field or key, or a list index. -/
inductive Step where
  | key (name : String)
  | index (i : Nat)
  deriving Repr, DecidableEq

/-- The kinds of mismatch. -/
inductive IssueKind where
  | missing
  | notString
  | notInteger
  | badInteger
  | integerTooLarge
  | fractional
  | notFinite
  | belowMinimum
  | rejectedValue
  | notBoolean
  | badBoolean
  | notNumber
  | badNumber
  | notList
  | notSequence
  | notMapping
  | notModel
  | notMember
  | unknownField
  deriving Repr, DecidableEq

/-- The code of a mismatch. -/
def IssueKind.code : IssueKind → String
  | .missing => "missing"
  | .notString => "string_type"
  | .notInteger => "int_type"
  | .badInteger => "int_parsing"
  | .integerTooLarge => "int_parsing_size"
  | .fractional => "int_from_float"
  | .notFinite => "finite_number"
  | .belowMinimum => "greater_than_equal"
  | .rejectedValue => "value_error"
  | .notBoolean => "bool_type"
  | .badBoolean => "bool_parsing"
  | .notNumber => "float_type"
  | .badNumber => "float_parsing"
  | .notList => "list_type"
  | .notSequence => "tuple_type"
  | .notMapping => "dict_type"
  | .notModel => "model_type"
  | .notMember => "enum"
  | .unknownField => "no_such_attribute"

/-- One mismatch and the path to it. -/
structure Issue where
  path : List Step
  kind : IssueKind
  deriving Repr, DecidableEq

/-- The headline over a list of issues. -/
def issuesHeadline (model : String) (issues : List Issue) : String :=
  let noun := if issues.length == 1 then "error" else "errors"
  s!"{issues.length} validation {noun} for {model}"

end RuleAudit
