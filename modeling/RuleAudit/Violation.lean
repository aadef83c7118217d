import RuleAudit.Severity
import RuleAudit.Value.Check

/-!
# Violations

One finding of one rule. A violation may name no file (a finding about the whole project) and no
engine (the engine that reported it is filled in when its report is taken over).
-/

namespace RuleAudit

/-- A finding of a rule. -/
structure Violation where
  ruleId : String
  file : Option String := none
  line : Option Int := none
  column : Option Int := none
  message : String
  severity : Severity := .warning
  engine : Option String := none
  category : Option String := none
  details : Keyed Value := []
  deriving Repr

namespace Violation

/-- A file reference: any value in its display form. -/
def checkFile : Value → Verdict (Option String)
  | .null => .valid none
  | v => .valid (some v.display)

/-- A violation from the fields of a report entry. -/
def ofFields (fields : Keyed Value) : Verdict Violation :=
  Violation.mk
    <$> Check.required fields "rule_id" Check.text
    <*> Check.optional fields "file" none checkFile
    <*> Check.optional fields "line" none (Check.nullable Check.int)
    <*> Check.optional fields "column" none (Check.nullable Check.int)
    <*> Check.required fields "message" Check.text
    <*> Check.optional fields "severity" .warning (Check.member Severity.ofWord?)
    <*> Check.optional fields "engine" none (Check.nullable Check.text)
    <*> Check.optional fields "category" none (Check.nullable Check.text)
    <*> Check.optional fields "meta" [] Check.mapping

/-- A violation from a report entry. -/
def check : Value → Verdict Violation :=
  Check.model ofFields

/-- The verdict on a new value for one field. -/
def setField (x : Violation) (field : String) (v : Value) : Verdict Violation :=
  let set {α : Type} (check : Value → Verdict α) (f : α → Violation) : Verdict Violation :=
    (check v).map f
  match field with
  | "rule_id" => set Check.text fun a => { x with ruleId := a }
  | "file" => set checkFile fun a => { x with file := a }
  | "line" => set (Check.nullable Check.int) fun a => { x with line := a }
  | "column" => set (Check.nullable Check.int) fun a => { x with column := a }
  | "message" => set Check.text fun a => { x with message := a }
  | "severity" => set (Check.member Severity.ofWord?) fun a => { x with severity := a }
  | "engine" => set (Check.nullable Check.text) fun a => { x with engine := a }
  | "category" => set (Check.nullable Check.text) fun a => { x with category := a }
  | "meta" => set Check.mapping fun a => { x with details := a }
  | _ => .issue .unknownField

/-- The violation with one field assigned. -/
def assign (x : Violation) (field : String) (v : Value) : Except Fault Violation :=
  ((x.setField field v).under (.key field)).toExcept "Violation"

/-- The violation with its engine filled in when it names none. -/
def stamp (engine : String) (x : Violation) : Violation :=
  match x.engine with
  | some _ => x
  | none => { x with engine := some engine }

/-- A violation as a report entry. -/
def toValue (x : Violation) : Value :=
  .table
    [("rule_id", .text x.ruleId),
     ("file", .ofOption .text x.file),
     ("line", .ofOption .int x.line),
     ("column", .ofOption .int x.column),
     ("message", .text x.message),
     ("severity", .text x.severity.word),
     ("engine", .ofOption .text x.engine),
     ("category", .ofOption .text x.category),
     ("meta", .table x.details)]

end Violation

end RuleAudit
