import RuleAudit.Category
import RuleAudit.Severity
import RuleAudit.Text.Blank
import RuleAudit.Value.Check

/-!
# Rules

A rule is what a registry says about one check: its identifier, how it is shown, which engines suit
it and which patterns find it. `Rule.check` reads a registry entry, filling in a name and
principles that the entry leaves out; `Rule.toValue` writes it back.
-/

namespace RuleAudit

/-- An analysis rule. -/
structure Rule where
  id : String
  name : String := ""
  description : String := ""
  category : String := "quality"
  severity : Severity := .warning
  languages : List String := ["javascript", "typescript"]
  principles : List String := []
  analyzer : Option String := none
  engines : List String := []
  patterns : List String := []
  message : Option String := none
  version : String := "1.0.0"
  status : String := "activated"
  tags : List String := []
  deriving Repr, DecidableEq

namespace Rule

/-- Identifiers are compared without surrounding blanks and in upper case. -/
def normalizeId (s : String) : String :=
  Text.upper (Text.trim s)

/-- Whether a rule covers a language. -/
def supportsLanguage (r : Rule) (language : String) : Bool :=
  r.languages.contains language || r.languages.contains "all"

/-! ## Reading a registry entry -/

/-- A severity, with the words `major` and `minor`, in any case; null is a warning. -/
def checkSeverity : Value → Verdict Severity
  | .null => .valid .warning
  | .text s =>
    match Text.lower s with
    | "major" => .valid .error
    | "minor" => .valid .warning
    | word => Check.member Severity.ofWord? (.text word)
  | _ => .issue .notMember

/-- The category of an entry: the default when not given, and in lower case. -/
def categoryOf (v : Value) : String :=
  Text.lower (if v.isTruthy then v.display else "quality")

/-- An entry with its name filled in from its title or identifier. -/
def withName (fields : Keyed Value) : Keyed Value :=
  let given (key : String) : Bool := ((fields.get? key).map Value.isTruthy).getD false
  if given "name" then fields
  else if given "title" then fields.put "name" ((fields.get? "title").getD .null)
  else
    let id := match fields.get? "id" with
      | some v => normalizeId v.display
      | none => ""
    fields.put "name" (.text (id ++ " Rule"))

/-- An entry with its principles filled in from its category, which must then be a text. -/
def withPrinciples (fields : Keyed Value) : Verdict (Keyed Value) :=
  let given (key : String) : Bool := ((fields.get? key).map Value.isTruthy).getD false
  if given "principles" then .valid fields
  else if given "category" then
    match Category.principlesOf ((fields.get? "category").getD .null) with
    | .ok principles => .valid (fields.put "principles" (.texts principles))
    | .error fault => .broken fault
  else .valid (fields.put "principles" (.texts (Category.principles "quality")))

/-- A rule from the fields of a completed entry. -/
def ofFields (fields : Keyed Value) : Verdict Rule :=
  let texts := Check.sequence Check.text
  Rule.mk
    <$> Check.required fields "id" (fun v => .valid (normalizeId v.display))
    <*> Check.optional fields "name" "" Check.text
    <*> Check.optional fields "description" "" Check.text
    <*> Check.optional fields "category" "quality" (fun v => .valid (categoryOf v))
    <*> Check.optional fields "severity" .warning checkSeverity
    <*> Check.optional fields "languages" ["javascript", "typescript"] texts
    <*> Check.optional fields "principles" [] texts
    <*> Check.optional fields "analyzer" none (Check.nullable Check.text)
    <*> Check.optional fields "engines" [] texts
    <*> Check.optional fields "patterns" [] texts
    <*> Check.optional fields "message" none (Check.nullable Check.text)
    <*> Check.optional fields "version" "1.0.0" Check.text
    <*> Check.optional fields "status" "activated" Check.text
    <*> Check.optional fields "tags" [] texts

/-- A rule from a registry entry. -/
def check : Value → Verdict Rule :=
  Check.model fun fields => (withPrinciples (withName fields)).andThen ofFields

/-- A rule from a registry entry, or why it is none. -/
def read (v : Value) : Except Fault Rule :=
  (check v).toExcept "Rule"

/-- The rule that has nothing but an identifier. -/
def ofId (id : String) : Except Fault Rule :=
  read (.table [("id", .text id)])

/-! ## Writing -/

/-- A rule as a registry entry. -/
def toValue (r : Rule) : Value :=
  .table
    [("id", .text r.id),
     ("name", .text r.name),
     ("description", .text r.description),
     ("category", .text r.category),
     ("severity", .text r.severity.word),
     ("languages", .texts r.languages),
     ("principles", .texts r.principles),
     ("analyzer", .ofOption .text r.analyzer),
     ("engines", .texts r.engines),
     ("patterns", .texts r.patterns),
     ("message", .ofOption .text r.message),
     ("version", .text r.version),
     ("status", .text r.status),
     ("tags", .texts r.tags)]

end Rule

end RuleAudit
