import RuleAudit.Settings.Limits
import RuleAudit.Text.Blank

/-!
# Settings

The settings of a run: which engines, which rules, which limits, and how to report. Reading checks
every section and collects all issues; an assigned field is checked the same way.
-/

namespace RuleAudit

/-- The engine request that leaves the choice to routing. -/
def autoEngine : String := "auto"

/-- The engine that is always built in. -/
def heuristicEngine : String := "heuristic"

/-- The engine that works on syntax trees. -/
def syntaxEngine : String := "syntax"

/-- The engine backed by a model. -/
def aiEngine : String := "ai"

/-- An engine request without surrounding blanks; blank requests and any casing of `auto` leave the
choice to routing. -/
def normalizeRequest (request : String) : String :=
  let s := Text.trim request
  if s.isEmpty || Text.lower s == autoEngine then autoEngine else s

/-- The engine request a value stands for. -/
def requestOf : Value → String
  | .null => autoEngine
  | v => normalizeRequest v.display

/-! ## Sections -/

/-- Engine selection and engine settings. -/
structure EngineSettings where
  requestedEngine : String := autoEngine
  enabled : List String := [heuristicEngine]
  settings : Keyed (Keyed Value) := []
  syntaxIntegration : Bool := false
  fallbackEngine : String := heuristicEngine
  deriving Repr

namespace EngineSettings

/-- The one engine asked for, if any. -/
def specificEngine (e : EngineSettings) : Option String :=
  if e.requestedEngine == autoEngine then none else some e.requestedEngine

/-- The fields in the order they are checked. -/
def fieldNames : List String :=
  ["requested_engine", "enabled", "settings", "syntax_integration", "fallback_engine"]

/-- Settings by engine. -/
def checkSettings : Value → Verdict (Keyed (Keyed Value))
  | .table entries => .entries Check.mapping entries
  | _ => .issue .notMapping

/-- The change that a value makes to a field. -/
def change (name : String) (v : Value) : Verdict (EngineSettings → EngineSettings) :=
  match name with
  | "requested_engine" => .valid fun e => { e with requestedEngine := requestOf v }
  | "enabled" => (Check.list Check.text v).map fun a e => { e with enabled := a }
  | "settings" => (checkSettings v).map fun a e => { e with settings := a }
  | "syntax_integration" => (Check.bool v).map fun a e => { e with syntaxIntegration := a }
  | "fallback_engine" => (Check.text v).map fun a e => { e with fallbackEngine := a }
  | _ => .issue .unknownField

/-- The engine settings that the fields of a section give. -/
def ofFields (fields : Keyed Value) : Verdict EngineSettings :=
  fieldNames.foldl
    (fun section_ name =>
      match fields.get? name with
      | none => section_
      | some v => (fun e f => f e) <$> section_ <*> (change name v).under (.key name))
    (.valid {})

/-- The engine settings with one field assigned. -/
def assign (e : EngineSettings) (name : String) (v : Value) : Except Fault EngineSettings :=
  (((change name v).under (.key name)).map (· e)).toExcept "EngineConfig"

/-- Engine settings as the fields of a section. -/
def toFields (e : EngineSettings) : Keyed Value :=
  [("requested_engine", .text e.requestedEngine),
   ("enabled", .texts e.enabled),
   ("settings", .table (e.settings.map fun entry => (entry.1, .table entry.2))),
   ("syntax_integration", .bool e.syntaxIntegration),
   ("fallback_engine", .text e.fallbackEngine)]

end EngineSettings

/-- What the settings say about one rule. -/
structure RuleOverride where
  engines : List String := []
  enabled : Bool := true
  deriving Repr, DecidableEq

namespace RuleOverride

/-- An override from a value. -/
def check : Value → Verdict RuleOverride :=
  Check.model fun fields =>
    RuleOverride.mk
      <$> Check.optional fields "engines" [] (Check.list Check.text)
      <*> Check.optional fields "enabled" true Check.bool

/-- An override as a value. -/
def toValue (o : RuleOverride) : Value :=
  .table [("engines", .texts o.engines), ("enabled", .bool o.enabled)]

end RuleOverride

/-- Console preferences. -/
structure OutputSettings where
  verbose : Bool := false
  quiet : Bool := false
  emoji : Bool := true
  color : Bool := true
  deriving Repr, DecidableEq

namespace OutputSettings

/-- The fields in the order they are checked. -/
def fieldNames : List String :=
  ["verbose", "quiet", "emoji", "color"]

/-- The change that a value makes to a field. -/
def change (name : String) (v : Value) : Verdict (OutputSettings → OutputSettings) :=
  match name with
  | "verbose" => (Check.bool v).map fun a o => { o with verbose := a }
  | "quiet" => (Check.bool v).map fun a o => { o with quiet := a }
  | "emoji" => (Check.bool v).map fun a o => { o with emoji := a }
  | "color" => (Check.bool v).map fun a o => { o with color := a }
  | _ => .issue .unknownField

/-- The console preferences that the fields of a section give. -/
def ofFields (fields : Keyed Value) : Verdict OutputSettings :=
  fieldNames.foldl
    (fun section_ name =>
      match fields.get? name with
      | none => section_
      | some v => (fun o f => f o) <$> section_ <*> (change name v).under (.key name))
    (.valid {})

/-- Console preferences from a value, or why it gives none. -/
def read (v : Value) : Except Fault OutputSettings :=
  (Check.model ofFields v).toExcept "OutputConfig"

/-- The console preferences with one field assigned. -/
def assign (o : OutputSettings) (name : String) (v : Value) : Except Fault OutputSettings :=
  (((change name v).under (.key name)).map (· o)).toExcept "OutputConfig"

/-- Console preferences as the fields of a section. -/
def toFields (o : OutputSettings) : Keyed Value :=
  [("verbose", .bool o.verbose), ("quiet", .bool o.quiet), ("emoji", .bool o.emoji),
   ("color", .bool o.color)]

end OutputSettings

/-! ## All settings -/

/-- The settings of a run. -/
structure Settings where
  engines : EngineSettings := {}
  rules : Keyed RuleOverride := []
  performance : Limits := {}
  output : OutputSettings := {}
  deriving Repr

namespace Settings

/-- Rule overrides, keyed by identifiers in upper case; the last of equal keys counts. -/
def checkRules (v : Value) : Verdict (Keyed RuleOverride) :=
  if !v.isTruthy then .valid []
  else match v with
    | .table entries =>
      .entries RuleOverride.check (Keyed.ofEntries (entries.map fun e => (Text.upper e.1, e.2)))
    | v => .broken (.noMember v.kindName "items")

/-- The sections in the order they are checked. -/
def sectionNames : List String :=
  ["engines", "rules", "performance", "output"]

/-- The change that a value makes to a section. -/
def change (name : String) (v : Value) : Verdict (Settings → Settings) :=
  match name with
  | "engines" => (Check.model EngineSettings.ofFields v).map fun a s => { s with engines := a }
  | "rules" => (checkRules v).map fun a s => { s with rules := a }
  | "performance" => (Limits.check v).map fun a s => { s with performance := a }
  | "output" => (Check.model OutputSettings.ofFields v).map fun a s => { s with output := a }
  | _ => .issue .unknownField

/-- The settings that the sections of a document give. -/
def ofFields (fields : Keyed Value) : Verdict Settings :=
  sectionNames.foldl
    (fun settings name =>
      match fields.get? name with
      | none => settings
      | some v => (fun s f => f s) <$> settings <*> (change name v).under (.key name))
    (.valid {})

/-- Settings from a value, or why it gives none. -/
def read (v : Value) : Except Fault Settings :=
  (Check.model ofFields v).toExcept "Config"

/-- Settings as a value. -/
def toValue (s : Settings) : Value :=
  .table
    [("engines", .table s.engines.toFields),
     ("rules", .table (s.rules.map fun entry => (entry.1, entry.2.toValue))),
     ("performance", .table s.performance.toFields),
     ("output", .table s.output.toFields)]

/-- Assign a section, or a field of one; gives back the value stored in a field. -/
def assign (s : Settings) (path : List String) (v : Value) : Except Fault (Settings × Value) :=
  match path with
  | [name] =>
    (((change name v).under (.key name)).toExcept "Config").map fun f => (f s, .null)
  | ["engines", field] =>
    (s.engines.assign field v).map fun e =>
      ({ s with engines := e }, (e.toFields.get? field).getD .null)
  | ["performance", field] =>
    (s.performance.assign field v).map fun l =>
      ({ s with performance := l }, (l.toFields.get? field).getD .null)
  | ["output", field] =>
    (s.output.assign field v).map fun o =>
      ({ s with output := o }, (o.toFields.get? field).getD .null)
  | "rules" :: field :: _ => .error (.noMember "dict" field)
  | name :: _ => .error (.noMember "Config" name)
  | [] => .error (.plain .index (some "list index out of range"))

/-- The override for a rule identifier in any case. -/
def overrideOf (s : Settings) (ruleId : String) : Option RuleOverride :=
  s.rules.get? (Text.upper ruleId)

/-- The engines the settings name for a rule. -/
def ruleEngines (s : Settings) (ruleId : String) : List String :=
  match s.overrideOf ruleId with
  | some o => o.engines
  | none => []

/-- Whether the settings let a rule run. -/
def ruleEnabled (s : Settings) (ruleId : String) : Bool :=
  match s.overrideOf ruleId with
  | some o => o.enabled
  | none => true

/-- The settings with a profile's limits. -/
def applyProfile (s : Settings) (p : Profile) : Settings :=
  { s with performance := p.apply s.performance }

/-- The settings for a run that asks for an engine of its own. -/
def requesting (s : Settings) : Option String → Settings
  | none => s
  | some engine =>
    { s with engines := { s.engines with requestedEngine := normalizeRequest engine } }

end Settings

end RuleAudit
