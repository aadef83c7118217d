import RuleAudit.Catalog
import RuleAudit.Engine.Scan
import RuleAudit.Settings

/-!
# Engines

An engine runs rules over files. Either its behaviour is supplied from outside, or it is the
built-in pattern scanner. Every engine keeps the identifiers of the rules it supports, in upper
case, and whether it has been set up. `age` counts the requests an engine has served; a supplied
behaviour may depend on it, so it stands for any engine with a memory of its own.
-/

namespace RuleAudit

/-- A behaviour supplied from outside. The first argument is the engine's age. -/
structure Behaviour where
  /-- The rules the engine supports from the start and again after each set-up. -/
  declared : List String := []
  /-- Why the engine refuses to be set up with its settings, if it does. -/
  setUp : Nat → Keyed Value → Option Fault := fun _ _ => none
  /-- Why the engine cannot be shut down, if so. -/
  tearDown : Nat → Option Fault := fun _ => none
  /-- The course of a call. -/
  analyze : Nat → Call → Reply

/-- How an engine works. -/
inductive EngineKind where
  | supplied (behaviour : Behaviour)
  /-- The pattern scanner, with or without a catalog to take rules from. -/
  | scanner (bound : Bool) (compiled : Scan.Cache)

/-- An engine with its state. The tag tells engines with equal identifiers apart. -/
structure Engine where
  id : String
  version : String
  languages : List String := []
  concurrencySafe : Bool := false
  kind : EngineKind
  supported : List String := []
  ready : Bool := false
  verbose : Bool := false
  age : Nat := 0
  tag : Nat := 0

namespace Engine

/-! ## Rules and languages -/

/-- The engine with support for one more rule. -/
def support (e : Engine) (ruleId : String) : Engine :=
  let id := Text.upper ruleId
  if e.supported.contains id then e else { e with supported := e.supported ++ [id] }

/-- The engine with support for more rules. -/
def supportAll (e : Engine) (ruleIds : List String) : Engine :=
  ruleIds.foldl support e

/-- Whether the engine supports a rule, its identifier in any case. -/
def supports (e : Engine) (ruleId : String) : Bool :=
  e.supported.contains (Text.upper ruleId)

/-- The engine without support for a rule. -/
def withdraw (e : Engine) (ruleId : String) : Engine :=
  { e with supported := e.supported.filter (· != Text.upper ruleId) }

/-- The supported rules in order. -/
def supportedRules (e : Engine) : List String :=
  e.supported.mergeSort fun a b => !(b < a)

/-- Whether the engine handles a language. -/
def handlesLanguage (e : Engine) (language : String) : Bool :=
  e.languages.contains language || e.languages.contains "all"

/-- What is shown of an engine. -/
def describe (e : Engine) : Keyed Value :=
  [("id", .text e.id),
   ("version", .text e.version),
   ("languages", .texts e.languages),
   ("initialized", .bool e.ready),
   ("rules", .nat e.supported.length),
   ("concurrency_safe", .bool e.concurrencySafe)]

/-! ## Making engines -/

/-- An engine of a supplied behaviour. -/
def ofBehaviour (id version : String) (languages : List String) (concurrencySafe : Bool)
    (behaviour : Behaviour) (tag : Nat) : Engine :=
  supportAll
    { id := id
      version := version
      languages := languages
      concurrencySafe := concurrencySafe
      kind := .supplied behaviour
      tag := tag }
    behaviour.declared

/-- The pattern scanner, bound to a catalog or not. -/
def scanner (bound : Bool) : Engine :=
  { id := heuristicEngine
    version := "1.0.0"
    languages := ["javascript", "typescript", "java", "kotlin", "dart", "swift", "python"]
    kind := .scanner bound [] }

/-! ## Setting up and shutting down -/

/-- The rules that engine settings list: items, keys of a table, or characters of a text. -/
def listedRules (settings : Keyed Value) : Except Fault (List String) :=
  match settings.get? "rules" with
  | none => .ok []
  | some (.list items) => .ok (items.map Value.display)
  | some (.table fields) => .ok (fields.map Prod.fst)
  | some (.text s) => .ok (s.toList.map fun c => String.ofList [c])
  | some v => .error (.notIterable v.kindName)

/-- The engine made ready, with support for the listed rules. -/
def prepare (e : Engine) (settings : Keyed Value) : Engine × Except Fault Unit :=
  let e := { e with verbose := ((settings.get? "verbose").map Value.isTruthy).getD false }
  match listedRules settings with
  | .error f => (e, .error f)
  | .ok ids => ({ e.supportAll ids with ready := true }, .ok ())

/-- Take over the rules that bring patterns, all of them or only the listed ones. -/
def adoptRules (listed : List String) : Engine → Scan.Cache → List Rule →
    Engine × Scan.Cache × Except Fault Unit
  | e, cache, [] => (e, cache, .ok ())
  | e, cache, rule :: rest =>
    if rule.patterns.isEmpty || (!listed.isEmpty && !listed.contains rule.id) then
      adoptRules listed e cache rest
    else
      match Scan.compileRule cache rule with
      | (cache, .error f) => (e, cache, .error f)
      | (cache, .ok _) => adoptRules listed (e.support rule.id) cache rest

/-- Set an engine up. The scanner may have to load the catalog it is bound to. -/
def setUp (tree : FileTree) (catalog : Catalog) (e : Engine) (settings : Keyed Value) :
    Catalog × Engine × Except Fault Unit :=
  match e.kind with
  | .supplied behaviour =>
    match behaviour.setUp e.age settings with
    | some f => (catalog, { e with age := e.age + 1 }, .error f)
    | none =>
      match ({ e with age := e.age + 1 } : Engine).prepare settings with
      | (e, .ok ()) => (catalog, e.supportAll behaviour.declared, .ok ())
      | (e, .error f) => (catalog, e, .error f)
  | .scanner bound cache =>
    match e.prepare settings, bound with
    | (e, .error f), _ => (catalog, e, .error f)
    | (e, .ok ()), false => (catalog, e, .ok ())
    | (e, .ok ()), true =>
      match catalog.load tree with
      | .error f => (catalog, e, .error f)
      | .ok catalog =>
        let listed := match listedRules settings with
          | .ok ids => ids.map Text.upper
          | .error _ => []
        let (e, cache, result) := adoptRules listed e cache catalog.rules
        (catalog, { e with kind := .scanner true cache }, result)

/-- Shut an engine down: it forgets its rules and is no longer ready. -/
def tearDown (e : Engine) : Engine × Except Fault Unit :=
  match e.kind with
  | .supplied behaviour =>
    match behaviour.tearDown e.age with
    | some f => ({ e with age := e.age + 1 }, .error f)
    | none => ({ e with age := e.age + 1, supported := [], ready := false }, .ok ())
  | .scanner bound _ =>
    ({ e with kind := .scanner bound [], supported := [], ready := false }, .ok ())

/-! ## Calls -/

/-- The scanner's course over the files of a call: rules with patterns that it supports. -/
def scanCourse (tree : FileTree) (e : Engine) (cache : Scan.Cache) (call : Call) :
    List Rule × Scan.Course :=
  let active := call.rules.filter fun r => !r.patterns.isEmpty && e.supports r.id
  if active.isEmpty then ([], { cache := cache, findings := .ok [] })
  else (active, Scan.scanFiles tree e.id active call.token cache call.files)

/-- Serve a call to its end. -/
def analyze (tree : FileTree) (e : Engine) (call : Call) : Engine × List Notice × Reply :=
  match e.kind with
  | .supplied behaviour => ({ e with age := e.age + 1 }, [], behaviour.analyze e.age call)
  | .scanner bound cache =>
    let (active, course) := e.scanCourse tree cache call
    let report (results : List FileFindings) : Findings :=
      .report
        { results := results
          metadata := [("engine", .text e.id), ("rules", .texts (active.map Rule.id))] }
    ({ e with kind := .scanner bound course.cache }, course.notices,
      { turns := course.taken, answer := course.findings.map report })

/-- Serve a call that is given up half-way: a scan has got through its first file. -/
def analyzeCut (tree : FileTree) (e : Engine) (call : Call) : Engine × List Notice :=
  let (e, notices, _) := e.analyze tree { call with files := call.files.take 1 }
  (e, notices)

end Engine

/-- Files by language, in the order in which the languages appear. -/
def groupByLanguage (files : List FilePath) : Keyed (List FilePath) :=
  files.foldl (fun groups p => groups.alter (detectLanguage p) [] (· ++ [p])) []

end RuleAudit
