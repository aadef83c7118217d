import RuleAudit.Factory
import RuleAudit.Merge
import RuleAudit.Routing
import RuleAudit.Run

/-!
# The auditor

An auditor owns settings, a rule catalog and an engine registry, and runs rules over files from
start to end: it sets the engines up once, resolves the rules, filters the files, routes each rule
to an engine, runs the batches and merges their outcomes. Every operation gives the auditor as it is
afterwards, what was told on the way, and a result or a fault.
-/

namespace RuleAudit

/-- Where an auditor is in its life. -/
inductive AuditorState where
  | uninitialized
  | initializing
  | ready
  | running
  | done
  deriving Repr, DecidableEq

/-- The word for a state. -/
def AuditorState.word : AuditorState → String
  | .uninitialized => "uninitialized"
  | .initializing => "initializing"
  | .ready => "ready"
  | .running => "running"
  | .done => "done"

/-- A rule to run, or the identifier of one. -/
inductive RuleInput where
  | rule (r : Rule)
  | id (s : String)

/-- An auditor. Without factories of its own it uses the built-in one and those of extensions. -/
structure Auditor where
  settings : Settings := {}
  catalog : Catalog := {}
  registry : Registry := {}
  factories : Factories := []
  extensions : List Extension := []
  state : AuditorState := .uninitialized
  initialized : Bool := false

/-- An auditor after an operation, what was told, and the result. -/
structure AuditStep (α : Type) where
  auditor : Auditor
  notices : List Notice := []
  result : Except Fault α

/-- Go on after a step that succeeded. -/
def AuditStep.andThen {α β : Type} (s : AuditStep α) (f : Auditor → α → AuditStep β) :
    AuditStep β :=
  match s.result with
  | .error fault => { auditor := s.auditor, notices := s.notices, result := .error fault }
  | .ok a =>
    let next := f s.auditor a
    { next with notices := s.notices ++ next.notices }

namespace Auditor

/-- A warning on the console, unless the settings ask for quiet. -/
def warning (a : Auditor) (text : String) : List Notice :=
  let output := a.settings.output
  if output.quiet then [] else [.console .warn text output.emoji output.color]

/-! ## Setting up -/

/-- Load the catalog. A catalog that cannot be used is only warned of. -/
def loadCatalog (tree : FileTree) (a : Auditor) : AuditStep Unit :=
  match a.catalog.load tree with
  | .ok catalog => { auditor := { a with catalog := catalog }, result := .ok () }
  | .error f =>
    if f.isCatalog then
      { auditor := a
        notices := a.warning ("Rule catalog unavailable: " ++ f.message)
        result := .ok () }
    else { auditor := a, result := .error f }

/-- The factories in use. -/
def factoriesInUse (a : Auditor) : List Notice × Except Fault Factories :=
  if a.factories.isEmpty then Factories.standard a.extensions else ([], .ok a.factories)

/-- Build the enabled engines unless engines are registered already. -/
def loadEngines (a : Auditor) : AuditStep Unit :=
  if !a.registry.isEmpty then { auditor := a, result := .ok () }
  else
    match a.factoriesInUse with
    | (notices, .error f) => { auditor := a, notices := notices, result := .error f }
    | (notices, .ok factories) =>
      let (registry, more, result) := factories.load a.registry a.settings.engines.enabled
      let a := { a with registry := registry }
      match result with
      | .error f => { auditor := a, notices := notices ++ more, result := .error f }
      | .ok loaded =>
        let names := if loaded.isEmpty then "none" else ", ".intercalate loaded
        { auditor := a
          notices := notices ++ more ++ [.trace ("loaded engines: " ++ names)]
          result := .ok () }

/-- The settings each registered engine is set up with. -/
def engineSettings (a : Auditor) : Keyed (Keyed Value) :=
  a.registry.ids.map fun id =>
    let own := (a.settings.engines.settings.get? id).getD []
    (id, own.foldl (fun all entry => Keyed.put all entry.1 entry.2)
      [("verbose", .bool a.settings.output.verbose)])

/-- Set the registered engines up; at least one must remain. -/
def setUpEngines (tree : FileTree) (a : Auditor) : AuditStep Unit :=
  let attempted := if a.registry.isEmpty then a.settings.engines.enabled else a.registry.ids
  match Registry.setUpAll tree a.engineSettings a.catalog a.registry a.registry.ids with
  | (catalog, registry, .error f) =>
    { auditor := { a with catalog := catalog, registry := registry }, result := .error f }
  | (catalog, registry, .ok failures) =>
    let notices := failures.flatMap fun f => a.warning f.message
    let a := { a with catalog := catalog, registry := registry }
    if registry.isEmpty then
      { auditor := { a with state := .uninitialized }
        notices := notices
        result := .error (.noEngines attempted) }
    else
      { auditor := { a with state := .ready, initialized := true }
        notices := notices ++ [.trace ("ready with engines: " ++ ", ".intercalate registry.ids)]
        result := .ok () }

/-- Load the catalog and set the engines up, once. -/
def setUp (tree : FileTree) (a : Auditor) : AuditStep Unit :=
  if a.initialized then { auditor := a, result := .ok () }
  else
    (({ a with state := .initializing }.loadCatalog tree).andThen fun a _ => a.loadEngines).andThen
      fun a _ => a.setUpEngines tree

/-! ## Rules -/

/-- Rules to run, identifiers without a rule, and identifiers that the settings disable. -/
structure Resolution where
  rules : List Rule := []
  unknown : List String := []
  disabled : List String := []

/-- The identifier a rule input is known by. -/
def inputKey : RuleInput → String
  | .rule r => r.id
  | .id s => Rule.normalizeId s

/-- The rule of an input: itself, or the one in a catalog that has been loaded. -/
def inputRule (catalog : Catalog) : RuleInput → Option Rule
  | .rule r => some r
  | .id s => if catalog.isLoaded then catalog.find? (Rule.normalizeId s) else none

/-- Put one input into its list. -/
def Resolution.add (settings : Settings) (catalog : Catalog) (res : Resolution)
    (item : RuleInput) : Resolution :=
  match inputRule catalog item with
  | none => { res with unknown := res.unknown ++ [inputKey item] }
  | some rule =>
    if settings.ruleEnabled rule.id then { res with rules := res.rules ++ [rule] }
    else { res with disabled := res.disabled ++ [rule.id] }

/-- Inputs without blank and repeated ones, after those already seen. -/
def distinctInputs : List String → List RuleInput → List RuleInput
  | _, [] => []
  | seen, item :: rest =>
    let key := inputKey item
    if key.isEmpty || seen.contains key then distinctInputs seen rest
    else item :: distinctInputs (key :: seen) rest

/-- Resolve rule inputs, each once, in first-seen order. -/
def resolveRules (settings : Settings) (catalog : Catalog) (inputs : List RuleInput) : Resolution :=
  (distinctInputs [] inputs).foldl (Resolution.add settings catalog) {}

/-! ## Runs -/

/-- What is told of rules that do not run. -/
def reportSkipped (a : Auditor) (plan : Plan) (res : Resolution) (requested : Option String) :
    List Notice :=
  let list (ids : List String) : String := ", ".intercalate ids
  let unsupported :=
    if plan.skipped.isEmpty then []
    else a.warning (s!"Skipped {plan.skipped.length} rules not supported by engine " ++
      requested.getD "None" ++ ": " ++ list plan.skippedIds)
  let unknown :=
    if res.unknown.isEmpty then []
    else a.warning (s!"Skipped {res.unknown.length} unknown rules: " ++ list res.unknown)
  let disabled :=
    if res.disabled.isEmpty then []
    else a.warning (s!"Skipped {res.disabled.length} rules disabled by configuration: " ++
      list res.disabled)
  unsupported ++ unknown ++ disabled

/-- What a result says about the run itself. -/
def metadata (registry : Registry) (settings : Settings) : Keyed Value :=
  [("requested_engine", .text settings.engines.requestedEngine),
   ("engines", .texts registry.ids),
   ("batch_size", .ofOption .int settings.performance.ruleBatchSize),
   ("max_concurrent_batches", .int settings.performance.maxConcurrentBatches)]

/-- The workload of a run: the files that take part and its counters. -/
def prepareWorkload (tree : FileTree) (limits : Limits) (files : List FilePath) (rules : Nat) :
    Except Fault (List FilePath × Metrics) := do
  let kept ← filterFiles tree limits files
  let metrics ← workloadMetrics limits files.length kept.length rules
  return (kept, metrics)

/-- Run resolved rules over the files that take part, under the settings of this run. -/
def runPlan (tree : FileTree) (a : Auditor) (settings : Settings) (res : Resolution)
    (kept : List FilePath) (metrics : Metrics) (plan : Plan) : AuditStep RunResult :=
  let setup : RunSetup :=
    { tree := tree
      limits := settings.performance
      engineSettings := settings.engines.settings
      output := a.settings.output
      files := kept }
  match execute setup a.registry plan.groups with
  | .error f => { auditor := a, result := .error f }
  | .ok course =>
    let a := { a with registry := course.registry, state := .done }
    let result := merge course.outcomes kept.length metrics
      (res.unknown ++ res.disabled ++ plan.skippedIds)
      (Keyed.ofEntries (res.rules.map fun r => (r.id, r.category)))
      (metadata a.registry settings)
    { auditor := a
      notices := course.notices ++ [.finished result]
      result := .ok result }

/-- Run rules over files once the engines are set up. -/
def runReady (tree : FileTree) (a : Auditor) (files : List FilePath) (rules : List RuleInput)
    (engine : Option String) : AuditStep RunResult :=
  let a := { a with state := .running }
  let settings := a.settings.requesting engine
  let res := resolveRules settings a.catalog rules
  match prepareWorkload tree settings.performance files res.rules.length with
  | .error f => { auditor := a, result := .error f }
  | .ok (kept, metrics) =>
    let summary : Notice :=
      .trace s!"files: {kept.length}/{files.length} kept, rules: {res.rules.length}"
    match Routing.route a.registry settings res.rules with
    | (notices, .error f) => { auditor := a, notices := summary :: notices, result := .error f }
    | (notices, .ok plan) =>
      let told := summary :: notices ++
        a.reportSkipped plan res settings.engines.specificEngine ++ [.routed plan]
      let step := a.runPlan tree settings res kept metrics plan
      { step with notices := told ++ step.notices }

/-- Run rules over files; an engine may be asked for just for this run. -/
def run (tree : FileTree) (a : Auditor) (files : List FilePath) (rules : List RuleInput)
    (engine : Option String) : AuditStep RunResult :=
  (a.setUp tree).andThen fun a _ => a.runReady tree files rules engine

/-- Run the given rules, or every rule of the catalog. -/
def analyze (tree : FileTree) (a : Auditor) (files : List FilePath)
    (rules : Option (List RuleInput)) (engine : Option String) : AuditStep RunResult :=
  match rules with
  | some rules => a.run tree files rules engine
  | none =>
    match a.catalog.load tree with
    | .error f => { auditor := a, result := .error f }
    | .ok catalog =>
      { a with catalog := catalog }.run tree files (catalog.rules.map .rule) engine

/-! ## Shutting down -/

/-- Shut every engine down. Failures are only warned of. -/
def cleanup (a : Auditor) : AuditStep Unit :=
  match a.registry.tearDownAll with
  | (registry, .error f) => { auditor := { a with registry := registry }, result := .error f }
  | (registry, .ok failures) =>
    let notices := failures.flatMap fun (id, f) =>
      a.warning (s!"Engine {id} cleanup failed: " ++ f.message)
    { auditor := { a with registry := registry, state := .uninitialized, initialized := false }
      notices := notices
      result := .ok () }

end Auditor

end RuleAudit
