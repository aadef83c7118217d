import RuleAudit.CommandLine.Command
import RuleAudit.Rendering
import RuleAudit.Selection
import RuleAudit.Settings.Document

/-!
# Running commands

A command reads settings and rules, lets an auditor work, and prints what comes of it. What is
printed, logged and handed out as a document is one ordered list; at the end stands an exit code, or
the fault that the command did not expect.
-/

namespace RuleAudit.CommandLine

/-- Something a command puts out. -/
inductive Output where
  | line (printed : Printed)
  | log (source : Component) (message : String)
  | document (v : Value)

/-- What a command finds around it. -/
structure Surroundings where
  tree : FileTree
  env : Keyed String := []
  extensions : List Extension := []

/-- What a command puts out, and the exit code or fault at its end. -/
structure Course where
  output : List Output := []
  result : Except Fault Nat

namespace Course

/-- A course that puts something out first. -/
def after (output : List Output) (c : Course) : Course :=
  { c with output := output ++ c.output }

/-- A course that ends with a fault nobody expects. -/
def broken (f : Fault) : Course :=
  { result := .error f }

end Course

/-- A message in the look of a command. -/
def say (look : Look) (level : Level) (text : String) : List Output :=
  (Console.message level text look.emoji (some look.color) false).map .line

/-- Lines on standard output. -/
def showLines (lines : List String) : List Output :=
  lines.map fun l => .line ⟨.stdout, l⟩

/-- What is put out for the notices of a run; the trace only when asked for. -/
def showNotices (look : Look) (trace : Bool) (notices : List Notice) : List Output :=
  notices.flatMap fun n =>
    match n with
    | .trace line => if trace then (Console.trace line look.color false).map .line else []
    | .console level text emoji color =>
      (Console.message level text emoji (some color) false).map .line
    | .log source message => [.log source message]
    | _ => []

/-- The course of a command that cannot go on: a message and the fault's exit code. A fault that is
not one of the command's own is not expected. -/
def stop (look : Look) : Fault → Course
  | .command message code => { output := say look .fail message, result := .ok code }
  | f => .broken f

/-- A fault of the settings or the catalog as one of the command's own. -/
def documentFault (f : Fault) : Fault :=
  if f.isSettings || f.isCatalog then .command f.message 2 else f

/-- The fault of having no engine as one of the command's own. -/
def engineFault : Fault → Fault
  | .noEngines attempted => .command (Fault.noEngines attempted).message 2
  | f => f

/-- The settings of a project. -/
def settingsOf (around : Surroundings) (places : Places) : Except Fault Settings :=
  (loadSettings around.tree places.root places.config around.env).mapError documentFault

/-- The loaded catalog of a command. -/
def catalogOf (around : Surroundings) (places : Places) : Except Fault Catalog :=
  ((Catalog.ofRegistry places.registry).load around.tree).mapError documentFault

/-! ## Analysis -/

/-- Console preferences with what the command line says. -/
def outputSettings (request : AnalysisRequest) (look : Look) (o : OutputSettings) :
    OutputSettings :=
  { verbose := request.verbose || o.verbose
    quiet := request.quiet || request.json || o.quiet
    emoji := o.emoji && look.emoji
    color := o.color && look.color }

/-- What an analysis works on. -/
structure AnalysisPlan where
  auditor : Auditor
  files : List FilePath
  rules : List RuleInput
  profile : Option String

/-- Prepare an analysis. -/
def planAnalysis (around : Surroundings) (request : AnalysisRequest) (places : Places)
    (look : Look) : Except Fault AnalysisPlan := do
  let settings ← settingsOf around places
  let settings := { settings with output := outputSettings request look settings.output }
  let files ← Selection.collectFiles around.tree request.paths
  let (settings, profile) ← Selection.applyProfile settings request.profile files.length
  let catalog ← catalogOf around places
  let rules := Selection.selectRules catalog (Selection.splitIds request.rules)
    (request.categories.map Text.lower)
  return {
    auditor := { settings := settings, catalog := catalog, extensions := around.extensions }
    files := files
    rules := rules
    profile := profile }

/-- What is put out for a result. -/
def showResult (request : AnalysisRequest) (look : Look) (profile : Option String)
    (result : RunResult) : Course :=
  let code := if result.hasViolations then 1 else 0
  if request.json then { output := [.document result.toValue], result := .ok code }
  else
    let applied := match profile with
      | some name =>
        if request.verbose then
          (Console.trace s!"performance profile={name}" look.color false).map Output.line
        else []
      | none => []
    let found := applied ++ showLines (Rendering.violations result 50)
    match Rendering.summary result with
    | .error f => (Course.broken f).after found
    | .ok lines =>
      let verdict :=
        if result.hasViolations then
          say look .warn s!"Found {result.summary.totalViolations} violations"
        else say look .ok "No violations found"
      { output := found ++ showLines lines ++ verdict, result := .ok code }

/-- Analyse files and show the result. The engines are shut down whatever happens. -/
def analyze (around : Surroundings) (request : AnalysisRequest) (places : Places) (look : Look) :
    Course :=
  match planAnalysis around request places look with
  | .error f => stop look f
  | .ok plan =>
    let run := plan.auditor.run around.tree plan.files plan.rules request.engine
    let cleanup := run.auditor.cleanup
    let told := showNotices look request.verbose (run.notices ++ cleanup.notices)
    match cleanup.result, run.result with
    | .error f, _ => (Course.broken f).after told
    | .ok (), .error f => (stop look (engineFault f)).after told
    | .ok (), .ok result => (showResult request look plan.profile result).after told

/-! ## Lists -/

/-- List the engines that can be set up. -/
def engines (around : Surroundings) (places : Places) (look : Look) : Course :=
  let prepared : Except Fault Auditor := do
    let settings ← settingsOf around places
    let catalog ← catalogOf around places
    return { settings := settings, catalog := catalog, extensions := around.extensions }
  match prepared with
  | .error f => stop look f
  | .ok auditor =>
    let ready := auditor.setUp around.tree
    let told := showNotices look false ready.notices
    match ready.result with
    | .error f => (stop look (engineFault f)).after told
    | .ok () =>
      let infos := ready.auditor.registry.describe
      match Rendering.engines infos with
      | .error f => (Course.broken f).after told
      | .ok lines =>
        let cleanup := ready.auditor.cleanup
        { output := told ++ showLines lines ++ say look .info s!"{infos.length} engines ready" ++
            showNotices look false cleanup.notices
          result := cleanup.result.map fun _ => 0 }

/-- List the rules of categories, or all rules. -/
def rules (around : Surroundings) (categories : List String) (places : Places) (look : Look) :
    Course :=
  match catalogOf around places with
  | .error f => stop look f
  | .ok catalog =>
    let listed :=
      if categories.isEmpty then catalog.rules else categories.flatMap catalog.ofCategory
    match Rendering.rules listed with
    | .error f => .broken f
    | .ok lines =>
      { output := showLines lines ++ say look .ok s!"{listed.length} rules", result := .ok 0 }

/-- Run a command. -/
def Command.run (around : Surroundings) : Command → Course
  | .analyze request places look => CommandLine.analyze around request places look
  | .engines places look => CommandLine.engines around places look
  | .rules categories places look => CommandLine.rules around categories places look
  | .help => { result := .ok 0 }

/-- Run the command that words stand for. -/
def run (around : Surroundings) (words : List String) : Course :=
  match Command.read around.tree words with
  | .error f => .broken f
  | .ok command => command.run around

end RuleAudit.CommandLine
