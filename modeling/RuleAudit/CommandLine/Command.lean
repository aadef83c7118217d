import RuleAudit.CommandLine.Words
import RuleAudit.Settings.Document

/-!
# Commands

The commands that a command line can stand for, with their options. A path that an option names must
not be of the wrong kind: the project root is no file, a settings document and a rule registry are
no directories.
-/

namespace RuleAudit.CommandLine

/-- Options that say where things are. -/
structure Places where
  root : FilePath := ⟨"", []⟩
  config : Option FilePath := none
  registry : Option FilePath := none
  deriving Repr, DecidableEq

/-- Options for the look of the output. -/
structure Look where
  emoji : Bool := true
  color : Bool := true
  deriving Repr, DecidableEq

/-- Options of an analysis. -/
structure AnalysisRequest where
  paths : List FilePath
  rules : List String := []
  categories : List String := []
  engine : Option String := none
  profile : String := "auto"
  json : Bool := false
  verbose : Bool := false
  quiet : Bool := false
  deriving Repr, DecidableEq

/-- A command. -/
inductive Command where
  | analyze (request : AnalysisRequest) (places : Places) (look : Look)
  | engines (places : Places) (look : Look)
  | rules (categories : List String) (places : Places) (look : Look)
  | help
  deriving Repr, DecidableEq

namespace Command

/-- Where a command finds things. -/
def places : Command → Places
  | .analyze _ places _ | .engines places _ | .rules _ places _ => places
  | .help => {}

/-- The files and directories a command may look into. -/
def paths (c : Command) : List FilePath :=
  let p := c.places
  let documents := [projectDocument, settingsDocument].map fun name => p.root.join [name]
  let given := p.config.toList ++ p.registry.toList
  match c with
  | .analyze request .. => request.paths ++ documents ++ given
  | _ => documents ++ given

end Command

/-- The option every command has. -/
def helpOption : OptionSpec := { name := "--help", takesValue := false }

/-- Options for the look of the output. -/
def lookOptions : List OptionSpec :=
  [{ name := "--no-emoji", takesValue := false }, { name := "--no-color", takesValue := false }]

/-- The option that names a rule registry. -/
def registryOption : OptionSpec := { name := "--registry" }

/-- The option that names a category. -/
def categoryOption : OptionSpec := { name := "--category" }

/-- Options that say where settings and rules are. -/
def placeOptions : List OptionSpec :=
  [{ name := "--root", letter := some 'r' }, { name := "--config", letter := some 'c' },
   registryOption]

/-- Options of an analysis. -/
def analyzeOptions : List OptionSpec :=
  [{ name := "--rules" }, categoryOption, { name := "--engine", letter := some 'e' },
   { name := "--performance" }, { name := "--json", takesValue := false },
   { name := "--verbose", letter := some 'v', takesValue := false },
   { name := "--quiet", letter := some 'q', takesValue := false }] ++
    placeOptions ++ lookOptions ++ [helpOption]

/-- Options of the list of engines. -/
def enginesOptions : List OptionSpec :=
  placeOptions ++ lookOptions ++ [helpOption]

/-- Options of the list of rules. -/
def rulesOptions : List OptionSpec :=
  [categoryOption, registryOption] ++ lookOptions ++ [helpOption]

/-! ## Checking paths -/

/-- What a path on the command line leads to; a path that cannot be examined leads nowhere. -/
def examine (tree : FileTree) (word : String) : Except Fault (Option Entry) :=
  let path := FilePath.ofText word
  if path.hasNull then .error FileTree.nullFault
  else if word.isEmpty then .ok none
  else match tree.lookup path with
    | .ok e => .ok (some e)
    | .error _ => .ok none

/-- The path an option names; `wanted` says which kind of entry is allowed there. -/
def pathOption (tree : FileTree) (w : Words) (name : String) (wanted : Entry → Bool) :
    Except Fault (Option FilePath) :=
  match w.last? name with
  | none => .ok none
  | some word =>
    match examine tree word with
    | .error f => .error f
    | .ok (some e) =>
      if wanted e then .ok (some (.ofText word)) else .error (.usage .badValue)
    | .ok none => .ok (some (.ofText word))

/-- Whether an entry is a directory. -/
def isDirectory : Entry → Bool
  | .directory => true
  | .file _ => false

/-- The places that options name. -/
def readPlaces (tree : FileTree) (w : Words) : Except Fault Places := do
  let root ← pathOption tree w "--root" isDirectory
  let config ← pathOption tree w "--config" fun e => !isDirectory e
  let registry ← pathOption tree w "--registry" fun e => !isDirectory e
  return { root := root.getD ⟨"", []⟩, config := config, registry := registry }

/-! ## Reading commands -/

/-- The look that options ask for. -/
def readLook (w : Words) : Look :=
  { emoji := !w.has "--no-emoji", color := !w.has "--no-color" }

/-- An analysis. -/
def readAnalyze (tree : FileTree) (w : Words) : Except Fault Command := do
  let places ← readPlaces tree w
  if w.arguments.isEmpty then throw (.usage .missingArgument)
  for word in w.arguments do
    discard (examine tree word)
  return .analyze
    { paths := w.arguments.map FilePath.ofText
      rules := w.values "--rules"
      categories := w.values "--category"
      engine := w.last? "--engine"
      profile := (w.last? "--performance").getD "auto"
      json := w.has "--json"
      verbose := w.has "--verbose"
      quiet := w.has "--quiet" }
    places (readLook w)

/-- A command that takes no arguments. -/
def withoutArguments (w : Words) (c : Command) : Except Fault Command :=
  if w.arguments.isEmpty then .ok c else .error (.usage .badCommand)

/-- The command of words after its name; asking for help outweighs everything but an option that
cannot be read. -/
def readCommand (tree : FileTree) (name : String) (rest : List String) : Except Fault Command :=
  let reading (specs : List OptionSpec) (read : Words → Except Fault Command) :
      Except Fault Command := do
    let w ← readWords specs rest
    if w.has helpOption.name then return .help
    read w
  match name with
  | "analyze" => reading analyzeOptions (readAnalyze tree)
  | "engines" => reading enginesOptions fun w => do
    let places ← readPlaces tree w
    withoutArguments w (.engines places (readLook w))
  | "rules" => reading rulesOptions fun w => do
    let places ← readPlaces tree w
    withoutArguments w (.rules (w.values "--category") places (readLook w))
  | _ => .error (.usage .badCommand)

/-- The command that words stand for. -/
def Command.read (tree : FileTree) : List String → Except Fault Command
  | [] => .error (.usage .noWords)
  | "--" :: name :: rest => readCommand tree name rest
  | ["--"] => .error (.usage .badCommand)
  | name :: rest =>
    if isOption name then
      match readOption [helpOption] name with
      | .error f => .error f
      | .ok _ => .ok .help
    else readCommand tree name rest

end RuleAudit.CommandLine
