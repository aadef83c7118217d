import RuleAudit.Issue
import RuleAudit.Pattern.Problem

/-!
# Faults

Everything that can go wrong, as a closed list of causes. `Fault.label` names the cause,
`Fault.message` words it, and `Fault.cause?` gives the fault underneath where there is one.
-/

namespace RuleAudit

/-- Plain causes: a name and an optional text, nothing else. -/
inductive FaultKind where
  | value
  | runtime
  | memory
  | recursion
  | key
  | type
  | os
  | timeout
  | notImplemented
  | zeroDivision
  | member
  | loading
  | index
  | overflow
  | withdrawn
  | audit
  | interrupted
  | catalog
  deriving Repr, DecidableEq

/-- The name of a plain cause. -/
def FaultKind.label : FaultKind → String
  | .value => "ValueError"
  | .runtime => "RuntimeError"
  | .memory => "MemoryError"
  | .recursion => "RecursionError"
  | .key => "KeyError"
  | .type => "TypeError"
  | .os => "OSError"
  | .timeout => "TimeoutError"
  | .notImplemented => "NotImplementedError"
  | .zeroDivision => "ZeroDivisionError"
  | .member => "AttributeError"
  | .loading => "ImportError"
  | .index => "IndexError"
  | .overflow => "OverflowError"
  | .withdrawn => "CancelledError"
  | .audit => "LintweaveError"
  | .interrupted => "AnalysisCancelledError"
  | .catalog => "CatalogError"

/-- All plain causes. -/
def FaultKind.all : List FaultKind :=
  [.value, .runtime, .memory, .recursion, .key, .type, .os, .timeout, .notImplemented,
   .zeroDivision, .member, .loading, .index, .overflow, .withdrawn, .audit, .interrupted,
   .catalog]

/-- The plain cause of a name. -/
def FaultKind.ofLabel? (label : String) : Option FaultKind :=
  all.find? (·.label == label)

/-- Why a path could not be used. -/
inductive FileProblem where
  | absent
  | notDirectory
  | isDirectory
  | nameTooLong
  deriving Repr, DecidableEq

/-- The name of a file problem. -/
def FileProblem.label : FileProblem → String
  | .absent => "FileNotFoundError"
  | .notDirectory => "NotADirectoryError"
  | .isDirectory => "IsADirectoryError"
  | .nameTooLong => "OSError"

/-- The number and wording of a file problem. -/
def FileProblem.text : FileProblem → String
  | .absent => "[Errno 2] No such file or directory"
  | .notDirectory => "[Errno 20] Not a directory"
  | .isDirectory => "[Errno 21] Is a directory"
  | .nameTooLong => "[Errno 36] File name too long"

/-- The batch a failure happened in. -/
structure BatchContext where
  engine : String
  batchNumber : Int
  totalBatches : Int
  fileCount : Int
  ruleCount : Int
  timeoutMs : Int
  deriving Repr, DecidableEq

/-- The context as `key=value` pairs. -/
def BatchContext.describe (c : BatchContext) : String :=
  s!"engine={c.engine} batch_number={c.batchNumber} total_batches={c.totalBatches} " ++
    s!"file_count={c.fileCount} rule_count={c.ruleCount} timeout_ms={c.timeoutMs}"

/-- Why the words of a command line make no command. -/
inductive UsageProblem where
  /-- There are no words. -/
  | noWords
  /-- The command is missing or not known, or there are words too many. -/
  | badCommand
  | unknownOption
  /-- An option without its value, or a value for an option that takes none. -/
  | badOption
  | missingArgument
  | badValue
  deriving Repr, DecidableEq

/-- The name of a usage problem. -/
def UsageProblem.label : UsageProblem → String
  | .noWords => "NoArgsIsHelpError"
  | .badCommand => "UsageError"
  | .unknownOption => "NoSuchOption"
  | .badOption => "BadOptionUsage"
  | .missingArgument => "MissingParameter"
  | .badValue => "BadParameter"

/-- Everything that can go wrong. -/
inductive Fault where
  /-- A plain cause. -/
  | plain (kind : FaultKind) (detail : Option String)
  /-- A path that cannot be used. -/
  | file (problem : FileProblem) (path : String)
  /-- A document that is not UTF-8. -/
  | undecodable
  /-- A document that breaks the grammar of its format. -/
  | malformed (format : String)
  /-- A pattern that does not compile. -/
  | pattern (error : Pattern.CompileError)
  /-- A value that does not fit its model. -/
  | invalid (model : String) (issues : List Issue)
  /-- An explicit settings document that is absent. -/
  | settingsMissing (path : String)
  /-- A settings document that cannot be read. -/
  | settingsUnreadable (path : String) (cause : Fault)
  /-- Settings that do not fit their model. -/
  | settingsInvalid (cause : Fault)
  /-- A rule registry that is absent. -/
  | registryMissing (path : String)
  /-- A rule registry that cannot be read. -/
  | registryUnreadable (path : String) (cause : Fault)
  /-- A registry document with neither rules by key nor a list of rules. -/
  | registryLayout (path : String)
  /-- A registry entry that is no table. -/
  | registryEntry (path key : String)
  /-- A listed registry entry without an identifier. -/
  | registryAnonymous (path : String)
  /-- A registry entry that is no rule; `id` is the literal form of its identifier. -/
  | registryRule (path id : String) (cause : Fault)
  /-- A batch that outlived its deadline. -/
  | deadline (context : BatchContext)
  /-- A failure inside a batch. -/
  | batch (cause : Fault) (context : BatchContext)
  /-- An engine that could not be set up because of a fault. -/
  | setUp (engine : String) (cause : Fault)
  /-- An engine that could not be set up for a stated reason. -/
  | setUpReason (engine reason : String)
  /-- No engine is ready. -/
  | noEngines (attempted : List String)
  /-- A command that ends with an exit code. -/
  | command (message : String) (exitCode : Nat)
  /-- A command line that makes no command. -/
  | usage (problem : UsageProblem)
  /-- Console markup whose closing tag closes nothing. -/
  | markup (message : String)
  deriving Repr

namespace Fault

/-- The name of a cause. -/
def label : Fault → String
  | .plain kind _ => kind.label
  | .file problem _ => problem.label
  | .undecodable => "UnicodeDecodeError"
  | .malformed format => format ++ "DecodeError"
  | .pattern error => error.label
  | .invalid .. => "ValidationError"
  | .settingsMissing _ | .settingsUnreadable .. | .settingsInvalid _ => "ConfigError"
  | .registryMissing _ | .registryUnreadable .. => "CatalogError"
  | .registryLayout _ | .registryEntry .. | .registryAnonymous _ | .registryRule .. =>
    "CatalogIntegrityError"
  | .deadline _ => "BatchTimeoutError"
  | .batch .. => "BatchExecutionError"
  | .setUp .. | .setUpReason .. => "EngineInitializationError"
  | .noEngines _ => "NoEnginesAvailableError"
  | .command .. => "CLIError"
  | .usage problem => problem.label
  | .markup _ => "MarkupError"

/-- The fault underneath a document fault. -/
def cause? : Fault → Option Fault
  | .settingsUnreadable _ cause | .settingsInvalid cause | .registryUnreadable _ cause
  | .registryRule _ _ cause => some cause
  | _ => none

/-- The issues of a value that does not fit its model. -/
def issues? : Fault → Option (List Issue)
  | .invalid _ issues => some issues
  | _ => none

/-- The wording of a cause. What a document reader says about a malformed document is left out. -/
def message : Fault → String
  | .plain .key (some detail) => Text.quoted detail
  | .plain _ detail => detail.getD ""
  | .file problem path => problem.text ++ ": " ++ Text.quoted path
  | .undecodable => ""
  | .malformed _ => ""
  | .pattern error => error.message
  | .invalid model issues => issuesHeadline model issues
  | .settingsMissing path => s!"Configuration file {path} does not exist"
  | .settingsUnreadable path _ => s!"Unable to read configuration at {path}"
  | .settingsInvalid cause => "Invalid configuration: " ++ cause.message
  | .registryMissing path => s!"Rule registry {path} does not exist"
  | .registryUnreadable path _ => s!"{path}: failed to parse rule registry"
  | .registryLayout path => s!"{path}: unsupported rule registry layout"
  | .registryEntry path key => s!"{path}: rule " ++ Text.quoted key ++ " must be an object"
  | .registryAnonymous path => s!"{path}: rule entries must be objects with an 'id'"
  | .registryRule path id cause => s!"{path}: invalid rule {id}: " ++ cause.message
  | .deadline c => s!"Engine {c.engine} batch {c.batchNumber} timed out after {c.timeoutMs}ms"
  | .batch cause c => cause.message ++ " (" ++ c.describe ++ ")"
  | .setUp engine cause => s!"Failed to initialize engine '{engine}': " ++ cause.message
  | .setUpReason engine reason => s!"Failed to initialize engine '{engine}': {reason}"
  | .noEngines attempted =>
    let hint := if attempted.isEmpty then ""
      else " (attempted: " ++ ", ".intercalate attempted ++ ")"
    s!"No analysis engines successfully initialized{hint}; " ++
      "check the enabled engine list and engine settings"
  | .command message _ => message
  | .usage _ => ""
  | .markup message => message

/-- The wording of a fault without that of the fault underneath. -/
def headline : Fault → String
  | .settingsInvalid _ => "Invalid configuration"
  | .registryRule path id _ => s!"{path}: invalid rule {id}"
  | f => f.message

/-- Whether a fault belongs to the auditing machinery itself. -/
def isAudit : Fault → Bool
  | .plain .audit _ | .plain .interrupted _ | .deadline _ | .batch .. | .setUp .. | .setUpReason ..
  | .noEngines _ => true
  | _ => false

/-- Whether a fault lies in the settings. -/
def isSettings : Fault → Bool
  | .settingsMissing _ | .settingsUnreadable .. | .settingsInvalid _ => true
  | _ => false

/-- Whether a fault of the rule catalog leaves a run possible. -/
def isCatalog : Fault → Bool
  | .plain .catalog _ | .registryMissing _ | .registryUnreadable .. | .registryLayout _
  | .registryEntry .. | .registryAnonymous _ | .registryRule .. => true
  | _ => false

/-- A value of the wrong kind where something iterable is needed. -/
def notIterable (kind : String) : Fault :=
  .plain .type (some s!"'{kind}' object is not iterable")

/-- A value of a kind that lacks the member a caller needs. -/
def noMember (kind member : String) : Fault :=
  .plain .member (some s!"'{kind}' object has no attribute '{member}'")

end Fault

end RuleAudit
