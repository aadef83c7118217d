import RuleAudit.Value.Check

/-!
# Limits

The limits that shape a run's workload: which files take part, how rules are batched, how long a
batch may take, and how failed batches are retried. The fields that were given explicitly are
remembered, so that a profile fills in only the others.
-/

namespace RuleAudit

/-- Directories and generated files that are left out by default. -/
def defaultExclusions : List String :=
  ["**/node_modules/**", "**/.next/**", "**/dist/**", "**/build/**", "**/coverage/**",
   "**/.git/**", "**/target/**", "**/out/**", "**/*.min.js", "**/*.bundle.js", "**/vendor/**",
   "**/.venv/**", "**/__pycache__/**", "**/.vscode/**", "**/.idea/**"]

/-- The limits of a run. -/
structure Limits where
  enableFileFiltering : Bool := true
  excludePatterns : List String := defaultExclusions
  maxFileSize : Int := 2 * 1024 * 1024
  maxTotalSize : Int := 0
  maxFiles : Int := 1000
  ruleBatchSize : Option Int := none
  baseTimeoutMs : Int := 30000
  timeoutPerFileMs : Int := 100
  timeoutPerRuleMs : Int := 1000
  maxTimeoutMs : Int := 120000
  maxConcurrentBatches : Int := 1
  retryFailedBatches : Bool := false
  maxRetries : Int := 2
  explicit : List String := []
  deriving Repr, DecidableEq

namespace Limits

/-- The fields in the order they are checked. -/
def fieldNames : List String :=
  ["enable_file_filtering", "exclude_patterns", "max_file_size", "max_total_size", "max_files",
   "rule_batch_size", "base_timeout_ms", "timeout_per_file_ms", "timeout_per_rule_ms",
   "max_timeout_ms", "max_concurrent_batches", "retry_failed_batches", "max_retries"]

/-- A batch size, when given, is positive. -/
def checkBatchSize (v : Value) : Verdict (Option Int) :=
  (Check.nullable Check.int v).andThen fun size =>
    match size with
    | some n => if n ≤ 0 then .issue .rejectedValue else .valid (some n)
    | none => .valid none

/-- A field counts as given from now on. -/
def markExplicit (l : Limits) (name : String) : Limits :=
  if l.explicit.contains name then l else { l with explicit := l.explicit ++ [name] }

/-- The change that a value makes to a field. -/
def change (name : String) (v : Value) : Verdict (Limits → Limits) :=
  let set {α : Type} (check : Value → Verdict α) (f : α → Limits → Limits) :=
    (check v).map fun a (l : Limits) => (f a l).markExplicit name
  match name with
  | "enable_file_filtering" => set Check.bool fun a l => { l with enableFileFiltering := a }
  | "exclude_patterns" => set (Check.list Check.text) fun a l => { l with excludePatterns := a }
  | "max_file_size" => set Check.int fun a l => { l with maxFileSize := a }
  | "max_total_size" => set Check.int fun a l => { l with maxTotalSize := a }
  | "max_files" => set Check.int fun a l => { l with maxFiles := a }
  | "rule_batch_size" => set checkBatchSize fun a l => { l with ruleBatchSize := a }
  | "base_timeout_ms" => set Check.int fun a l => { l with baseTimeoutMs := a }
  | "timeout_per_file_ms" => set Check.int fun a l => { l with timeoutPerFileMs := a }
  | "timeout_per_rule_ms" => set Check.int fun a l => { l with timeoutPerRuleMs := a }
  | "max_timeout_ms" => set Check.int fun a l => { l with maxTimeoutMs := a }
  | "max_concurrent_batches" =>
    set (Check.intFrom 1) fun a l => { l with maxConcurrentBatches := a }
  | "retry_failed_batches" => set Check.bool fun a l => { l with retryFailedBatches := a }
  | "max_retries" => set (Check.intFrom 0) fun a l => { l with maxRetries := a }
  | _ => .issue .unknownField

/-- The limits that the fields of a section give. -/
def ofFields (fields : Keyed Value) : Verdict Limits :=
  fieldNames.foldl
    (fun limits name =>
      match fields.get? name with
      | none => limits
      | some v => (fun l f => f l) <$> limits <*> (change name v).under (.key name))
    (.valid {})

/-- Limits from a value. -/
def check : Value → Verdict Limits :=
  Check.model ofFields

/-- Limits from a value, or why it gives none. -/
def read (v : Value) : Except Fault Limits :=
  (check v).toExcept "PerformanceConfig"

/-- The limits with one field assigned. -/
def assign (l : Limits) (name : String) (v : Value) : Except Fault Limits :=
  (((change name v).under (.key name)).map (· l)).toExcept "PerformanceConfig"

/-- Limits as the fields of a section. -/
def toFields (l : Limits) : Keyed Value :=
  [("enable_file_filtering", .bool l.enableFileFiltering),
   ("exclude_patterns", .texts l.excludePatterns),
   ("max_file_size", .int l.maxFileSize),
   ("max_total_size", .int l.maxTotalSize),
   ("max_files", .int l.maxFiles),
   ("rule_batch_size", .ofOption .int l.ruleBatchSize),
   ("base_timeout_ms", .int l.baseTimeoutMs),
   ("timeout_per_file_ms", .int l.timeoutPerFileMs),
   ("timeout_per_rule_ms", .int l.timeoutPerRuleMs),
   ("max_timeout_ms", .int l.maxTimeoutMs),
   ("max_concurrent_batches", .int l.maxConcurrentBatches),
   ("retry_failed_batches", .bool l.retryFailedBatches),
   ("max_retries", .int l.maxRetries)]

end Limits

/-! ## Profiles -/

/-- A named bundle of limits for a project size. -/
structure Profile where
  name : String
  baseTimeoutMs : Int
  ruleBatchSize : Int
  maxFiles : Int
  description : String
  deriving Repr, DecidableEq

namespace Profile

/-- Short deadlines and large batches. -/
def fast : Profile :=
  ⟨"fast", 30000, 20, 500, "Quick analysis for small projects"⟩

/-- Moderate deadlines and batches. -/
def balanced : Profile :=
  ⟨"balanced", 60000, 15, 600, "Balanced analysis for medium projects"⟩

/-- Long deadlines and small batches. -/
def careful : Profile :=
  ⟨"careful", 120000, 10, 1500, "Thorough analysis for large projects"⟩

/-- The longest deadlines and the smallest batches. -/
def enterprise : Profile :=
  ⟨"enterprise", 300000, 5, 1500, "Conservative analysis for very large projects"⟩

/-- The shipped profiles. -/
def shipped : List Profile :=
  [fast, balanced, careful, enterprise]

/-- The shipped profile of a name. -/
def ofName? (name : String) : Option Profile :=
  shipped.find? (·.name == name)

/-- The shipped profile of a name that must be known. -/
def named (name : String) : Except Fault Profile :=
  match ofName? name with
  | some p => .ok p
  | none => .error (.plain .key (some name))

/-- The profile suited to a number of files. -/
def forSize (files : Int) : Profile :=
  if files ≤ 100 then fast
  else if files ≤ 500 then balanced
  else if files ≤ 1000 then careful
  else enterprise

/-- The limits of a profile for the fields that were not given explicitly. -/
def apply (p : Profile) (l : Limits) : Limits :=
  let fill (name : String) (f : Limits → Limits) (current : Limits) : Limits :=
    if l.explicit.contains name then current else (f current).markExplicit name
  l
  |> fill "base_timeout_ms" (fun c => { c with baseTimeoutMs := p.baseTimeoutMs })
  |> fill "rule_batch_size" (fun c => { c with ruleBatchSize := some p.ruleBatchSize })
  |> fill "max_files" (fun c => { c with maxFiles := p.maxFiles })

/-- A profile as a value. -/
def toValue (p : Profile) : Value :=
  .table
    [("name", .text p.name),
     ("base_timeout_ms", .int p.baseTimeoutMs),
     ("rule_batch_size", .int p.ruleBatchSize),
     ("max_files", .int p.maxFiles),
     ("description", .text p.description)]

end Profile

end RuleAudit
