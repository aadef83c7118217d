import RuleAudit.FileTree
import RuleAudit.Glob
import RuleAudit.Rule
import RuleAudit.RunResult
import RuleAudit.Settings.Limits

/-!
# Workload

How a run's work is shaped: which files take part, how long a batch may take, how rules are cut into
batches, and what a failed batch means.
-/

namespace RuleAudit

/-! ## Files -/

/-- The size of a file that no glob excludes, that can be examined and that is not too large. -/
def eligibleSize? (tree : FileTree) (limits : Limits)
    (globs : List (Except Pattern.CompileError Pattern.Node)) (p : FilePath) :
    Except Fault (Option Nat) :=
  match Glob.excludes globs p with
  | .error e => .error (.pattern e)
  | .ok true => .ok none
  | .ok false =>
    match tree.sizeOf p with
    | .error (.file ..) => .ok none
    | .error f => .error f
    | .ok size =>
      if limits.maxFileSize > 0 && Int.ofNat size > limits.maxFileSize then .ok none
      else .ok (some size)

/-- Whether a file of a size still fits after `count` files of `total` octets. -/
def fits (limits : Limits) (count total size : Nat) : Bool :=
  (limits.maxTotalSize ≤ 0 || Int.ofNat (total + size) ≤ limits.maxTotalSize) &&
    (limits.maxFiles ≤ 0 || Int.ofNat count < limits.maxFiles)

/-- The files kept after `count` files of `total` octets; the first eligible file that does not fit
ends the collection. -/
def keepFrom (tree : FileTree) (limits : Limits)
    (globs : List (Except Pattern.CompileError Pattern.Node)) :
    Nat → Nat → List FilePath → Except Fault (List FilePath)
  | _, _, [] => .ok []
  | count, total, p :: rest =>
    match eligibleSize? tree limits globs p with
    | .error f => .error f
    | .ok none => keepFrom tree limits globs count total rest
    | .ok (some size) =>
      if fits limits count total size then
        match keepFrom tree limits globs (count + 1) (total + size) rest with
        | .ok kept => .ok (p :: kept)
        | .error f => .error f
      else .ok []

/-- The files that take part in a run. -/
def filterFiles (tree : FileTree) (limits : Limits) (files : List FilePath) :
    Except Fault (List FilePath) :=
  if limits.enableFileFiltering then
    keepFrom tree limits (limits.excludePatterns.map Glob.compile) 0 0 files
  else .ok files

/-- What a filter makes of some files: those that it keeps, and the number of the others. -/
structure Filtered where
  files : List FilePath
  removed : Int
  deriving Repr, DecidableEq

/-- The files that take part in a run, with the number of those that do not. -/
def Filtered.ofFiles (tree : FileTree) (limits : Limits) (files : List FilePath) :
    Except Fault Filtered :=
  (filterFiles tree limits files).map fun kept =>
    { files := kept, removed := Int.ofNat files.length - Int.ofNat kept.length }

/-! ## Time and batch size -/

/-- The deadline of a batch in milliseconds, never above the ceiling. -/
def adaptiveTimeout (limits : Limits) (files rules : Int) : Int :=
  min (limits.baseTimeoutMs + max 0 files * limits.timeoutPerFileMs +
    max 0 rules * limits.timeoutPerRuleMs) limits.maxTimeoutMs

/-- The number of rules in a batch: as given, else fewer for more than a hundred files. -/
def resolveBatchSize (limits : Limits) (files : Int) : Int :=
  match limits.ruleBatchSize with
  | some n => if n != 0 then n else dflt
  | none => dflt
where
  dflt : Int := if files > 100 then 5 else 10

/-- A quotient that exceeds every double. -/
def quotientOverflow : Fault :=
  .plain .overflow (some "integer division result too large for a float")

/-- The least integer that is not below a double. -/
def ceiling (x : Binary64) : Option Int :=
  x.toRatio?.map fun (num, den) => -Int.fdiv (-num) (Int.ofNat den)

/-- The number of batches for a number of rules, from a quotient in double precision. -/
def batchCount (limits : Limits) (rules files : Int) : Except Fault Int :=
  let size := resolveBatchSize limits files
  let quotient := Binary64.ofFraction (if size < 0 then -rules else rules) size.natAbs
  match ceiling quotient with
  | some n => .ok n
  | none => .error quotientOverflow

/-! ## Batches -/

/-- Consecutive pieces of `size` items, the last perhaps shorter; `fuel` bounds their number. -/
def chunksFrom {α : Type} (size : Nat) : Nat → List α → List (List α)
  | 0, _ => []
  | _ + 1, [] => []
  | fuel + 1, a :: rest => (a :: rest).take size :: chunksFrom size fuel ((a :: rest).drop size)

/-- Consecutive pieces of `size` items, the last perhaps shorter. -/
def chunks {α : Type} (size : Nat) (items : List α) : List (List α) :=
  chunksFrom size items.length items

/-- Consecutive pieces of a list; their size must be positive. -/
def partition {α : Type} (size : Int) (items : List α) : Except Fault (List (List α)) :=
  if size ≤ 0 then .error (.plain .value (some "batch size must be positive"))
  else .ok (chunks size.toNat items)

/-- Some of the rules of one engine, with their place among the engine's batches. -/
structure Batch where
  engine : String
  number : Nat
  total : Nat
  rules : List Rule
  deriving Repr, DecidableEq

/-- The identifiers of a batch's rules. -/
def Batch.ruleIds (b : Batch) : List String :=
  b.rules.map Rule.id

/-- Batches numbered from `first`. -/
def numberBatches (engine : String) (total : Nat) : Nat → List (List Rule) → List Batch
  | _, [] => []
  | first, rules :: rest =>
    ⟨engine, first, total, rules⟩ :: numberBatches engine total (first + 1) rest

/-- The batches of an engine's rules. -/
def createBatches (engine : String) (rules : List Rule) (size : Int) :
    Except Fault (List Batch) :=
  (partition size rules).map fun pieces => numberBatches engine pieces.length 1 pieces

/-! ## Failures -/

/-- The fault that a failure is judged by: the one inside a batch failure. -/
def Fault.root : Fault → Fault
  | .batch cause _ => cause
  | f => f

/-- Faults that a smaller batch may avoid. -/
def Fault.isRetryable : Fault → Bool
  | .deadline _ | .plain .interrupted _ | .plain .memory _ | .plain .recursion _ => true
  | _ => false

/-- How a failure of a batch of `size` rules is classed: half the size is worth trying after a
deadline, an interruption, or exhausted memory or depth. -/
def classify (fault : Fault) (size : Int) : Classification :=
  let cause := fault.root
  if cause.isRetryable then ⟨.retryable, cause.label, some (max 1 (Int.fdiv size 2))⟩
  else ⟨.fatal, cause.label, none⟩

/-! ## Metrics -/

/-- The counters of a prepared workload. -/
def workloadMetrics (limits : Limits) (given kept : Nat) (rules : Nat) : Except Fault Metrics :=
  (batchCount limits rules kept).map fun batches =>
    { givenFiles := given
      optimizedFiles := kept
      filteredFiles := Int.ofNat given - Int.ofNat kept
      givenRules := rules
      optimizedRules := rules
      ruleBatches := batches }

end RuleAudit
