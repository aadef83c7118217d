import RuleAudit.Workload

/-!
# Cancellation tokens

A batch hands its engine a token: the moment its deadline falls on, and, once somebody has given the
batch up, the reason. The first reason stays. Moments are seconds on the run's clock.
-/

namespace RuleAudit

/-- The signal that tells an engine to stop. -/
structure Token where
  reason : Option String := none
  deadline : Option Binary64 := none
  deriving Repr

namespace Token

/-- Milliseconds as seconds. -/
def seconds (ms : Int) : Except Fault Binary64 :=
  match Binary64.ofFraction ms 1000 with
  | .finite s m e => .ok (.finite s m e)
  | _ => .error quotientOverflow

/-- A token whose deadline, if any, lies some milliseconds after `now`. -/
def start (now : Binary64) (timeoutMs : Option Int) : Except Fault Token :=
  match timeoutMs with
  | none => .ok {}
  | some ms => (seconds ms).map fun s => { deadline := some (now.add s) }

/-- Whether the batch has been given up. -/
def isCancelled (t : Token) : Bool :=
  t.reason.isSome

/-- Give the batch up; an earlier reason stays. -/
def cancel (t : Token) (reason : String) : Token :=
  match t.reason with
  | some _ => t
  | none => { t with reason := some reason }

/-- The milliseconds left before the deadline, never negative. -/
def remainingMs (t : Token) (now : Binary64) : Option Binary64 :=
  t.deadline.map fun d =>
    let left := (d.add now.neg).mul (.ofInt 1000)
    if left.isNegative || left.isZero then .ofInt 0 else left

/-- The fault of going on with a batch that has been given up. -/
def check (t : Token) : Except Fault Unit :=
  match t.reason with
  | none => .ok ()
  | some reason =>
    .error (.plain .interrupted (some (if reason.isEmpty then "cancelled" else reason)))

@[simp] theorem isCancelled_cancel (t : Token) (reason : String) :
    (t.cancel reason).isCancelled = true := by
  cases h : t.reason <;> simp [cancel, isCancelled, h]

theorem cancel_cancel (t : Token) (first second : String) :
    (t.cancel first).cancel second = t.cancel first := by
  cases h : t.reason <;> simp [cancel, h]

end Token

end RuleAudit
