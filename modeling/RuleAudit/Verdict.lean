import RuleAudit.Fault

/-!
# Verdicts on a value

Checking a value against a model ends in one of three ways: a valid result, the list of all issues,
or a fault that stops the check at once. Verdicts combine field by field: issues add up in field
order, and the first fault outweighs every issue.
-/

namespace RuleAudit

/-- The outcome of checking a value. -/
inductive Verdict (α : Type) where
  | valid (a : α)
  | flawed (issues : List Issue)
  | broken (fault : Fault)

namespace Verdict

variable {α β : Type}

/-- Change a valid result. -/
def map (f : α → β) : Verdict α → Verdict β
  | .valid a => .valid (f a)
  | .flawed issues => .flawed issues
  | .broken fault => .broken fault

/-- Combine two verdicts: both valid, or all issues, or the first fault. -/
def seq (f : Verdict (α → β)) (x : Verdict α) : Verdict β :=
  match f, x with
  | .valid f, .valid a => .valid (f a)
  | .valid _, .flawed issues => .flawed issues
  | .flawed issues, .valid _ => .flawed issues
  | .flawed issues, .flawed more => .flawed (issues ++ more)
  | .broken fault, _ => .broken fault
  | _, .broken fault => .broken fault

instance : Functor Verdict where
  map := map

instance : Applicative Verdict where
  pure := .valid
  seq f x := f.seq (x ())

/-- Go on with a valid result. -/
def andThen (x : Verdict α) (f : α → Verdict β) : Verdict β :=
  match x with
  | .valid a => f a
  | .flawed issues => .flawed issues
  | .broken fault => .broken fault

/-- The verdict on a part, its issues placed below a step. -/
def under (step : Step) : Verdict α → Verdict α
  | .flawed issues => .flawed (issues.map fun i => { i with path := step :: i.path })
  | v => v

/-- One issue, right here. -/
def issue (kind : IssueKind) : Verdict α :=
  .flawed [⟨[], kind⟩]

/-- Check the items of a list, each below its index. -/
def itemsFrom (check : α → Verdict β) : Nat → List α → Verdict (List β)
  | _, [] => .valid []
  | i, a :: rest => List.cons <$> (check a).under (.index i) <*> itemsFrom check (i + 1) rest

/-- Check the items of a list. -/
def items (check : α → Verdict β) (as : List α) : Verdict (List β) :=
  itemsFrom check 0 as

/-- Check the values of a keyed list, each below its key. -/
def entries (check : α → Verdict β) : List (String × α) → Verdict (List (String × β))
  | [] => .valid []
  | (k, a) :: rest =>
    (fun b more => (k, b) :: more) <$> (check a).under (.key k) <*> entries check rest

/-- The result, or the fault that the verdict amounts to for a model. -/
def toExcept (model : String) : Verdict α → Except Fault α
  | .valid a => .ok a
  | .flawed issues => .error (.invalid model issues)
  | .broken fault => .error fault

end Verdict

end RuleAudit
