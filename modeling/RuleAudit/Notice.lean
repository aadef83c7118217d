import RuleAudit.Call
import RuleAudit.Plan

/-!
# Notices

Everything a run tells the outside while it goes on, in one ordered list: lines of the trace, lines
for the console, warnings of a component, the moments before and after each batch, and the start and
end of every engine call.
-/

namespace RuleAudit

/-- The importance of a console line. -/
inductive Level where
  | info
  | ok
  | warn
  | fail
  deriving Repr, DecidableEq

/-- The components that write warnings to the log. -/
inductive Component where
  | registry
  | factory
  | scanner
  deriving Repr, DecidableEq

/-- The name of a component in the log. -/
def Component.name : Component → String
  | .registry => "lintweave.engines.registry"
  | .factory => "lintweave.engines.factory"
  | .scanner => "lintweave.engines.heuristic"

/-- Something a run tells the outside. Engine calls are marked with the tag of their engine. -/
inductive Notice where
  | trace (line : String)
  | console (level : Level) (text : String) (emoji color : Bool)
  | log (source : Component) (message : String)
  | routed (plan : Plan)
  | before (batch : Batch)
  | after (outcome : Outcome)
  | finished (result : RunResult)
  | called (engine : Nat) (call : Call)
  | late (engine : Nat) (reason : String)
  | ended (engine : Nat)

namespace Notice

/-- The calls of an engine, in the order they began. -/
def calls (notices : List Notice) (engine : Nat) : List Call :=
  notices.filterMap fun n =>
    match n with
    | .called e call => if e == engine then some call else none
    | _ => none

/-- The reasons an engine saw when its calls were stopped at the deadline. -/
def lateReasons (notices : List Notice) (engine : Nat) : List String :=
  notices.filterMap fun n =>
    match n with
    | .late e reason => if e == engine then some reason else none
    | _ => none

/-- The most calls of an engine that were under way at once. -/
def peak (notices : List Notice) (engine : Nat) : Nat :=
  (notices.foldl (fun (s : Nat × Nat) n =>
    match n with
    | .called e _ => if e == engine then (s.1 + 1, max s.2 (s.1 + 1)) else s
    | .ended e => if e == engine then (s.1 - 1, s.2) else s
    | _ => s) (0, 0)).2

end Notice

end RuleAudit
