import RuleAudit.Registry
import RuleAudit.Text.Replace

/-!
# Routing

Every rule goes to one engine. The candidates come from the first policy that names any: the one
engine asked for, the rule's own engines, the engines the settings name for it, the preference for
syntax trees, the hint of its analyzer, and the standard order. The first candidate that supports
the rule gets it; else the first registered engine that does; else the fallback engine. Only a rule
that the one engine asked for does not support goes nowhere.
-/

namespace RuleAudit

/-- The order of engines for a rule that nothing else is known of. -/
def standardOrder : List String :=
  [heuristicEngine, aiEngine, syntaxEngine]

/-- The order of engines when syntax trees are preferred. -/
def syntaxFirst : List String :=
  [syntaxEngine, heuristicEngine, aiEngine]

/-- The order of engines for analyzer hints. -/
def analyzerOrders : List (String × List String) :=
  [("eslint", [syntaxEngine, heuristicEngine]),
   ("typescript", [syntaxEngine, heuristicEngine]),
   ("syntax", [syntaxEngine, heuristicEngine]),
   ("heuristic", [heuristicEngine, aiEngine]),
   ("semantic", [heuristicEngine, aiEngine]),
   ("ai", [aiEngine, heuristicEngine])]

namespace Routing

/-- The order of engines for an analyzer: of the hint it is, else of the first hint it contains. -/
def analyzerOrder (analyzer : Option String) : List String :=
  match analyzer with
  | none => []
  | some a =>
    let hint := Text.lower (Text.trim a)
    match analyzerOrders.find? fun entry => entry.1 == hint with
    | some entry => entry.2
    | none =>
      match analyzerOrders.find? fun entry => Text.holds hint entry.1 with
      | some entry => entry.2
      | none => []

/-- The candidate engines of a rule and the policy that named them. -/
def preference (settings : Settings) (rule : Rule) : List String × Preference :=
  match settings.engines.specificEngine with
  | some engine => ([engine], .requested)
  | none =>
    if !rule.engines.isEmpty then (rule.engines, .ruleOverride)
    else if !(settings.ruleEngines rule.id).isEmpty then
      (settings.ruleEngines rule.id, .configured)
    else if settings.engines.syntaxIntegration then (syntaxFirst, .integration)
    else if !(analyzerOrder rule.analyzer).isEmpty then
      (analyzerOrder rule.analyzer, .analyzer)
    else (standardOrder, .standard)

/-- The engine for rules that no engine supports. -/
def lastResort (registry : Registry) (settings : Settings) : Except Fault String :=
  if registry.entries.has settings.engines.fallbackEngine then .ok settings.engines.fallbackEngine
  else match registry.ids with
    | id :: _ => .ok id
    | [] => .error (.plain .index (some "list index out of range"))

/-- Where a rule goes. -/
def decide (registry : Registry) (settings : Settings) (rule : Rule) : Except Fault Decision :=
  let (candidates, source) := preference settings rule
  match candidates.find? fun id => registry.supports id rule.id with
  | some engine => .ok ⟨rule.id, some engine, candidates, source, false⟩
  | none =>
    if source == .requested then .ok ⟨rule.id, none, candidates, source, false⟩
    else match registry.ids.find? fun id => registry.supports id rule.id with
      | some engine => .ok ⟨rule.id, some engine, candidates, source, true⟩
      | none =>
        (lastResort registry settings).map fun engine =>
          ⟨rule.id, some engine, candidates, source, true⟩

/-- The trace line of a decision. -/
def traceLine (d : Decision) : String :=
  match d.engine with
  | none =>
    s!"skip {d.ruleId}: not supported by requested engine " ++ d.candidates.headD ""
  | some engine =>
    let via := if d.fallback then "fallback" else d.source.word
    s!"route {d.ruleId} -> {engine} ({via})"

/-- Place rules, in order, after those of a plan. -/
def routeFrom (registry : Registry) (settings : Settings) :
    Plan → List Rule → List Notice × Except Fault Plan
  | plan, [] => ([], .ok plan)
  | plan, rule :: rest =>
    match decide registry settings rule with
    | .error f => ([], .error f)
    | .ok d =>
      let (notices, result) := routeFrom registry settings (plan.place rule d) rest
      (.trace (traceLine d) :: notices, result)

/-- The plan for rules. -/
def route (registry : Registry) (settings : Settings) (rules : List Rule) :
    List Notice × Except Fault Plan :=
  routeFrom registry settings {} rules

end Routing

end RuleAudit
