import RuleAudit.Proofs.Routing

/-!
# Why a rule goes where it goes

The engines that may run a rule are named by the first of six policies that names any
(`Routing.Names`), and one of them is picked in up to four stages (`Routing.Picks`). A decision
follows these two for its own rule and depends on no other (`Routing.chooses_of_decide`).

A plan is nothing but its decisions: `Routing.route_eq_decisions` says when there is none, that there
is one decision for each rule, and that the groups and the skipped rules are the given rules sorted
by decision.
-/

namespace RuleAudit

open Routing

/-! ## Supporters -/

/-- An engine that is registered and supports a rule, whose identifier counts in upper case. -/
def Registry.Supports (registry : Registry) (rule : Rule) (id : String) : Prop :=
  ∃ engine, registry.get? id = some engine ∧ Text.upper rule.id ∈ engine.supported

/-- The first of some engines that supports a rule. -/
def Registry.FirstSupporter (registry : Registry) (rule : Rule) (ids : List String)
    (id : String) : Prop :=
  ∃ before after, ids = before ++ id :: after ∧ registry.Supports rule id ∧
    ∀ other ∈ before, ¬ registry.Supports rule other

/-- None of some engines supports a rule. -/
def Registry.NoSupporter (registry : Registry) (rule : Rule) (ids : List String) : Prop :=
  ∀ id ∈ ids, ¬ registry.Supports rule id

namespace Registry

variable {registry : Registry} {rule : Rule} {ids : List String} {id : String}

theorem supports_iff : registry.supports id rule.id = true ↔ registry.Supports rule id := by
  unfold Registry.supports Registry.Supports Engine.supports
  cases registry.get? id with
  | none => simp
  | some engine => simp

theorem supports_eq_false_iff :
    registry.supports id rule.id = false ↔ ¬ registry.Supports rule id := by
  rw [← supports_iff, Bool.not_eq_true]

theorem find?_eq_some_iff :
    (ids.find? fun other => registry.supports other rule.id) = some id ↔
      registry.FirstSupporter rule ids id := by
  simp only [List.find?_eq_some_iff_append, supports_iff, Bool.not_eq_true',
    supports_eq_false_iff, FirstSupporter]
  constructor
  · rintro ⟨hid, before, after, hids, hbefore⟩
    exact ⟨before, after, hids, hid, hbefore⟩
  · rintro ⟨before, after, hids, hid, hbefore⟩
    exact ⟨hid, before, after, hids, hbefore⟩

theorem find?_eq_none_iff :
    (ids.find? fun other => registry.supports other rule.id) = none ↔
      registry.NoSupporter rule ids := by
  simp only [List.find?_eq_none, supports_iff, NoSupporter]

/-- An engine that supports a rule is registered. -/
theorem Supports.isSome_get? (h : registry.Supports rule id) : (registry.get? id).isSome := by
  obtain ⟨engine, hengine, -⟩ := h
  rw [hengine]
  rfl

end Registry

/-! ## Candidates -/

theorem Text.holdsChars_iff {part cs : List Char} :
    Text.holdsChars part cs = true ↔ part <:+: cs := by
  induction cs with
  | nil => simp [Text.holdsChars]
  | cons c rest ih =>
    rw [Text.holdsChars, Bool.or_eq_true, List.isPrefixOf_iff_prefix, ih, List.infix_cons_iff]

namespace Routing

/-- The order of engines that an analyzer's name stands for: the name, without blanks around it and
in lower case, is a hint, or else it contains one, and the first such hint counts. -/
inductive Hints (analyzer : String) : List String → Prop where
  | exact {order : List String} {before after : List (String × List String)}
      (table : analyzerOrders = before ++ (Text.lower (Text.trim analyzer), order) :: after)
      (first : ∀ entry ∈ before, entry.1 ≠ Text.lower (Text.trim analyzer)) : Hints analyzer order
  | within {hint : String} {order : List String} {before after : List (String × List String)}
      (inexact : ∀ entry ∈ analyzerOrders, entry.1 ≠ Text.lower (Text.trim analyzer))
      (table : analyzerOrders = before ++ (hint, order) :: after)
      (contained : hint.toList <:+: (Text.lower (Text.trim analyzer)).toList)
      (first : ∀ entry ∈ before, ¬ entry.1.toList <:+: (Text.lower (Text.trim analyzer)).toList) :
      Hints analyzer order

/-- What each policy names, and that it counts only where those above it name nothing. -/
inductive Names (settings : Settings) (rule : Rule) : List String → Preference → Prop where
  /-- The one engine asked for. -/
  | requested {engine : String} (asked : settings.engines.specificEngine = some engine) :
      Names settings rule [engine] .requested
  /-- The rule's own engines. -/
  | ruleOverride (auto : settings.engines.specificEngine = none) (own : rule.engines ≠ []) :
      Names settings rule rule.engines .ruleOverride
  /-- The engines that the settings list under the rule's identifier in upper case. -/
  | configured {entry : RuleOverride} (auto : settings.engines.specificEngine = none)
      (own : rule.engines = []) (found : settings.rules.get? (Text.upper rule.id) = some entry)
      (listed : entry.engines ≠ []) : Names settings rule entry.engines .configured
  /-- The preference for syntax trees. -/
  | integration (auto : settings.engines.specificEngine = none) (own : rule.engines = [])
      (unlisted : settings.ruleEngines rule.id = [])
      (preferred : settings.engines.syntaxIntegration = true) :
      Names settings rule ["syntax", "heuristic", "ai"] .integration
  /-- The hint of the rule's analyzer. -/
  | analyzer {analyzer : String} {order : List String}
      (auto : settings.engines.specificEngine = none) (own : rule.engines = [])
      (unlisted : settings.ruleEngines rule.id = [])
      (indifferent : settings.engines.syntaxIntegration = false)
      (present : rule.analyzer = some analyzer) (hint : Hints analyzer order) :
      Names settings rule order .analyzer
  /-- The standard order. -/
  | standard (auto : settings.engines.specificEngine = none) (own : rule.engines = [])
      (unlisted : settings.ruleEngines rule.id = [])
      (indifferent : settings.engines.syntaxIntegration = false)
      (unhinted : ∀ analyzer order, rule.analyzer = some analyzer → ¬ Hints analyzer order) :
      Names settings rule ["heuristic", "ai", "syntax"] .standard

/-- No hint stands for an empty order. -/
theorem order_ne_nil {entry : String × List String} (h : entry ∈ analyzerOrders) :
    entry.2 ≠ [] := by
  unfold analyzerOrders at h
  simp only [List.mem_cons, List.not_mem_nil, or_false] at h
  rcases h with rfl | rfl | rfl | rfl | rfl | rfl <;> exact List.cons_ne_nil _ _

theorem exists_hints {analyzer : Option String} (h : analyzerOrder analyzer ≠ []) :
    ∃ name, analyzer = some name ∧ Hints name (analyzerOrder analyzer) := by
  obtain ⟨name, rfl⟩ : ∃ name, analyzer = some name := by
    cases analyzer with
    | none => exact absurd rfl h
    | some name => exact ⟨name, rfl⟩
  refine ⟨name, rfl, ?_⟩
  unfold analyzerOrder at h ⊢
  dsimp only at h ⊢
  split
  · rename_i entry hentry
    obtain ⟨heq, before, after, htable, hbefore⟩ := List.find?_eq_some_iff_append.mp hentry
    obtain ⟨hint, order⟩ := entry
    obtain rfl : hint = Text.lower (Text.trim name) := by simpa using heq
    exact .exact htable fun other hother => by simpa using hbefore other hother
  · rename_i hexact
    have hinexact : ∀ entry ∈ analyzerOrders, entry.1 ≠ Text.lower (Text.trim name) := by
      intro entry hentry
      simpa using List.find?_eq_none.mp hexact entry hentry
    split
    · rename_i entry hentry
      obtain ⟨heq, before, after, htable, hbefore⟩ := List.find?_eq_some_iff_append.mp hentry
      obtain ⟨hint, order⟩ := entry
      refine .within hinexact htable (Text.holdsChars_iff.mp heq) ?_
      intro other hother hcontained
      have hheld : Text.holds (Text.lower (Text.trim name)) other.1 = true :=
        Text.holdsChars_iff.mpr hcontained
      have hnot := hbefore other hother
      rw [hheld] at hnot
      cases hnot
    · rename_i hnone
      simp [hexact, hnone] at h

theorem analyzerOrder_ne_nil {analyzer : String} {order : List String}
    (h : Hints analyzer order) : analyzerOrder (some analyzer) ≠ [] := by
  unfold analyzerOrder
  dsimp only
  cases h with
  | @exact _ before after table _ =>
    split
    · rename_i entry hentry
      exact order_ne_nil (List.mem_of_find?_eq_some hentry)
    · rename_i hexact
      have hmem : (Text.lower (Text.trim analyzer), order) ∈ analyzerOrders := by
        rw [table]
        simp
      have hnot := List.find?_eq_none.mp hexact _ hmem
      simp at hnot
  | @within hint _ before after _ table contained _ =>
    split
    · rename_i entry hentry
      exact order_ne_nil (List.mem_of_find?_eq_some hentry)
    · split
      · rename_i entry hentry
        exact order_ne_nil (List.mem_of_find?_eq_some hentry)
      · rename_i hnone
        have hmem : (hint, order) ∈ analyzerOrders := by
          rw [table]
          simp
        have hheld : Text.holds (Text.lower (Text.trim analyzer)) hint = true :=
          Text.holdsChars_iff.mpr contained
        have hnot := List.find?_eq_none.mp hnone _ hmem
        rw [hheld] at hnot
        exact absurd rfl hnot

theorem exists_override {settings : Settings} {id : String} (h : settings.ruleEngines id ≠ []) :
    ∃ entry, settings.rules.get? (Text.upper id) = some entry ∧
      entry.engines = settings.ruleEngines id := by
  unfold Settings.ruleEngines Settings.overrideOf at h ⊢
  cases hentry : settings.rules.get? (Text.upper id) with
  | none => simp [hentry] at h
  | some entry => exact ⟨entry, rfl, rfl⟩

/-- The candidates of a rule come from the first policy that names any. -/
theorem names_preference (settings : Settings) (rule : Rule) :
    Names settings rule (preference settings rule).1 (preference settings rule).2 := by
  unfold preference
  split
  · rename_i engine hasked
    exact .requested hasked
  · rename_i hauto
    split
    · rename_i hown
      exact .ruleOverride hauto (by simpa using hown)
    · rename_i hown
      replace hown : rule.engines = [] := by simpa using hown
      split
      · rename_i hlisted
        replace hlisted : settings.ruleEngines rule.id ≠ [] := by simpa using hlisted
        obtain ⟨entry, hfound, hengines⟩ := exists_override hlisted
        rw [← hengines] at hlisted ⊢
        exact .configured hauto hown hfound hlisted
      · rename_i hlisted
        replace hlisted : settings.ruleEngines rule.id = [] := by simpa using hlisted
        split
        · rename_i hpreferred
          exact .integration hauto hown hlisted hpreferred
        · rename_i hindifferent
          replace hindifferent := Bool.eq_false_iff.mpr hindifferent
          split
          · rename_i hhinted
            replace hhinted : analyzerOrder rule.analyzer ≠ [] := by simpa using hhinted
            obtain ⟨analyzer, hanalyzer, hhint⟩ := exists_hints hhinted
            exact Names.analyzer hauto hown hlisted hindifferent hanalyzer hhint
          · rename_i hunhinted
            replace hunhinted : analyzerOrder rule.analyzer = [] := by simpa using hunhinted
            refine Names.standard hauto hown hlisted hindifferent ?_
            intro analyzer order hanalyzer hhint
            rw [hanalyzer] at hunhinted
            exact analyzerOrder_ne_nil hhint hunhinted

/-! ## Decisions -/

/-- Where a rule goes whose engine is not asked for, and whether it had to fall back: the first
candidate that supports it, else the first registered engine that does, else the fallback engine,
else the engine that was registered first. -/
inductive Picks (registry : Registry) (settings : Settings) (rule : Rule)
    (candidates : List String) : String → Bool → Prop where
  | candidate {engine : String} (first : registry.FirstSupporter rule candidates engine) :
      Picks registry settings rule candidates engine false
  | supporter {engine : String} (others : registry.NoSupporter rule candidates)
      (first : registry.FirstSupporter rule registry.ids engine) :
      Picks registry settings rule candidates engine true
  | fallback (others : registry.NoSupporter rule candidates)
      (nobody : registry.NoSupporter rule registry.ids)
      (present : (registry.get? settings.engines.fallbackEngine).isSome) :
      Picks registry settings rule candidates settings.engines.fallbackEngine true
  | oldest {engine : String} {later : List String}
      (others : registry.NoSupporter rule candidates)
      (nobody : registry.NoSupporter rule registry.ids)
      (absent : registry.get? settings.engines.fallbackEngine = none)
      (first : registry.ids = engine :: later) :
      Picks registry settings rule candidates engine true

/-- A decision for a rule under the settings, with the engines of a registry. -/
structure Chooses (registry : Registry) (settings : Settings) (rule : Rule) (d : Decision) :
    Prop where
  ruleId : d.ruleId = rule.id
  named : Names settings rule d.candidates d.source
  /-- The one engine asked for gets the rule if it is registered and supports it. -/
  requested : ∀ engine, settings.engines.specificEngine = some engine → d.fallback = false ∧
    (registry.Supports rule engine → d.engine = some engine) ∧
    (¬ registry.Supports rule engine → d.engine = none)
  /-- Otherwise some registered engine gets it. -/
  auto : settings.engines.specificEngine = none → ∃ engine, d.engine = some engine ∧
    (registry.get? engine).isSome ∧ Picks registry settings rule d.candidates engine d.fallback

variable {registry : Registry} {settings : Settings} {rule : Rule}

/-- Only an engine that is asked for is named as such. -/
theorem Names.source_eq_requested_iff {candidates : List String} {source : Preference}
    (h : Names settings rule candidates source) :
    source = .requested ↔ settings.engines.specificEngine ≠ none := by
  cases h with
  | requested asked => simp [asked]
  | ruleOverride auto | configured auto | integration auto | analyzer auto | standard auto =>
    simp [auto]

theorem Names.candidates_of_requested {candidates : List String} {source : Preference}
    (h : Names settings rule candidates source) {engine : String}
    (hasked : settings.engines.specificEngine = some engine) : candidates = [engine] := by
  cases h with
  | requested asked => rw [Option.some.inj (asked.symm.trans hasked)]
  | ruleOverride auto | configured auto | integration auto | analyzer auto | standard auto =>
    rw [auto] at hasked
    cases hasked

/-- Where the fallback lies: at the fallback engine, at the engine registered first, or nowhere. -/
theorem lastResort_cases (registry : Registry) (settings : Settings) :
    (lastResort registry settings = .ok settings.engines.fallbackEngine ∧
        (registry.get? settings.engines.fallbackEngine).isSome) ∨
      (registry.get? settings.engines.fallbackEngine = none ∧
        ((∃ engine later, registry.ids = engine :: later ∧
            lastResort registry settings = .ok engine) ∨
          (registry.ids = [] ∧ lastResort registry settings =
            .error (.plain .index (some "list index out of range"))))) := by
  unfold lastResort
  split
  · rename_i hpresent
    exact .inl ⟨rfl, hpresent⟩
  · rename_i habsent
    refine .inr ⟨Option.not_isSome_iff_eq_none.mp habsent, ?_⟩
    split
    · rename_i engine later hids
      exact .inl ⟨engine, later, hids, rfl⟩
    · rename_i hids
      exact .inr ⟨hids, rfl⟩

section Named

variable {candidates : List String} {source : Preference} {engine : String}

/-- With no engine asked for, a registered engine that is picked is a choice. -/
theorem Names.chooses_picked (h : Names settings rule candidates source)
    (hauto : settings.engines.specificEngine = none) {fallback : Bool}
    (hget : (registry.get? engine).isSome)
    (hpicks : Picks registry settings rule candidates engine fallback) :
    Chooses registry settings rule ⟨rule.id, some engine, candidates, source, fallback⟩ := by
  refine ⟨rfl, h, fun asked hasked => ?_, fun _ => ⟨engine, rfl, hget, hpicks⟩⟩
  rw [hauto] at hasked
  cases hasked

/-- The first candidate that supports a rule is a choice, be it asked for or not. -/
theorem Names.chooses_candidate (h : Names settings rule candidates source)
    (hfirst : registry.FirstSupporter rule candidates engine) :
    Chooses registry settings rule ⟨rule.id, some engine, candidates, source, false⟩ := by
  obtain ⟨before, after, hcandidates, hsupports, -⟩ := id hfirst
  cases hspecific : settings.engines.specificEngine with
  | none => exact h.chooses_picked hspecific hsupports.isSome_get? (.candidate hfirst)
  | some asked =>
    -- the only candidate is the engine asked for
    obtain rfl : engine = asked := by
      have hmem : engine ∈ candidates := by simp [hcandidates]
      rw [h.candidates_of_requested hspecific] at hmem
      simpa using hmem
    refine ⟨rfl, h, fun other hother => ?_, fun hauto => ?_⟩
    · obtain rfl : engine = other := Option.some.inj (hspecific.symm.trans hother)
      exact ⟨rfl, fun _ => rfl, fun hnot => absurd hsupports hnot⟩
    · rw [hspecific] at hauto
      cases hauto

/-- A rule that the one engine asked for does not support is left out. -/
theorem Names.chooses_nothing (h : Names settings rule candidates source)
    (hasked : settings.engines.specificEngine ≠ none)
    (hothers : registry.NoSupporter rule candidates) :
    Chooses registry settings rule ⟨rule.id, none, candidates, source, false⟩ := by
  refine ⟨rfl, h, fun asked hspecific => ?_, fun hauto => absurd hauto hasked⟩
  have hcandidates := h.candidates_of_requested hspecific
  refine ⟨rfl, fun hsupports => ?_, fun _ => rfl⟩
  exact absurd hsupports (hothers asked (by simp [hcandidates]))

end Named

/-- The ways in which a rule is decided. -/
theorem decide_cases (registry : Registry) (settings : Settings) (rule : Rule) :
    (∃ d, decide registry settings rule = .ok d ∧ Chooses registry settings rule d) ∨
      (settings.engines.specificEngine = none ∧ registry.ids = [] ∧
        decide registry settings rule =
          .error (.plain .index (some "list index out of range"))) := by
  have hnamed := names_preference settings rule
  unfold decide
  generalize preference settings rule = named at hnamed
  obtain ⟨candidates, source⟩ := named
  dsimp only at hnamed ⊢
  split
  · -- a candidate supports the rule
    rename_i engine hfound
    exact .inl ⟨_, rfl, hnamed.chooses_candidate (Registry.find?_eq_some_iff.mp hfound)⟩
  · rename_i hnone
    have hothers := Registry.find?_eq_none_iff.mp hnone
    split
    · -- the one engine asked for does not support it
      rename_i hsource
      have hasked := hnamed.source_eq_requested_iff.mp (by simpa using hsource)
      exact .inl ⟨_, rfl, hnamed.chooses_nothing hasked hothers⟩
    · rename_i hsource
      have hauto : settings.engines.specificEngine = none := by
        by_contra hasked
        exact hsource (by simpa using hnamed.source_eq_requested_iff.mpr hasked)
      split
      · -- some other engine supports it
        rename_i engine hfound
        have hfirst := Registry.find?_eq_some_iff.mp hfound
        obtain ⟨_, _, _, hsupports, _⟩ := id hfirst
        exact .inl ⟨_, rfl, hnamed.chooses_picked hauto hsupports.isSome_get?
          (.supporter hothers hfirst)⟩
      · -- nobody does
        rename_i hnobody
        replace hnobody := Registry.find?_eq_none_iff.mp hnobody
        rcases lastResort_cases registry settings with
          ⟨heq, hpresent⟩ | ⟨habsent, ⟨engine, later, hids, heq⟩ | ⟨hids, heq⟩⟩
        · rw [heq]
          exact .inl ⟨_, rfl, hnamed.chooses_picked hauto hpresent
            (.fallback hothers hnobody hpresent)⟩
        · rw [heq]
          exact .inl ⟨_, rfl, hnamed.chooses_picked hauto
            (Keyed.isSome_get?_iff.mpr (show _ ∈ registry.ids by simp [hids]))
            (.oldest hothers hnobody habsent hids)⟩
        · rw [heq]
          exact .inr ⟨hauto, hids, rfl⟩

/-- A rule that has been decided has been decided as its policies say. -/
theorem chooses_of_decide {d : Decision} (h : decide registry settings rule = .ok d) :
    Chooses registry settings rule d := by
  rcases decide_cases registry settings rule with ⟨found, heq, hchooses⟩ | ⟨-, -, heq⟩
  · obtain rfl : found = d := Except.ok.inj (heq.symm.trans h)
    exact hchooses
  · rw [heq] at h
    cases h

/-- A rule only goes to a registered engine. -/
theorem Chooses.isSome_get? {d : Decision} (h : Chooses registry settings rule d) {engine : String}
    (hengine : d.engine = some engine) : (registry.get? engine).isSome := by
  cases hspecific : settings.engines.specificEngine with
  | none =>
    obtain ⟨found, heq, hpresent, -⟩ := h.auto hspecific
    obtain rfl : found = engine := Option.some.inj (heq.symm.trans hengine)
    exact hpresent
  | some asked =>
    obtain ⟨-, hyes, hno⟩ := h.requested asked hspecific
    by_cases hsupports : registry.Supports rule asked
    · obtain rfl : asked = engine := Option.some.inj ((hyes hsupports).symm.trans hengine)
      exact hsupports.isSome_get?
    · rw [hno hsupports] at hengine
      cases hengine

/-- A rule cannot be decided exactly when no engine is asked for and none is registered. -/
theorem decide_eq_error_iff {f : Fault} :
    decide registry settings rule = .error f ↔
      f = .plain .index (some "list index out of range") ∧
        settings.engines.specificEngine = none ∧ registry.ids = [] := by
  rcases decide_cases registry settings rule with ⟨d, heq, hchooses⟩ | ⟨hauto, hids, heq⟩
  · rw [heq]
    refine iff_of_false (fun hf => by cases hf) ?_
    rintro ⟨-, hauto, hids⟩
    obtain ⟨engine, -, hpresent, -⟩ := hchooses.auto hauto
    have hmem : engine ∈ registry.ids := by
      by_contra habsent
      rw [Registry.get?, Keyed.get?_eq_none_iff.mpr habsent] at hpresent
      cases hpresent
    rw [hids] at hmem
    cases hmem
  · rw [heq, Except.error.injEq]
    constructor
    · rintro rfl
      exact ⟨rfl, hauto, hids⟩
    · rintro ⟨rfl, -, -⟩
      rfl

/-! ## Plans -/

theorem routeFrom_eq_error_iff {plan : Plan} {rules : List Rule} {f : Fault} :
    (routeFrom registry settings plan rules).2 = .error f ↔
      f = .plain .index (some "list index out of range") ∧
        settings.engines.specificEngine = none ∧ registry.ids = [] ∧ rules ≠ [] := by
  induction rules generalizing plan with
  | nil => simp [routeFrom]
  | cons rule rest ih =>
    unfold routeFrom
    split
    · rename_i g hg
      have hiff : decide registry settings rule = .error f ↔ _ := decide_eq_error_iff
      rw [hg] at hiff
      simpa using hiff
    · rename_i d hd
      -- where one rule can be decided every rule can
      have hnot : ¬ (f = .plain .index (some "list index out of range") ∧
          settings.engines.specificEngine = none ∧ registry.ids = []) := by
        intro hfault
        have herror : decide registry settings rule = .error f := decide_eq_error_iff.mpr hfault
        rw [hd] at herror
        cases herror
      refine ih.trans (iff_of_false ?_ ?_)
      · rintro ⟨hf, hauto, hids, -⟩
        exact hnot ⟨hf, hauto, hids⟩
      · rintro ⟨hf, hauto, hids, -⟩
        exact hnot ⟨hf, hauto, hids⟩

/-- The engines of a plan after some rules: those it had, and those it has met since. -/
theorem keys_routeFrom {plan after : Plan} {rules : List Rule}
    (h : (routeFrom registry settings plan rules).2 = .ok after) :
    after.groups.keys = plan.groups.keys ++
      ((rules.filterMap (engineOf registry settings)).removeAll plan.groups.keys).eraseDups := by
  induction rules generalizing plan with
  | nil =>
    cases h
    simp
  | cons rule rest ih =>
    unfold routeFrom at h
    split at h
    · cases h
    · rename_i d hd
      have hengine : engineOf registry settings rule = d.engine := by rw [engineOf, hd]
      rw [ih h, List.filterMap_cons, hengine]
      unfold Plan.place
      cases d.engine with
      | none => rfl
      | some engine =>
        dsimp only [Keyed.alter]
        rw [Keyed.keys_put]
        by_cases hmem : engine ∈ plan.groups.keys
        · rw [if_pos hmem, List.cons_removeAll, if_neg (by simpa using hmem)]
        · rw [if_neg hmem, List.cons_removeAll, if_pos (by simpa using hmem),
            List.eraseDups_cons, List.append_assoc, List.singleton_append]
          congr 3
          simp only [List.removeAll, List.filter_filter]
          refine List.filter_congr fun other _ => ?_
          simp [Bool.and_comm, beq_eq_decide]

/-- Every group of a plan is for a registered engine. -/
theorem isSome_get?_of_mem_groups {plan : Plan} {rules : List Rule}
    (h : (route registry settings rules).2 = .ok plan) {group : String × List Rule}
    (hgroup : group ∈ plan.groups) : (registry.get? group.1).isSome := by
  have hmem : group.1 ∈ plan.groups.keys := List.mem_map_of_mem hgroup
  rw [keys_routeFrom h] at hmem
  simp only [Keyed.keys, List.map_nil, List.nil_append, List.mem_eraseDups, List.removeAll,
    List.mem_filter, List.mem_filterMap] at hmem
  obtain ⟨⟨rule, -, hengine⟩, -⟩ := hmem
  unfold engineOf at hengine
  split at hengine
  · rename_i d hd
    exact (chooses_of_decide hd).isSome_get? hengine
  · cases hengine

theorem decisions_routeFrom {plan after : Plan} {rules : List Rule}
    (h : (routeFrom registry settings plan rules).2 = .ok after) :
    after.decisions.map Except.ok =
      plan.decisions.map Except.ok ++ rules.map (decide registry settings) := by
  induction rules generalizing plan with
  | nil =>
    cases h
    simp
  | cons rule rest ih =>
    unfold routeFrom at h
    split at h
    · cases h
    · rename_i d hd
      have hplace : (plan.place rule d).decisions = plan.decisions ++ [d] := by
        unfold Plan.place
        cases d.engine <;> rfl
      rw [ih h, hplace, List.map_cons, hd]
      simp

theorem engineOf_of_decisions {rules : List Rule} {decisions : List Decision}
    (h : decisions.map Except.ok = rules.map (decide registry settings)) :
    decisions.filterMap Decision.engine = rules.filterMap (engineOf registry settings) := by
  induction rules generalizing decisions with
  | nil =>
    obtain rfl := List.map_eq_nil_iff.mp h
    rfl
  | cons rule rest ih =>
    obtain ⟨d, later, rfl, hd, hlater⟩ := List.map_eq_cons_iff.mp h
    have hengine : engineOf registry settings rule = d.engine := by rw [engineOf, ← hd]
    rw [List.filterMap_cons, List.filterMap_cons, hengine, ih hlater]

theorem forall₂_chooses {rules : List Rule} {decisions : List Decision}
    (h : decisions.map Except.ok = rules.map (decide registry settings)) :
    List.Forall₂ (Chooses registry settings) rules decisions := by
  induction rules generalizing decisions with
  | nil =>
    obtain rfl := List.map_eq_nil_iff.mp h
    exact .nil
  | cons rule rest ih =>
    obtain ⟨d, later, rfl, hd, hlater⟩ := List.map_eq_cons_iff.mp h
    exact .cons (chooses_of_decide hd.symm) (ih hlater)

/-- Rules can be placed unless no engine is asked for, none is registered and there is a rule.
The plan has one decision for each rule, in order, which depends on the rule, the settings and the
registry alone and follows the policies and stages of `Chooses`. Its groups stand in the order of
first use and none is empty; each has the rules decided for its engine, in order, and the other
rules are skipped, so that every rule has one place. -/
theorem route_eq_decisions (registry : Registry) (settings : Settings) (rules : List Rule) :
    (∀ f, (route registry settings rules).2 = .error f ↔
      f = .plain .index (some "list index out of range") ∧
        settings.engines.specificEngine = none ∧ registry.ids = [] ∧ rules ≠ []) ∧
    ∀ plan, (route registry settings rules).2 = .ok plan →
      plan.decisions.map Except.ok = rules.map (decide registry settings) ∧
      List.Forall₂ (Chooses registry settings) rules plan.decisions ∧
      plan.groups.keys = (plan.decisions.filterMap Decision.engine).eraseDups ∧
      (∀ engine group, (engine, group) ∈ plan.groups → group ≠ [] ∧
        group = rules.filter fun rule => engineOf registry settings rule == some engine) ∧
      plan.skipped = (rules.filter fun rule => engineOf registry settings rule == none) ∧
      (plan.skipped ++ plan.groups.flatMap Prod.snd).Perm rules := by
  refine ⟨fun f => routeFrom_eq_error_iff, ?_⟩
  intro plan hplan
  have hdecisions : plan.decisions.map Except.ok = rules.map (decide registry settings) :=
    decisions_routeFrom hplan
  have hkeys : plan.groups.keys = (plan.decisions.filterMap Decision.engine).eraseDups := by
    rw [engineOf_of_decisions hdecisions, keys_routeFrom hplan]
    simp [Keyed.keys, List.removeAll]
  have htakes := takes_route hplan
  refine ⟨hdecisions, forall₂_chooses hdecisions, hkeys, ?_, by simpa using htakes.skipped,
    by simpa using htakes.perm⟩
  intro engine group hgroup
  have hget : plan.groups.get? engine = some group :=
    Keyed.get?_of_mem (htakes.nodup List.nodup_nil) hgroup
  have heq : group = rules.filter fun rule =>
      engineOf registry settings rule == some engine := by
    have hgroups := htakes.groups engine
    rw [hget] at hgroups
    simpa using hgroups
  refine ⟨?_, heq⟩
  -- the engine is a key because some rule was decided for it
  have hmem : engine ∈ plan.groups.keys := List.mem_map_of_mem hgroup
  rw [hkeys, List.mem_eraseDups, engineOf_of_decisions hdecisions, List.mem_filterMap] at hmem
  obtain ⟨rule, hrule, hengine⟩ := hmem
  rw [heq]
  exact List.ne_nil_of_mem (List.mem_filter.mpr ⟨hrule, by simpa using hengine⟩)

/-- An engine that supports some rules and finds nothing. -/
def idleEngine (id : String) (rules : List String) : Engine :=
  .ofBehaviour id "1.0.0" [] false
    { declared := rules, analyze := fun _ _ => { answer := .ok (.report {}) } } 0

/-- One rule goes to the engine it names, one to the first engine that supports it, and one that
nobody supports to the engine registered first. -/
theorem route_three_rules :
    let registry : Registry :=
      { entries := [("near", idleEngine "near" ["a"]), ("far", idleEngine "far" ["A", "b"])] }
    let rules : List Rule := [{ id := "A", engines := ["far"] }, { id := "C" }, { id := "B" }]
    ∃ plan, (route registry {} rules).2 = .ok plan ∧
      plan.groups.map (fun g => (g.1, g.2.map Rule.id)) = [("far", ["A", "B"]), ("near", ["C"])] ∧
      List.Forall₂ (Chooses registry {}) rules plan.decisions ∧
      plan.groups.keys = (plan.decisions.filterMap Decision.engine).eraseDups ∧
      (plan.skipped ++ plan.groups.flatMap Prod.snd).Perm rules := by
  intro registry rules
  have hshown : (route registry {} rules).2.toOption.map
      (fun plan => plan.groups.map fun g => (g.1, g.2.map Rule.id)) =
        some [("far", ["A", "B"]), ("near", ["C"])] := by decide +kernel
  cases hplan : (route registry {} rules).2 with
  | error f =>
    rw [hplan] at hshown
    cases hshown
  | ok plan =>
    rw [hplan] at hshown
    obtain ⟨-, hchooses, hkeys, -, -, hperm⟩ :=
      (route_eq_decisions registry {} rules).2 plan hplan
    exact ⟨plan, rfl, Option.some.inj hshown, hchooses, hkeys, hperm⟩

end Routing

end RuleAudit
