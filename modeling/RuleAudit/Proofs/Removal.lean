import RuleAudit.Proofs.Decision
import RuleAudit.Proofs.Registration

/-!
# Losing an engine

An engine that cannot be set up is removed from its registry. The others keep their order and what
they support, so every search of a decision that did not find the lost engine finds what it found
before (`Registry.FirstSupporter.remove`, `Registry.NoSupporter.remove`), and an engine of last
resort that was not the lost one still is (`Routing.lastResort_remove`). Only the rules of the lost
engine move: `Routing.route_remove`.
-/

namespace RuleAudit

/-! ## The engines that are left -/

namespace Registry

variable {registry : Registry} {rule : Rule} {ids : List String} {id engine : String}

theorem Supports.of_remove (h : (registry.remove id).Supports rule engine) :
    registry.Supports rule engine ∧ engine ≠ id := by
  obtain ⟨e, he, hrule⟩ := h
  have hne : engine ≠ id := by
    rintro rfl
    rw [get?_remove_self] at he
    cases he
  rw [get?_remove_ne registry hne] at he
  exact ⟨⟨e, he, hrule⟩, hne⟩

theorem Supports.remove (h : registry.Supports rule engine) (hne : engine ≠ id) :
    (registry.remove id).Supports rule engine := by
  obtain ⟨e, he, hrule⟩ := h
  rw [← get?_remove_ne registry hne] at he
  exact ⟨e, he, hrule⟩

/-- The first supporter among some engines stays the first when another engine is lost, even if the
lost one stood before it. -/
theorem FirstSupporter.remove (h : registry.FirstSupporter rule ids engine) (hne : engine ≠ id) :
    (registry.remove id).FirstSupporter rule ids engine := by
  obtain ⟨before, after, hids, hsupports, hbefore⟩ := h
  refine ⟨before, after, hids, hsupports.remove hne, fun other hother hsupported => ?_⟩
  exact hbefore other hother hsupported.of_remove.1

theorem FirstSupporter.filter (h : registry.FirstSupporter rule ids engine)
    (keeps : String → Bool) (hkeeps : keeps engine = true) :
    registry.FirstSupporter rule (ids.filter keeps) engine := by
  obtain ⟨before, after, rfl, hsupports, hbefore⟩ := h
  refine ⟨before.filter keeps, after.filter keeps, ?_, hsupports, fun other hother => ?_⟩
  · rw [List.filter_append, List.filter_cons_of_pos hkeeps]
  · exact hbefore other (List.mem_filter.mp hother).1

theorem NoSupporter.remove (h : registry.NoSupporter rule ids) (id : String) :
    (registry.remove id).NoSupporter rule ids :=
  fun other hother hsupported => h other hother hsupported.of_remove.1

theorem NoSupporter.filter (h : registry.NoSupporter rule ids) (keeps : String → Bool) :
    registry.NoSupporter rule (ids.filter keeps) :=
  fun other hother => h other (List.mem_filter.mp hother).1

/-- A registered engine whose set-up fails in the ordinary way is lost, and nothing else changes. -/
theorem setUp_eq_remove (hid : id ∈ registry.ids) {tree : FileTree} {catalog : Catalog}
    {settings : Keyed Value} {f : Fault} (hf : f.isOrdinary = true)
    (h : (registry.setUp tree catalog id settings).2.2 = .error f) :
    (registry.setUp tree catalog id settings).2.1 = registry.remove id := by
  unfold Registry.setUp at h ⊢
  split at h
  · rename_i habsent
    exact absurd hid (Keyed.get?_eq_none_iff.mp habsent)
  · split at h
    · cases h
    · split at h
      · rename_i hordinary
        rw [if_pos hordinary]
      · rename_i hordinary
        cases h
        exact absurd hf hordinary

end Registry

/-! ## Decisions -/

namespace Routing

variable {registry : Registry} {settings : Settings} {rule : Rule} {id : String}

/-- An engine of last resort that is not lost stays the engine of last resort. -/
theorem lastResort_remove {engine : String} (h : lastResort registry settings = .ok engine)
    (hne : engine ≠ id) : lastResort (registry.remove id) settings = .ok engine := by
  rcases lastResort_cases registry settings with
    ⟨heq, hpresent⟩ | ⟨habsent, ⟨first, later, hids, heq⟩ | ⟨-, heq⟩⟩
  · -- the fallback engine is not the lost one
    obtain rfl : settings.engines.fallbackEngine = engine := Except.ok.inj (heq.symm.trans h)
    rw [← Registry.get?_remove_ne registry hne] at hpresent
    rcases lastResort_cases (registry.remove id) settings with ⟨heq', -⟩ | ⟨habsent', -⟩
    · exact heq'
    · rw [habsent'] at hpresent
      cases hpresent
  · -- the engine registered first is not the lost one
    obtain rfl : first = engine := Except.ok.inj (heq.symm.trans h)
    have hids' : (registry.remove id).ids = first :: later.filter fun other => !(other == id) := by
      rw [Registry.ids_remove, hids, List.filter_cons_of_pos (by simpa using hne)]
    have habsent' : (registry.remove id).get? settings.engines.fallbackEngine = none := by
      by_cases hfallback : settings.engines.fallbackEngine = id
      · rw [hfallback, Registry.get?_remove_self]
      · rw [Registry.get?_remove_ne registry hfallback, habsent]
    rcases lastResort_cases (registry.remove id) settings with
      ⟨-, hpresent⟩ | ⟨-, ⟨other, rest, hother, heq'⟩ | ⟨hnil, -⟩⟩
    · rw [habsent'] at hpresent
      cases hpresent
    · rw [hids'] at hother
      rw [heq', (List.cons.inj hother).1]
    · rw [hids'] at hnil
      cases hnil
  · rw [heq] at h
    cases h

/-- A rule that is skipped, or goes to an engine that is not lost, is decided as before. -/
theorem decide_remove {d : Decision} (h : decide registry settings rule = .ok d)
    (hne : d.engine ≠ some id) : decide (registry.remove id) settings rule = .ok d := by
  unfold decide at h ⊢
  generalize preference settings rule = named at h ⊢
  obtain ⟨candidates, source⟩ := named
  dsimp only at h ⊢
  cases hcandidate : candidates.find? fun other => registry.supports other rule.id with
  | some engine =>
    rw [hcandidate] at h
    obtain rfl := Except.ok.inj h
    have hkept : engine ≠ id := fun heq => hne (congrArg some heq)
    have hfirst := (Registry.find?_eq_some_iff.mp hcandidate).remove hkept
    rw [Registry.find?_eq_some_iff.mpr hfirst]
  | none =>
    have hothers := Registry.find?_eq_none_iff.mp hcandidate
    rw [hcandidate] at h
    rw [Registry.find?_eq_none_iff.mpr (hothers.remove id)]
    dsimp only at h ⊢
    by_cases hasked : (source == Preference.requested) = true
    · rw [if_pos hasked] at h ⊢
      exact h
    · rw [if_neg hasked] at h ⊢
      cases hfound : registry.ids.find? fun other => registry.supports other rule.id with
      | some engine =>
        rw [hfound] at h
        obtain rfl := Except.ok.inj h
        have hkept : engine ≠ id := fun heq => hne (congrArg some heq)
        have hfirst := ((Registry.find?_eq_some_iff.mp hfound).remove hkept).filter
          (fun other => !(other == id)) (by simpa using hkept)
        rw [Registry.ids_remove, Registry.find?_eq_some_iff.mpr hfirst]
      | none =>
        have hnobody := ((Registry.find?_eq_none_iff.mp hfound).remove id).filter
          fun other => !(other == id)
        rw [hfound] at h
        rw [Registry.ids_remove, Registry.find?_eq_none_iff.mpr hnobody]
        obtain ⟨engine, hengine, rfl⟩ := exists_of_map_eq_ok h
        have hkept : engine ≠ id := fun heq => hne (congrArg some heq)
        dsimp only
        rw [lastResort_remove hengine hkept]
        rfl

/-- No rule goes to an engine that is lost. -/
theorem engine_ne_of_decide_remove {d : Decision}
    (h : decide (registry.remove id) settings rule = .ok d) : d.engine ≠ some id := by
  intro hengine
  have hpresent := (chooses_of_decide h).isSome_get? hengine
  rw [Registry.get?_remove_self] at hpresent
  cases hpresent

theorem engineOf_remove (hid : id ∈ registry.ids) {target : Option String}
    (h : engineOf registry settings rule = target) (hne : target ≠ some id) :
    engineOf (registry.remove id) settings rule = target := by
  unfold engineOf at h ⊢
  cases hd : decide registry settings rule with
  | error f =>
    obtain ⟨-, -, hnil⟩ := decide_eq_error_iff.mp hd
    rw [hnil] at hid
    cases hid
  | ok d =>
    rw [hd] at h
    dsimp only at h
    subst h
    rw [decide_remove hd hne]

/-! ## Plans -/

/-- What the rules of a plan have come to after an engine is lost: its own rules move, the others
are decided as before. -/
def Decision.Moves (id : String) (before after : Decision) : Prop :=
  (before.engine ≠ some id → after = before) ∧ after.engine ≠ some id

theorem forall₂_moves {rules : List Rule} {before after : List Decision}
    (hbefore : before.map Except.ok = rules.map (decide registry settings))
    (hafter : after.map Except.ok = rules.map (decide (registry.remove id) settings)) :
    List.Forall₂ (Decision.Moves id) before after := by
  induction rules generalizing before after with
  | nil =>
    obtain rfl := List.map_eq_nil_iff.mp hbefore
    obtain rfl := List.map_eq_nil_iff.mp hafter
    exact .nil
  | cons rule rest ih =>
    obtain ⟨d, later, rfl, hd, hlater⟩ := List.map_eq_cons_iff.mp hbefore
    obtain ⟨d', later', rfl, hd', hlater'⟩ := List.map_eq_cons_iff.mp hafter
    refine .cons ⟨fun hne => ?_, engine_ne_of_decide_remove hd'.symm⟩ (ih hlater hlater')
    exact Except.ok.inj (hd'.trans (decide_remove hd.symm hne))

/-- Rules with one place keep it, so a place that is not the lost engine's loses no rule. -/
theorem filter_engineOf_sublist (hid : id ∈ registry.ids) {target : Option String}
    (hne : target ≠ some id) (rules : List Rule) :
    (rules.filter fun rule => engineOf registry settings rule == target).Sublist
      (rules.filter fun rule => engineOf (registry.remove id) settings rule == target) := by
  refine List.monotone_filter_right rules fun rule hrule => ?_
  simp only [beq_iff_eq] at hrule ⊢
  exact engineOf_remove hid hrule hne

/-- Losing a registered engine, as a failed set-up does, moves its own rules only.

Every other rule that could be decided is decided as before, whatever the policy or stage that
decided it. Of two plans for the same rules, before and after the loss, the decisions agree one by
one except for the rules of the lost engine, which is named no more; what is skipped and what each
other engine gets can only grow. There is no plan after the loss only where every rule went to the
lost engine. -/
theorem route_remove {registry : Registry} {id : String} (hid : id ∈ registry.ids)
    (settings : Settings) (rules : List Rule) :
    (∀ rule d, decide registry settings rule = .ok d → d.engine ≠ some id →
      decide (registry.remove id) settings rule = .ok d) ∧
    (∃ plan, (route registry settings rules).2 = .ok plan ∧
      plan.decisions.map Except.ok = rules.map (decide registry settings) ∧
      match (route (registry.remove id) settings rules).2 with
      | .ok left =>
        List.Forall₂ (Decision.Moves id) plan.decisions left.decisions ∧
          plan.skipped.Sublist left.skipped ∧
          ∀ engine ≠ id, ((plan.groups.get? engine).getD []).Sublist
            ((left.groups.get? engine).getD [])
      | .error _ => ∀ d ∈ plan.decisions, d.engine = some id) ∧
    ∀ tree catalog conf f, (registry.setUp tree catalog id conf).2.2 = .error f →
      f.isOrdinary = true →
      (registry.setUp tree catalog id conf).2.1 = registry.remove id := by
  refine ⟨fun rule d hd hne => decide_remove hd hne, ?_,
    fun tree catalog conf f hf hordinary => Registry.setUp_eq_remove hid hordinary hf⟩
  have hsome : registry.isEmpty = false := by
    cases hentries : registry.entries with
    | nil =>
      rw [Registry.ids, hentries] at hid
      cases hid
    | cons entry rest =>
      rw [Registry.isEmpty, hentries]
      rfl
  obtain ⟨plan, hplan⟩ := exists_route_eq_ok hsome settings rules
  have hdecisions : plan.decisions.map Except.ok = rules.map (decide registry settings) :=
    decisions_routeFrom hplan
  refine ⟨plan, hplan, hdecisions, ?_⟩
  split
  · rename_i left hleft
    have htakes := takes_route hplan
    have htakes' := takes_route hleft
    refine ⟨forall₂_moves hdecisions (decisions_routeFrom hleft), ?_, fun engine hengine => ?_⟩
    · rw [htakes.skipped, htakes'.skipped, List.nil_append, List.nil_append]
      exact filter_engineOf_sublist hid (by simp) rules
    · rw [htakes.groups, htakes'.groups, Keyed.get?_nil, Option.getD_none, List.nil_append,
        List.nil_append]
      exact filter_engineOf_sublist hid (by simpa using hengine) rules
  · rename_i f hf
    obtain ⟨hfault, hauto, hnil, -⟩ := routeFrom_eq_error_iff.mp hf
    intro d hd
    by_contra hne
    have hmem : (Except.ok d : Except Fault Decision) ∈ rules.map (decide registry settings) := by
      rw [← hdecisions]
      exact List.mem_map_of_mem hd
    obtain ⟨rule, -, hrule⟩ := List.mem_map.mp hmem
    -- the rule would still be decided, but with nobody left none is
    have hleft := decide_remove hrule hne
    have herror : decide (registry.remove id) settings rule = .error f :=
      decide_eq_error_iff.mpr ⟨hfault, hauto, hnil⟩
    rw [hleft] at herror
    cases herror

/-- With the first engine lost, the rule that the scan of the registry had placed elsewhere and the
rule of the fallback engine stay; the rule that only the lost engine supported moves. -/
theorem route_remove_first :
    let registry : Registry :=
      { entries := [("first", idleEngine "first" ["a"]), ("second", idleEngine "second" ["b"]),
          ("third", idleEngine "third" [])] }
    let settings : Settings := { engines := { fallbackEngine := "third" } }
    let rules : List Rule := [{ id := "A" }, { id := "B" }, { id := "C" }]
    "first" ∈ registry.ids ∧
      ∃ plan left, (route registry settings rules).2 = .ok plan ∧
        (route (registry.remove "first") settings rules).2 = .ok left ∧
        plan.decisions.map Decision.engine = [some "first", some "second", some "third"] ∧
        left.decisions.map Decision.engine = [some "third", some "second", some "third"] ∧
        List.Forall₂ (Decision.Moves "first") plan.decisions left.decisions := by
  intro registry settings rules
  have hid : "first" ∈ registry.ids := by decide
  obtain ⟨-, ⟨plan, hplan, -, hleft⟩, -⟩ := route_remove hid settings rules
  have hshown : (route registry settings rules).2.toOption.map
      (fun p => p.decisions.map Decision.engine) =
        some [some "first", some "second", some "third"] := by decide +kernel
  have hshown' : (route (registry.remove "first") settings rules).2.toOption.map
      (fun p => p.decisions.map Decision.engine) =
        some [some "third", some "second", some "third"] := by decide +kernel
  rw [hplan] at hshown
  cases hroute : (route (registry.remove "first") settings rules).2 with
  | error f =>
    rw [hroute] at hshown'
    cases hshown'
  | ok left =>
    rw [hroute] at hshown' hleft
    exact ⟨hid, plan, left, hplan, rfl, Option.some.inj hshown, Option.some.inj hshown', hleft.1⟩

end Routing

end RuleAudit
