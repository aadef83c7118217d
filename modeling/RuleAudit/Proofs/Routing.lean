import RuleAudit.Proofs.Resolution

/-!
# Where rules go

A plan takes rules one by one. `Plan.Takes` says what a plan has become after some rules: each
engine has got those that are decided for it, in order, and the others are skipped (`takes_route`).
No rule is lost or placed twice. With an engine at hand every rule can be placed
(`exists_route_eq_ok`).
-/

namespace RuleAudit

/-- A plan before and after rules have been placed in it. -/
structure Plan.Takes (registry : Registry) (settings : Settings) (before : Plan) (rules : List Rule)
    (after : Plan) : Prop where
  skipped : after.skipped = before.skipped ++
    rules.filter fun rule => Routing.engineOf registry settings rule == none
  groups : ∀ engine, (after.groups.get? engine).getD [] = (before.groups.get? engine).getD [] ++
    rules.filter fun rule => Routing.engineOf registry settings rule == some engine
  nodup : before.groups.keys.Nodup → after.groups.keys.Nodup
  perm : (after.skipped ++ after.groups.flatMap Prod.snd).Perm
    (before.skipped ++ before.groups.flatMap Prod.snd ++ rules)

namespace Plan.Takes

variable {registry : Registry} {settings : Settings}

theorem nil (plan : Plan) : plan.Takes registry settings [] plan :=
  ⟨by simp, by simp, id, by simp⟩

theorem cons {before mid after : Plan} {rule : Rule} {rest : List Rule}
    (hfirst : before.Takes registry settings [rule] mid)
    (hrest : mid.Takes registry settings rest after) :
    before.Takes registry settings (rule :: rest) after := by
  refine ⟨?_, ?_, fun h => hrest.nodup (hfirst.nodup h), ?_⟩
  · rw [hrest.skipped, hfirst.skipped, List.append_assoc, ← List.filter_append]
    rfl
  · intro engine
    rw [hrest.groups, hfirst.groups, List.append_assoc, ← List.filter_append]
    rfl
  · refine hrest.perm.trans ?_
    refine (hfirst.perm.append_right rest).trans ?_
    rw [List.append_assoc _ [rule], List.singleton_append]

/-- One rule goes where it is decided for. -/
theorem place (plan : Plan) {rule : Rule} {d : Decision}
    (h : Routing.decide registry settings rule = .ok d) :
    plan.Takes registry settings [rule] (plan.place rule d) := by
  have hengine : Routing.engineOf registry settings rule = d.engine := by
    rw [Routing.engineOf, h]
  unfold Plan.place
  cases hd : d.engine with
  | none =>
    rw [hd] at hengine
    refine ⟨by simp [hengine], by simp [hengine], id, ?_⟩
    dsimp only
    rw [List.append_assoc, List.append_assoc]
    exact (List.perm_append_comm).append_left plan.skipped
  | some engine =>
    rw [hd] at hengine
    refine ⟨by simp [hengine], ?_, fun hnodup => Keyed.nodup_keys_put hnodup _ _, ?_⟩
    · intro other
      dsimp only
      by_cases hother : other = engine
      · subst hother
        simp [hengine]
      · rw [Keyed.get?_alter_ne _ _ _ hother]
        simp [hengine, Ne.symm hother]
    · dsimp only
      rw [List.append_assoc]
      exact (Keyed.flatMap_alter_perm plan.groups engine rule).append_left plan.skipped

/-- The identifiers of an engine's group are those of the rules decided for it. -/
theorem filter_groups {rules : List Rule} {after : Plan}
    (h : Takes registry settings {} rules after) (engine : String) :
    (after.groups.filter fun g => g.1 == engine).flatMap (fun g => g.2.map Rule.id) =
      (rules.filter fun rule => Routing.engineOf registry settings rule == some engine).map
        Rule.id := by
  have hgroup : (after.groups.get? engine).getD [] = _ := h.groups engine
  rw [Keyed.get?_nil, Option.getD_none, List.nil_append] at hgroup
  rw [Keyed.filter_key (h.nodup List.nodup_nil) engine, ← hgroup]
  cases after.groups.get? engine with
  | none => rfl
  | some group => exact List.append_nil _

/-- Skipped or in a group: every identifier once. -/
theorem ids_perm {rules : List Rule} {after : Plan} (h : Takes registry settings {} rules after) :
    (after.skippedIds ++ after.groups.flatMap fun g => g.2.map Rule.id).Perm
      (rules.map Rule.id) := by
  have hperm := h.perm.map Rule.id
  rwa [List.map_append, List.map_flatMap] at hperm

end Plan.Takes

namespace Routing

variable {registry : Registry} {settings : Settings}

/-- A plan that has been made has taken all the rules. -/
theorem takes_routeFrom {plan after : Plan} {rules : List Rule}
    (h : (routeFrom registry settings plan rules).2 = .ok after) :
    plan.Takes registry settings rules after := by
  induction rules generalizing plan with
  | nil =>
    cases h
    exact .nil _
  | cons rule rest ih =>
    unfold routeFrom at h
    split at h
    · cases h
    · rename_i d hd
      exact .cons (.place plan hd) (ih h)

/-- What the plan for rules says: which rules each engine gets and which go nowhere. -/
theorem takes_route {after : Plan} {rules : List Rule}
    (h : (route registry settings rules).2 = .ok after) :
    Plan.Takes registry settings {} rules after :=
  takes_routeFrom h

/-! ## Placing every rule -/

theorem exists_lastResort_eq_ok (h : registry.isEmpty = false) (settings : Settings) :
    ∃ engine, lastResort registry settings = .ok engine := by
  unfold lastResort
  split
  · exact ⟨_, rfl⟩
  · split
    · exact ⟨_, rfl⟩
    · rename_i hids
      have hentries : registry.entries = [] := List.map_eq_nil_iff.mp hids
      rw [Registry.isEmpty, hentries] at h
      cases h

theorem exists_decide_eq_ok (h : registry.isEmpty = false) (settings : Settings) (rule : Rule) :
    ∃ d, decide registry settings rule = .ok d := by
  obtain ⟨engine, hengine⟩ := exists_lastResort_eq_ok h settings
  unfold decide
  dsimp only
  split
  · exact ⟨_, rfl⟩
  · split
    · exact ⟨_, rfl⟩
    · split
      · exact ⟨_, rfl⟩
      · rw [hengine]
        exact ⟨_, rfl⟩

/-- With an engine at hand every rule can be placed. -/
theorem exists_route_eq_ok (h : registry.isEmpty = false) (settings : Settings)
    (rules : List Rule) : ∃ plan, (route registry settings rules).2 = .ok plan := by
  unfold route
  generalize ({} : Plan) = plan
  induction rules generalizing plan with
  | nil => exact ⟨plan, rfl⟩
  | cons rule rest ih =>
    obtain ⟨d, hd⟩ := exists_decide_eq_ok h settings rule
    unfold routeFrom
    rw [hd]
    exact ih (plan.place rule d)

/-- Where rules go depends on the order of the engines, on which there are, and on the rules they
support. -/
theorem route_congr {r r' : Registry} (hids : r'.ids = r.ids) (hsupports : r'.supports = r.supports)
    (hhas : ∀ id, r'.entries.has id = r.entries.has id) (settings : Settings)
    (rules : List Rule) : route r' settings rules = route r settings rules := by
  have hdecide : ∀ rule, decide r' settings rule = decide r settings rule := by
    intro rule
    have hlast : lastResort r' settings = lastResort r settings := by
      unfold lastResort
      rw [hhas, hids]
    unfold decide
    rw [hsupports, hids, hlast]
  unfold route
  generalize ({} : Plan) = plan
  induction rules generalizing plan with
  | nil => rfl
  | cons rule rest ih =>
    unfold routeFrom
    rw [hdecide]
    split
    · rfl
    · rw [ih]

end Routing

end RuleAudit
