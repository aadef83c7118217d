import RuleAudit.Proofs.BatchedRuns
import RuleAudit.Proofs.Renewal

/-!
# Restricting the scanner

The settings of a scanner may list rules. Preparing the engine supports whatever is listed, and
taking over the rules of the catalog supports those with patterns, of which a list leaves the listed
ones. So without a list the scanner supports the rules with patterns, and with one it supports
exactly what is listed, be it a rule with patterns or not (`Engine.setUp_supports_listed`).
-/

namespace RuleAudit

/-- Some of the rules has a given identifier, in upper case, and brings patterns. -/
def BringsPatterns (rules : List Rule) (id : String) : Prop :=
  ∃ rule ∈ rules, rule.patterns ≠ [] ∧ Text.upper rule.id = id

namespace Engine

theorem mem_supportedRules {e : Engine} {id : String} : id ∈ e.supportedRules ↔ id ∈ e.supported :=
  List.mem_mergeSort

/-- A rule is taken over if it brings patterns and nothing is listed or it is. -/
def Adopts (listed : List String) (rule : Rule) : Prop :=
  rule.patterns ≠ [] ∧ (listed = [] ∨ rule.id ∈ listed)

theorem not_adopts_iff {listed : List String} {rule : Rule} :
    ¬ Adopts listed rule ↔
      (rule.patterns.isEmpty || (!listed.isEmpty && !listed.contains rule.id)) = true := by
  unfold Adopts
  simp only [Bool.or_eq_true, Bool.and_eq_true, Bool.not_eq_true', List.isEmpty_iff,
    ← Bool.not_eq_true, List.contains_iff_mem]
  tauto

/-- Taking over rules adds support for those that are taken over. -/
theorem mem_supported_adoptRules {listed : List String} {rules : List Rule} {e : Engine}
    {cache : Scan.Cache} (h : (adoptRules listed e cache rules).2.2 = .ok ()) {id : String} :
    id ∈ (adoptRules listed e cache rules).1.supported ↔
      id ∈ e.supported ∨ ∃ rule ∈ rules, Adopts listed rule ∧ Text.upper rule.id = id := by
  induction rules generalizing e cache with
  | nil =>
    show id ∈ e.supported ↔ _
    simp
  | cons rule rest ih =>
    unfold adoptRules at h ⊢
    split at h
    · rename_i hleft
      rw [if_pos hleft, ih h]
      simp [not_adopts_iff.mpr hleft]
    · rename_i htaken
      have hadopts : Adopts listed rule := not_not.mp fun hnot => htaken (not_adopts_iff.mp hnot)
      rw [if_neg htaken]
      split at h
      · cases h
      · rename_i hcompiled
        rw [ih h, mem_supported_support, or_assoc, eq_comm (a := id)]
        simp [hadopts]

/-- A new scanner that is set up has loaded its catalog and supports what is listed and what it has
taken over. -/
theorem mem_supported_setUp_scanner {tree : FileTree} {catalog : Catalog} {settings : Keyed Value}
    (h : ((scanner true).setUp tree catalog settings).2.2 = .ok ()) :
    ∃ listed loaded, listedRules settings = .ok listed ∧ catalog.load tree = .ok loaded ∧
      ∀ id, id ∈ ((scanner true).setUp tree catalog settings).2.1.supported ↔
        id ∈ listed.map Text.upper ∨
          ∃ rule ∈ loaded.rules, Adopts (listed.map Text.upper) rule ∧ Text.upper rule.id = id := by
  unfold setUp at h ⊢
  dsimp only [scanner] at h ⊢
  unfold prepare at h ⊢
  cases hlisted : listedRules settings with
  | error f =>
    rw [hlisted] at h
    cases h
  | ok listed =>
    rw [hlisted] at h
    dsimp only at h ⊢
    cases hload : catalog.load tree with
    | error f =>
      rw [hload] at h
      cases h
    | ok loaded =>
      rw [hload] at h
      refine ⟨listed, loaded, rfl, rfl, fun id => ?_⟩
      refine (mem_supported_adoptRules h).trans (or_congr_left ?_)
      exact mem_supported_supportAll.trans (by simp)

end Engine

/-- An engine that gets a rule supports it, or nobody does. -/
theorem Routing.Chooses.supports_or_nobody {registry : Registry} {settings : Settings} {rule : Rule}
    {d : Decision} (h : Chooses registry settings rule d) {id : String} (hid : d.engine = some id) :
    registry.Supports rule id ∨ registry.NoSupporter rule registry.ids := by
  cases hspecific : settings.engines.specificEngine with
  | some asked =>
    obtain ⟨-, hyes, hno⟩ := h.requested asked hspecific
    by_cases hsupports : registry.Supports rule asked
    · obtain rfl : asked = id := Option.some.inj ((hyes hsupports).symm.trans hid)
      exact .inl hsupports
    · rw [hno hsupports] at hid
      cases hid
  | none =>
    obtain ⟨engine, hengine, -, hpicks⟩ := h.auto hspecific
    obtain rfl : engine = id := Option.some.inj (hengine.symm.trans hid)
    generalize d.fallback = fallback at hpicks
    cases hpicks with
    | candidate first | supporter _ first =>
      obtain ⟨_, _, -, hsupports, -⟩ := first
      exact .inl hsupports
    | fallback _ nobody | oldest _ nobody => exact .inr nobody

namespace Engine

/-- Take a new scanner that has been set up with some settings, and the catalog that it has loaded.
With nothing listed it supports the rules of the catalog that bring patterns; with a list it
supports what is listed. So of the rules with patterns it supports all, or those that are listed,
and it supports no other rule exactly if every listed one brings patterns. A rule that is routed to
it is listed or brings patterns, unless no engine supports it. -/
theorem setUp_supports_listed {tree : FileTree} {catalog : Catalog} {settings : Keyed Value}
    (h : ((scanner true).setUp tree catalog settings).2.2 = .ok ()) :
    let e := ((scanner true).setUp tree catalog settings).2.1
    ∃ listed loaded, listedRules settings = .ok listed ∧ catalog.load tree = .ok loaded ∧
      (∀ id, id ∈ e.supportedRules ↔
        id ∈ listed.map Text.upper ∨ (listed = [] ∧ BringsPatterns loaded.rules id)) ∧
      (∀ rule ∈ loaded.rules, rule.patterns ≠ [] →
        (e.supports rule.id = true ↔ listed = [] ∨ Text.upper rule.id ∈ listed.map Text.upper)) ∧
      ((∀ id ∈ e.supportedRules, BringsPatterns loaded.rules id) ↔
        ∀ id ∈ listed.map Text.upper, BringsPatterns loaded.rules id) ∧
      ∀ (registry : Registry) (routing : Settings) (rule : Rule) (d : Decision),
        registry.get? e.id = some e → Routing.decide registry routing rule = .ok d →
        d.engine = some e.id →
        Text.upper rule.id ∈ listed.map Text.upper ∨
          BringsPatterns loaded.rules (Text.upper rule.id) ∨
          registry.NoSupporter rule registry.ids := by
  intro e
  obtain ⟨listed, loaded, hlisted, hload, hadopted⟩ := mem_supported_setUp_scanner h
  have hsupported : ∀ id, id ∈ e.supported ↔
      id ∈ listed.map Text.upper ∨ (listed = [] ∧ BringsPatterns loaded.rules id) := by
    intro id
    rw [hadopted id]
    constructor
    · rintro (hnamed | ⟨rule, hrule, ⟨hpatterns, hall | hnamed⟩, rfl⟩)
      · exact .inl hnamed
      · exact .inr ⟨List.map_eq_nil_iff.mp hall, rule, hrule, hpatterns, rfl⟩
      · -- a rule that is taken over because it is listed is supported already
        obtain ⟨raw, hraw, heq⟩ := List.mem_map.mp hnamed
        rw [← heq, Text.upper_upper]
        exact .inl (List.mem_map_of_mem hraw)
    · rintro (hnamed | ⟨rfl, rule, hrule, hpatterns, rfl⟩)
      · exact .inl hnamed
      · exact .inr ⟨rule, hrule, ⟨hpatterns, .inl rfl⟩, rfl⟩
  refine ⟨listed, loaded, hlisted, hload, fun id => ?_, fun rule hrule hpatterns => ?_, ?_, ?_⟩
  · rw [mem_supportedRules, hsupported]
  · show e.supported.contains _ = true ↔ _
    rw [List.contains_iff_mem, hsupported]
    constructor
    · rintro (hnamed | ⟨hall, -⟩)
      · exact .inr hnamed
      · exact .inl hall
    · rintro (hall | hnamed)
      · exact .inr ⟨hall, rule, hrule, hpatterns, rfl⟩
      · exact .inl hnamed
  · constructor
    · intro honly id hid
      exact honly id (mem_supportedRules.mpr ((hsupported id).mpr (.inl hid)))
    · intro hnamed id hid
      obtain hin | ⟨-, hbrings⟩ := (hsupported id).mp (mem_supportedRules.mp hid)
      · exact hnamed id hin
      · exact hbrings
  · intro registry routing rule d hget hdecide hengine
    obtain ⟨holder, hholder, hsupports⟩ | hnobody :=
      (Routing.chooses_of_decide hdecide).supports_or_nobody hengine
    · obtain rfl : e = holder := Option.some.inj (hget.symm.trans hholder)
      obtain hnamed | ⟨-, hbrings⟩ := (hsupported _).mp hsupports
      · exact .inl hnamed
      · exact .inr (.inl hbrings)
    · exact .inr (.inr hnobody)

/-- A list names a rule with patterns, one without and one that the catalog does not have. -/
theorem setUp_supports_listed_three :
    let catalog := Catalog.ofRules [{ id := "A", patterns := ["a"] }, { id := "B" }]
    let settings : Keyed Value := [("rules", .texts ["a", "b", "zz"])]
    let e := ((scanner true).setUp [] catalog settings).2.1
    ((scanner true).setUp [] catalog settings).2.2 = .ok () ∧
      (∀ id, id ∈ e.supportedRules ↔ id = "A" ∨ id = "B" ∨ id = "ZZ") ∧
      (∀ id ∈ ["B", "ZZ"], ¬ BringsPatterns catalog.rules id) ∧
      ¬ ∀ id ∈ e.supportedRules, BringsPatterns catalog.rules id := by
  intro catalog settings e
  have hset : ((scanner true).setUp [] catalog settings).2.2.toBool = true := by decide +kernel
  have hok : ((scanner true).setUp [] catalog settings).2.2 = .ok () := by
    cases hresult : ((scanner true).setUp [] catalog settings).2.2 with
    | error f =>
      rw [hresult] at hset
      cases hset
    | ok _ => rfl
  obtain ⟨listed, loaded, hlisted, hload, hsupported, -, honly, -⟩ := setUp_supports_listed hok
  obtain rfl : ["a", "b", "zz"] = listed := Except.ok.inj hlisted
  obtain rfl : catalog = loaded := Except.ok.inj hload
  have hbare : ∀ id ∈ ["B", "ZZ"], ¬ BringsPatterns catalog.rules id := by
    have hrules : ∀ rule ∈ catalog.rules, rule.patterns ≠ [] →
        Text.upper rule.id ∉ ["B", "ZZ"] := by decide +kernel
    rintro id hid ⟨rule, hrule, hpatterns, rfl⟩
    exact hrules rule hrule hpatterns hid
  have hnamed : ["a", "b", "zz"].map Text.upper = ["A", "B", "ZZ"] := by decide +kernel
  rw [hnamed] at hsupported honly
  refine ⟨hok, fun id => ?_, hbare, fun hall => ?_⟩
  · rw [hsupported]
    simp
  · exact hbare "ZZ" (by simp) (honly.mp hall "ZZ" (by simp))

end Engine

end RuleAudit
