import RuleAudit.Proofs.CatalogHistory
import RuleAudit.Proofs.Resolution

/-!
# Two resolvers of identifiers

A catalog resolves identifiers to its rules, and an auditor resolves rule inputs, of which some are
rules themselves. Both pass over blank and repeated identifiers in the same way
(`map_inputKey_distinctInputs`), so on identifiers alone the auditor's resolution is that of the
catalog, with the rules that the settings disable taken out. On mixed inputs it is the resolution of
the inputs that come first with their identifiers (`firstInputs_eq`), and whatever comes later with
such an identifier changes nothing (`distinctInputs_append_cons`).
-/

namespace RuleAudit.Auditor

/-- The resolution that finds some rules, which the settings enable or disable, and finds none for
some keys. -/
def Resolution.ofFound (settings : Settings) (found : List Rule) (unknown : List String) :
    Resolution where
  rules := found.filter fun rule => settings.ruleEnabled rule.id
  unknown := unknown
  disabled := (found.filter fun rule => !settings.ruleEnabled rule.id).map Rule.id

variable (settings : Settings) (catalog : Catalog)

theorem foldl_add_eq (items : List RuleInput) (res : Resolution) :
    let added := Resolution.ofFound settings (items.filterMap (inputRule catalog))
      ((items.filter fun item => (inputRule catalog item).isNone).map inputKey)
    items.foldl (Resolution.add settings catalog) res =
      { rules := res.rules ++ added.rules
        unknown := res.unknown ++ added.unknown
        disabled := res.disabled ++ added.disabled } := by
  intro added
  induction items generalizing res with
  | nil => simp [added, Resolution.ofFound]
  | cons item rest ih =>
    rw [List.foldl_cons, ih, Resolution.add]
    cases hrule : inputRule catalog item with
    | none => simp [added, Resolution.ofFound, hrule]
    | some rule =>
      cases henabled : settings.ruleEnabled rule.id <;>
        simp [added, Resolution.ofFound, hrule, henabled]

theorem resolveRules_eq_ofFound (inputs : List RuleInput) :
    resolveRules settings catalog inputs =
      .ofFound settings ((distinctInputs [] inputs).filterMap (inputRule catalog))
        (((distinctInputs [] inputs).filter fun item =>
          (inputRule catalog item).isNone).map inputKey) := by
  rw [resolveRules, foldl_add_eq]
  rfl

/-! ## Identifiers alone -/

theorem map_inputKey_distinctInputs (seen ids : List String) :
    (distinctInputs seen (ids.map .id)).map inputKey = Catalog.distinctIds seen ids := by
  induction ids generalizing seen with
  | nil => rfl
  | cons raw rest ih =>
    have hkey : inputKey (.id raw) = Rule.normalizeId raw := rfl
    rw [List.map_cons, distinctInputs, Catalog.distinctIds, hkey]
    split
    · exact ih seen
    · rw [List.map_cons, ih, hkey]

variable {catalog}

/-- An identifier that is taken comes to the rule that the catalog finds for it. -/
theorem inputRule_of_mem_distinctInputs (h : catalog.isLoaded = true) {ids : List String}
    {item : RuleInput} (hitem : item ∈ distinctInputs [] (ids.map .id)) :
    inputRule catalog item = catalog.find? (inputKey item) := by
  obtain ⟨raw, -, rfl⟩ := List.mem_map.mp (key_of_mem_distinctInputs hitem).1
  exact if_pos h

/-- The auditor finds for identifiers what the catalog finds. -/
theorem resolveRules_ids (h : catalog.isLoaded = true) (ids : List String) :
    resolveRules settings catalog (ids.map .id) =
      .ofFound settings (catalog.resolve ids).1 (catalog.resolve ids).2 := by
  have hfound : (distinctInputs [] (ids.map .id)).filterMap (inputRule catalog) =
      (catalog.resolve ids).1 := by
    rw [Catalog.resolve, ← map_inputKey_distinctInputs, List.filterMap_map]
    exact List.filterMap_congr fun item hitem => inputRule_of_mem_distinctInputs h hitem
  have hunknown : ((distinctInputs [] (ids.map .id)).filter fun item =>
      (inputRule catalog item).isNone).map inputKey = (catalog.resolve ids).2 := by
    rw [Catalog.resolve, ← map_inputKey_distinctInputs, List.filter_map]
    congr 1
    refine List.filter_congr fun item hitem => ?_
    rw [inputRule_of_mem_distinctInputs h hitem]
    rfl
  rw [resolveRules_eq_ofFound, hfound, hunknown]

/-! ## Mixed inputs -/

/-- For each identifier, in first-seen order, the first input that has it. -/
def firstInputs (inputs : List RuleInput) : List RuleInput :=
  (firstSeen inputs).filterMap fun key => inputs.find? fun item => item.key == key

/-- The inputs that are taken are the first with their identifiers. -/
theorem firstInputs_eq {inputs : List RuleInput} (h : ∀ item ∈ inputs, item.Normal) :
    firstInputs inputs = distinctInputs [] inputs := by
  have hfirst : ∀ item ∈ distinctInputs [] inputs,
      inputs.find? (fun other => other.key == inputKey item) = some item := by
    intro item hitem
    rw [← find?_of_mem_distinctInputs hitem]
    refine List.find?_congr fun other hother => ?_
    rw [inputKey_eq_key (h other hother)]
  rw [firstInputs, firstSeen_eq h, List.filterMap_map]
  exact (List.filterMap_congr hfirst).trans List.filterMap_some

/-- An input is passed over if it is blank or its key has come before. -/
theorem distinctInputs_append_cons {seen : List String} {before : List RuleInput} {item : RuleInput}
    (h : inputKey item = "" ∨ inputKey item ∈ seen ∨ inputKey item ∈ before.map inputKey)
    (after : List RuleInput) :
    distinctInputs seen (before ++ item :: after) = distinctInputs seen (before ++ after) := by
  induction before generalizing seen with
  | nil =>
    have hskip : ((inputKey item).isEmpty || seen.contains (inputKey item)) = true := by
      simpa [or_assoc] using h
    rw [List.nil_append, List.nil_append, distinctInputs]
    exact if_pos hskip
  | cons first rest ih =>
    rw [List.map_cons, List.mem_cons] at h
    rw [List.cons_append, List.cons_append, distinctInputs, distinctInputs]
    split
    · -- an input that is passed over is blank or seen, and so is one with its key
      rename_i hskip
      have hfirst : inputKey first = "" ∨ inputKey first ∈ seen := by simpa using hskip
      refine ih ?_
      rcases h with hblank | hseen | hsame | hrest
      · exact .inl hblank
      · exact .inr (.inl hseen)
      · exact hsame ▸ hfirst.imp_right .inl
      · exact .inr (.inr hrest)
    · refine congrArg (first :: ·) (ih ?_)
      rcases h with hblank | hseen | hsame | hrest
      · exact .inl hblank
      · exact .inr (.inl (List.mem_cons_of_mem _ hseen))
      · exact .inr (.inl (hsame ▸ List.mem_cons_self))
      · exact .inr (.inr hrest)

/-! ## Agreement -/

/-- On identifiers alone the auditor's resolution is that of the catalog: the rules found and
enabled, the identifiers without a rule, and the identifiers of the rules found and disabled, each in
the catalog's order. Where some inputs are rules, the first input with an identifier decides which
rule is meant, and what comes later with that identifier, as a rule or not, changes nothing. -/
theorem resolveRules_agrees (h : catalog.isLoaded = true) :
    (∀ tree ids, ∃ found unknown,
      catalog.ask tree (.resolve ids) = (catalog, .ok (.resolved found unknown)) ∧
      resolveRules settings catalog (ids.map .id) = .ofFound settings found unknown) ∧
    ∀ inputs, (∀ item ∈ inputs, item.Normal) →
      resolveRules settings catalog inputs =
        .ofFound settings ((firstInputs inputs).filterMap (inputRule catalog))
          (((firstInputs inputs).filter fun item =>
            (inputRule catalog item).isNone).map RuleInput.key) ∧
      ∀ before item after, inputs = before ++ item :: after → item.key ∈ before.map RuleInput.key →
        resolveRules settings catalog inputs = resolveRules settings catalog (before ++ after) := by
  refine ⟨fun tree ids => ?_, fun inputs hnormal => ⟨?_, ?_⟩⟩
  · exact ⟨_, _, Catalog.ask_of_isLoaded h tree (.resolve ids), resolveRules_ids settings h ids⟩
  · have hkeys : ∀ p : RuleInput → Bool, ((distinctInputs [] inputs).filter p).map RuleInput.key =
        ((distinctInputs [] inputs).filter p).map inputKey := by
      refine fun p => List.map_congr_left fun item hitem => ?_
      have hmem := (key_of_mem_distinctInputs (List.mem_of_mem_filter hitem)).1
      exact (inputKey_eq_key (hnormal item hmem)).symm
    rw [resolveRules_eq_ofFound, firstInputs_eq hnormal, hkeys]
  · rintro before item after rfl hkey
    have hkeys : before.map RuleInput.key = before.map inputKey :=
      List.map_congr_left fun earlier hearlier =>
        (inputKey_eq_key (hnormal earlier (List.mem_append_left _ hearlier))).symm
    rw [hkeys, ← inputKey_eq_key (hnormal item (by simp))] at hkey
    rw [resolveRules, resolveRules, distinctInputs_append_cons (.inr (.inr hkey))]

/-- A rule given before the identifier of the catalog's own, one given after it, blank and unknown
identifiers, and one that the settings disable. -/
theorem resolveRules_mixed_inputs :
    let catalog := Catalog.ofRules [{ id := "A" }, { id := "B" }, { id := "C" }]
    let settings : Settings := { rules := [("C", { enabled := false })] }
    let own : Rule := { id := "A", name := "own" }
    let inputs : List RuleInput :=
      [.rule own, .id " a", .id "", .id "zz", .id "b", .rule { id := "B", name := "own" }, .id "c"]
    let ids := ["c", "zz", " b", "A", "", "C "]
    let res := resolveRules settings catalog inputs
    catalog.isLoaded = true ∧ (∀ item ∈ inputs, item.Normal) ∧
      (∃ found unknown,
        catalog.ask [] (.resolve ids) = (catalog, .ok (.resolved found unknown)) ∧
        resolveRules settings catalog (ids.map .id) = .ofFound settings found unknown ∧
        found.map Rule.id = ["C", "B", "A"] ∧ unknown = ["ZZ"]) ∧
      res.rules = [own, { id := "B" }] ∧ res.unknown = ["ZZ"] ∧ res.disabled = ["C"] ∧
      res = resolveRules settings catalog [.rule own, .id "", .id "zz", .id "b",
        .rule { id := "B", name := "own" }, .id "c"] := by
  intro catalog settings own inputs ids res
  have hloaded : catalog.isLoaded = true := rfl
  have hnormal : ∀ item ∈ inputs, item.Normal := by decide +kernel
  obtain ⟨hids, hmixed⟩ := resolveRules_agrees settings hloaded
  obtain ⟨found, unknown, hask, hagree⟩ := hids [] ids
  have hanswer := hask.symm.trans (Catalog.ask_of_isLoaded hloaded [] (.resolve ids))
  obtain ⟨rfl, rfl⟩ : found = (catalog.resolve ids).1 ∧ unknown = (catalog.resolve ids).2 := by
    simpa [Catalog.answer] using hanswer
  obtain ⟨hres, hskip⟩ := hmixed inputs hnormal
  refine ⟨hloaded, hnormal, ⟨_, _, hask, hagree, by decide +kernel, by decide +kernel⟩, ?_, ?_, ?_,
    hskip [.rule own] (.id " a") _ rfl (by decide +kernel)⟩
  · exact (congrArg Resolution.rules hres).trans (by decide +kernel)
  · exact (congrArg Resolution.unknown hres).trans (by decide +kernel)
  · exact (congrArg Resolution.disabled hres).trans (by decide +kernel)

end RuleAudit.Auditor
