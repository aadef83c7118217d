import RuleAudit.Proofs.Alike
import RuleAudit.Proofs.EngineByEngine
import RuleAudit.Proofs.Run.Twins

/-!
# Engines that come back as they were

A new engine is a scanner that keeps nothing yet, or has a supplied behaviour whose replies and
whose readiness do not depend on its age. Whatever such an engine has served, once it is shut down it
is at rest (`Engine.Rests`): setting it up again succeeds if it did the first time, and gives a twin
of what it was then (`Engine.Rests.setUp`). A shut-down that fails leaves the rules that the engine
supports, but these are no others than setting it up brings back.
-/

namespace RuleAudit

namespace Engine

/-! ## Supported rules -/

theorem mem_supported_support {e : Engine} {ruleId id : String} :
    id ∈ (e.support ruleId).supported ↔ id ∈ e.supported ∨ id = Text.upper ruleId := by
  unfold support
  dsimp only
  split
  · rename_i hcontains
    rw [List.contains_iff_mem] at hcontains
    exact ⟨.inl, fun h => h.elim (fun hold => hold) fun heq => heq ▸ hcontains⟩
  · rw [List.mem_append, List.mem_singleton]

theorem mem_supported_supportAll {e : Engine} {ids : List String} {id : String} :
    id ∈ (e.supportAll ids).supported ↔ id ∈ e.supported ∨ id ∈ ids.map Text.upper := by
  unfold supportAll
  induction ids generalizing e with
  | nil => simp
  | cons first rest ih =>
    rw [List.foldl_cons, ih, mem_supported_support, List.map_cons, List.mem_cons, or_assoc]

theorem supported_support_congr {e e' : Engine} (h : e'.supported = e.supported)
    (ruleId : String) : (e'.support ruleId).supported = (e.support ruleId).supported := by
  unfold support
  dsimp only
  rw [h]
  split
  · exact h
  · rfl

theorem supported_supportAll_congr {e e' : Engine} (h : e'.supported = e.supported)
    (ids : List String) : (e'.supportAll ids).supported = (e.supportAll ids).supported := by
  unfold supportAll
  induction ids generalizing e e' with
  | nil => exact h
  | cons id rest ih => exact ih (supported_support_congr h id)

/-- What a scanner takes over depends on the rules it supports so far and on what it keeps. -/
theorem adoptRules_congr (listed : List String) {e e' : Engine} (h : e'.supported = e.supported)
    (cache : Scan.Cache) (rules : List Rule) :
    (adoptRules listed e' cache rules).1.supported = (adoptRules listed e cache rules).1.supported ∧
      (adoptRules listed e' cache rules).2 = (adoptRules listed e cache rules).2 := by
  induction rules generalizing e e' cache with
  | nil => exact ⟨h, rfl⟩
  | cons rule rest ih =>
    unfold adoptRules
    split
    · exact ih h cache
    · split
      · exact ⟨h, rfl⟩
      · exact ih (supported_support_congr h rule.id) _

/-! ## New engines -/

end Engine

/-- A behaviour that may be used again and again: its age shows neither in its replies nor in whether
it can be set up, and it can be shut down with ordinary faults at most. -/
structure Behaviour.Repeatable (b : Behaviour) : Prop where
  ageless : b.Ageless
  setUp : ∀ age age' settings, b.setUp age settings = b.setUp age' settings
  tearDown : ∀ age f, b.tearDown age = some f → f.isOrdinary = true

/-- The rules that a supplied engine supports once it is set up with some settings. -/
def Behaviour.restores (b : Behaviour) (settings : Keyed Value) : List String :=
  (((Engine.listedRules settings).toOption.getD []) ++ b.declared).map Text.upper

namespace Engine

/-- An engine as it is built: a scanner that keeps no patterns and supports no rules, or a
repeatable behaviour that supports no other rules than it declares. -/
inductive New (e : Engine) : Prop where
  | supplied {b : Behaviour} (kind : e.kind = .supplied b) (repeatable : b.Repeatable)
      (supported : ∀ id ∈ e.supported, id ∈ b.declared.map Text.upper)
  | scanner {bound : Bool} (kind : e.kind = .scanner bound []) (blank : e.supported = [])

/-- What may have become of a new engine by the time it is shut down. -/
inductive Rests (settings : Keyed Value) (new e : Engine) : Prop where
  | supplied {b : Behaviour} (id : e.id = new.id) (was : new.kind = .supplied b)
      (kind : e.kind = .supplied b) (repeatable : b.Repeatable)
      (supportedThen : ∀ id ∈ new.supported, id ∈ b.restores settings)
      (supported : ∀ id ∈ e.supported, id ∈ b.restores settings)
  | scanner {bound : Bool} (id : e.id = new.id) (was : new.kind = .scanner bound [])
      (kind : e.kind = .scanner bound []) (blankThen : new.supported = [])
      (blank : e.supported = [])

theorem Rests.id {settings : Keyed Value} {new e : Engine} (h : new.Rests settings e) :
    e.id = new.id := by
  cases h with
  | supplied id => exact id
  | scanner id => exact id

/-- A new engine is at rest. -/
theorem New.rests {e : Engine} (h : e.New) (settings : Keyed Value) : e.Rests settings e := by
  cases h with
  | @supplied b kind repeatable supported =>
    have hrestored : ∀ id ∈ e.supported, id ∈ b.restores settings := by
      intro id hid
      unfold Behaviour.restores
      rw [List.map_append]
      exact List.mem_append_right _ (supported id hid)
    exact .supplied rfl kind kind repeatable hrestored hrestored
  | scanner kind blank => exact .scanner rfl kind kind blank blank

/-! ## Setting up -/

theorem prepare_result (e : Engine) (settings : Keyed Value) :
    (e.prepare settings).2 = (listedRules settings).map fun _ => () := by
  unfold prepare
  dsimp only
  cases listedRules settings <;> rfl

/-- What setting up a supplied engine comes to depends on its refusal and on its settings. -/
theorem setUp_result_of_supplied {e : Engine} {b : Behaviour} (hkind : e.kind = .supplied b)
    (tree : FileTree) (c : Catalog) (settings : Keyed Value) :
    (e.setUp tree c settings).2.2 =
      match b.setUp e.age settings with
      | some f => .error f
      | none => (listedRules settings).map fun _ => () := by
  rw [setUp_of_supplied hkind]
  cases b.setUp e.age settings with
  | some f => rfl
  | none =>
    rw [← prepare_result { e with age := e.age + 1 } settings]
    dsimp only
    generalize prepare { e with age := e.age + 1 } settings = prepared
    obtain ⟨x, f | _⟩ := prepared <;> rfl

/-- A supplied engine that is set up keeps its behaviour and supports the rules that its settings
list and those it declares, after the ones it supported before. -/
theorem supported_setUp_of_supplied {e : Engine} {b : Behaviour} (hkind : e.kind = .supplied b)
    {tree : FileTree} {c : Catalog} {settings : Keyed Value}
    (hready : (e.setUp tree c settings).2.2 = .ok ()) :
    (e.setUp tree c settings).2.1.kind = .supplied b ∧
      ∀ id, id ∈ (e.setUp tree c settings).2.1.supported ↔
        id ∈ e.supported ∨ id ∈ b.restores settings := by
  rw [setUp_result_of_supplied hkind] at hready
  rw [setUp_of_supplied hkind]
  cases hrefusal : b.setUp e.age settings with
  | some f =>
    rw [hrefusal] at hready
    cases hready
  | none =>
    rw [hrefusal] at hready
    obtain ⟨listed, hlisted, -⟩ := exists_of_map_eq_ok hready
    unfold prepare Behaviour.restores
    dsimp only
    rw [hlisted]
    refine ⟨?_, fun id => ?_⟩
    · exact (supportAll_id_kind _ _).2.trans ((supportAll_id_kind _ _).2.trans hkind)
    · rw [mem_supported_supportAll]
      show id ∈ (supportAll _ listed).supported ∨ _ ↔ _
      rw [mem_supported_supportAll, List.map_append, List.mem_append, or_assoc]
      rfl

/-- Scanners with one cache that support the same rules are set up alike. -/
theorem setUp_congr_of_scanner {e e' : Engine} {bound : Bool} {cache : Scan.Cache}
    (hkind : e.kind = .scanner bound cache) (hkind' : e'.kind = .scanner bound cache)
    (hsupported : e'.supported = e.supported) (tree : FileTree) (c : Catalog)
    (settings : Keyed Value) :
    (e'.setUp tree c settings).2.2 = (e.setUp tree c settings).2.2 ∧
      (e'.setUp tree c settings).2.1.kind = (e.setUp tree c settings).2.1.kind ∧
      (e'.setUp tree c settings).2.1.supported = (e.setUp tree c settings).2.1.supported := by
  have hresult := prepare_result e settings
  have hresult' := prepare_result e' settings
  have hkept := (prepare_id_kind e settings).2
  have hkept' := (prepare_id_kind e' settings).2
  have hprepared : (e'.prepare settings).1.supported = (e.prepare settings).1.supported := by
    unfold prepare
    dsimp only
    cases listedRules settings with
    | error f => exact hsupported
    | ok ids =>
      refine supported_supportAll_congr ?_ ids
      exact hsupported
  unfold setUp
  rw [hkind, hkind']
  dsimp only
  rw [hkind] at hkept
  rw [hkind'] at hkept'
  generalize e.prepare settings = prepared at hresult hkept hprepared ⊢
  generalize e'.prepare settings = prepared' at hresult' hkept' hprepared ⊢
  obtain ⟨x, result⟩ := prepared
  obtain ⟨x', result'⟩ := prepared'
  obtain rfl : result' = result := hresult'.trans hresult.symm
  cases result' with
  | error f => exact ⟨rfl, hkept'.trans hkept.symm, hprepared⟩
  | ok _ =>
    cases bound with
    | false => exact ⟨rfl, hkept'.trans hkept.symm, hprepared⟩
    | true =>
      dsimp only
      cases c.load tree with
      | error f => exact ⟨rfl, hkept'.trans hkept.symm, hprepared⟩
      | ok loaded =>
        have hadopted := fun listed =>
          adoptRules_congr listed hprepared cache loaded.rules
        dsimp only at hadopted ⊢
        exact ⟨congrArg Prod.snd (hadopted _).2,
          congrArg (fun course => EngineKind.scanner true course.1) (hadopted _).2, (hadopted _).1⟩

/-- An engine at rest can be set up if it could when it was new, and then is a twin of what it was
then. -/
theorem Rests.setUp {settings : Keyed Value} {new e : Engine} (h : new.Rests settings e)
    {tree : FileTree} {c : Catalog} (hready : (new.setUp tree c settings).2.2 = .ok ())
    (rules : List Rule) :
    (e.setUp tree c settings).2.2 = .ok () ∧
      (new.setUp tree c settings).2.1.Twin rules (e.setUp tree c settings).2.1 := by
  have hid : (e.setUp tree c settings).2.1.id = (new.setUp tree c settings).2.1.id := by
    rw [setUp_id, setUp_id, h.id]
  cases h with
  | @supplied b _ was kind repeatable supportedThen supported =>
    have hagain : (e.setUp tree c settings).2.2 = .ok () := by
      rw [setUp_result_of_supplied was] at hready
      rw [setUp_result_of_supplied kind, repeatable.setUp e.age new.age]
      exact hready
    obtain ⟨hkind, hmem⟩ := supported_setUp_of_supplied was hready
    obtain ⟨hkind', hmem'⟩ := supported_setUp_of_supplied kind hagain
    refine ⟨hagain, hid, fun id => ?_, ?_⟩
    · -- both support what setting up restores, and nothing else
      rw [hmem, hmem']
      exact ⟨fun hid => .inr (hid.elim (supported id) fun hid => hid),
        fun hid => .inr (hid.elim (supportedThen id) fun hid => hid)⟩
    · rw [hkind, hkind']
      exact .supplied repeatable.ageless
  | scanner _ was kind blankThen blank =>
    obtain ⟨hresult, hkind, hsupported⟩ :=
      setUp_congr_of_scanner was kind (blank.trans blankThen.symm) tree c settings
    obtain ⟨cache, hscanner⟩ := exists_scanner_of_setUp was tree c settings
    refine ⟨hresult.trans hready, hid, fun id => by rw [hsupported], ?_⟩
    rw [hkind, hscanner]
    exact .scanner _ (.refl rules cache)

/-! ## Shutting down -/

/-- An engine at rest stays so when it is shut down once more. -/
theorem Rests.tearDown {settings : Keyed Value} {new e : Engine} (h : new.Rests settings e) :
    new.Rests settings e.tearDown.1 ∧ ∀ f, e.tearDown.2 = .error f → f.isOrdinary = true := by
  unfold Engine.tearDown
  cases h with
  | supplied id was kind repeatable supportedThen supported =>
    rw [kind]
    dsimp only
    split
    · rename_i f hf
      refine ⟨.supplied id was rfl repeatable supportedThen supported, fun g hg => ?_⟩
      cases hg
      exact repeatable.tearDown _ _ hf
    · refine ⟨.supplied id was rfl repeatable supportedThen ?_, fun g hg => by cases hg⟩
      exact fun other hother => absurd hother List.not_mem_nil
  | scanner id was kind blankThen blank =>
    rw [kind]
    exact ⟨.scanner id was rfl blankThen rfl, fun g hg => by cases hg⟩

/-- An engine that was new, was set up and has served calls comes to rest when it is shut down. -/
theorem New.tearDown {new e ready : Engine} (hnew : new.New) {tree : FileTree} {c : Catalog}
    {settings : Keyed Value} (hready : (new.setUp tree c settings).2 = (ready, .ok ()))
    {rules : List Rule} (h : ready.Twin rules e) :
    new.Rests settings e.tearDown.1 ∧ ∀ f, e.tearDown.2 = .error f → f.isOrdinary = true := by
  obtain rfl : (new.setUp tree c settings).2.1 = ready := congrArg Prod.fst hready
  have hid : e.id = new.id := h.id.trans (new.setUp_id tree c settings)
  have hkind := h.kind
  cases hnew with
  | @supplied b was repeatable supported =>
    obtain ⟨hsupplied, hmem⟩ := supported_setUp_of_supplied was (congrArg Prod.snd hready)
    obtain ⟨repeatable, hthen⟩ : b.Repeatable ∧ ∀ id ∈ new.supported, id ∈ b.restores settings :=
      ⟨repeatable, fun id hid => List.mem_map.mpr (by
        obtain ⟨ruleId, hruleId, hupper⟩ := List.mem_map.mp (supported id hid)
        exact ⟨ruleId, List.mem_append_right _ hruleId, hupper⟩)⟩
    rw [hsupplied] at hkind
    generalize hk : e.kind = kind at hkind
    cases hkind with
    | supplied hageless =>
      refine Rests.tearDown (.supplied hid was hk repeatable hthen fun id hid => ?_)
      exact ((hmem id).mp ((h.supported id).mp hid)).elim (hthen id) fun hid => hid
  | @scanner bound was blank =>
    obtain ⟨cache, hscanner⟩ := exists_scanner_of_setUp was tree c settings
    rw [hscanner] at hkind
    generalize hk : e.kind = kind at hkind
    cases hkind with
    | scanner _ hagree =>
      unfold Engine.tearDown
      rw [hk]
      exact ⟨.scanner hid was rfl blank rfl, fun f hf => by cases hf⟩

end Engine

end RuleAudit
