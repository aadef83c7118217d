import RuleAudit.Proofs.Faults
import RuleAudit.Proofs.Keyed
import RuleAudit.Proofs.Limits
import RuleAudit.Proofs.SetUp

/-!
# Faults of setting up

Engines whose faults are ordinary and a catalog that is loaded leave one way for an auditor's set-up
to fail: no engine remains. After a set-up that succeeds there is an engine to run rules on
(`Auditor.Sound.setUp_cases`).
-/

namespace RuleAudit

/-! ## Engines -/

/-- Faults that a supplied behaviour refuses to be set up with are ordinary. -/
def EngineKind.Ordinary : EngineKind → Prop
  | .supplied behaviour =>
    ∀ age settings f, behaviour.setUp age settings = some f → f.isOrdinary = true
  | .scanner .. => True

namespace Engine

/-- The engine refuses to be set up only with ordinary faults. -/
def Ordinary (e : Engine) : Prop :=
  e.kind.Ordinary

theorem Ordinary.supportAll {e : Engine} (h : e.Ordinary) (ids : List String) :
    (e.supportAll ids).Ordinary := by
  unfold Ordinary
  rwa [(supportAll_id_kind e ids).2]

theorem Ordinary.prepare {e : Engine} (h : e.Ordinary) (settings : Keyed Value) :
    (e.prepare settings).1.Ordinary := by
  unfold Ordinary
  rwa [(prepare_id_kind e settings).2]

theorem isOrdinary_of_prepare {e : Engine} {settings : Keyed Value} {f : Fault}
    (h : (e.prepare settings).2 = .error f) : f.isOrdinary = true := by
  unfold prepare at h
  dsimp only at h
  split at h
  · rename_i fault hlisted
    cases h
    unfold listedRules at hlisted
    split at hlisted
    all_goals cases hlisted
    rfl
  · cases h

theorem isOrdinary_of_compilePatterns {patterns : List String} {f : Fault}
    (h : Scan.compilePatterns patterns = .error f) : f.isOrdinary = true := by
  induction patterns generalizing f with
  | nil => cases h
  | cons p rest ih =>
    unfold Scan.compilePatterns at h
    split at h
    · cases h
      rfl
    · cases hrest : Scan.compilePatterns rest with
      | error fault =>
        rw [hrest] at h
        cases h
        exact ih hrest
      | ok nodes =>
        rw [hrest] at h
        cases h

theorem isOrdinary_of_adoptRules {listed : List String} {e : Engine} {cache : Scan.Cache}
    {rules : List Rule} {f : Fault} (h : (adoptRules listed e cache rules).2.2 = .error f) :
    f.isOrdinary = true := by
  induction rules generalizing e cache with
  | nil => cases h
  | cons rule rest ih =>
    unfold adoptRules at h
    split at h
    · exact ih h
    · split at h
      · rename_i cache' fault hcompile
        cases h
        unfold Scan.compileRule at hcompile
        split at hcompile
        · cases hcompile
        · split at hcompile
          · cases hcompile
          · rename_i hpatterns
            cases hcompile
            exact isOrdinary_of_compilePatterns hpatterns
      · exact ih h

/-- Setting up changes nothing in what an engine may refuse. -/
theorem Ordinary.setUp {e : Engine} (h : e.Ordinary) (tree : FileTree) (c : Catalog)
    (settings : Keyed Value) : (e.setUp tree c settings).2.1.Ordinary := by
  unfold Engine.setUp
  split
  · have hprepared := Ordinary.prepare (e := { e with age := e.age + 1 }) h settings
    split
    · exact h
    · split
      · rename_i heq
        rw [heq] at hprepared
        exact hprepared.supportAll _
      · rename_i heq
        rwa [heq] at hprepared
  · have hprepared := h.prepare settings
    split
    · rename_i heq _
      rwa [heq] at hprepared
    · rename_i heq _
      rwa [heq] at hprepared
    · rename_i heq _
      rw [heq] at hprepared
      split
      · exact hprepared
      · exact trivial

theorem Ordinary.isOrdinary_of_setUp {e : Engine} (h : e.Ordinary) {tree : FileTree} {c : Catalog}
    {settings : Keyed Value} {f : Fault} (hf : (e.setUp tree c settings).2.2 = .error f) :
    f.isOrdinary = true := by
  unfold Engine.setUp at hf
  split at hf
  · rename_i behaviour hbehaviour
    have hkind : EngineKind.Ordinary (.supplied behaviour) := hbehaviour ▸ h
    split at hf
    · rename_i fault hfault
      cases hf
      exact hkind e.age settings f hfault
    · split at hf
      · cases hf
      · rename_i heq
        cases hf
        exact isOrdinary_of_prepare (congrArg Prod.snd heq)
  · split at hf
    · rename_i heq _
      cases hf
      exact isOrdinary_of_prepare (congrArg Prod.snd heq)
    · cases hf
    · split at hf
      · rename_i hload
        cases hf
        exact (Catalog.isCommon_of_load hload).isOrdinary
      · exact isOrdinary_of_adoptRules hf

end Engine

/-! ## Registries -/

namespace Registry

/-- Every engine refuses to be set up only with ordinary faults. -/
def Ordinary (r : Registry) : Prop :=
  ∀ entry ∈ r.entries, entry.2.Ordinary

theorem Ordinary.put {r : Registry} (h : r.Ordinary) {e : Engine} (he : e.Ordinary) :
    Registry.Ordinary { entries := r.entries.put e.id e } := by
  intro entry hentry
  rcases Keyed.mem_put hentry with rfl | hold
  · exact he
  · exact h entry hold

theorem Ordinary.update {r : Registry} (h : r.Ordinary) {e : Engine} (he : e.Ordinary) :
    (r.update e).Ordinary := by
  unfold Registry.update
  split
  · exact h.put he
  · exact h

theorem Ordinary.remove {r : Registry} (h : r.Ordinary) (id : String) : (r.remove id).Ordinary :=
  fun entry hentry => h entry (List.mem_filter.mp hentry).1

/-- Setting one engine up succeeds or fails with an ordinary fault. -/
theorem Ordinary.setUp {r : Registry} (h : r.Ordinary) (tree : FileTree) (c : Catalog)
    (id : String) (settings : Keyed Value) :
    (r.setUp tree c id settings).2.1.Ordinary ∧
      ∀ f, (r.setUp tree c id settings).2.2 = .error f → f.isOrdinary = true := by
  unfold Registry.setUp
  split
  · refine ⟨h, fun f hf => ?_⟩
    cases hf
    rfl
  · rename_i e he
    have hengine : e.Ordinary := h (id, e) (Keyed.mem_of_get? he)
    have hafter := hengine.setUp tree c settings
    split
    · rename_i heq
      rw [heq] at hafter
      exact ⟨h.update hafter, fun f hf => by cases hf⟩
    · rename_i heq
      have hordinary := hengine.isOrdinary_of_setUp (congrArg (·.2.2) heq)
      rw [if_pos hordinary]
      refine ⟨h.remove id, fun f hf => ?_⟩
      cases hf
      rfl

/-- Setting engines up collects their failures. -/
theorem Ordinary.setUpAll {r : Registry} (h : r.Ordinary) (tree : FileTree)
    (settings : Keyed (Keyed Value)) (c : Catalog) (ids : List String) :
    ∃ failures, (Registry.setUpAll tree settings c r ids).2.2 = .ok failures := by
  induction ids generalizing c r with
  | nil => exact ⟨[], rfl⟩
  | cons id rest ih =>
    obtain ⟨hafter, hfault⟩ := h.setUp tree c id ((settings.get? id).getD [])
    unfold Registry.setUpAll
    split
    · rename_i heq
      rw [heq] at hafter
      exact ih hafter _
    · rename_i c' r' f heq
      rw [heq] at hafter
      rw [if_pos (hfault f (by rw [heq]))]
      obtain ⟨failures, hfailures⟩ := ih hafter c'
      split
      · exact ⟨_, rfl⟩
      · exact ⟨failures, hfailures⟩

end Registry

/-! ## Factories -/

/-- A factory builds an engine whose faults are ordinary, or fails with an ordinary fault. -/
def Factory.Sound (factory : Factory) : Prop :=
  match factory.build with
  | .ok (.engine e) => e.Ordinary
  | .ok (.other _) => False
  | .error f => f.isOrdinary = true

theorem Factories.load_ordinary {factories : Factories}
    (hsound : ∀ entry ∈ factories, entry.2.Sound) {r : Registry} (h : r.Ordinary)
    (ids : List String) :
    (factories.load r ids).1.Ordinary ∧ ∃ names, (factories.load r ids).2.2 = .ok names := by
  induction ids generalizing r with
  | nil => exact ⟨h, [], rfl⟩
  | cons id rest ih =>
    unfold Factories.load
    split
    · exact ih h
    · rename_i factory hfactory
      have hbuild : factory.Sound := hsound (id, factory) (Keyed.mem_of_get? hfactory)
      unfold Factory.Sound at hbuild
      split
      · rename_i f hf
        rw [hf] at hbuild
        rw [if_pos hbuild]
        exact ih h
      · rename_i v hv
        rw [hv] at hbuild
        exact hbuild.elim
      · rename_i e he
        rw [he] at hbuild
        obtain ⟨hafter, names, hnames⟩ := ih (h.put hbuild)
        refine ⟨hafter, e.id :: names, ?_⟩
        dsimp only
        rw [show (Factories.load factories (r.register e).1 rest).2.2 = .ok names from hnames]
        rfl

/-! ## Auditors -/

namespace Auditor

/-- An auditor whose settings are valid and whose catalog is loaded, with engines, or sound
factories to build them, that refuse to be set up only with ordinary faults. -/
structure Sound (a : Auditor) : Prop where
  limits : a.settings.performance.Valid
  catalog : a.catalog.isLoaded = true
  engines : a.registry.Ordinary
  factories : a.registry.isEmpty = true → ∃ factories, a.factoriesInUse.2 = .ok factories ∧
    ∀ entry ∈ factories, entry.2.Sound
  /-- A set-up counts as done only while there is an engine. -/
  ready : a.initialized = true → a.registry.isEmpty = false

/-- The built-in factory is sound. -/
theorem factories_of_default {a : Auditor} (hfactories : a.factories = [])
    (hextensions : a.extensions = []) :
    ∃ factories, a.factoriesInUse.2 = .ok factories ∧ ∀ entry ∈ factories, entry.2.Sound := by
  refine ⟨[(heuristicEngine, .scanner)], ?_, ?_⟩
  · rw [factoriesInUse, hfactories, hextensions]
    rfl
  · intro entry hentry
    rw [List.mem_singleton.mp hentry]
    exact trivial

theorem loadCatalog_of_isLoaded {a : Auditor} (h : a.catalog.isLoaded = true) (tree : FileTree) :
    (a.loadCatalog tree).result = .ok () ∧ (a.loadCatalog tree).auditor = a := by
  unfold loadCatalog
  rw [Catalog.load_of_isLoaded h]
  exact ⟨rfl, rfl⟩

theorem loadEngines_ordinary {a : Auditor} (hengines : a.registry.Ordinary)
    (hfactories : a.registry.isEmpty = true → ∃ factories, a.factoriesInUse.2 = .ok factories ∧
      ∀ entry ∈ factories, entry.2.Sound) :
    a.loadEngines.result = .ok () ∧ a.loadEngines.auditor.registry.Ordinary := by
  unfold loadEngines
  split
  · exact ⟨rfl, hengines⟩
  · rename_i hempty
    obtain ⟨factories, hfound, hsound⟩ := hfactories (by simpa using hempty)
    split
    · rename_i heq
      rw [heq] at hfound
      cases hfound
    · rename_i found heq
      rw [heq] at hfound
      obtain rfl : found = factories := Except.ok.inj hfound
      obtain ⟨hafter, names, hnames⟩ :=
        Factories.load_ordinary hsound hengines a.settings.engines.enabled
      dsimp only
      rw [hnames]
      exact ⟨rfl, hafter⟩

/-- Setting the engines up leaves one of them ready, or none. -/
theorem setUpEngines_cases {a : Auditor} (hengines : a.registry.Ordinary) (tree : FileTree) :
    (∃ attempted, (a.setUpEngines tree).result = .error (.noEngines attempted)) ∨
      ((a.setUpEngines tree).result = .ok () ∧
        (a.setUpEngines tree).auditor.registry.isEmpty = false) := by
  obtain ⟨failures, hfailures⟩ :=
    hengines.setUpAll tree a.engineSettings a.catalog a.registry.ids
  unfold setUpEngines
  dsimp only
  split
  · rename_i heq
    rw [heq] at hfailures
    cases hfailures
  · split
    · exact .inl ⟨_, rfl⟩
    · rename_i hsome
      exact .inr ⟨rfl, by simpa using hsome⟩

/-- The only way in which a sound auditor cannot be set up is that no engine remains. -/
theorem Sound.setUp_cases {a : Auditor} (h : a.Sound) (tree : FileTree) :
    (∃ attempted, (a.setUp tree).result = .error (.noEngines attempted)) ∨
      ((a.setUp tree).result = .ok () ∧ (a.setUp tree).auditor.registry.isEmpty = false) := by
  by_cases hinitialized : a.initialized = true
  · rw [setUp, if_pos hinitialized]
    exact .inr ⟨rfl, h.ready hinitialized⟩
  · obtain ⟨hload, hloaded⟩ :=
      loadCatalog_of_isLoaded (a := { a with state := .initializing }) h.catalog tree
    obtain ⟨hbuild, hordinary⟩ :=
      loadEngines_ordinary (a := { a with state := .initializing }) h.engines h.factories
    obtain ⟨hresult, hauditor⟩ :=
      setUp_of_stages (Bool.eq_false_iff.mpr hinitialized) hload hloaded hbuild rfl
    rw [hresult, hauditor]
    exact setUpEngines_cases hordinary tree

end Auditor

end RuleAudit
