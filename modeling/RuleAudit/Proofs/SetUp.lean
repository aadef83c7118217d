import RuleAudit.Auditor
import RuleAudit.Proofs.Catalog

/-!
# Setting an auditor up

Setting up changes a catalog only by loading it (`Auditor.setUp_catalog`), and leaves the settings
as they are (`Auditor.setUp_settings`).
-/

namespace RuleAudit

/-- What a first step and the next one keep of an auditor, both keep. -/
theorem AuditStep.andThen_auditor {α β : Type} {p : Auditor → Prop} {s : AuditStep α}
    {f : Auditor → α → AuditStep β} (h : p s.auditor)
    (hnext : ∀ a result, p a → p (f a result).auditor) : p (s.andThen f).auditor := by
  unfold AuditStep.andThen
  split
  · exact h
  · exact hnext _ _ h

theorem AuditStep.andThen_of_eq_ok {α β : Type} {s : AuditStep α} {x : α}
    (h : s.result = .ok x) (f : Auditor → α → AuditStep β) :
    (s.andThen f).result = (f s.auditor x).result ∧
      (s.andThen f).auditor = (f s.auditor x).auditor := by
  unfold AuditStep.andThen
  rw [h]
  exact ⟨rfl, rfl⟩

theorem AuditStep.andThen_of_eq_error {α β : Type} {s : AuditStep α} {fault : Fault}
    (h : s.result = .error fault) (f : Auditor → α → AuditStep β) :
    s.andThen f = { auditor := s.auditor, notices := s.notices, result := .error fault } := by
  unfold AuditStep.andThen
  rw [h]

/-- A result of two steps comes from a result of the first. -/
theorem AuditStep.exists_of_andThen_eq_ok {α β : Type} {s : AuditStep α}
    {f : Auditor → α → AuditStep β} {y : β} (h : (s.andThen f).result = .ok y) :
    ∃ x, s.result = .ok x ∧ (f s.auditor x).result = .ok y ∧
      (s.andThen f).auditor = (f s.auditor x).auditor := by
  cases hfirst : s.result with
  | error fault =>
    unfold AuditStep.andThen at h
    rw [hfirst] at h
    cases h
  | ok x =>
    obtain ⟨hresult, hauditor⟩ := andThen_of_eq_ok hfirst f
    exact ⟨x, rfl, hresult ▸ h, hauditor⟩

namespace Engine

/-- Supporting rules leaves an engine's identifier and way to work. -/
theorem supportAll_id_kind (e : Engine) (ids : List String) :
    (e.supportAll ids).id = e.id ∧ (e.supportAll ids).kind = e.kind := by
  unfold supportAll
  induction ids generalizing e with
  | nil => exact ⟨rfl, rfl⟩
  | cons id rest ih =>
    have hone : (e.support id).id = e.id ∧ (e.support id).kind = e.kind := by
      unfold support
      dsimp only
      split <;> exact ⟨rfl, rfl⟩
    rw [List.foldl_cons, (ih _).1, (ih _).2]
    exact hone

/-- So does preparing it. -/
theorem prepare_id_kind (e : Engine) (settings : Keyed Value) :
    (e.prepare settings).1.id = e.id ∧ (e.prepare settings).1.kind = e.kind := by
  unfold prepare
  dsimp only
  split
  · exact ⟨rfl, rfl⟩
  · exact supportAll_id_kind _ _

theorem adoptRules_id (listed : List String) (e : Engine) (cache : Scan.Cache)
    (rules : List Rule) : (adoptRules listed e cache rules).1.id = e.id := by
  induction rules generalizing e cache with
  | nil => rfl
  | cons rule rest ih =>
    unfold adoptRules
    split
    · exact ih e cache
    · split
      · rfl
      · rw [ih]
        exact (supportAll_id_kind e [rule.id]).1

/-- Setting an engine up leaves its identifier. -/
theorem setUp_id (e : Engine) (tree : FileTree) (c : Catalog) (settings : Keyed Value) :
    (e.setUp tree c settings).2.1.id = e.id := by
  unfold Engine.setUp
  split
  · have hprepared := (prepare_id_kind { e with age := e.age + 1 } settings).1
    split
    · rfl
    · split
      · rename_i heq
        rw [heq] at hprepared
        exact (supportAll_id_kind _ _).1.trans hprepared
      · rename_i heq
        rwa [heq] at hprepared
  · have hprepared := (prepare_id_kind e settings).1
    split
    · rename_i heq _
      rwa [heq] at hprepared
    · rename_i heq _
      rwa [heq] at hprepared
    · rename_i heq _
      rw [heq] at hprepared
      split
      · exact hprepared
      · exact (adoptRules_id _ _ _ _).trans hprepared

end Engine

section Catalogs

variable {tree : FileTree} {p : Catalog → Prop}

/-- What loading keeps is kept when an engine is set up. -/
theorem Engine.setUp_catalog (hload : ∀ c c', p c → c.load tree = .ok c' → p c') {c : Catalog}
    (h : p c) (e : Engine) (settings : Keyed Value) : p (e.setUp tree c settings).1 := by
  unfold Engine.setUp
  split
  · split
    · exact h
    · split
      · exact h
      · exact h
  · split
    · exact h
    · exact h
    · split
      · exact h
      · rename_i c' hc'
        exact hload c c' h hc'

theorem Registry.setUp_catalog (hload : ∀ c c', p c → c.load tree = .ok c' → p c') {c : Catalog}
    (h : p c) (r : Registry) (id : String) (settings : Keyed Value) :
    p (r.setUp tree c id settings).1 := by
  unfold Registry.setUp
  split
  · exact h
  · rename_i e _
    have hengine := e.setUp_catalog hload h settings
    split
    · rename_i heq
      rwa [heq] at hengine
    · rename_i heq
      rw [heq] at hengine
      split
      · exact hengine
      · exact hengine

theorem Registry.setUpAll_catalog (hload : ∀ c c', p c → c.load tree = .ok c' → p c')
    (settings : Keyed (Keyed Value)) {c : Catalog} (h : p c) (r : Registry) (ids : List String) :
    p (Registry.setUpAll tree settings c r ids).1 := by
  induction ids generalizing c r with
  | nil => exact h
  | cons id rest ih =>
    have hfirst := r.setUp_catalog hload h id ((settings.get? id).getD [])
    unfold Registry.setUpAll
    split
    · rename_i heq
      rw [heq] at hfirst
      exact ih hfirst _
    · rename_i c' r' f heq
      rw [heq] at hfirst
      have hrest := ih hfirst r'
      split
      · split
        · rename_i heq'
          rwa [heq'] at hrest
        · exact hrest
      · exact hfirst

namespace Auditor

theorem loadCatalog_catalog (hload : ∀ c c', p c → c.load tree = .ok c' → p c') {a : Auditor}
    (h : p a.catalog) : p (a.loadCatalog tree).auditor.catalog := by
  unfold loadCatalog
  split
  · rename_i c' hc'
    exact hload _ c' h hc'
  · split
    · exact h
    · exact h

/-- Loading engines changes the registry alone. -/
theorem exists_loadEngines (a : Auditor) :
    ∃ r, a.loadEngines.auditor = { a with registry := r } := by
  unfold loadEngines
  split
  · exact ⟨a.registry, rfl⟩
  · split
    · exact ⟨a.registry, rfl⟩
    · dsimp only
      split <;> exact ⟨_, rfl⟩

theorem loadEngines_catalog (a : Auditor) : a.loadEngines.auditor.catalog = a.catalog := by
  obtain ⟨r, hr⟩ := a.exists_loadEngines
  rw [hr]

theorem setUpEngines_catalog (hload : ∀ c c', p c → c.load tree = .ok c' → p c') {a : Auditor}
    (h : p a.catalog) : p (a.setUpEngines tree).auditor.catalog := by
  have hall := Registry.setUpAll_catalog hload a.engineSettings h a.registry a.registry.ids
  unfold setUpEngines
  dsimp only
  split
  · rename_i heq
    rwa [heq] at hall
  · rename_i heq
    rw [heq] at hall
    split
    · exact hall
    · exact hall

/-- What loading keeps is kept when an auditor is set up. -/
theorem setUp_catalog (hload : ∀ c c', p c → c.load tree = .ok c' → p c') {a : Auditor}
    (h : p a.catalog) : p (a.setUp tree).auditor.catalog := by
  unfold setUp
  split
  · exact h
  · refine AuditStep.andThen_auditor (p := fun a => p a.catalog) ?_ fun a _ h =>
      setUpEngines_catalog hload h
    refine AuditStep.andThen_auditor (p := fun a => p a.catalog) ?_ fun a _ h => ?_
    · exact loadCatalog_catalog hload h
    · rwa [loadEngines_catalog]

end Auditor

end Catalogs

namespace Auditor

/-- Loading the catalog changes nothing else. -/
theorem exists_loadCatalog (tree : FileTree) (a : Auditor) :
    ∃ c, (a.loadCatalog tree).auditor = { a with catalog := c } := by
  unfold loadCatalog
  split
  · exact ⟨_, rfl⟩
  · split <;> exact ⟨a.catalog, rfl⟩

theorem loadCatalog_settings (tree : FileTree) (a : Auditor) :
    (a.loadCatalog tree).auditor.settings = a.settings := by
  obtain ⟨c, hc⟩ := a.exists_loadCatalog tree
  rw [hc]

theorem loadEngines_settings (a : Auditor) : a.loadEngines.auditor.settings = a.settings := by
  obtain ⟨r, hr⟩ := a.exists_loadEngines
  rw [hr]

theorem setUpEngines_settings (tree : FileTree) (a : Auditor) :
    (a.setUpEngines tree).auditor.settings = a.settings := by
  unfold setUpEngines
  dsimp only
  split
  · rfl
  · split <;> rfl

/-- Setting up leaves the settings as they are. -/
theorem setUp_settings (tree : FileTree) (a : Auditor) :
    (a.setUp tree).auditor.settings = a.settings := by
  unfold setUp
  split
  · rfl
  · refine AuditStep.andThen_auditor (p := fun b => b.settings = a.settings) ?_ fun b _ h => ?_
    · refine AuditStep.andThen_auditor (p := fun b => b.settings = a.settings) ?_ fun b _ h => ?_
      · exact loadCatalog_settings tree _
      · rw [loadEngines_settings, h]
    · rw [setUpEngines_settings, h]

/-! ## Stages -/

/-- The settings that an auditor sets an engine up with. -/
def settingsOf (a : Auditor) (id : String) : Keyed Value :=
  ((a.settings.engines.settings.get? id).getD []).foldl
    (fun all entry => Keyed.put all entry.1 entry.2) [("verbose", .bool a.settings.output.verbose)]

theorem get?_engineSettings {a : Auditor} {id : String} (h : id ∈ a.registry.ids) :
    (a.engineSettings.get? id).getD [] = a.settingsOf id := by
  have hget : ∀ ids : List String, id ∈ ids →
      Keyed.get? (ids.map fun id => (id, a.settingsOf id)) id = some (a.settingsOf id) := by
    intro ids hid
    induction ids with
    | nil => cases hid
    | cons first rest ih =>
      by_cases heq : first = id
      · simp [Keyed.get?, heq]
      · rcases List.mem_cons.mp hid with rfl | hrest
        · exact absurd rfl heq
        · simpa [Keyed.get?, heq] using ih hrest
  rw [show a.engineSettings.get? id = _ from hget a.registry.ids h]
  rfl

/-- An auditor that is not set up yet loads its catalog and its engines, and then sets these up. -/
theorem setUp_of_stages {tree : FileTree} {a loaded built : Auditor}
    (hnew : a.initialized = false)
    (hload : ({ a with state := .initializing }.loadCatalog tree).result = .ok ())
    (hloaded : ({ a with state := .initializing }.loadCatalog tree).auditor = loaded)
    (hbuild : loaded.loadEngines.result = .ok ()) (hbuilt : loaded.loadEngines.auditor = built) :
    (a.setUp tree).result = (built.setUpEngines tree).result ∧
      (a.setUp tree).auditor = (built.setUpEngines tree).auditor := by
  have hfirst := AuditStep.andThen_of_eq_ok hload fun a _ => a.loadEngines
  rw [hloaded] at hfirst
  have hsecond := AuditStep.andThen_of_eq_ok (hfirst.1.trans hbuild) fun a _ => a.setUpEngines tree
  rw [hfirst.2, hbuilt] at hsecond
  have hnot : ¬a.initialized = true := by simp [hnew]
  unfold setUp
  rw [if_neg hnot]
  exact hsecond

/-- What an auditor has done that was not set up and has been. -/
theorem exists_stages_of_setUp {tree : FileTree} {a : Auditor} (hnew : a.initialized = false)
    (h : (a.setUp tree).result = .ok ()) :
    ({ a with state := .initializing }.loadCatalog tree).result = .ok () ∧
      ∃ built, ({ a with state := .initializing }.loadCatalog tree).auditor.loadEngines.result =
          .ok () ∧
        ({ a with state := .initializing }.loadCatalog tree).auditor.loadEngines.auditor = built ∧
        (built.setUpEngines tree).result = .ok () ∧
        (a.setUp tree).auditor = (built.setUpEngines tree).auditor := by
  have hnot : ¬a.initialized = true := by simp [hnew]
  unfold setUp at h ⊢
  rw [if_neg hnot] at h ⊢
  obtain ⟨_, hfirst, hengines, hlast⟩ := AuditStep.exists_of_andThen_eq_ok h
  obtain ⟨_, hload, hbuild, hbuilt⟩ := AuditStep.exists_of_andThen_eq_ok hfirst
  rw [hbuilt] at hengines hlast
  exact ⟨hload, _, hbuild, rfl, hengines, hlast⟩

/-- Once engines are set up and one of them remains, the auditor is ready. -/
theorem setUpEngines_of_setUpAll {tree : FileTree} {a : Auditor} {c : Catalog} {r : Registry}
    {failures : List Fault}
    (h : Registry.setUpAll tree a.engineSettings a.catalog a.registry a.registry.ids =
      (c, r, .ok failures))
    (hsome : r.isEmpty = false) :
    (a.setUpEngines tree).result = .ok () ∧ (a.setUpEngines tree).auditor =
      { a with catalog := c, registry := r, state := .ready, initialized := true } := by
  unfold setUpEngines
  rw [h]
  dsimp only
  rw [hsome]
  exact ⟨rfl, rfl⟩

/-- Engines that have been set up are set up one after another, and one of them remains. -/
theorem exists_of_setUpEngines {tree : FileTree} {a : Auditor}
    (h : (a.setUpEngines tree).result = .ok ()) :
    ∃ c r failures,
      Registry.setUpAll tree a.engineSettings a.catalog a.registry a.registry.ids =
        (c, r, .ok failures) ∧
      r.isEmpty = false ∧ (a.setUpEngines tree).auditor =
        { a with catalog := c, registry := r, state := .ready, initialized := true } := by
  unfold setUpEngines at h ⊢
  dsimp only at h ⊢
  generalize Registry.setUpAll tree a.engineSettings a.catalog a.registry a.registry.ids =
    course at h ⊢
  obtain ⟨c, r, f | failures⟩ := course
  · cases h
  · dsimp only at h ⊢
    split at h
    · cases h
    · rename_i hsome
      rw [if_neg hsome]
      exact ⟨c, r, failures, rfl, by simpa using hsome, rfl⟩

end Auditor

end RuleAudit
