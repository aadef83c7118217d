import RuleAudit.Proofs.LifeEvents
import RuleAudit.Proofs.Talk
import RuleAudit.Proofs.Run.Keeping
import RuleAudit.Proofs.Run.Serving

/-!
# The life of an auditor

Setting up, running and shutting down follow each other in any order, and each of them may fail
half-way. What an auditor and the events of its engines so far have in common (`Chronicle.Sound`) is
kept by every operation (`Chronicle.Sound.after`), whatever it returns. So in every life of an
auditor its operations are safe (`Auditor.life_safe`): calls go only to engines that are set up, an
engine is set up once until everything is shut down, an engine that could not be set up gets no rule,
and without an engine nothing else is tried.
-/

namespace RuleAudit

/-! ## Events of an auditor -/

namespace Auditor

/-- The engines that are built when an auditor loads its engines. -/
def loadEvents (a : Auditor) : List LifeEvent :=
  if !a.registry.isEmpty then []
  else
    match a.factoriesInUse.2 with
    | .error _ => []
    | .ok factories => factories.loadEvents a.settings.engines.enabled

/-- The events when an auditor sets its engines up. -/
def readyEvents (tree : FileTree) (a : Auditor) : List LifeEvent :=
  Registry.setUpEvents tree a.engineSettings a.catalog a.registry a.registry.ids

/-- The events when an auditor is set up. -/
def setUpEvents (tree : FileTree) (a : Auditor) : List LifeEvent :=
  if a.initialized then []
  else
    let loaded := { a with state := .initializing }.loadCatalog tree
    match loaded.result with
    | .error _ => []
    | .ok () =>
      let built := loaded.auditor.loadEngines
      loaded.auditor.loadEvents ++
        match built.result with
        | .error _ => []
        | .ok () => built.auditor.readyEvents tree

end Auditor

/-- What can be asked of an auditor. -/
inductive Operation where
  | setUp (tree : FileTree)
  | run (tree : FileTree) (files : List FilePath) (inputs : List RuleInput)
      (engine : Option String)
  | cleanup

/-- The step with nothing but whether it succeeded. -/
def AuditStep.forget {α : Type} (s : AuditStep α) : AuditStep Unit :=
  { auditor := s.auditor, notices := s.notices, result := s.result.map fun _ => () }

namespace Operation

/-- An operation of an auditor. -/
def perform : Operation → Auditor → AuditStep Unit
  | .setUp tree, a => a.setUp tree
  | .run tree files inputs engine, a => (a.run tree files inputs engine).forget
  | .cleanup, a => a.cleanup

/-- The set-up that an operation begins with. -/
def setsUp : Operation → Auditor → AuditStep Unit
  | .setUp tree, a | .run tree .., a => a.setUp tree
  | .cleanup, a => { auditor := a, result := .ok () }

/-- What happens to the engines of an auditor during an operation, outside of calls. -/
def events : Operation → Auditor → List LifeEvent
  | .setUp tree, a | .run tree .., a => a.setUpEvents tree
  | .cleanup, a => a.registry.tearDownEvents a.registry.ids

end Operation

/-- An auditor and the events of its engines so far. -/
structure Chronicle where
  auditor : Auditor
  log : List LifeEvent := []

/-- An auditor after one more operation. -/
def Chronicle.after (c : Chronicle) (op : Operation) : Chronicle :=
  { auditor := (op.perform c.auditor).auditor, log := c.log ++ op.events c.auditor }

/-! ## What operations keep -/

/-- An auditor and the events so far go together: no engine is registered that has fallen, factories
build tame engines, and once the auditor is set up the most recent event of each registered engine
is that it has been set up. -/
structure Chronicle.Sound (c : Chronicle) : Prop where
  registry : c.auditor.registry.Tended c.log
  factories : ∀ factories, c.auditor.factoriesInUse.2 = .ok factories →
    ∀ entry ∈ factories, entry.2.BuildsTame
  ready : c.auditor.initialized = true → ∀ id ∈ c.auditor.registry.ids,
    LifeEvent.latest c.log id = some (.setUp id true)

/-! ### Setting up -/

namespace Extension

theorem exists_of_factoriesFrom {found : Factories} {extensions : List Extension} {f : Fault}
    (h : (factoriesFrom found extensions).2 = .error f) :
    ∃ ext ∈ extensions, ext.loaded = .error f := by
  induction extensions generalizing found with
  | nil => cases h
  | cons ext rest ih =>
    have hlater : (∃ found, (factoriesFrom found rest).2 = .error f) →
        ∃ other ∈ ext :: rest, other.loaded = .error f := by
      rintro ⟨found, hrest⟩
      obtain ⟨other, hother, hloaded⟩ := ih hrest
      exact ⟨other, List.mem_cons_of_mem _ hother, hloaded⟩
    unfold factoriesFrom at h
    split at h
    · rename_i g hg
      split at h
      · exact hlater ⟨_, h⟩
      · cases h
        exact ⟨ext, List.mem_cons_self, hg⟩
    · exact hlater ⟨_, h⟩
    · exact hlater ⟨_, h⟩

end Extension

/-- Factories that fail never say that no engine is ready. -/
theorem Factories.load_ne_noEngines (factories : Factories) (r : Registry) (ids : List String)
    (attempted : List String) : (factories.load r ids).2.2 ≠ .error (.noEngines attempted) := by
  induction ids generalizing r with
  | nil => exact fun h => by cases h
  | cons id rest ih =>
    unfold Factories.load
    split
    · exact ih r
    · split
      · split
        · exact ih r
        · rename_i hnot
          rintro h
          cases h
          exact hnot rfl
      · exact fun h => by cases h
      · exact fun h => ih _ (exists_of_map_eq_error h)

namespace Auditor

variable {tree : FileTree} {a b : Auditor} {log events : List LifeEvent}
  {result : Except Fault Unit}

theorem isCommon_of_loadCatalog {f : Fault} (h : (a.loadCatalog tree).result = .error f) :
    f.IsCommon := by
  unfold loadCatalog at h
  split at h
  · cases h
  · rename_i hload
    split at h
    · cases h
    · cases h
      exact Catalog.isCommon_of_load hload

/-- Engines cannot be loaded for want of an engine only if an extension fails with that. -/
theorem exists_of_loadEngines {attempted : List String}
    (h : a.loadEngines.result = .error (.noEngines attempted)) :
    ∃ ext ∈ a.extensions, ext.loaded = .error (.noEngines attempted) := by
  unfold loadEngines at h
  split at h
  · cases h
  · split at h
    · rename_i heq
      cases h
      have huse : a.factoriesInUse.2 = .error (.noEngines attempted) := by rw [heq]
      unfold factoriesInUse at huse
      split at huse
      · exact Extension.exists_of_factoriesFrom (exists_of_map_eq_error huse)
      · cases huse
    · rename_i factories _
      have hload := factories.load_ne_noEngines a.registry a.settings.engines.enabled attempted
      dsimp only at h
      split at h
      · rename_i heq
        cases h
        exact absurd heq hload
      · cases h

theorem loadEngines_tended (h : a.registry.Tended log)
    (hbuilt : ∀ factories, a.factoriesInUse.2 = .ok factories →
      ∀ entry ∈ factories, entry.2.BuildsTame) :
    a.loadEngines.auditor.registry.Tended (log ++ a.loadEvents) := by
  unfold loadEngines loadEvents
  split
  · rwa [List.append_nil]
  · generalize a.factoriesInUse = use at hbuilt ⊢
    obtain ⟨notices, f | factories⟩ := use
    · rwa [List.append_nil]
    · have hload := h.load (hbuilt factories rfl) a.settings.engines.enabled
      dsimp only
      split
      · exact hload
      · exact hload

/-- Tame engines are set up one after another: those that remain have been set up, and the auditor
is ready unless none does. -/
theorem setUpEngines_tended (h : a.registry.Tended log) (hc : a.catalog.Settled tree) :
    ∃ r : Registry, r.Tended (log ++ a.readyEvents tree) ∧
      (∀ id ∈ r.ids, LifeEvent.latest (log ++ a.readyEvents tree) id = some (.setUp id true)) ∧
      (((a.setUpEngines tree).result = .ok () ∧ (a.setUpEngines tree).auditor =
          { a with registry := r, state := .ready, initialized := true }) ∨
        ∃ attempted, (a.setUpEngines tree).result = .error (.noEngines attempted) ∧
          (a.setUpEngines tree).auditor = { a with registry := r, state := .uninitialized }) := by
  obtain ⟨failures, r, hall, htended, hlatest⟩ := h.setUpAll hc a.engineSettings
  refine ⟨r, htended, hlatest, ?_⟩
  unfold setUpEngines
  rw [hall]
  dsimp only
  split
  · exact .inr ⟨_, rfl, rfl⟩
  · exact .inl ⟨rfl, rfl⟩

/-- How far setting up gets for an auditor that is not set up yet: what becomes of the auditor, the
result, and the events of its engines. -/
inductive SettingUp (tree : FileTree) (a : Auditor) :
    Auditor → Except Fault Unit → List LifeEvent → Prop
  /-- The catalog cannot be loaded. -/
  | catalog {c : Catalog} {f : Fault} (hf : f.IsCommon) :
      SettingUp tree a { a with state := .initializing, catalog := c } (.error f) []
  /-- The engines cannot be built. -/
  | building {c : Catalog} {loaded : Auditor} {f : Fault}
      (hloaded : loaded = { a with state := .initializing, catalog := c })
      (hbuild : loaded.loadEngines.result = .error f) :
      SettingUp tree a loaded.loadEngines.auditor (.error f) loaded.loadEvents
  /-- The engines are set up. -/
  | engines {c : Catalog} {loaded : Auditor}
      (hloaded : loaded = { a with state := .initializing, catalog := c })
      (hsettled : c.Settled tree) :
      SettingUp tree a (loaded.loadEngines.auditor.setUpEngines tree).auditor
        (loaded.loadEngines.auditor.setUpEngines tree).result
        (loaded.loadEvents ++ loaded.loadEngines.auditor.readyEvents tree)

theorem settingUp (tree : FileTree) (hnew : a.initialized = false) :
    SettingUp tree a (a.setUp tree).auditor (a.setUp tree).result (a.setUpEvents tree) := by
  have hnot : ¬a.initialized = true := by simp [hnew]
  obtain ⟨c, hc⟩ := exists_loadCatalog tree { a with state := .initializing }
  unfold setUp setUpEvents
  rw [if_neg hnot, if_neg hnot]
  dsimp only
  cases hload : ({ a with state := .initializing }.loadCatalog tree).result with
  | error f =>
    rw [AuditStep.andThen_of_eq_error hload, AuditStep.andThen_of_eq_error rfl, hc]
    exact .catalog (isCommon_of_loadCatalog hload)
  | ok _ =>
    have hsettled : c.Settled tree := by
      have hloaded := (loadCatalog_settled hload).1
      rwa [hc] at hloaded
    have hfirst := AuditStep.andThen_of_eq_ok hload fun a _ => a.loadEngines
    generalize ({ a with state := .initializing }.loadCatalog tree).auditor = loaded at hc hfirst ⊢
    cases hbuild : loaded.loadEngines.result with
    | error f =>
      rw [AuditStep.andThen_of_eq_error (hfirst.1.trans hbuild), hfirst.2]
      dsimp only
      rw [List.append_nil]
      exact .building hc hbuild
    | ok _ =>
      obtain ⟨hresult, hauditor⟩ :=
        AuditStep.andThen_of_eq_ok (hfirst.1.trans hbuild) fun a _ => a.setUpEngines tree
      rw [hresult, hauditor, hfirst.2]
      exact .engines hc hsettled

/-- Setting up keeps an auditor and its events sound. The auditor counts as set up if it succeeds,
and only then; and it is out of use if no engine is ready, unless an extension has failed with just
that. -/
theorem SettingUp.sound (h : SettingUp tree a b result events) (hsound : Chronicle.Sound ⟨a, log⟩)
    (hnew : a.initialized = false) :
    Chronicle.Sound ⟨b, log ++ events⟩ ∧ (b.initialized = true ↔ result = .ok ()) ∧
      ∀ attempted, result = .error (.noEngines attempted) → b.state = .uninitialized ∨
        b.state = .initializing ∧
          ∃ ext ∈ a.extensions, ext.loaded = .error (.noEngines attempted) := by
  cases h with
  | catalog hf =>
    refine ⟨?_, by simp [hnew], ?_⟩
    · rw [List.append_nil]
      exact ⟨hsound.registry, hsound.factories, fun hready => absurd hready (by simp [hnew])⟩
    · intro attempted hresult
      exact absurd (Except.error.inj hresult) (hf.ne_noEngines attempted)
  | building hloaded hbuild =>
    rename_i c loaded f
    subst hloaded
    obtain ⟨r, hr⟩ := exists_loadEngines { a with state := .initializing, catalog := c }
    have htended := loadEngines_tended (a := { a with state := .initializing, catalog := c })
      hsound.registry hsound.factories
    rw [hr] at htended ⊢
    refine ⟨⟨htended, hsound.factories, fun hready => absurd hready (by simp [hnew])⟩,
      by simp [hnew], ?_⟩
    intro attempted hresult
    cases hresult
    exact .inr ⟨rfl,
      exists_of_loadEngines (a := { a with state := .initializing, catalog := c }) hbuild⟩
  | engines hloaded hsettled =>
    rename_i c loaded
    subst hloaded
    obtain ⟨r, hr⟩ := exists_loadEngines { a with state := .initializing, catalog := c }
    have htended := loadEngines_tended (a := { a with state := .initializing, catalog := c })
      hsound.registry hsound.factories
    rw [hr] at htended ⊢
    obtain ⟨later, hlater, hlatest, hend⟩ := setUpEngines_tended htended hsettled
    rw [List.append_assoc] at hlater hlatest
    rcases hend with ⟨hresult, hauditor⟩ | ⟨attempted, hresult, hauditor⟩
    · rw [hresult, hauditor]
      exact ⟨⟨hlater, hsound.factories, fun _ => hlatest⟩, by simp, fun _ h => by cases h⟩
    · rw [hresult, hauditor]
      exact ⟨⟨hlater, hsound.factories, fun hready => absurd hready (by simp [hnew])⟩,
        by simp [hnew], fun _ _ => .inl rfl⟩

end Auditor

theorem Auditor.setUp_of_initialized {a : Auditor} (h : a.initialized = true) (tree : FileTree) :
    a.setUp tree = { auditor := a, result := .ok () } ∧ a.setUpEvents tree = [] := by
  unfold Auditor.setUp Auditor.setUpEvents
  rw [if_pos h, if_pos h]
  exact ⟨rfl, rfl⟩

/-- Setting up, for any auditor: one that is set up already stays as it is. -/
theorem Chronicle.Sound.setUp {a : Auditor} {log : List LifeEvent} (h : Chronicle.Sound ⟨a, log⟩)
    (tree : FileTree) :
    Chronicle.Sound ⟨(a.setUp tree).auditor, log ++ a.setUpEvents tree⟩ ∧
      ((a.setUp tree).auditor.initialized = true ↔ (a.setUp tree).result = .ok ()) ∧
      ∀ attempted, (a.setUp tree).result = .error (.noEngines attempted) →
        (a.setUp tree).auditor.state = .uninitialized ∨
          (a.setUp tree).auditor.state = .initializing ∧
            ∃ ext ∈ a.extensions, ext.loaded = .error (.noEngines attempted) := by
  cases hinitialized : a.initialized with
  | false => exact (a.settingUp tree hinitialized).sound h hinitialized
  | true =>
    obtain ⟨hstays, hevents⟩ := Auditor.setUp_of_initialized hinitialized tree
    rw [hstays, hevents, List.append_nil]
    exact ⟨h, by simp [hinitialized], fun _ hresult => by cases hresult⟩

/-! ### Running -/

/-- A run of groups serves calls and does nothing else to its engines. -/
theorem Registry.Tended.execute {log : List LifeEvent} {r : Registry} (h : r.Tended log)
    {setup : RunSetup} {groups : Keyed (List Rule)} {course : SequenceCourse}
    (hcourse : RuleAudit.execute setup r groups = .ok course) :
    course.registry.Tended log ∧ course.registry.ids = r.ids := by
  have hkeeps : Keeps setup (fun _ => True) fun later => later.Tended log ∧ later.ids = r.ids := by
    refine ⟨fun _ _ _ _ _ => trivial, fun later job engine call hlater _ hprepared => ?_⟩
    have hget := (Job.prepareCall_eq_ok_iff.mp hprepared).1
    obtain ⟨hserved, hids⟩ := hlater.1.serve hget setup.tree call
    exact ⟨hserved, hids.trans hlater.2⟩
  cases hbatches : batchesOf setup groups with
  | error f =>
    rw [execute_of_error r hbatches] at hcourse
    cases hcourse
  | ok batches =>
    obtain ⟨found, hfound, hkept, -⟩ := hkeeps.execute ⟨h, rfl⟩ hbatches fun _ _ => trivial
    obtain rfl : found = course := Except.ok.inj (hfound.symm.trans hcourse)
    exact hkept

namespace Auditor

variable {tree : FileTree} {a : Auditor} {log : List LifeEvent}

/-- Once the engines are set up, a run changes an auditor's state and lets its engines serve
calls. -/
theorem runReady_tended (h : a.registry.Tended log) (tree : FileTree) (files : List FilePath)
    (inputs : List RuleInput) (engine : Option String) :
    ∃ r state, (a.runReady tree files inputs engine).auditor =
        { a with registry := r, state := state } ∧
      r.Tended log ∧ r.ids = a.registry.ids := by
  unfold runReady
  dsimp only
  split
  · exact ⟨a.registry, .running, rfl, h, rfl⟩
  · split
    · exact ⟨a.registry, .running, rfl, h, rfl⟩
    · unfold runPlan
      dsimp only
      split
      · exact ⟨a.registry, .running, rfl, h, rfl⟩
      · rename_i hcourse
        obtain ⟨htended, hids⟩ := h.execute hcourse
        exact ⟨_, .done, rfl, htended, hids⟩

/-- Calls go to engines that are registered at that moment. -/
theorem exists_of_called (h : a.registry.Tended log) {files : List FilePath}
    {inputs : List RuleInput} {engine : Option String} {tag : Nat} {call : Call}
    (hcalled : .called tag call ∈ (a.runReady tree files inputs engine).notices) :
    ∃ later id e, Registry.Later tree a.registry later ∧ later.get? id = some e ∧ e.tag = tag := by
  have htalk : ∀ {notices : List Notice}, (∀ n ∈ notices, n.IsTalk) → .called tag call ∉ notices :=
    fun hall hmem => hall _ hmem
  have hroute := Routing.isTalk_of_route a.registry (a.settings.requesting engine)
    (resolveRules (a.settings.requesting engine) a.catalog inputs).rules
  have hskipped := fun plan => isTalk_of_reportSkipped { a with state := .running } plan
    (resolveRules (a.settings.requesting engine) a.catalog inputs)
    (a.settings.requesting engine).engines.specificEngine
  unfold runReady at hcalled
  dsimp only at hcalled
  split at hcalled
  · cases hcalled
  · split at hcalled
    · rename_i heq
      rw [heq] at hroute
      exact absurd hcalled (htalk (List.forall_mem_cons.mpr ⟨trivial, hroute⟩))
    · rename_i plan heq
      rw [heq] at hroute
      -- what is told before the batches run is talk and the plan
      rcases List.mem_append.mp hcalled with hbefore | hserved
      · rcases List.mem_append.mp hbefore with hbefore | hrouted
        · exact absurd hbefore (htalk (List.forall_mem_append.mpr
            ⟨List.forall_mem_cons.mpr ⟨trivial, hroute⟩, hskipped plan⟩))
        · cases List.mem_singleton.mp hrouted
      · unfold runPlan at hserved
        dsimp only at hserved
        split at hserved
        · cases hserved
        · rename_i course hcourse
          rcases List.mem_append.mp hserved with hserved | hfinished
          · obtain ⟨v, htag, -, hsound, -⟩ :=
              (execute_accounts h.distinct.wellKeyed hcourse).calls tag call hserved
            obtain ⟨later, hlater, hget⟩ := hsound.engine
            exact ⟨later, v.job.batch.engine, v.engine, hlater, hget, htag⟩
          · cases List.mem_singleton.mp hfinished

/-- A run fails as its set-up does, or goes on once that has succeeded. -/
theorem perform_run_cases (tree : FileTree) (a : Auditor) (files : List FilePath)
    (inputs : List RuleInput) (engine : Option String) :
    ((∃ f, (a.setUp tree).result = .error f) ∧
        (Operation.run tree files inputs engine).perform a = a.setUp tree) ∨
      ((a.setUp tree).result = .ok () ∧
        let ready := (a.setUp tree).auditor.runReady tree files inputs engine
        (Operation.run tree files inputs engine).perform a =
          { auditor := ready.auditor
            notices := (a.setUp tree).notices ++ ready.notices
            result := ready.result.map fun _ => () }) := by
  rw [show (Operation.run tree files inputs engine).perform a =
    (a.run tree files inputs engine).forget from rfl]
  unfold run AuditStep.andThen
  generalize a.setUp tree = first
  obtain ⟨b, notices, f | _⟩ := first
  · exact .inl ⟨⟨f, rfl⟩, rfl⟩
  · exact .inr ⟨rfl, rfl⟩

end Auditor

/-- Running keeps an auditor and the events of its engines sound. -/
theorem Chronicle.Sound.runReady {a : Auditor} {log : List LifeEvent} (h : Chronicle.Sound ⟨a, log⟩)
    (tree : FileTree) (files : List FilePath) (inputs : List RuleInput) (engine : Option String) :
    let ready := a.runReady tree files inputs engine
    Chronicle.Sound ⟨ready.auditor, log⟩ ∧ ready.auditor.registry.ids = a.registry.ids ∧
      ready.auditor.initialized = a.initialized := by
  obtain ⟨r, state, hauditor, htended, hids⟩ :=
    a.runReady_tended h.registry tree files inputs engine
  dsimp only
  rw [hauditor]
  exact ⟨⟨htended, h.factories, fun hready id hid => h.ready hready id (hids ▸ hid)⟩, hids, rfl⟩

/-! ### Shutting down -/

/-- Shutting down always ends with an auditor out of use that has all its engines still. -/
theorem Chronicle.Sound.cleanup {a : Auditor} {log : List LifeEvent}
    (h : Chronicle.Sound ⟨a, log⟩) :
    Chronicle.Sound ⟨a.cleanup.auditor, log ++ a.registry.tearDownEvents a.registry.ids⟩ ∧
      a.registry.tearDownEvents a.registry.ids = a.registry.ids.map .tearDown ∧
      a.cleanup.auditor.registry.ids = a.registry.ids ∧ a.cleanup.result = .ok () ∧
      a.cleanup.auditor.state = .uninitialized ∧ a.cleanup.auditor.initialized = false ∧
      ∀ n ∈ a.cleanup.notices, n.IsTalk := by
  obtain ⟨failures, later, hall, hids, hevents, htended⟩ := h.registry.tearDownAll
  unfold Auditor.cleanup
  rw [hall]
  refine ⟨⟨htended, h.factories, fun hready => by cases hready⟩, hevents, hids, rfl, rfl, rfl, ?_⟩
  intro n hn
  obtain ⟨failure, -, hwarned⟩ := List.mem_flatMap.mp hn
  exact a.isTalk_of_warning _ n hwarned

/-! ### Operations -/

/-- Every operation keeps an auditor and the events of its engines sound, and leaves those engines
registered that are registered after its set-up. -/
theorem Chronicle.Sound.after {c : Chronicle} (h : c.Sound) (op : Operation) :
    (c.after op).Sound ∧ (op.perform c.auditor).auditor.registry.ids =
      (op.setsUp c.auditor).auditor.registry.ids := by
  obtain ⟨a, log⟩ := c
  cases op with
  | setUp tree => exact ⟨(h.setUp tree).1, rfl⟩
  | run tree files inputs engine =>
    have hready := (h.setUp tree).1
    unfold Chronicle.after
    dsimp only
    rcases a.perform_run_cases tree files inputs engine with ⟨-, hperform⟩ | ⟨-, hperform⟩
    · rw [hperform]
      exact ⟨hready, rfl⟩
    · obtain ⟨hsound, hids, -⟩ := hready.runReady tree files inputs engine
      rw [hperform]
      exact ⟨hsound, hids⟩
  | cleanup =>
    obtain ⟨hsound, -, hids, -⟩ := h.cleanup
    exact ⟨hsound, hids⟩

/-! ## Safety -/

/-- What is safe about an operation of an auditor after some events of its engines. -/
structure Operation.Safe (log : List LifeEvent) (a : Auditor) (op : Operation) : Prop where
  /-- While engines are set up nothing is routed, called or finished. -/
  talk : ∀ n ∈ (op.setsUp a).notices, n.IsTalk
  /-- An engine that is called is registered at that moment, and the last that happened to it is
  that it has been set up. -/
  calls : ∀ tag call, .called tag call ∈ (op.perform a).notices →
    (op.setsUp a).result = .ok () ∧ ∃ tree later id e,
      Registry.Later tree (op.setsUp a).auditor.registry later ∧ later.get? id = some e ∧
        e.tag = tag ∧ LifeEvent.latest (log ++ op.events a) id = some (.setUp id true)
  /-- Once set up, an auditor stays so, and nothing happens to its engines until they are shut
  down. -/
  once : a.initialized = true → op ≠ .cleanup →
    op.events a = [] ∧ (op.perform a).auditor.initialized = true
  /-- An engine that could not be set up, and has not been built anew, is gone and gets no rule. -/
  fallen : ∀ id, LifeEvent.Fallen (log ++ op.events a) id →
    id ∉ (op.perform a).auditor.registry.ids ∧ ∀ settings rules plan,
      (Routing.route (op.setsUp a).auditor.registry settings rules).2 = .ok plan →
        id ∉ plan.engines
  /-- When no engine is ready, nothing but setting up has been tried, and the auditor is out of use.
  Its state says so unless an extension has failed with just that fault. -/
  noEngines : ∀ attempted, (op.perform a).result = .error (.noEngines attempted) →
    op.perform a = op.setsUp a ∧ (op.perform a).auditor.initialized = false ∧
      ((op.perform a).auditor.state = .uninitialized ∨
        (op.perform a).auditor.state = .initializing ∧
          ∃ ext ∈ a.extensions, ext.loaded = .error (.noEngines attempted))
  /-- Shutting down reaches every registered engine, whichever of them fail. -/
  cleanup : op = .cleanup → (op.perform a).result = .ok () ∧
    op.events a = a.registry.ids.map .tearDown ∧
      (op.perform a).auditor.state = .uninitialized ∧ (op.perform a).auditor.initialized = false

namespace Chronicle.Sound

variable {a : Auditor} {log : List LifeEvent}

/-- An engine that has fallen is not registered, so no rule is routed to it. -/
theorem not_registered (h : Chronicle.Sound ⟨a, log⟩) (op : Operation) {id : String}
    (hfallen : LifeEvent.Fallen (log ++ op.events a) id) :
    id ∉ (op.perform a).auditor.registry.ids ∧ ∀ settings rules plan,
      (Routing.route (op.setsUp a).auditor.registry settings rules).2 = .ok plan →
        id ∉ plan.engines := by
  obtain ⟨hafter, hids⟩ := h.after op
  have hgone : id ∉ (op.perform a).auditor.registry.ids :=
    fun hid => hafter.registry.fallen id hid hfallen
  refine ⟨hgone, fun settings rules plan hplan hmem => hgone ?_⟩
  obtain ⟨group, hgroup, rfl⟩ := List.mem_map.mp hmem
  rw [hids]
  exact Keyed.isSome_get?_iff.mp (Routing.isSome_get?_of_mem_groups hplan hgroup)

theorem safe_setUp (h : Chronicle.Sound ⟨a, log⟩) (tree : FileTree) :
    (Operation.setUp tree).Safe log a where
  talk := a.isTalk_of_setUp tree
  calls := fun _ _ hcalled => (a.isTalk_of_setUp tree _ hcalled).elim
  once := by
    intro hinitialized _
    obtain ⟨hstays, hevents⟩ := Auditor.setUp_of_initialized hinitialized tree
    refine ⟨hevents, ?_⟩
    show (a.setUp tree).auditor.initialized = true
    rw [hstays]
    exact hinitialized
  fallen := fun _ hfallen => h.not_registered _ hfallen
  noEngines := by
    intro attempted hresult
    have hsetUp : (a.setUp tree).result = .error (.noEngines attempted) := hresult
    obtain ⟨-, hiff, hstate⟩ := h.setUp tree
    rw [hsetUp] at hiff
    have hunset : (a.setUp tree).auditor.initialized = false := by simpa using hiff
    exact ⟨rfl, hunset, hstate attempted hsetUp⟩
  cleanup := fun hop => by cases hop

theorem safe_run (h : Chronicle.Sound ⟨a, log⟩) (tree : FileTree) (files : List FilePath)
    (inputs : List RuleInput) (engine : Option String) :
    (Operation.run tree files inputs engine).Safe log a := by
  have hsetUp := h.safe_setUp tree
  obtain ⟨hready, hiff, -⟩ := h.setUp tree
  rcases a.perform_run_cases tree files inputs engine with ⟨⟨f, hf⟩, hperform⟩ | ⟨hok, hperform⟩
  · -- the set-up fails, so it is all that happens
    refine ⟨hsetUp.talk, ?_, ?_, fun _ hfallen => h.not_registered _ hfallen, ?_,
      fun hop => by cases hop⟩
    · rw [hperform]
      exact hsetUp.calls
    · intro hinitialized _
      rw [(Auditor.setUp_of_initialized hinitialized tree).1] at hf
      cases hf
    · rw [hperform]
      exact hsetUp.noEngines
  · have hinitialized := hiff.mpr hok
    refine ⟨hsetUp.talk, ?_, ?_, fun _ hfallen => h.not_registered _ hfallen, ?_,
      fun hop => by cases hop⟩
    · intro tag call hcalled
      rw [hperform] at hcalled
      rcases List.mem_append.mp hcalled with htold | hserved
      · exact (hsetUp.talk _ htold).elim
      · obtain ⟨later, id, e, hlater, hget, htag⟩ :=
          Auditor.exists_of_called hready.registry hserved
        have hregistered : id ∈ (a.setUp tree).auditor.registry.ids := by
          have hsome := hlater.isSome_get? id
          rw [hget] at hsome
          exact Keyed.isSome_get?_iff.mp hsome.symm
        exact ⟨hok, tree, later, id, e, hlater, hget, htag,
          hready.ready hinitialized id hregistered⟩
    · intro hbefore _
      refine ⟨(Auditor.setUp_of_initialized hbefore tree).2, ?_⟩
      rw [hperform]
      exact (hready.runReady tree files inputs engine).2.2.trans hinitialized
    · intro attempted hresult
      rw [hperform] at hresult
      have hcommon := Auditor.isCommon_of_runReady (exists_of_map_eq_error hresult)
      exact absurd rfl (hcommon.ne_noEngines attempted)

theorem safe_cleanup (h : Chronicle.Sound ⟨a, log⟩) : Operation.cleanup.Safe log a := by
  obtain ⟨-, hevents, -, hresult, hstate, hinitialized, htalk⟩ := h.cleanup
  refine ⟨fun n hn => absurd hn List.not_mem_nil, ?_, fun _ hop => absurd rfl hop,
    fun _ hfallen => h.not_registered _ hfallen, ?_,
    fun _ => ⟨hresult, hevents, hstate, hinitialized⟩⟩
  · exact fun tag call hcalled => (htalk _ hcalled).elim
  · intro attempted hfault
    rw [show (Operation.cleanup.perform a).result = .ok () from hresult] at hfault
    cases hfault

/-- Every operation of a sound auditor is safe. -/
theorem safe (h : Chronicle.Sound ⟨a, log⟩) : ∀ op : Operation, op.Safe log a
  | .setUp tree => h.safe_setUp tree
  | .run tree files inputs engine => h.safe_run tree files inputs engine
  | .cleanup => h.safe_cleanup

/-! ## Whole lives -/

/-- Nothing happens to engines that are set up until they are shut down. -/
theorem log_of_initialized {c : Chronicle} (h : c.Sound)
    (hinitialized : c.auditor.initialized = true) {ops : List Operation}
    (hops : ∀ op ∈ ops, op ≠ .cleanup) : (ops.foldl Chronicle.after c).log = c.log := by
  induction ops generalizing c with
  | nil => rfl
  | cons op rest ih =>
    obtain ⟨hevents, hstays⟩ := (h.safe op).once hinitialized (hops op List.mem_cons_self)
    have hlater := ih (h.after op).1 hstays
      fun other hother => hops other (List.mem_cons_of_mem _ hother)
    rw [List.foldl_cons, hlater]
    show c.log ++ op.events c.auditor = c.log
    rw [hevents, List.append_nil]

end Chronicle.Sound

namespace Auditor

/-- An auditor after operations, and the events of its engines. -/
def chronicle (a : Auditor) (ops : List Operation) : Chronicle :=
  ops.foldl Chronicle.after { auditor := a }

/-- An auditor that has not been set up, with tame engines under their own identifiers, and
factories that build tame engines. -/
structure Tame (a : Auditor) : Prop where
  new : a.initialized = false
  distinct : a.registry.Distinct
  engines : ∀ entry ∈ a.registry.entries, entry.2.Tame
  factories : ∀ factories, a.factoriesInUse.2 = .ok factories →
    ∀ entry ∈ factories, entry.2.BuildsTame

variable {a : Auditor}

/-- An auditor and the events of its engines are sound after any operations. -/
theorem Tame.sound (h : a.Tame) (ops : List Operation) : (a.chronicle ops).Sound := by
  have hrun : ∀ c : Chronicle, c.Sound → (ops.foldl Chronicle.after c).Sound := by
    induction ops with
    | nil => exact fun _ hc => hc
    | cons op rest ih => exact fun c hc => ih _ (hc.after op).1
  refine hrun _ ⟨⟨h.distinct, h.engines, fun id _ hfallen => ?_⟩, h.factories, ?_⟩
  · cases hfallen
  · intro hready
    rw [h.new] at hready
    cases hready

/-- Whatever operations there have been, and however they ended, the next one is safe, and nothing
happens to the engines of an auditor that is set up until they are shut down. -/
theorem life_safe (h : a.Tame) (ops : List Operation) :
    (∀ op : Operation, op.Safe (a.chronicle ops).log (a.chronicle ops).auditor) ∧
      ∀ more : List Operation, (a.chronicle ops).auditor.initialized = true →
        (∀ op ∈ more, op ≠ .cleanup) →
          (a.chronicle (ops ++ more)).log = (a.chronicle ops).log := by
  have hsound := h.sound ops
  refine ⟨hsound.safe, fun more hinitialized hmore => ?_⟩
  rw [chronicle, List.foldl_append]
  exact hsound.log_of_initialized hinitialized hmore

/-- An auditor with an engine that can be set up once only, and an extension that fails as if no
engine were ready. -/
def flakyEngines : Auditor :=
  let flaky : Engine := .ofBehaviour "flaky" "1.0.0" [] true
    { setUp := fun age _ => if age = 0 then none else some (.plain .runtime (some "no"))
      analyze := fun _ _ => { answer := .ok (.report {}) } } 1
  { settings := { engines := { enabled := ["missing"] } }
    catalog := .ofRules []
    registry := { entries := [("flaky", flaky)] }
    extensions := [{ name := "missing", loaded := .error (.noEngines ["missing"]) }] }

/-- While the engine is set up, runs leave it alone. Once it has refused, the auditor is out of use,
and then it is left half-way by the extension. -/
theorem life_safe_flaky :
    let first := flakyEngines.chronicle [.setUp []]
    let later := flakyEngines.chronicle [.setUp [], .cleanup, .setUp []]
    flakyEngines.Tame ∧ first.log = [.setUp "flaky" true] ∧
      (flakyEngines.chronicle [.setUp [], .run [] [] [] none, .setUp []]).log = first.log ∧
      later.log = [.setUp "flaky" true, .tearDown "flaky", .setUp "flaky" false] ∧
      later.auditor.state = .uninitialized ∧
      (Operation.setUp []).Safe later.log later.auditor ∧
      (later.auditor.setUp []).result = .error (.noEngines ["missing"]) ∧
      (later.auditor.setUp []).auditor.state = .initializing := by
  intro first later
  have htame : flakyEngines.Tame :=
    { new := rfl
      distinct := ⟨by decide, by decide⟩
      engines := by
        intro entry hentry b hb
        obtain rfl := List.mem_singleton.mp hentry
        cases hb
        refine ⟨fun age settings f hf => ?_, fun age f hf => by cases hf⟩
        dsimp only at hf
        split at hf
        · cases hf
        · cases hf
          rfl
      factories := fun factories hfactories => by cases hfactories }
  refine ⟨htame, by decide +kernel, ?_, by decide +kernel, by decide +kernel,
    (life_safe htame _).1 _, rfl, by decide +kernel⟩
  refine (life_safe htame [.setUp []]).2 [.run [] [] [] none, .setUp []] (by decide +kernel) ?_
  intro op hop
  simp only [List.mem_cons, List.not_mem_nil, or_false] at hop
  rcases hop with rfl | rfl
  · exact fun h => by cases h
  · exact fun h => by cases h

end Auditor

end RuleAudit
