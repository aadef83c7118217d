import RuleAudit.Proofs.Lifecycle
import RuleAudit.Proofs.Repetition

/-!
# Runs that ask for an engine

A run may ask for an engine of its own. Setting up looks at no request (`Auditor.setUp_requesting`),
and everything else takes the settings of the run, so that a run comes to the same whether it asks
for the engine or the settings do (`Auditor.run_requesting`). The settings stay as they are
(`Auditor.run_settings`), and a request shows later only in what the engines have become
(`Auditor.run_after_request`). If engines may be used again and again, it does not show at all
(`Auditor.Fresh.run_after`).
-/

namespace RuleAudit

/-! ## Settings -/

namespace Settings

variable (s : Settings)

/-- Assigning a request takes it as a run does, whatever blanks surround it and however `auto` is
written. -/
theorem assign_requestedEngine (engine : String) :
    s.assign ["engines", "requested_engine"] (.text engine) =
      .ok (s.requesting (some engine), .text (normalizeRequest engine)) := by
  have hengines : s.engines.assign "requested_engine" (.text engine) =
      .ok { s.engines with requestedEngine := normalizeRequest engine } := by
    have hrequest : requestOf (.text engine) = normalizeRequest engine := rfl
    rw [← hrequest]
    rfl
  unfold requesting
  calc s.assign ["engines", "requested_engine"] (.text engine)
    _ = (s.engines.assign "requested_engine" (.text engine)).map fun e =>
          ({ s with engines := e }, (e.toFields.get? "requested_engine").getD .null) := rfl
    _ = .ok ({ s with engines := { s.engines with requestedEngine := normalizeRequest engine } },
          .text (normalizeRequest engine)) := by
      rw [hengines]
      generalize normalizeRequest engine = request
      rfl

@[simp] theorem requesting_output (engine : Option String) :
    (s.requesting engine).output = s.output := by
  cases engine <;> simp only [requesting]

@[simp] theorem requesting_enabled (engine : Option String) :
    (s.requesting engine).engines.enabled = s.engines.enabled := by
  cases engine <;> simp only [requesting]

@[simp] theorem requesting_engineSettings (engine : Option String) :
    (s.requesting engine).engines.settings = s.engines.settings := by
  cases engine <;> simp only [requesting]

end Settings

/-- An auditor whose settings ask for an engine. -/
def Auditor.requesting (a : Auditor) (engine : Option String) : Auditor :=
  { a with settings := a.settings.requesting engine }

namespace AuditStep

variable {α β : Type}

/-- The step with other settings of its auditor. -/
def withSettings (s : AuditStep α) (settings : Settings) : AuditStep α :=
  { s with auditor := { s.auditor with settings := settings } }

/-- A step after which the settings ask for an engine. -/
def requesting (s : AuditStep α) (engine : Option String) : AuditStep α :=
  { s with auditor := s.auditor.requesting engine }

/-- Putting the settings back takes a request away. -/
theorem requesting_withSettings (s : AuditStep α) (engine : Option String) :
    (s.requesting engine).withSettings s.auditor.settings = s := rfl

/-- Two steps in a row keep a request that each of them keeps. -/
theorem requesting_andThen {f g : Auditor → α → AuditStep β} {engine : Option String}
    (h : ∀ a x, g (a.requesting engine) x = (f a x).requesting engine) (s : AuditStep α) :
    (s.requesting engine).andThen g = (s.andThen f).requesting engine := by
  have hresult : (s.requesting engine).result = s.result := rfl
  unfold AuditStep.andThen
  rw [hresult]
  cases s.result with
  | error fault => rfl
  | ok x =>
    have hnext : g (s.requesting engine).auditor x = (f s.auditor x).requesting engine :=
      h s.auditor x
    dsimp only
    rw [hnext]
    rfl

end AuditStep

namespace Auditor

section Requesting

variable {tree : FileTree} (a : Auditor) (engine : Option String)

@[simp] theorem requesting_settings :
    (a.requesting engine).settings = a.settings.requesting engine := rfl

@[simp] theorem requesting_catalog : (a.requesting engine).catalog = a.catalog := rfl

@[simp] theorem requesting_registry : (a.requesting engine).registry = a.registry := rfl

@[simp] theorem requesting_factoriesInUse :
    (a.requesting engine).factoriesInUse = a.factoriesInUse := rfl

@[simp] theorem requesting_engineSettings :
    (a.requesting engine).engineSettings = a.engineSettings := by
  simp only [engineSettings, requesting_registry, requesting_settings, Settings.requesting_output,
    Settings.requesting_engineSettings]

@[simp] theorem requesting_warning (text : String) :
    (a.requesting engine).warning text = a.warning text := by
  simp only [warning, requesting_settings, Settings.requesting_output]

@[simp] theorem requesting_reportSkipped (plan : Plan) (res : Resolution)
    (requested : Option String) :
    (a.requesting engine).reportSkipped plan res requested =
      a.reportSkipped plan res requested := by
  simp only [reportSkipped, requesting_warning]

/-! ## Setting up -/

theorem loadCatalog_requesting :
    (a.requesting engine).loadCatalog tree = (a.loadCatalog tree).requesting engine := by
  unfold loadCatalog
  rw [requesting_catalog]
  cases a.catalog.load tree with
  | ok catalog => rfl
  | error f =>
    dsimp only
    rw [requesting_warning]
    split <;> rfl

theorem loadEngines_requesting :
    (a.requesting engine).loadEngines = a.loadEngines.requesting engine := by
  unfold loadEngines
  rw [requesting_registry, requesting_factoriesInUse, requesting_settings,
    Settings.requesting_enabled]
  split
  · rfl
  · split
    · rfl
    · dsimp only
      split <;> rfl

theorem setUpEngines_requesting :
    (a.requesting engine).setUpEngines tree = (a.setUpEngines tree).requesting engine := by
  unfold setUpEngines
  simp only [requesting_registry, requesting_catalog, requesting_engineSettings,
    requesting_settings, Settings.requesting_enabled, requesting_warning]
  split
  · rfl
  · split <;> rfl

/-- Setting up looks at no request. -/
theorem setUp_requesting :
    (a.requesting engine).setUp tree = (a.setUp tree).requesting engine := by
  unfold setUp
  change (if a.initialized then _ else _) = _
  split
  · rfl
  · have hload := @loadCatalog_requesting tree { a with state := .initializing } engine
    have hbuild := AuditStep.requesting_andThen (f := fun a _ => a.loadEngines)
      (g := fun a _ => a.loadEngines) (fun a _ => loadEngines_requesting a engine)
      ({ a with state := .initializing }.loadCatalog tree)
    rw [← AuditStep.requesting_andThen (g := fun a _ => a.setUpEngines tree)
      fun a _ => setUpEngines_requesting a engine, ← hbuild, ← hload]
    rfl

/-! ## Runs -/

theorem runPlan_requesting (settings : Settings) (res : Resolution) (kept : List FilePath)
    (metrics : Metrics) (plan : Plan) :
    (a.requesting engine).runPlan tree settings res kept metrics plan =
      (a.runPlan tree settings res kept metrics plan).requesting engine := by
  unfold runPlan
  rw [requesting_settings, Settings.requesting_output, requesting_registry]
  dsimp only
  split <;> rfl

/-- Once the engines are set up, the request is all that a run takes from its argument. -/
theorem runReady_requesting (files : List FilePath) (inputs : List RuleInput) :
    (a.requesting engine).runReady tree files inputs none =
      (a.runReady tree files inputs engine).requesting engine := by
  have hrunning : ({ a.requesting engine with state := .running } : Auditor) =
      Auditor.requesting { a with state := .running } engine := rfl
  have hnone : (a.settings.requesting engine).requesting none = a.settings.requesting engine := rfl
  unfold runReady
  rw [hrunning]
  dsimp only
  simp only [requesting_settings, hnone, requesting_catalog, requesting_registry,
    requesting_reportSkipped, runPlan_requesting]
  split
  · rfl
  · split <;> rfl

end Requesting

variable {tree : FileTree}

/-- It makes no difference to a run whether it asks for an engine or the settings do. -/
theorem run_requesting (tree : FileTree) (a : Auditor) (files : List FilePath)
    (inputs : List RuleInput) (engine : Option String) :
    (a.requesting engine).run tree files inputs none =
      (a.run tree files inputs engine).requesting engine := by
  unfold run
  rw [setUp_requesting]
  exact AuditStep.requesting_andThen (f := fun a _ => a.runReady tree files inputs engine)
    (g := fun a _ => a.runReady tree files inputs none)
    (fun a _ => runReady_requesting a engine files inputs) _

/-! ## What a run leaves -/

/-- A run of an auditor that is set up changes its state and its engines. -/
theorem exists_runReady (tree : FileTree) (a : Auditor) (files : List FilePath)
    (inputs : List RuleInput) (engine : Option String) :
    ∃ r state, (a.runReady tree files inputs engine).auditor =
      { a with registry := r, state := state } := by
  unfold runReady
  dsimp only
  split
  · exact ⟨a.registry, .running, rfl⟩
  · split
    · exact ⟨a.registry, .running, rfl⟩
    · unfold runPlan
      dsimp only
      split
      · exact ⟨a.registry, .running, rfl⟩
      · exact ⟨_, .done, rfl⟩

/-- A run leaves the settings as they are, whatever it asks for. -/
theorem run_settings (tree : FileTree) (a : Auditor) (files : List FilePath)
    (inputs : List RuleInput) (engine : Option String) :
    (a.run tree files inputs engine).auditor.settings = a.settings := by
  refine AuditStep.andThen_auditor (p := fun b => b.settings = a.settings)
    (setUp_settings tree a) fun b _ h => ?_
  obtain ⟨r, state, hauditor⟩ := exists_runReady tree b files inputs engine
  rw [hauditor, h]

theorem initialized_of_setUp {a : Auditor} (h : (a.setUp tree).result = .ok ()) :
    (a.setUp tree).auditor.initialized = true := by
  cases hinitialized : a.initialized with
  | true =>
    rw [(setUp_of_initialized hinitialized tree).1]
    exact hinitialized
  | false =>
    obtain ⟨-, built, -, -, hengines, hauditor⟩ := exists_stages_of_setUp hinitialized h
    obtain ⟨c, r, failures, -, -, hready⟩ := exists_of_setUpEngines hengines
    rw [hauditor, hready]

theorem run_of_initialized {a : Auditor} (h : a.initialized = true) (tree : FileTree)
    (files : List FilePath) (inputs : List RuleInput) (engine : Option String) :
    a.run tree files inputs engine = a.runReady tree files inputs engine := by
  unfold run
  rw [(setUp_of_initialized h tree).1]
  rfl

/-- A run of an auditor that is set up does not look at its state. -/
theorem run_of_state {a : Auditor} (h : a.initialized = true) (state : AuditorState)
    (tree : FileTree) (files : List FilePath) (inputs : List RuleInput) (engine : Option String) :
    { a with state := state }.run tree files inputs engine = a.run tree files inputs engine :=
  calc { a with state := state }.run tree files inputs engine
    _ = { a with state := state }.runReady tree files inputs engine :=
      run_of_initialized (a := { a with state := state }) h tree files inputs engine
    _ = a.runReady tree files inputs engine := rfl
    _ = a.run tree files inputs engine := (run_of_initialized h tree files inputs engine).symm

/-- A run changes the state and the engines of the auditor that has been set up for it. -/
theorem exists_run_of_setUp {a : Auditor} (h : (a.setUp tree).result = .ok ())
    (files : List FilePath) (inputs : List RuleInput) (engine : Option String) :
    ∃ r state, (a.run tree files inputs engine).auditor =
      { (a.setUp tree).auditor with registry := r, state := state } := by
  obtain ⟨-, hauditor⟩ := AuditStep.andThen_of_eq_ok h
    fun a _ => a.runReady tree files inputs engine
  obtain ⟨r, state, hrun⟩ := exists_runReady tree (a.setUp tree).auditor files inputs engine
  exact ⟨r, state, hauditor.trans hrun⟩

/-- Whatever two runs ask for, they leave auditors that differ in their engines at most: with the
same engines, both go on alike. -/
theorem run_after_request (a : Auditor) (files : List FilePath) (inputs : List RuleInput)
    (engine engine' : Option String) (registry : Registry) (tree' : FileTree)
    (files' : List FilePath) (inputs' : List RuleInput) (later : Option String) :
    { (a.run tree files inputs engine).auditor with registry := registry }.run
        tree' files' inputs' later =
      { (a.run tree files inputs engine').auditor with registry := registry }.run
        tree' files' inputs' later := by
  cases hsetUp : (a.setUp tree).result with
  | error f =>
    unfold run
    rw [AuditStep.andThen_of_eq_error hsetUp, AuditStep.andThen_of_eq_error hsetUp]
  | ok _ =>
    obtain ⟨r, state, hauditor⟩ := exists_run_of_setUp hsetUp files inputs engine
    obtain ⟨r', state', hauditor'⟩ := exists_run_of_setUp hsetUp files inputs engine'
    let again : Auditor := { (a.setUp tree).auditor with registry := registry }
    have hagain : again.initialized = true := initialized_of_setUp hsetUp
    rw [hauditor, hauditor']
    exact (run_of_state hagain state tree' files' inputs' later).trans
      (run_of_state hagain state' tree' files' inputs' later).symm

/-! ## Operations in a row -/

/-- An auditor after some operations. -/
def performAll (a : Auditor) (ops : List Operation) : Auditor :=
  ops.foldl (fun a op => (op.perform a).auditor) a

end Auditor

namespace Operation

/-- The operation finds one tree of files. -/
def FindsTree (tree : FileTree) : Operation → Prop
  | .setUp found | .run found .. => found = tree
  | .cleanup => True

/-- The rules that an operation runs once an auditor is ready. -/
def rules (ready : Auditor) : Operation → List Rule
  | .run _ _ inputs engine => ready.rulesOf inputs engine
  | .setUp _ | .cleanup => []

end Operation

namespace Auditor

variable {tree : FileTree} {ready a : Auditor} {rules : List Rule}

theorem Remains.perform (hready : ready.Renewable tree) (hcoherent : Scan.Coherent rules)
    {op : Operation} (htree : op.FindsTree tree) (hmem : ∀ rule ∈ op.rules ready, rule ∈ rules)
    (h : ready.Remains tree rules a) : ready.Remains tree rules (op.perform a).auditor := by
  cases op with
  | setUp found =>
    obtain rfl : found = tree := htree
    exact .inl (h.setUp hready).2
  | run found files inputs engine =>
    obtain rfl : found = tree := htree
    exact (h.run_of_coherent hready files hcoherent hmem).2
  | cleanup => exact h.cleanup hready

theorem Remains.performAll (hready : ready.Renewable tree) (hcoherent : Scan.Coherent rules)
    {ops : List Operation} (htree : ∀ op ∈ ops, op.FindsTree tree)
    (hmem : ∀ op ∈ ops, ∀ rule ∈ op.rules ready, rule ∈ rules) (h : ready.Remains tree rules a) :
    ready.Remains tree rules (a.performAll ops) := by
  induction ops generalizing a with
  | nil => exact h
  | cons op rest ih =>
    obtain ⟨hfirst, hrest⟩ := List.forall_mem_cons.mp htree
    obtain ⟨hrules, hmore⟩ := List.forall_mem_cons.mp hmem
    exact ih hrest hmore (h.perform hready hcoherent hfirst hrules)

/-- A run comes to what it would have come to without the run before it and all that was done in
between, if the engines may be used again and again and no two rules of one identifier differ. -/
theorem Fresh.run_after (h : a.Fresh) (hsetUp : (a.setUp tree).result = .ok ())
    (files : List FilePath) (inputs : List RuleInput) (engine : Option String)
    {ops : List Operation} (htree : ∀ op ∈ ops, op.FindsTree tree) (files' : List FilePath)
    (inputs' : List RuleInput) (later : Option String)
    (hcoherent : Scan.Coherent ((Operation.run tree files inputs engine :: ops ++
      [Operation.run tree files' inputs' later]).flatMap
        (Operation.rules (a.setUp tree).auditor))) :
    (((a.run tree files inputs engine).auditor.performAll ops).run tree files' inputs' later).result
      = (a.run tree files' inputs' later).result := by
  have hready := h.renewable hsetUp
  generalize hall : Operation.run tree files inputs engine :: ops ++
    [Operation.run tree files' inputs' later] = all at hcoherent
  have hmem : ∀ op ∈ all, ∀ rule ∈ op.rules (a.setUp tree).auditor,
      rule ∈ all.flatMap (Operation.rules (a.setUp tree).auditor) :=
    fun op hop rule hrule => List.mem_flatMap.mpr ⟨op, hop, hrule⟩
  obtain ⟨hfirstMem, hopsMem, hlastMem⟩ : Operation.run tree files inputs engine ∈ all ∧
      (∀ op ∈ ops, op ∈ all) ∧ Operation.run tree files' inputs' later ∈ all := by
    subst hall
    exact ⟨by simp, fun op hop => by simp [hop], by simp⟩
  -- the first run is one of the auditor that has been set up for it
  have hfirst : (a.setUp tree).auditor.Remains tree
      (all.flatMap (Operation.rules (a.setUp tree).auditor))
      (a.run tree files inputs engine).auditor := by
    obtain ⟨-, hauditor⟩ := AuditStep.andThen_of_eq_ok hsetUp
      fun a _ => a.runReady tree files inputs engine
    have hstands := (hready.standsBy _).runReady_of_coherent hready files hcoherent
      (hmem _ hfirstMem)
    exact .inl (hauditor ▸ hstands.2)
  have hafter := hfirst.performAll hready hcoherent htree fun op hop =>
    hmem op (hopsMem op hop)
  obtain ⟨hlater, -⟩ := hafter.run_of_coherent hready files' hcoherent
    (hmem _ hlastMem)
  obtain ⟨halone, -⟩ := AuditStep.andThen_of_eq_ok hsetUp
    fun a _ => a.runReady tree files' inputs' later
  exact hlater.trans halone.symm

/-- A run that asks for an engine comes to what a run comes to under settings to which the request
was assigned, and leaves the same behind, but for the settings: these stay as they are. What comes
later cannot tell that an engine was asked for unless an engine remembers: with the same engines it
is what it would be without the request. If engines can be used again and again, a later run comes
to what it would have come to without everything before. -/
theorem run_requesting_leaves_no_trace (tree : FileTree) (a : Auditor) (files : List FilePath)
    (inputs : List RuleInput) (s : String) :
    let asked := a.run tree files inputs (some s)
    (∃ settings stored,
      a.settings.assign ["engines", "requested_engine"] (.text s) = .ok (settings, stored) ∧
      asked =
        ({ a with settings := settings }.run tree files inputs none).withSettings a.settings) ∧
    asked.auditor.settings = a.settings ∧
    (∀ registry tree' files' inputs',
      let unasked := a.run tree files inputs none
      { asked.auditor with registry := registry }.run tree' files' inputs' none =
        { unasked.auditor with registry := registry }.run tree' files' inputs' none) ∧
    (a.Fresh → (a.setUp tree).result = .ok () → ∀ ops : List Operation,
      (∀ op ∈ ops, op.FindsTree tree) → ∀ files' inputs',
      Scan.Coherent ((Operation.run tree files inputs (some s) :: ops ++
        [Operation.run tree files' inputs' none]).flatMap
          (Operation.rules (a.setUp tree).auditor)) →
      ((asked.auditor.performAll ops).run tree files' inputs' none).result =
        (a.run tree files' inputs' none).result) := by
  intro asked
  have hkept : asked.auditor.settings = a.settings := run_settings tree a files inputs (some s)
  refine ⟨⟨a.settings.requesting (some s), _, a.settings.assign_requestedEngine s, ?_⟩, hkept,
    fun registry tree' files' inputs' => ?_, fun hfresh hsetUp ops htree files' inputs' => ?_⟩
  · have hassigned :
        { a with settings := a.settings.requesting (some s) }.run tree files inputs none =
          asked.requesting (some s) := run_requesting tree a files inputs (some s)
    rw [hassigned, ← hkept]
    exact (AuditStep.requesting_withSettings asked (some s)).symm
  · exact run_after_request a files inputs (some s) none registry tree' files' inputs' none
  · exact hfresh.run_after hsetUp files inputs (some s) htree files' inputs' none

/-- An auditor as it is built, with two engines that support one rule each. -/
def sharedRules : Auditor :=
  let left := Routing.idleEngine "left" ["A"]
  let right := Routing.idleEngine "right" ["B"]
  { catalog := .ofRules [{ id := "A" }, { id := "B" }]
    registry := { entries := [("left", left), ("right", right)] } }

/-- A rule is skipped when the other engine is asked for. Later both rules run, although a run in
between asked for an engine too. -/
theorem run_requesting_right :
    let tree : FileTree := []
    let inputs := ["A", "B"].map RuleInput.id
    let asked := sharedRules.run tree [] inputs (some " right ")
    let later := asked.auditor.performAll [.cleanup, .run tree [] inputs (some "left")]
    sharedRules.Fresh ∧ asked.result.toOption.map RunResult.skippedRules = some ["A"] ∧
      asked.auditor.settings = sharedRules.settings ∧
      (later.run tree [] inputs none).result.toOption.map RunResult.skippedRules = some [] := by
  intro tree inputs asked later
  have hfresh : sharedRules.Fresh :=
    { new := rfl
      catalog := Catalog.wellKeyed_ofRules _
      registry := ⟨by decide, by decide⟩
      engines := by
        intro entry hentry
        simp only [sharedRules, List.mem_cons, List.not_mem_nil, or_false] at hentry
        rcases hentry with rfl | rfl
        · exact .supplied rfl ⟨fun _ _ _ => rfl, fun _ _ _ => rfl, fun _ _ hf => by cases hf⟩
            (by decide)
        · exact .supplied rfl ⟨fun _ _ _ => rfl, fun _ _ _ => rfl, fun _ _ hf => by cases hf⟩
            (by decide)
      factories := by
        intro factories hfactories entry hentry e he
        obtain rfl : factories = [(heuristicEngine, .scanner)] := by cases hfactories; rfl
        obtain rfl := List.mem_singleton.mp hentry
        cases he
        exact .scanner rfl rfl }
  have hplain : ∀ rule ∈ [Operation.run tree [] inputs (some " right "), .cleanup,
      .run tree [] inputs (some "left"), .run tree [] inputs none].flatMap
        (Operation.rules (sharedRules.setUp tree).auditor), rule.patterns = [] := by decide +kernel
  obtain ⟨-, hkept, -, hforgets⟩ :=
    run_requesting_leaves_no_trace tree sharedRules [] inputs " right "
  have hlater := hforgets hfresh rfl [.cleanup, .run tree [] inputs (some "left")]
    (by simp [Operation.FindsTree]) [] inputs
    fun r hr r' hr' _ => (hplain r hr).trans (hplain r' hr').symm
  refine ⟨hfresh, by decide +kernel, hkept, ?_⟩
  rw [hlater]
  decide +kernel

end Auditor

end RuleAudit
