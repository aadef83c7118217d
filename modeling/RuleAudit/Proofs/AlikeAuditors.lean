import RuleAudit.Proofs.Alike

/-!
# Auditors that differ in their engines' replies

Factories, extensions and auditors whose engines are alike. Auditors that are alike are set up alike
(`Auditor.Alike.setUp`), and then run the same groups of the same rules over the same files:
whatever differs between their results comes from `execute` (`Auditor.Alike.run_cases`).
-/

namespace RuleAudit

/-- Two computations that fail with one fault, or give related results. -/
inductive AlikeResults {α : Type} (related : α → α → Prop) :
    Except Fault α → Except Fault α → Prop where
  | error (f : Fault) : AlikeResults related (.error f) (.error f)
  | ok {x x' : α} (h : related x x') : AlikeResults related (.ok x) (.ok x')

variable {related : ReplyRelation}

/-! ## Factories -/

/-- Products that are alike engines, or the same value. -/
inductive Product.Alike (related : ReplyRelation) : Product → Product → Prop where
  | engine {e e' : Engine} (h : e.Alike related e') : Alike related (.engine e) (.engine e')
  | other (v : Value) : Alike related (.other v) (.other v)

/-- Factories whose products are alike. -/
inductive Factory.Alike (related : ReplyRelation) : Factory → Factory → Prop where
  | scanner : Alike related .scanner .scanner
  | extension {built built' : Except Fault Product}
      (h : AlikeResults (Product.Alike related) built built') :
      Alike related (.extension built) (.extension built')

theorem Factory.Alike.build {factory factory' : Factory} (h : factory.Alike related factory') :
    AlikeResults (Product.Alike related) factory.build factory'.build := by
  cases h with
  | scanner => exact .ok (.engine ⟨.scanner true [], rfl⟩)
  | extension h => exact h

/-- Factories under the same names. -/
def Factories.Alike (related : ReplyRelation) : Factories → Factories → Prop :=
  Keyed.Alike (Factory.Alike related)

/-- Extensions of one name that cannot be used for the same reason, or offer alike factories. -/
inductive Extension.Alike (related : ReplyRelation) : Extension → Extension → Prop where
  | failed (name : String) (f : Fault) : Alike related ⟨name, .error f⟩ ⟨name, .error f⟩
  | missing (name : String) : Alike related ⟨name, .ok none⟩ ⟨name, .ok none⟩
  | offered (name : String) {factory factory' : Factory} (h : factory.Alike related factory') :
      Alike related ⟨name, .ok (some factory)⟩ ⟨name, .ok (some factory')⟩

theorem Extension.Alike.factoriesFrom {extensions extensions' : List Extension}
    (h : List.Forall₂ (Extension.Alike related) extensions extensions') {found found' : Factories}
    (hfound : found.Alike related found') :
    AlikeResults (Factories.Alike related) (Extension.factoriesFrom found extensions).2
      (Extension.factoriesFrom found' extensions').2 := by
  induction h generalizing found found' with
  | nil => exact .ok hfound
  | cons hfirst _ ih =>
    cases hfirst with
    | failed name f =>
      unfold Extension.factoriesFrom
      dsimp only
      split
      · exact ih hfound
      · exact .error f
    | missing name => exact ih hfound
    | offered name hfactory => exact ih (Keyed.Alike.put hfound name hfactory)

theorem Factories.Alike.standard {extensions extensions' : List Extension}
    (h : List.Forall₂ (Extension.Alike related) extensions extensions') :
    AlikeResults (Factories.Alike related) (Factories.standard extensions).2
      (Factories.standard extensions').2 := by
  have hall : ∀ {found found' : Factories}, found.Alike related found' →
      ∀ {all all' : Factories}, all.Alike related all' →
      Factories.Alike related
        (found.foldl (fun all entry => if Keyed.has all entry.1 then all
          else Keyed.put all entry.1 entry.2) all)
        (found'.foldl (fun all entry => if Keyed.has all entry.1 then all
          else Keyed.put all entry.1 entry.2) all') := by
    intro found found' hfound
    induction hfound with
    | nil => exact fun hstart => hstart
    | cons hentry _ ih =>
      intro all all' hstart
      rw [List.foldl_cons, List.foldl_cons, ← hentry.1, Keyed.Alike.has_eq hstart]
      refine ih ?_
      split
      · exact hstart
      · exact Keyed.Alike.put hstart _ hentry.2
  have hfound : AlikeResults (Factories.Alike related) (Extension.factoriesFrom [] extensions).2
      (Extension.factoriesFrom [] extensions').2 := Extension.Alike.factoriesFrom h .nil
  unfold Factories.standard
  generalize Extension.factoriesFrom [] extensions = course at hfound ⊢
  generalize Extension.factoriesFrom [] extensions' = course' at hfound ⊢
  obtain ⟨notices, result⟩ := course
  obtain ⟨notices', result'⟩ := course'
  cases hfound with
  | error f => exact .error f
  | ok hfactories => exact .ok (hall hfactories (.cons ⟨rfl, .scanner⟩ .nil))

theorem Factories.Alike.load {factories factories' : Factories}
    (h : factories.Alike related factories') {r r' : Registry} (hr : r.Alike related r')
    (ids : List String) :
    (factories.load r ids).1.Alike related (factories'.load r' ids).1 ∧
      (factories'.load r' ids).2.2 = (factories.load r ids).2.2 := by
  induction ids generalizing r r' with
  | nil => exact ⟨hr, rfl⟩
  | cons id rest ih =>
    unfold Factories.load
    rcases Keyed.Alike.get? h id with ⟨hnone, hnone'⟩ | ⟨factory, factory', hsome, hsome', hboth⟩
    · rw [hnone, hnone']
      exact ih hr
    · rw [hsome, hsome']
      dsimp only
      have hbuilt := hboth.build
      generalize factory.build = built at hbuilt ⊢
      generalize factory'.build = built' at hbuilt ⊢
      cases hbuilt with
      | error f =>
        dsimp only
        split
        · exact ih hr
        · exact ⟨hr, rfl⟩
      | ok hproduct =>
        cases hproduct with
        | other v => exact ⟨hr, rfl⟩
        | engine he =>
          obtain ⟨hregistry, hresult⟩ := ih (hr.register he)
          refine ⟨hregistry, ?_⟩
          dsimp only
          rw [hresult, he.id_eq]

/-! ## Auditors -/

/-- Auditors that differ at most in the replies of their engines. -/
structure Auditor.Alike (related : ReplyRelation) (a a' : Auditor) : Prop where
  settings : a'.settings = a.settings
  catalog : a'.catalog = a.catalog
  registry : a.registry.Alike related a'.registry
  factories : a.factories.Alike related a'.factories
  extensions : List.Forall₂ (Extension.Alike related) a.extensions a'.extensions
  state : a'.state = a.state
  initialized : a'.initialized = a.initialized

/-- Steps that leave auditors alike and come to the same. -/
structure AuditStep.Alike {α : Type} (related : ReplyRelation) (s s' : AuditStep α) : Prop where
  auditor : s.auditor.Alike related s'.auditor
  result : s'.result = s.result

theorem AuditStep.Alike.andThen {α β : Type} {s s' : AuditStep α} (h : s.Alike related s')
    {next : Auditor → α → AuditStep β}
    (hnext : ∀ {a a'}, a.Alike related a' → ∀ x, (next a x).Alike related (next a' x)) :
    (s.andThen next).Alike related (s'.andThen next) := by
  unfold AuditStep.andThen
  rw [h.result]
  split
  · exact ⟨h.auditor, rfl⟩
  · rename_i x _
    exact ⟨(hnext h.auditor x).auditor, (hnext h.auditor x).result⟩

namespace Auditor

variable {a a' : Auditor}

theorem Alike.loadCatalog (h : a.Alike related a') (tree : FileTree) :
    (a.loadCatalog tree).Alike related (a'.loadCatalog tree) := by
  unfold Auditor.loadCatalog
  rw [h.catalog]
  split
  · exact ⟨{ h with catalog := rfl }, rfl⟩
  · split
    · exact ⟨h, rfl⟩
    · exact ⟨h, rfl⟩

theorem Alike.factoriesInUse (h : a.Alike related a') :
    AlikeResults (Factories.Alike related) a.factoriesInUse.2 a'.factoriesInUse.2 := by
  unfold Auditor.factoriesInUse
  rw [Keyed.Alike.isEmpty_eq h.factories]
  split
  · exact Factories.Alike.standard h.extensions
  · exact .ok h.factories

theorem Alike.loadEngines (h : a.Alike related a') :
    a.loadEngines.Alike related a'.loadEngines := by
  have huse := h.factoriesInUse
  unfold Auditor.loadEngines
  rw [h.registry.isEmpty_eq, h.settings]
  split
  · exact ⟨h, rfl⟩
  · generalize a.factoriesInUse = use at huse ⊢
    generalize a'.factoriesInUse = use' at huse ⊢
    obtain ⟨notices, result⟩ := use
    obtain ⟨notices', result'⟩ := use'
    cases huse with
    | error f => exact ⟨h, rfl⟩
    | @ok factories factories' hfactories =>
      obtain ⟨hregistry, hresult⟩ := hfactories.load h.registry a.settings.engines.enabled
      dsimp only
      rw [hresult]
      cases (factories.load a.registry a.settings.engines.enabled).2.2 with
      | error f => exact ⟨{ h with settings := rfl, registry := hregistry }, rfl⟩
      | ok loaded => exact ⟨{ h with settings := rfl, registry := hregistry }, rfl⟩

theorem Alike.setUpEngines (h : a.Alike related a') (tree : FileTree) :
    (a.setUpEngines tree).Alike related (a'.setUpEngines tree) := by
  have hsettings : a'.engineSettings = a.engineSettings := by
    unfold Auditor.engineSettings
    rw [h.registry.ids_eq, h.settings]
  have hall := h.registry.setUpAll tree a.engineSettings a.catalog a.registry.ids
  dsimp only at hall
  unfold Auditor.setUpEngines
  rw [hsettings, h.catalog, h.registry.ids_eq, h.registry.isEmpty_eq, h.settings]
  generalize Registry.setUpAll tree a.engineSettings a.catalog a.registry a.registry.ids =
    after at hall ⊢
  generalize Registry.setUpAll tree a.engineSettings a.catalog a'.registry a.registry.ids =
    after' at hall ⊢
  obtain ⟨c, r, result⟩ := after
  obtain ⟨c', r', result'⟩ := after'
  obtain ⟨rfl, hr, rfl⟩ : c' = c ∧ r.Alike related r' ∧ result' = result := hall
  cases result' with
  | error f => exact ⟨{ h with settings := rfl, catalog := rfl, registry := hr }, rfl⟩
  | ok failures =>
    have hkept : ({ a with catalog := c', registry := r } : Auditor).Alike related
        { a' with settings := a.settings, catalog := c', registry := r' } :=
      { h with settings := rfl, catalog := rfl, registry := hr }
    dsimp only
    rw [hr.isEmpty_eq]
    split
    · exact ⟨{ hkept with state := rfl }, rfl⟩
    · exact ⟨{ hkept with state := rfl, initialized := rfl }, rfl⟩

/-- Auditors that are alike are set up alike. -/
theorem Alike.setUp (h : a.Alike related a') (tree : FileTree) :
    (a.setUp tree).Alike related (a'.setUp tree) := by
  unfold Auditor.setUp
  by_cases hinitialized : a.initialized = true
  · rw [if_pos hinitialized, if_pos (h.initialized.trans hinitialized)]
    exact ⟨h, rfl⟩
  · rw [if_neg hinitialized, if_neg (h.initialized ▸ hinitialized)]
    have hstart : ({ a with state := .initializing } : Auditor).Alike related
        { a' with state := .initializing } := { h with state := rfl }
    refine AuditStep.Alike.andThen ?_ fun hloaded _ => hloaded.setUpEngines tree
    exact (hstart.loadCatalog tree).andThen fun hloaded _ => hloaded.loadEngines

/-! ## Runs -/

/-- What a run of an auditor comes to when the engines of a registry serve its calls. -/
def resultWith (tree : FileTree) (a : Auditor) (files : List FilePath) (inputs : List RuleInput)
    (engine : Option String) (registry : Registry) : Except Fault RunResult := do
  let settings := a.settings.requesting engine
  let res := resolveRules settings a.catalog inputs
  let work ← prepareWorkload tree settings.performance files res.rules.length
  let plan ← (Routing.route a.registry settings res.rules).2
  let setup : RunSetup :=
    { tree := tree
      limits := settings.performance
      engineSettings := settings.engines.settings
      output := a.settings.output
      files := work.1 }
  let finish (course : SequenceCourse) : RunResult :=
    merge course.outcomes work.1.length work.2 (res.unknown ++ res.disabled ++ plan.skippedIds)
      (Keyed.ofEntries (res.rules.map fun r => (r.id, r.category)))
      (metadata course.registry settings)
  (execute setup registry plan.groups).map finish

/-- Once the engines are set up, they serve the calls themselves. -/
theorem runReady_result (tree : FileTree) (a : Auditor) (files : List FilePath)
    (inputs : List RuleInput) (engine : Option String) :
    (a.runReady tree files inputs engine).result =
      a.resultWith tree files inputs engine a.registry := by
  unfold runReady resultWith
  dsimp only
  generalize prepareWorkload tree (a.settings.requesting engine).performance files _ = work
  obtain f | ⟨kept, metrics⟩ := work
  · rfl
  · dsimp only
    generalize Routing.route a.registry (a.settings.requesting engine) _ = routed
    obtain ⟨notices, f | plan⟩ := routed
    · rfl
    · unfold runPlan
      dsimp only [bind, Except.bind]
      split
      · rename_i heq
        rw [heq]
        rfl
      · rename_i heq
        rw [heq]
        rfl

/-- A run sets the engines up first. -/
theorem run_result (tree : FileTree) (a : Auditor) (files : List FilePath)
    (inputs : List RuleInput) (engine : Option String) :
    (a.run tree files inputs engine).result =
      (a.setUp tree).result.bind fun _ =>
        ((a.setUp tree).auditor.runReady tree files inputs engine).result := by
  unfold run AuditStep.andThen
  split
  · rename_i heq
    rw [heq]
    rfl
  · rename_i heq
    rw [heq]
    rfl

/-- A run whose stages all succeed gives the merged outcomes. -/
theorem run_eq_ok {tree : FileTree} {a : Auditor} {files : List FilePath}
    {inputs : List RuleInput} {engine : Option String} {catalog : Catalog} {registry : Registry}
    {settings : Settings} {res : Resolution} {work : List FilePath × Metrics} {plan : Plan}
    {course : SequenceCourse} (hready : (a.setUp tree).result = .ok ())
    (hcatalog : (a.setUp tree).auditor.catalog = catalog)
    (hregistry : (a.setUp tree).auditor.registry = registry)
    (hsettings : a.settings.requesting engine = settings)
    (hres : resolveRules settings catalog inputs = res)
    (hwork : prepareWorkload tree settings.performance files res.rules.length = .ok work)
    (hplan : (Routing.route registry settings res.rules).2 = .ok plan)
    (hcourse : execute
      { tree := tree
        limits := settings.performance
        engineSettings := settings.engines.settings
        output := a.settings.output
        files := work.1 } registry plan.groups = .ok course) :
    (a.run tree files inputs engine).result =
      .ok (merge course.outcomes work.1.length work.2
        (res.unknown ++ res.disabled ++ plan.skippedIds)
        (Keyed.ofEntries (res.rules.map fun r => (r.id, r.category)))
        (metadata course.registry settings)) := by
  rw [run_result, hready]
  refine (runReady_result tree _ files inputs engine).trans ?_
  unfold resultWith
  dsimp only
  rw [setUp_settings, hcatalog, hregistry, hsettings, hres, hwork, hplan]
  dsimp only [bind, Except.bind]
  rw [hcourse]
  rfl

/-- A run that gives a result has gone through its stages. -/
theorem exists_stages_of_run {tree : FileTree} {a : Auditor} {files : List FilePath}
    {inputs : List RuleInput} {engine : Option String} {result : RunResult}
    (h : (a.run tree files inputs engine).result = .ok result) :
    let ready := (a.setUp tree).auditor
    let settings := a.settings.requesting engine
    let res := resolveRules settings ready.catalog inputs
    ∃ work plan course,
      prepareWorkload tree settings.performance files res.rules.length = .ok work ∧
      (Routing.route ready.registry settings res.rules).2 = .ok plan ∧
      execute
        { tree := tree
          limits := settings.performance
          engineSettings := settings.engines.settings
          output := a.settings.output
          files := work.1 } ready.registry plan.groups = .ok course ∧
      result = merge course.outcomes work.1.length work.2
        (res.unknown ++ res.disabled ++ plan.skippedIds)
        (Keyed.ofEntries (res.rules.map fun r => (r.id, r.category)))
        (metadata course.registry settings) := by
  intro ready settings res
  rw [run_result] at h
  obtain ⟨-, -, h⟩ := exists_of_bind_eq_ok h
  rw [runReady_result] at h
  have hsettings : (a.setUp tree).auditor.settings = a.settings := setUp_settings tree a
  unfold resultWith at h
  rw [hsettings] at h
  obtain ⟨work, hwork, h⟩ := exists_of_bind_eq_ok h
  obtain ⟨plan, hplan, h⟩ := exists_of_bind_eq_ok h
  obtain ⟨course, hcourse, rfl⟩ := exists_of_map_eq_ok h
  exact ⟨work, plan, course, hwork, hplan, hcourse, rfl⟩

/-- Runs of auditors that are alike fail with one fault before anything is executed, or execute the
same groups and merge the outcomes in the same way. -/
theorem Alike.run_cases (h : a.Alike related a') (tree : FileTree) (files : List FilePath)
    (inputs : List RuleInput) (engine : Option String) :
    (∃ f, ∀ b, b = a ∨ b = a' → (b.run tree files inputs engine).result = .error f) ∨
    ∃ (setup : RunSetup) (groups : Keyed (List Rule)) (fileCount : Int) (metrics : Metrics)
      (skipped : List String) (categories : Keyed String), setup.tree = tree ∧
      ∀ b, b = a ∨ b = a' → (b.run tree files inputs engine).result =
        (execute setup (b.setUp tree).auditor.registry groups).map fun course =>
          merge course.outcomes fileCount metrics skipped categories
            (metadata course.registry ((a.setUp tree).auditor.settings.requesting engine)) := by
  have hready := h.setUp tree
  have hresult : ∀ b, b = a ∨ b = a' → (b.setUp tree).result = (a.setUp tree).result := by
    rintro b (rfl | rfl)
    · rfl
    · exact hready.result
  cases hsetup : (a.setUp tree).result with
  | error f =>
    refine .inl ⟨f, fun b hb => ?_⟩
    rw [run_result, hresult b hb, hsetup]
    rfl
  | ok _ =>
    -- what is executed is the same for both; only the engines differ
    have hrun : ∀ b, b = a ∨ b = a' → (b.run tree files inputs engine).result =
        (a.setUp tree).auditor.resultWith tree files inputs engine
          (b.setUp tree).auditor.registry := by
      rintro b (rfl | rfl)
      · rw [run_result, hsetup]
        exact runReady_result tree _ files inputs engine
      · rw [run_result, hready.result, hsetup]
        refine (runReady_result tree _ files inputs engine).trans ?_
        unfold resultWith
        rw [hready.auditor.settings, hready.auditor.catalog]
        dsimp only
        rw [hready.auditor.registry.route_eq]
    unfold resultWith at hrun
    dsimp only at hrun
    generalize prepareWorkload tree _ files _ = work at hrun
    generalize (Routing.route (a.setUp tree).auditor.registry _ _).2 = routed at hrun
    obtain f | work := work
    · exact .inl ⟨f, hrun⟩
    · obtain f | plan := routed
      · exact .inl ⟨f, hrun⟩
      · refine .inr ⟨_, plan.groups, _, _, _, _, ?_, hrun⟩
        rfl

end Auditor

end RuleAudit
