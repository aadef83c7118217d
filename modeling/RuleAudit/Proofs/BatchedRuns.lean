import RuleAudit.Proofs.Batching

/-!
# Runs of the scanner alone, batched in different ways

An auditor that brings only the pattern scanner, over a catalog that can be loaded and whose
patterns compile, can be set up (`Auditor.OnlyScans.setUp`), and its runs come to what the rules
find in the files, however they are batched (`Auditor.OnlyScans.run_finds`). So two of its runs that
differ only in their batching agree: `Auditor.run_batched_agrees`.
-/

namespace RuleAudit

/-! ## Batching -/

/-- How rules are cut into batches, how many batches run at once and which are tried again, with the
names of the limits that count as given. -/
structure Batching where
  size : Option Int := none
  slots : Int := 1
  retry : Bool := false
  depth : Int := 2
  explicit : List String := []

/-- A batch size that is given is positive. -/
def Batching.Valid (b : Batching) : Prop :=
  ∀ size, b.size = some size → 0 < size

/-- Limits with another batching. -/
def Limits.batched (l : Limits) (b : Batching) : Limits :=
  { l with
    ruleBatchSize := b.size
    maxConcurrentBatches := b.slots
    retryFailedBatches := b.retry
    maxRetries := b.depth
    explicit := b.explicit }

/-- Deadlines for up to a number of files and rules can be given in seconds. -/
def Limits.Convertible (l : Limits) (files rules : Nat) : Prop :=
  ∀ kept n : Nat, kept ≤ files → n ≤ rules → ∃ s, Token.seconds (adaptiveTimeout l kept n) = .ok s

/-- An auditor with another batching. -/
def Auditor.batched (a : Auditor) (b : Batching) : Auditor :=
  { a with settings := { a.settings with performance := a.settings.performance.batched b } }

theorem filterFiles_batched (tree : FileTree) (l : Limits) (b : Batching) (files : List FilePath) :
    filterFiles tree (l.batched b) files = filterFiles tree l files := by
  have hkeep : ∀ globs count total, keepFrom tree (l.batched b) globs count total files =
      keepFrom tree l globs count total files := by
    intro globs
    induction files with
    | nil => exact fun _ _ => rfl
    | cons p rest ih =>
      intro count total
      unfold keepFrom
      simp only [ih]
      rfl
  unfold filterFiles
  rw [hkeep]
  rfl

theorem resolveRules_congr {settings settings' : Settings} (h : settings'.rules = settings.rules)
    (catalog : Catalog) (inputs : List RuleInput) :
    Auditor.resolveRules settings' catalog inputs = Auditor.resolveRules settings catalog inputs := by
  have hadd : Auditor.Resolution.add settings' catalog = Auditor.Resolution.add settings catalog := by
    funext res item
    unfold Auditor.Resolution.add Settings.ruleEnabled Settings.overrideOf
    rw [h]
  unfold Auditor.resolveRules
  rw [hadd]

/-- The limits of a run do not matter for where its rules go. -/
theorem route_limits (registry : Registry) (settings : Settings) (limits : Limits)
    (rules : List Rule) :
    Routing.route registry { settings with performance := limits } rules =
      Routing.route registry settings rules := by
  unfold Routing.route
  generalize ({} : Plan) = plan
  induction rules generalizing plan with
  | nil => rfl
  | cons rule rest ih =>
    have hdecide : Routing.decide registry { settings with performance := limits } rule =
        Routing.decide registry settings rule := rfl
    unfold Routing.routeFrom
    rw [hdecide]
    split
    · rfl
    · rw [ih]

theorem requesting_batched (a : Auditor) (b : Batching) (requested : Option String) :
    (a.batched b).settings.requesting requested =
      { a.settings.requesting requested with performance := a.settings.performance.batched b } := by
  cases requested <;> rfl

/-! ## Setting the scanner up -/

/-- Rules whose patterns compile can be taken over. -/
theorem Engine.adoptRules_eq_ok (listed : List String) {rules : List Rule}
    (h : ∀ rule ∈ rules, ∃ nodes, Scan.compilePatterns rule.patterns = .ok nodes) (e : Engine)
    (cache : Scan.Cache) : (adoptRules listed e cache rules).2.2 = .ok () := by
  induction rules generalizing e cache with
  | nil => rfl
  | cons rule rest ih =>
    have hrest := ih fun other hother => h other (List.mem_cons_of_mem _ hother)
    unfold adoptRules
    split
    · exact hrest e cache
    · obtain ⟨nodes, hnodes⟩ := Scan.exists_compileRule_eq_ok cache (h rule List.mem_cons_self)
      split
      · rename_i heq
        rw [heq] at hnodes
        cases hnodes
      · exact hrest _ _

theorem Engine.prepare_of_listed {e : Engine} {settings : Keyed Value} {listed : List String}
    (h : listedRules settings = .ok listed) : (e.prepare settings).2 = .ok () := by
  unfold prepare
  dsimp only
  rw [h]

/-- A scanner bound to a catalog whose patterns compile can be set up, and stays one. -/
theorem Engine.setUp_of_scanner {tree : FileTree} {catalog : Catalog}
    (hloaded : catalog.isLoaded = true)
    (hcompiles : ∀ rule ∈ catalog.rules, ∃ nodes, Scan.compilePatterns rule.patterns = .ok nodes)
    {e : Engine} {cache : Scan.Cache} (hkind : e.kind = .scanner true cache)
    {settings : Keyed Value} {listed : List String}
    (haccepted : listedRules settings = .ok listed) :
    (e.setUp tree catalog settings).1 = catalog ∧
      (e.setUp tree catalog settings).2.2 = .ok () ∧
      ∃ compiled, (e.setUp tree catalog settings).2.1.kind = .scanner true compiled := by
  have hprepared := prepare_of_listed (e := e) haccepted
  unfold Engine.setUp
  rw [hkind]
  dsimp only
  generalize e.prepare settings = prepared at hprepared ⊢
  obtain ⟨x, result⟩ := prepared
  obtain rfl : result = .ok () := hprepared
  dsimp only
  rw [Catalog.load_of_isLoaded hloaded]
  dsimp only
  refine ⟨rfl, ?_, _, rfl⟩
  exact adoptRules_eq_ok _ hcompiles x cache

/-- Setting up the one engine of a registry. -/
theorem Registry.setUpAll_only {tree : FileTree} {catalog : Catalog} {e : Engine}
    {settings : Keyed Value} (hcatalog : (e.setUp tree catalog settings).1 = catalog)
    (hready : (e.setUp tree catalog settings).2.2 = .ok ()) :
    Registry.setUpAll tree [(e.id, settings)] catalog (.only e) [e.id] =
      (catalog, .only (e.setUp tree catalog settings).2.1, .ok []) := by
  have hid := e.setUp_id tree catalog settings
  have hsettings : (Keyed.get? [(e.id, settings)] e.id).getD [] = settings := by
    simp [Keyed.get?]
  have hone : Registry.setUp tree catalog (.only e) e.id settings =
      (catalog, .only (e.setUp tree catalog settings).2.1, .ok ()) := by
    unfold Registry.setUp
    rw [get?_only]
    dsimp only
    generalize e.setUp tree catalog settings = after at hid hcatalog hready ⊢
    obtain ⟨c, e', result⟩ := after
    obtain rfl : c = catalog := hcatalog
    obtain rfl : result = .ok () := hready
    have hupdate : (only e).update e' = only e' := by
      have hsame : e'.id = e.id := hid
      simp [only, Registry.update, Keyed.has, Keyed.get?, Keyed.put, hsame]
    dsimp only
    rw [hupdate]
  unfold Registry.setUpAll
  rw [hsettings, hone]
  rfl

namespace Auditor

/-- An auditor that comes to one engine when its engines are loaded: it is registered alone, or
nothing is registered and it alone is built. -/
inductive Brings (a : Auditor) (e : Engine) : Prop where
  | registered (registry : a.registry = .only e)
  | built {told more : List Notice} {factories : Factories} {loaded : List String}
      (new : a.initialized = false) (empty : a.registry.entries = [])
      (use : a.factoriesInUse = (told, .ok factories))
      (load : factories.load a.registry a.settings.engines.enabled =
        (.only e, more, .ok loaded))

theorem Brings.loadEngines {a : Auditor} {e : Engine} (h : a.Brings e) :
    a.loadEngines.result = .ok () ∧
      a.loadEngines.auditor = { a with registry := .only e } := by
  unfold Auditor.loadEngines
  cases h with
  | registered hregistry =>
    have hsome : a.registry.isEmpty = false := by
      rw [hregistry]
      rfl
    rw [hsome, ← hregistry]
    exact ⟨rfl, rfl⟩
  | built _ empty use load =>
    have hnone : a.registry.isEmpty = true := by
      rw [Registry.isEmpty, empty]
      rfl
    rw [hnone, use]
    dsimp only
    rw [load]
    exact ⟨rfl, rfl⟩

/-- An auditor whose only engine is the scanner, over a catalog that can be loaded and whose
patterns compile, with engine settings that the scanner accepts. It may be set up already. -/
structure OnlyScans (tree : FileTree) (a : Auditor) (e : Engine) (catalog : Catalog) : Prop where
  keyed : a.catalog.WellKeyed
  loads : a.catalog.load tree = .ok catalog
  compiles : ∀ rule ∈ catalog.rules, ∃ nodes, Scan.compilePatterns rule.patterns = .ok nodes
  scanner : ∃ cache, e.kind = .scanner true cache
  brings : a.Brings e
  accepted : ∃ listed, Engine.listedRules (a.settingsOf e.id) = .ok listed

/-- Another batching changes nothing in what an auditor brings. -/
theorem OnlyScans.batched {tree : FileTree} {a : Auditor} {e : Engine} {catalog : Catalog}
    (h : a.OnlyScans tree e catalog) (b : Batching) :
    (a.batched b).OnlyScans tree e catalog where
  keyed := h.keyed
  loads := h.loads
  compiles := h.compiles
  scanner := h.scanner
  brings := by
    cases h.brings with
    | registered registry => exact .registered registry
    | built new empty use load => exact .built new empty use load
  accepted := h.accepted

/-- The catalog of an auditor that only scans, once it is set up. -/
def scanCatalog (a : Auditor) (catalog : Catalog) : Catalog :=
  if a.initialized then a.catalog else catalog

/-- The scanner of an auditor that only scans, once it is set up. -/
def scanEngine (tree : FileTree) (a : Auditor) (e : Engine) (catalog : Catalog) : Engine :=
  if a.initialized then e else (e.setUp tree catalog (a.settingsOf e.id)).2.1

/-- Its scanner stays one, with the identifier it has. -/
theorem OnlyScans.scanEngine_kind {tree : FileTree} {a : Auditor} {e : Engine} {catalog : Catalog}
    (h : a.OnlyScans tree e catalog) : (a.scanEngine tree e catalog).id = e.id ∧
      ∃ cache, (a.scanEngine tree e catalog).kind = .scanner true cache := by
  unfold scanEngine
  split
  · exact ⟨rfl, h.scanner⟩
  · obtain ⟨cache, hkind⟩ := h.scanner
    obtain ⟨listed, hlisted⟩ := h.accepted
    obtain ⟨-, -, hscanner⟩ := @Engine.setUp_of_scanner tree catalog
      (Catalog.isLoaded_of_load_eq_ok h.loads) h.compiles e cache hkind _ listed hlisted
    exact ⟨e.setUp_id tree catalog _, hscanner⟩

/-- An auditor that only scans can be set up: its scanner is set up and nothing else. -/
theorem OnlyScans.setUp {tree : FileTree} {a : Auditor} {e : Engine} {catalog : Catalog}
    (h : a.OnlyScans tree e catalog) :
    (a.setUp tree).result = .ok () ∧ (a.setUp tree).auditor.catalog = a.scanCatalog catalog ∧
      (a.setUp tree).auditor.registry = .only (a.scanEngine tree e catalog) := by
  unfold scanCatalog scanEngine
  by_cases hinitialized : a.initialized = true
  · rw [Auditor.setUp, if_pos hinitialized, if_pos hinitialized, if_pos hinitialized]
    cases h.brings with
    | registered registry => exact ⟨rfl, rfl, registry⟩
    | built new => exact absurd hinitialized (by simp [new])
  · rw [if_neg hinitialized, if_neg hinitialized]
    obtain ⟨cache, hkind⟩ := h.scanner
    obtain ⟨listed, hlisted⟩ := h.accepted
    obtain ⟨hcatalog, hready, -⟩ := @Engine.setUp_of_scanner tree catalog
      (Catalog.isLoaded_of_load_eq_ok h.loads) h.compiles e cache hkind _ listed hlisted
    -- the catalog is loaded and the scanner is the only engine when it is set up
    let loaded : Auditor := { a with state := .initializing, catalog := catalog }
    have hload : ({ a with state := .initializing } : Auditor).loadCatalog tree =
        { auditor := loaded, result := .ok () } := by
      unfold loadCatalog
      dsimp only
      rw [h.loads]
    have hbrings : loaded.Brings e := by
      cases h.brings with
      | registered registry => exact .registered registry
      | built new empty use load => exact .built new empty use load
    obtain ⟨hbuild, hbuilt⟩ := hbrings.loadEngines
    obtain ⟨hresult, hauditor⟩ := setUp_of_stages (Bool.eq_false_iff.mpr hinitialized)
      (congrArg AuditStep.result hload) (congrArg AuditStep.auditor hload) hbuild hbuilt
    obtain ⟨hone, hready⟩ := setUpEngines_of_setUpAll (a := { loaded with registry := .only e })
      (Registry.setUpAll_only hcatalog hready) rfl
    rw [hresult, hauditor, hone, hready]
    exact ⟨rfl, rfl, rfl⟩

/-- Rules taken from the catalog, by identifier or as they are, resolve to rules of the catalog. -/
theorem OnlyScans.mem_rules {tree : FileTree} {a : Auditor} {e : Engine} {catalog : Catalog}
    (h : a.OnlyScans tree e catalog) {inputs : List RuleInput}
    (htaken : ∀ r, .rule r ∈ inputs → r ∈ catalog.rules) {settings : Settings} {rule : Rule}
    (hrule : rule ∈ (resolveRules settings (a.scanCatalog catalog) inputs).rules) :
    rule ∈ catalog.rules := by
  obtain ⟨item, hitem, hsome⟩ := exists_of_mem_resolveRules hrule
  cases item with
  | rule r =>
    obtain rfl : r = rule := Option.some.inj hsome
    exact htaken r hitem
  | id s =>
    simp only [inputRule] at hsome
    split at hsome
    · rename_i hloaded
      -- a catalog that is loaded is the one that loading gives
      have hcatalog : a.scanCatalog catalog = catalog := by
        unfold scanCatalog at hloaded ⊢
        split
        · rw [if_pos ‹_›] at hloaded
          have hload := h.loads
          rw [Catalog.load_of_isLoaded hloaded] at hload
          exact Except.ok.inj hload
        · rfl
      rw [hcatalog] at hsome
      exact List.mem_map_of_mem (f := Prod.snd) (Keyed.mem_of_get? hsome)
    · cases hsome

/-! ## Runs -/

/-- A run of an auditor that only scans, over files that can be filtered, gives a result. If no
deadline fires, nothing fails and the result has what the scanner finds for the routed rules. -/
theorem OnlyScans.run_finds {tree : FileTree} {a : Auditor} {e : Engine} {catalog : Catalog}
    (h : a.OnlyScans tree e catalog) (hlimits : a.settings.performance.Valid)
    {files kept : List FilePath} (hlegal : ∀ path ∈ files, path.hasNull = false)
    {inputs : List RuleInput} (htaken : ∀ r, .rule r ∈ inputs → r ∈ catalog.rules)
    (hcount : inputs.length < 2 ^ 63)
    (hseconds : a.settings.performance.Convertible files.length inputs.length)
    (hkept : filterFiles tree a.settings.performance files = .ok kept)
    {requested : Option String} {res : Resolution}
    (hres : resolveRules (a.settings.requesting requested) (a.scanCatalog catalog) inputs = res)
    {scanner : Engine} (hscanner : a.scanEngine tree e catalog = scanner) {plan : Plan}
    (hplan : (Routing.route (.only scanner)
      (a.settings.requesting requested) res.rules).2 = .ok plan) :
    ∃ result, (a.run tree files inputs requested).result = .ok result ∧
      ((∀ o ∈ result.outcomes, ¬ o.IsLate) →
        result.Finds (Keyed.ofEntries (res.rules.map fun r => (r.id, r.category)))
          ((scanner.findingsOf tree scanner.nodesOf kept (plan.groups.flatMap Prod.snd)).map
            (Violation.stamp scanner.id))) := by
  obtain ⟨hready, hcatalog, hregistry⟩ := h.setUp
  obtain ⟨-, cache, hkind⟩ := h.scanEngine_kind
  rw [hscanner] at hregistry hkind
  have hlength : res.rules.length ≤ inputs.length :=
    hres ▸ length_rules_resolveRules_le _ _ inputs
  have hnodup : (res.rules.map Rule.id).Nodup := by
    rw [← hres, ← hcatalog]
    exact nodup_resolveRules (setUp_catalog (fun _ _ hkeyed hload => hkeyed.load hload) h.keyed) _
  have hcompiles : ∀ rule ∈ res.rules, ∃ nodes, Scan.compilePatterns rule.patterns = .ok nodes :=
    fun rule hrule => h.compiles rule (h.mem_rules htaken (hres ▸ hrule))
  rw [← Settings.requesting_performance a.settings requested] at hkept hlimits hseconds
  have hsub := sublist_of_filterFiles hkept
  -- every stage of the run succeeds
  obtain ⟨metrics, hwork⟩ :=
    exists_prepareWorkload_eq_ok hkept (Nat.lt_of_le_of_lt hlength hcount)
  obtain ⟨course, hcourse, hfinds⟩ := execute_of_scanner
    { tree := tree
      limits := (a.settings.requesting requested).performance
      engineSettings := (a.settings.requesting requested).engines.settings
      output := a.settings.output
      files := kept }
    hlimits hkind hnodup hcompiles hplan (fun path hpath => hlegal path (hsub.subset hpath))
    fun n hn => hseconds _ n hsub.length_le (hn.trans hlength)
  refine ⟨_, run_eq_ok hready hcatalog hregistry rfl hres hwork hplan
    hcourse, fun htimely => ?_⟩
  obtain ⟨hsuccess, hfound⟩ := hfinds htimely
  exact RunResult.finds_merge hsuccess hfound _ _ _ _

/-- Take an auditor whose only engine is the scanner, over a catalog whose patterns compile, and run
rules of the catalog over files with legal paths, twice with different batching. Either the files
cannot be filtered, which both runs tell alike, or both give a result. If no deadline fires in them,
no batch fails, the results have the same violations up to their order, and so many of each category
and of each severity. -/
theorem run_batched_agrees (tree : FileTree) {a : Auditor} {e : Engine} {catalog : Catalog}
    (h : a.OnlyScans tree e catalog) {files : List FilePath}
    (hlegal : ∀ path ∈ files, path.hasNull = false) {inputs : List RuleInput}
    (htaken : ∀ r, .rule r ∈ inputs → r ∈ catalog.rules) (hcount : inputs.length < 2 ^ 63)
    (hseconds : a.settings.performance.Convertible files.length inputs.length)
    (requested : Option String) {b b' : Batching} (hb : b.Valid) (hb' : b'.Valid) :
    let run := (a.batched b).run tree files inputs requested
    let run' := (a.batched b').run tree files inputs requested
    (∃ f, filterFiles tree a.settings.performance files = .error f ∧
      run.result = .error f ∧ run'.result = .error f) ∨
    ∃ result result', run.result = .ok result ∧ run'.result = .ok result' ∧
      ((∀ o ∈ result.outcomes ++ result'.outcomes, ¬ o.IsLate) →
        result.hasFailures = false ∧ result'.hasFailures = false ∧
        result'.violations.Perm result.violations ∧
        (∀ key, result'.summary.categories.get? key = result.summary.categories.get? key) ∧
        ∀ key, result'.summary.severities.get? key = result.summary.severities.get? key) := by
  intro run run'
  have hready : ∀ b, ((a.batched b).setUp tree).result = .ok () ∧
      ((a.batched b).setUp tree).auditor.registry = .only (a.scanEngine tree e catalog) :=
    fun b => ⟨(h.batched b).setUp.1, (h.batched b).setUp.2.2⟩
  cases hkept : filterFiles tree a.settings.performance files with
  | error f =>
    have hfails : ∀ b : Batching, b.Valid →
        ((a.batched b).run tree files inputs requested).result = .error f := by
      intro b hb
      obtain ⟨hsetUp, hregistry⟩ := hready b
      have hsettings := setUp_settings tree (a.batched b)
      rw [run_result, hsetUp]
      refine (runReady_eq_error_iff ?_ ?_ hcount).mpr ?_
      · rw [hsettings]
        exact hb
      · rw [hregistry]
        rfl
      · rw [hsettings]
        exact (filterFiles_batched tree a.settings.performance b files).trans hkept
    exact .inl ⟨f, rfl, hfails b hb, hfails b' hb'⟩
  | ok kept =>
    -- the rules are the same in both runs and go the same way
    let scanner := a.scanEngine tree e catalog
    let res := resolveRules (a.settings.requesting requested) (a.scanCatalog catalog) inputs
    have hsome : (Registry.only scanner).isEmpty = false := rfl
    obtain ⟨plan, hplan⟩ :=
      Routing.exists_route_eq_ok hsome (a.settings.requesting requested) res.rules
    have hfinds : ∀ b : Batching, b.Valid → ∃ result,
        ((a.batched b).run tree files inputs requested).result = .ok result ∧
          ((∀ o ∈ result.outcomes, ¬ o.IsLate) →
            result.Finds (Keyed.ofEntries (res.rules.map fun r => (r.id, r.category)))
              ((scanner.findingsOf tree scanner.nodesOf kept (plan.groups.flatMap Prod.snd)).map
                (Violation.stamp scanner.id))) := by
      intro b hb
      have hfilter := (filterFiles_batched tree a.settings.performance b files).trans hkept
      have hres : resolveRules ((a.batched b).settings.requesting requested)
          (a.scanCatalog catalog) inputs = res := by
        rw [requesting_batched]
        exact resolveRules_congr rfl _ inputs
      have hroute : (Routing.route (.only scanner) ((a.batched b).settings.requesting requested)
          res.rules).2 = .ok plan := by
        rw [requesting_batched, route_limits]
        exact hplan
      exact (h.batched b).run_finds hb hlegal htaken hcount hseconds hfilter hres rfl hroute
    obtain ⟨result, hresult, hfound⟩ := hfinds b hb
    obtain ⟨result', hresult', hfound'⟩ := hfinds b' hb'
    refine .inr ⟨result, result', hresult, hresult', fun htimely => ?_⟩
    have hf := hfound fun o ho => htimely o (List.mem_append_left _ ho)
    have hf' := hfound' fun o ho => htimely o (List.mem_append_right _ ho)
    refine ⟨hf.hasFailures, hf'.hasFailures, hf'.violations.trans hf.violations.symm,
      fun key => ?_, fun key => ?_⟩
    · rw [hf'.categories, hf.categories]
    · rw [hf'.severities, hf.severities]

/-- An auditor as it is built, with three rules. -/
def threePatterns : Auditor :=
  { settings := { performance := { excludePatterns := [] } }
    catalog := .ofRules
      [{ id := "A", name := "a", category := "security", patterns := ["x"] },
       { id := "B", name := "b", severity := .error, patterns := ["y", "x+"] },
       { id := "C", name := "c", languages := ["python"], patterns := ["z"] }] }

/-- One batch for all rules, or one for each of them and two at a time: what is found comes in
another order. -/
theorem run_batched_agrees_one_by_one :
    let tree : FileTree :=
      [(["a.js"], .file (.text "x\nxx y\n")), (["b.js"], .file (.text "z x\n"))]
    let files := ["a.js", "b.js"].map FilePath.ofText
    let inputs := ["a", "B", " c "].map RuleInput.id
    let b' : Batching := { size := some 1, slots := 2, retry := true }
    let places (r : RunResult) := r.violations.map fun v => (v.ruleId, v.file, v.line)
    threePatterns.OnlyScans tree (.scanner true) threePatterns.catalog ∧
      (∀ path ∈ files, path.hasNull = false) ∧
      (∀ r, .rule r ∈ inputs → r ∈ threePatterns.catalog.rules) ∧ inputs.length < 2 ^ 63 ∧
      threePatterns.settings.performance.Convertible files.length inputs.length ∧
      Batching.Valid {} ∧ b'.Valid ∧
      ∃ result result', ((threePatterns.batched {}).run tree files inputs none).result = .ok result ∧
        ((threePatterns.batched b').run tree files inputs none).result = .ok result' ∧
        places result = [("A", some "a.js", some 1), ("A", some "a.js", some 2),
          ("B", some "a.js", some 1), ("B", some "a.js", some 2), ("A", some "b.js", some 1),
          ("B", some "b.js", some 1)] ∧
        places result' = [("A", some "a.js", some 1), ("A", some "a.js", some 2),
          ("A", some "b.js", some 1), ("B", some "a.js", some 1), ("B", some "a.js", some 2),
          ("B", some "b.js", some 1)] ∧
        result'.violations.Perm result.violations ∧ result'.hasFailures = false := by
  intro tree files inputs b' places
  have hcompiles : ∀ rule ∈ threePatterns.catalog.rules,
      (Scan.compilePatterns rule.patterns).toBool = true := by decide +kernel
  have honly : threePatterns.OnlyScans tree (.scanner true) threePatterns.catalog :=
    { keyed := Catalog.wellKeyed_ofRules _
      loads := rfl
      compiles := fun rule hrule => by
        have hrule := hcompiles rule hrule
        cases hnodes : Scan.compilePatterns rule.patterns with
        | error f =>
          rw [hnodes] at hrule
          cases hrule
        | ok nodes => exact ⟨nodes, rfl⟩
      scanner := ⟨[], rfl⟩
      brings := .built rfl rfl rfl rfl
      accepted := ⟨[], rfl⟩ }
  have hlegal : ∀ path ∈ files, path.hasNull = false := by decide +kernel
  have htaken : ∀ r, .rule r ∈ inputs → r ∈ threePatterns.catalog.rules := by
    intro r hr
    simp [inputs] at hr
  have hconvertible : threePatterns.settings.performance.Convertible files.length inputs.length := by
    have hall : ∀ kept < (3 : Nat), ∀ n < (4 : Nat), (Token.seconds
        (adaptiveTimeout threePatterns.settings.performance kept n)).toBool = true := by
      decide +kernel
    intro kept n hkept hn
    have hone := hall kept (Nat.lt_succ_of_le hkept) n (Nat.lt_succ_of_le hn)
    cases hseconds : Token.seconds
      (adaptiveTimeout threePatterns.settings.performance kept n) with
    | error f =>
      rw [hseconds] at hone
      cases hone
    | ok s => exact ⟨s, rfl⟩
  have hvalid : Batching.Valid {} := fun size hsize => by cases hsize
  have hvalid' : b'.Valid := fun size hsize => by cases hsize; decide
  refine ⟨honly, hlegal, htaken, by decide, hconvertible, hvalid, hvalid', ?_⟩
  -- what both runs come to, with nothing that failed
  let shown (b : Batching) :=
    ((threePatterns.batched b).run tree files inputs none).result.toOption.map fun r =>
      (places r, r.outcomes.all fun o => o.classification.isNone)
  have hshown : shown {} = some ([("A", some "a.js", some 1), ("A", some "a.js", some 2),
      ("B", some "a.js", some 1), ("B", some "a.js", some 2), ("A", some "b.js", some 1),
      ("B", some "b.js", some 1)], true) := by decide +kernel
  have hshown' : shown b' = some ([("A", some "a.js", some 1), ("A", some "a.js", some 2),
      ("A", some "b.js", some 1), ("B", some "a.js", some 1), ("B", some "a.js", some 2),
      ("B", some "b.js", some 1)], true) := by decide +kernel
  rcases run_batched_agrees tree honly hlegal htaken (by decide) hconvertible none hvalid hvalid'
    with ⟨f, -, hf, -⟩ | ⟨result, result', hresult, hresult', hagree⟩
  · simp only [shown, hf] at hshown
    cases hshown
  · simp only [shown, hresult, hresult'] at hshown hshown'
    obtain ⟨hplaces, hnone⟩ := Prod.mk.inj (Option.some.inj hshown)
    obtain ⟨hplaces', hnone'⟩ := Prod.mk.inj (Option.some.inj hshown')
    have htimely : ∀ o ∈ result.outcomes ++ result'.outcomes, ¬ o.IsLate := by
      rintro o ho ⟨c, hc, -⟩
      have hisNone : o.classification.isNone = true := by
        rcases List.mem_append.mp ho with ho | ho
        · exact List.all_eq_true.mp hnone o ho
        · exact List.all_eq_true.mp hnone' o ho
      rw [hc] at hisNone
      cases hisNone
    obtain ⟨-, hfailures, hperm, -⟩ := hagree htimely
    exact ⟨result, result', hresult, hresult', hplaces, hplaces', hperm, hfailures⟩

end Auditor

end RuleAudit
