import RuleAudit.Proofs.Availability
import RuleAudit.Proofs.Routing
import RuleAudit.Proofs.Run.Agreement
import RuleAudit.Proofs.Workload

/-!
# Faults that leave a run

What goes wrong inside a batch becomes an outcome. Of a sound auditor two faults leave a run: no
engine could be set up, or filtering the files ran into an exclusion glob that is no pattern
(`Auditor.run_eq_error_iff`). The second is not caught, although a run promises the first alone.
-/

namespace RuleAudit

/-! ## Batches -/

/-- Under valid limits every group can be cut into batches. -/
theorem exists_batchesOf_eq_ok {setup : RunSetup} (h : setup.limits.Valid)
    (groups : Keyed (List Rule)) : ∃ batches, batchesOf setup groups = .ok batches := by
  induction groups with
  | nil => exact ⟨[], rfl⟩
  | cons group rest ih =>
    obtain ⟨later, hlater⟩ := ih
    have hsize := h.resolveBatchSize_pos setup.files.length
    unfold batchesOf createBatches partition
    rw [if_neg (by omega), hlater]
    exact ⟨_, rfl⟩

theorem execute_ne_error {setup : RunSetup} {registry : Registry} {groups : Keyed (List Rule)}
    {f : Fault} (h : setup.limits.Valid) : execute setup registry groups ≠ .error f := by
  obtain ⟨batches, hbatches⟩ := exists_batchesOf_eq_ok h groups
  obtain ⟨course, hcourse, -⟩ := unfolds_execute registry hbatches
  rw [hcourse]
  exact fun hf => by cases hf

namespace Auditor

/-! ## Runs -/

/-- A workload can be prepared whenever its files can be filtered. -/
theorem exists_prepareWorkload_eq_ok {tree : FileTree} {limits : Limits}
    {files kept : List FilePath} (hkept : filterFiles tree limits files = .ok kept) {rules : Nat}
    (hrules : rules < 2 ^ 63) :
    ∃ metrics, prepareWorkload tree limits files rules = .ok (kept, metrics) := by
  obtain ⟨count, hcount⟩ := exists_batchCount_eq_ok limits rules kept.length hrules
  unfold prepareWorkload workloadMetrics
  rw [hkept]
  dsimp only [bind, Except.bind]
  rw [hcount]
  exact ⟨_, rfl⟩

theorem prepareWorkload_eq_error_iff (tree : FileTree) (limits : Limits) (files : List FilePath)
    {rules : Nat} (hrules : rules < 2 ^ 63) {f : Fault} :
    prepareWorkload tree limits files rules = .error f ↔
      filterFiles tree limits files = .error f := by
  cases hkept : filterFiles tree limits files with
  | error fault =>
    simp [prepareWorkload, hkept, bind, Except.bind]
  | ok kept =>
    obtain ⟨metrics, hmetrics⟩ := exists_prepareWorkload_eq_ok hkept hrules
    rw [hmetrics]
    exact iff_of_false (fun hf => by cases hf) fun hf => by cases hf

theorem runPlan_ne_error (tree : FileTree) (a : Auditor) {settings : Settings}
    (hlimits : settings.performance.Valid) (res : Resolution) (kept : List FilePath)
    (metrics : Metrics) (plan : Plan) (f : Fault) :
    (a.runPlan tree settings res kept metrics plan).result ≠ .error f := by
  unfold runPlan
  dsimp only
  split
  · rename_i hfault
    exact absurd hfault (execute_ne_error hlimits)
  · exact fun hf => by cases hf

/-- Once engines are set up, a run fails exactly when its files cannot be filtered. -/
theorem runReady_eq_error_iff {tree : FileTree} {a : Auditor} {files : List FilePath}
    {inputs : List RuleInput} {engine : Option String}
    (hlimits : a.settings.performance.Valid) (hregistry : a.registry.isEmpty = false)
    (hcount : inputs.length < 2 ^ 63) {f : Fault} :
    (a.runReady tree files inputs engine).result = .error f ↔
      filterFiles tree a.settings.performance files = .error f := by
  have hrules := length_rules_resolveRules_le (a.settings.requesting engine) a.catalog inputs
  rw [← prepareWorkload_eq_error_iff tree a.settings.performance files
    (Nat.lt_of_le_of_lt hrules hcount)]
  have hsame : (a.settings.requesting engine).performance.Valid := by
    rw [Settings.requesting_performance]
    exact hlimits
  obtain ⟨plan, hplan⟩ := Routing.exists_route_eq_ok hregistry (a.settings.requesting engine)
    (resolveRules (a.settings.requesting engine) a.catalog inputs).rules
  unfold runReady
  dsimp only
  rw [Settings.requesting_performance]
  split
  · rename_i hworkload
    rw [hworkload, Except.error.injEq, Except.error.injEq]
  · rename_i hworkload
    rw [hworkload]
    refine iff_of_false ?_ fun hf => by cases hf
    split
    · rename_i hroute
      rw [hroute] at hplan
      cases hplan
    · exact runPlan_ne_error tree _ hsame _ _ _ _ f

/-- The faults that leave a run of a sound auditor over files with legal paths: no engine could be
set up, or filtering the files ran into an exclusion glob that is no pattern. In every other case
the run gives a result. The number of inputs is one that a list in memory can have. -/
theorem run_eq_error_iff (tree : FileTree) {a : Auditor} (h : a.Sound) {files : List FilePath}
    (hlegal : ∀ p ∈ files, p.hasNull = false) {inputs : List RuleInput}
    (hcount : inputs.length < 2 ^ 63) (engine : Option String) (f : Fault) :
    (a.run tree files inputs engine).result = .error f ↔
      (∃ attempted, f = .noEngines attempted ∧ (a.setUp tree).result = .error f) ∨
      ((a.setUp tree).result = .ok () ∧
        ∃ e, f = .pattern e ∧ TripsOn tree a.settings.performance files e) := by
  unfold run
  rcases h.setUp_cases tree with ⟨attempted, hfailed⟩ | ⟨hready, hregistry⟩
  -- without an engine nothing else is tried
  · rw [AuditStep.andThen, hfailed]
    dsimp only
    constructor
    · intro hf
      cases hf
      exact .inl ⟨attempted, rfl, rfl⟩
    · rintro (⟨_, -, hf⟩ | ⟨hf, -⟩)
      · rw [Except.error.inj hf]
      · cases hf
  -- with one, all stages but the filter succeed
  · rw [(AuditStep.andThen_of_eq_ok hready _).1]
    have hsettings := setUp_settings tree a
    rw [runReady_eq_error_iff (hsettings ▸ h.limits) hregistry hcount, hsettings,
      filterFiles_eq_error_iff hlegal, hready]
    constructor
    · exact fun htrips => .inr ⟨rfl, htrips⟩
    · rintro (⟨_, -, hf⟩ | ⟨-, htrips⟩)
      · cases hf
      · exact htrips

/-- A class that is not closed, as the one exclusion glob, makes the run of a sound auditor fail. -/
theorem run_unclosed_class :
    let a : Auditor :=
      { settings := { performance := { excludePatterns := ["["] } }
        catalog := .ofRules [{ id := "A" }]
        registry := { entries := [("narrow", narrowEngine)] } }
    let files := [FilePath.ofText "a.js"]
    a.Sound ∧ (∀ p ∈ files, p.hasNull = false) ∧
      ∃ e, Glob.compile "[" = .error e ∧ e.message = "unterminated character set at position 2" ∧
        (a.run [] files [.id "A"] none).result = .error (.pattern e) := by
  intro a files
  have hlegal : ∀ p ∈ files, p.hasNull = false := by decide +kernel
  have hengine : narrowEngine.Ordinary := fun _ _ _ hf => by cases hf
  have hsound : a.Sound :=
    { limits := Limits.valid_default
      catalog := rfl
      engines := fun entry hentry => List.mem_singleton.mp hentry ▸ hengine
      factories := fun hempty => by cases hempty
      ready := fun hready => by cases hready }
  refine ⟨hsound, hlegal, ?_⟩
  cases hglob : Glob.compile "[" with
  | ok node =>
    have hbad : (Glob.compile "[").toBool = false := by decide +kernel
    rw [hglob] at hbad
    cases hbad
  | error e =>
    have htrips : Glob.Trips ["["] (FilePath.ofText "a.js") e :=
      ⟨[], "[", [], rfl, hglob, fun other hother => absurd hother List.not_mem_nil⟩
    have hready : (a.setUp []).result = .ok () := by rfl
    refine ⟨e, rfl, ?_, (run_eq_error_iff [] hsound hlegal (by decide) none _).mpr (.inr ?_)⟩
    · have hmessage : (match Glob.compile "[" with
          | .ok _ => ""
          | .error found => found.message) = "unterminated character set at position 2" := by
        decide +kernel
      rwa [hglob] at hmessage
    · exact ⟨hready, e, rfl, rfl, [], FilePath.ofText "a.js", [], rfl, .nil, htrips⟩

end Auditor

end RuleAudit
