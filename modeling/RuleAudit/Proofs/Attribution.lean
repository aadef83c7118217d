import RuleAudit.Proofs.Accounting
import RuleAudit.Proofs.Batching
import RuleAudit.Proofs.Deadline

/-!
# Who reported a violation

A report is taken over as a copy in which every violation names an engine: the one it named before,
or else the engine of the batch. `Report.Attributed` says what such a copy may differ in, and that is
all that stamping does (`Report.attributed_iff`). Nothing comes of it for the engines: they change by
serving calls only, so an engine that hands over the same report again and again still does so, and
two engines that hand over the same one are each given their own copy
(`execute_attributes_findings`).
-/

namespace RuleAudit

/-! ## Violations -/

namespace Violation

/-- A violation and its copy: the engine that it names is kept, a missing one is filled in, and the
rest is the same. -/
structure Attributed (id : String) (x y : Violation) : Prop where
  rest : { y with engine := x.engine } = x
  kept : ∀ engine, x.engine = some engine → y.engine = some engine
  filled : x.engine = none → y.engine = some id

variable (id : String) (x : Violation)

theorem stamp_engine : (x.stamp id).engine = some (x.engine.getD id) := by
  unfold stamp
  split
  · rename_i engine h
    rw [h, Option.getD_some]
  · rename_i h
    rw [h, Option.getD_none]

theorem stamp_rest : { x.stamp id with engine := x.engine } = x := by
  cases x
  unfold stamp
  split <;> rfl

/-- A violation that names its engine is left as it is. -/
theorem stamp_of_isSome {x : Violation} (h : x.engine.isSome) : x.stamp id = x := by
  obtain ⟨engine, hengine⟩ := Option.isSome_iff_exists.mp h
  rw [stamp, hengine]

theorem stamp_stamp (other : String) : (x.stamp id).stamp other = x.stamp id :=
  stamp_of_isSome other (by rw [stamp_engine]; rfl)

variable {id x}

theorem attributed_iff {y : Violation} : x.Attributed id y ↔ y = x.stamp id := by
  constructor
  · rintro ⟨hrest, hkept, hfilled⟩
    have hengine : y.engine = some (x.engine.getD id) := by
      cases h : x.engine with
      | none => exact hfilled h
      | some engine => exact hkept engine h
    -- both agree with the violation but for the engine, and in the engine
    have hsame : { y with engine := x.engine } = { x.stamp id with engine := x.engine } :=
      hrest.trans (stamp_rest id x).symm
    calc y
        = { { y with engine := x.engine } with engine := y.engine } := rfl
      _ = { { x.stamp id with engine := x.engine } with engine := (x.stamp id).engine } := by
        rw [hsame, stamp_engine, hengine]
      _ = x.stamp id := rfl
  · rintro rfl
    refine ⟨stamp_rest id x, fun engine h => ?_, fun h => ?_⟩
    · rw [stamp_engine, h, Option.getD_some]
    · rw [stamp_engine, h, Option.getD_none]

end Violation

/-! ## Reports -/

theorem Violation.forall₂_attributed_iff {id : String} {xs ys : List Violation} :
    List.Forall₂ (Attributed id) xs ys ↔ ys = xs.map (stamp id) :=
  forall₂_iff_eq_map fun _ _ _ => attributed_iff

/-- The findings of a file and their copy. -/
structure FileFindings.Attributed (id : String) (f g : FileFindings) : Prop where
  file : g.file = f.file
  violations : List.Forall₂ (Violation.Attributed id) f.violations g.violations

theorem FileFindings.attributed_iff {id : String} {f g : FileFindings} :
    f.Attributed id g ↔ g = f.stamp id := by
  constructor
  · rintro ⟨hfile, hviolations⟩
    rw [stamp, ← Violation.forall₂_attributed_iff.mp hviolations, ← hfile]
  · rintro rfl
    exact ⟨rfl, Violation.forall₂_attributed_iff.mpr rfl⟩

theorem FileFindings.forall₂_attributed_iff {id : String} {fs gs : List FileFindings} :
    List.Forall₂ (Attributed id) fs gs ↔ gs = fs.map (stamp id) :=
  forall₂_iff_eq_map fun _ _ _ => attributed_iff

namespace Report

/-- A report and its copy: file by file and violation by violation, in the same order, with the same
metadata. -/
structure Attributed (id : String) (r s : Report) : Prop where
  results : List.Forall₂ (FileFindings.Attributed id) r.results s.results
  violations : List.Forall₂ (Violation.Attributed id) r.violations s.violations
  metadata : s.metadata = r.metadata

variable {id : String} {r : Report}

/-- There is one copy of a report, and it is the one that stamping makes. -/
theorem attributed_iff {s : Report} : r.Attributed id s ↔ s = r.stamp id := by
  constructor
  · rintro ⟨hresults, hviolations, hmetadata⟩
    rw [stamp, ← FileFindings.forall₂_attributed_iff.mp hresults,
      ← Violation.forall₂_attributed_iff.mp hviolations, ← hmetadata]
  · rintro rfl
    exact ⟨FileFindings.forall₂_attributed_iff.mpr rfl,
      Violation.forall₂_attributed_iff.mpr rfl, rfl⟩

theorem stamp_stamp (id other : String) (r : Report) :
    (r.stamp id).stamp other = r.stamp id := by
  have hfiles : FileFindings.stamp other ∘ FileFindings.stamp id = FileFindings.stamp id := by
    funext f
    simp [FileFindings.stamp, Violation.stamp_stamp]
  have hviolations : Violation.stamp other ∘ Violation.stamp id = Violation.stamp id := by
    funext x
    exact x.stamp_stamp id other
  unfold stamp
  rw [List.map_map, List.map_map, hfiles, hviolations]

theorem count_eq_length (r : Report) : r.count = r.allViolations.length :=
  List.length_append.symm

theorem count_stamp (id : String) (r : Report) : (r.stamp id).count = r.count := by
  rw [count_eq_length, count_eq_length, allViolations_stamp, List.length_map]

theorem isSome_engine_of_mem_stamp {x : Violation} (h : x ∈ (r.stamp id).allViolations) :
    x.engine.isSome := by
  rw [allViolations_stamp] at h
  obtain ⟨y, -, rfl⟩ := List.mem_map.mp h
  rw [Violation.stamp_engine]
  rfl

end Report

/-! ## Outcomes -/

namespace Outcome

/-- The findings of an outcome are the copy of a report that names the outcome's engine. -/
def Copies (o : Outcome) (r : Report) : Prop :=
  r.Attributed o.engine
    { results := o.results, violations := o.violations, metadata := r.metadata }

theorem violationCount_eq_length (o : Outcome) : o.violationCount = o.allViolations.length :=
  List.length_append.symm

theorem Copies.of_eq {o : Outcome} {r : Report} (hresults : o.results = (r.stamp o.engine).results)
    (hviolations : o.violations = (r.stamp o.engine).violations) : o.Copies r := by
  refine Report.attributed_iff.mpr ?_
  rw [hresults, hviolations]
  rfl

theorem Copies.allViolations_eq {o : Outcome} {r : Report} (h : o.Copies r) :
    o.allViolations = (r.stamp o.engine).allViolations := by
  rw [← Report.attributed_iff.mp h]
  rfl

/-- An outcome has as many violations as the report it copies. -/
theorem Copies.violationCount_eq {o : Outcome} {r : Report} (h : o.Copies r) :
    o.violationCount = r.allViolations.length := by
  rw [violationCount_eq_length, h.allViolations_eq, Report.allViolations_stamp, List.length_map]

end Outcome

/-- An outcome that succeeded copies the report that its engine handed over. -/
theorem Job.copies_of_judge {setup : RunSetup} {job : Job} {reply : Reply}
    (h : (job.outcome setup (job.judge setup reply)).success = true) :
    ∃ findings r, reply.answer = .ok findings ∧ findings.toReport = .ok r ∧
      (job.outcome setup (job.judge setup reply)).Copies r := by
  obtain ⟨report, hreport, hresults, hviolations, -⟩ := Job.outcome_of_succeeded h
  obtain ⟨-, findings, r, hanswer, hr, rfl⟩ := Job.exists_of_judge_eq_ok hreport
  refine ⟨findings, r, hanswer, hr, .of_eq ?_ ?_⟩
  · rw [Job.outcome_engine, hresults]
  · rw [Job.outcome_engine, hviolations]

/-- Every violation that an answered job found names an engine. -/
theorem Job.isSome_engine_of_mem {setup : RunSetup} {registry : Registry} {job : Job}
    {x : Violation} (h : x ∈ (job.outcome setup (job.answer setup registry)).allViolations) :
    x.engine.isSome := by
  unfold Job.answer at h
  split at h
  · cases h
  · rename_i engine call _
    cases hsuccess : (job.outcome setup
        (job.judge setup (engine.analyze setup.tree call).2.2)).success with
    | false =>
      obtain ⟨hresults, hviolations, -⟩ := Job.outcome_of_failed hsuccess
      rw [Outcome.allViolations, hresults, hviolations] at h
      cases h
    | true =>
      obtain ⟨findings, r, -, -, hcopies⟩ := Job.copies_of_judge hsuccess
      rw [hcopies.allViolations_eq] at h
      exact Report.isSome_engine_of_mem_stamp h

theorem Unfolds.isSome_engine {setup : RunSetup} {registry : Registry} {jobs : List Job}
    {outcomes : List Outcome} (h : Unfolds setup (registry.Answers setup) jobs outcomes)
    {o : Outcome} (ho : o ∈ outcomes) : ∀ x ∈ o.allViolations, x.engine.isSome := by
  obtain ⟨job, result, -, ⟨later, -, rfl⟩, rfl⟩ := h.exists_of_mem (p := fun _ => True)
    (fun _ _ _ _ _ => trivial) (fun _ _ => trivial) ho
  exact fun x hx => Job.isSome_engine_of_mem hx

/-! ## Engines -/

namespace Registry

/-- Every engine has findings that it hands over for every call, however many it has served. -/
def HandsOver (tree : FileTree) (kept : String → Findings) (r : Registry) : Prop :=
  ∀ id e, r.get? id = some e → ∀ history call,
    ((e.after tree history).analyze tree call).2.2.answer = .ok (kept id)

/-- Engines of supplied behaviours that ignore age and call hand over what these answer. -/
theorem HandsOver.of_supplied {tree : FileTree} {kept : String → Findings} {r : Registry}
    (h : ∀ entry ∈ r.entries, ∃ behaviour, entry.2.kind = .supplied behaviour ∧
      ∀ age call, (behaviour.analyze age call).answer = .ok (kept entry.1)) :
    r.HandsOver tree kept := by
  intro id e he history call
  obtain ⟨behaviour, hkind, hanswer⟩ := h (id, e) (Keyed.mem_of_get? he)
  clear he
  induction history generalizing e with
  | nil =>
    show (e.analyze tree call).2.2.answer = _
    rw [Engine.analyze_of_supplied tree hkind]
    exact hanswer e.age call
  | cons first rest ih =>
    have hlater := ih (e.analyze tree first).1
    rw [Engine.analyze_of_supplied tree hkind] at hlater
    rw [Engine.after, List.foldl_cons, Engine.analyze_of_supplied tree hkind]
    exact hlater hkind hanswer

/-- What engines have served does not show in what they hand over. -/
theorem HandsOver.later {tree : FileTree} {kept : String → Findings} {r r' : Registry}
    (h : r.HandsOver tree kept) (hkeyed : r.WellKeyed) (hlater : Later tree r r') :
    r'.HandsOver tree kept := by
  intro id e' he' history call
  have hsome := hlater.isSome_get? id
  rw [he', Option.isSome_some, eq_comm, Option.isSome_iff_exists] at hsome
  obtain ⟨e, he⟩ := hsome
  obtain ⟨served, hserved⟩ := hlater.get?_after hkeyed he
  obtain rfl : e' = e.after tree served := Option.some.inj (he'.symm.trans hserved)
  have hall := h id e he (served ++ history) call
  rwa [Engine.after, List.foldl_append] at hall

/-- An execution changes engines only by having them serve calls. -/
theorem later_execute {setup : RunSetup} {r : Registry} {groups : Keyed (List Rule)}
    {course : SequenceCourse} (h : execute setup r groups = .ok course) :
    Later setup.tree r course.registry := by
  have hkeeps : Keeps setup (fun _ => True) (Later setup.tree r) :=
    ⟨fun _ _ _ _ _ => trivial, fun _ _ _ call hlater _ hprepared =>
      hlater.trans (serve_later (Job.prepareCall_eq_ok_iff.mp hprepared).1 call)⟩
  obtain ⟨batches, hbatches, -⟩ := exists_of_execute_eq_ok h
  obtain ⟨found, hfound, hlater, -⟩ := hkeeps.execute .refl hbatches fun _ _ => trivial
  obtain rfl : found = course := Except.ok.inj (hfound.symm.trans h)
  exact hlater

end Registry

/-! ## Runs -/

/-- Every violation of a result names an engine, wherever it stands. -/
structure RunResult.Attributed (r : RunResult) : Prop where
  violations : ∀ x ∈ r.violations, x.engine.isSome
  results : ∀ f ∈ r.results, ∀ x ∈ f.violations, x.engine.isSome
  outcomes : ∀ o ∈ r.outcomes, ∀ x ∈ o.allViolations, x.engine.isSome

theorem Auditor.run_attributed {tree : FileTree} {a : Auditor} {files : List FilePath}
    {inputs : List RuleInput} {requested : Option String} {result : RunResult}
    (hrun : (a.run tree files inputs requested).result = .ok result) : result.Attributed := by
  obtain ⟨work, plan, course, -, -, hexecute, rfl⟩ := exists_stages_of_run hrun
  obtain ⟨batches, -, hunfolds⟩ := exists_of_execute_eq_ok hexecute
  have hnamed : ∀ o ∈ course.outcomes, ∀ x ∈ o.allViolations, x.engine.isSome :=
    fun o ho => hunfolds.isSome_engine ho
  refine ⟨fun x hx => ?_, fun f hf x hx => ?_, hnamed⟩
  · rw [merge_violations, List.mem_flatMap] at hx
    obtain ⟨o, ho, hx⟩ := hx
    unfold Merge.contributed at hx
    split at hx
    · exact hnamed o ho x hx
    · cases hx
  · rw [merge_results, List.mem_flatMap] at hf
    obtain ⟨o, ho, hf⟩ := hf
    refine hnamed o (List.mem_of_mem_filter ho) x ?_
    exact List.mem_append_left _ (List.mem_flatMap.mpr ⟨f, hf, hx⟩)

/-- Findings that are a report, or read as one, are taken over as the one copy of the report that
differs from it in missing engine names alone; a copy of the copy is the copy. In an execution the
findings of each outcome that succeeded are the copy of what its engine handed over, with as many
violations; an outcome that failed has none. Engines change by serving calls and by nothing else, so
engines that always hand over the same findings do so afterwards too, and each outcome is a copy of
these that names its own engine. Every violation of the result of a run names an engine. -/
theorem execute_attributes_findings (setup : RunSetup) {registry : Registry}
    (hkeyed : registry.WellKeyed) {groups : Keyed (List Rule)} {course : SequenceCourse}
    (hcourse : execute setup registry groups = .ok course) :
    (∀ (findings : Findings) (r : Report) (id : String), findings.toReport = .ok r →
      ∃ s, findings.toReport.map (Report.stamp id) = .ok s ∧
        (∀ s', r.Attributed id s' ↔ s' = s) ∧ s.count = r.count ∧
        ∀ other, (Findings.report s).toReport.map (Report.stamp other) = .ok s) ∧
    (∀ o ∈ course.outcomes,
      (o.success = true → ∃ v : Serving, v.Sound setup registry ∧ o = v.outcome setup ∧
        ∃ findings r, (v.reply setup).answer = .ok findings ∧ findings.toReport = .ok r ∧
          o.Copies r ∧ o.violationCount = r.allViolations.length) ∧
      (o.success = false → o.violationCount = 0)) ∧
    Registry.Later setup.tree registry course.registry ∧
    (∀ kept, registry.HandsOver setup.tree kept →
      course.registry.HandsOver setup.tree kept ∧
      ∀ o ∈ course.outcomes, o.success = true →
        ∃ r, (kept o.engine).toReport = .ok r ∧ o.Copies r) ∧
    ∀ (tree : FileTree) (a : Auditor) (files : List FilePath) (inputs : List RuleInput)
      (requested : Option String) (result : RunResult),
      (a.run tree files inputs requested).result = .ok result → result.Attributed := by
  have haccounts := execute_accounts hkeyed hcourse
  have hlater := Registry.later_execute hcourse
  have hcopies : ∀ o ∈ course.outcomes, o.success = true →
      ∃ v : Serving, v.Sound setup registry ∧ o = v.outcome setup ∧
        ∃ findings r, (v.reply setup).answer = .ok findings ∧ findings.toReport = .ok r ∧
          o.Copies r := by
    intro o ho hsuccess
    rcases haccounts.outcomes o ho with ⟨job, f, rfl⟩ | ⟨v, hsound, -, rfl⟩
    · cases hsuccess
    · exact ⟨v, hsound, rfl, Job.copies_of_judge hsuccess⟩
  refine ⟨fun findings r id hr => ?_, fun o ho => ⟨fun hsuccess => ?_, fun hfailed => ?_⟩, hlater,
    fun kept hkept => ⟨hkept.later hkeyed hlater, fun o ho hsuccess => ?_⟩,
    fun tree a files inputs requested result hrun => Auditor.run_attributed hrun⟩
  · refine ⟨r.stamp id, by rw [hr]; rfl, fun _ => Report.attributed_iff, r.count_stamp id,
      fun other => ?_⟩
    · exact congrArg Except.ok (r.stamp_stamp id other)
  · obtain ⟨v, hsound, heq, findings, r, hanswer, hr, hcopy⟩ := hcopies o ho hsuccess
    exact ⟨v, hsound, heq, findings, r, hanswer, hr, hcopy, hcopy.violationCount_eq⟩
  · rcases haccounts.outcomes o ho with ⟨job, f, rfl⟩ | ⟨v, -, -, rfl⟩
    · rfl
    · obtain ⟨hresults, hviolations, -⟩ := Job.outcome_of_failed hfailed
      unfold Outcome.violationCount
      rw [Serving.outcome, hresults, hviolations]
      rfl
  · obtain ⟨v, ⟨⟨now, hnow, hget⟩, -⟩, rfl, findings, r, hanswer, hr, hcopy⟩ :=
      hcopies o ho hsuccess
    have hengine : (v.outcome setup).engine = v.job.batch.engine := Job.outcome_engine setup v.job _
    have hsame := hkept.later hkeyed hnow _ _ hget [] v.call
    obtain rfl : findings = kept v.job.batch.engine := Except.ok.inj (hanswer.symm.trans hsame)
    exact ⟨r, by rw [hengine, hr], hcopy⟩

/-- A report with a violation in a file, one of no file, and one that names its engine. -/
def sharedReport : Report :=
  { results := [{ file := "a.py", violations := [{ ruleId := "A", message := "unused name" }] }]
    violations :=
      [{ ruleId := "A", message := "no licence" },
       { ruleId := "A", message := "found elsewhere", engine := some "other" }] }

/-- An engine that hands over the shared report for every call. -/
def sharingEngine (id : String) (tag : Nat) : Engine :=
  .ofBehaviour id "1.0.0" [] false
    { analyze := fun _ _ => { answer := .ok (.report sharedReport) } } tag

/-- Two engines hand over one report: each outcome names its own engine, and the report is as it was
before. -/
theorem execute_attributes_findings_shared :
    let setup : RunSetup := { files := [] }
    let registry := (Registry.registerAll {} [sharingEngine "x" 0, sharingEngine "y" 1]).1
    let groups : Keyed (List Rule) := [("x", [{ id := "A" }]), ("y", [{ id := "A" }])]
    registry.WellKeyed ∧ registry.HandsOver setup.tree (fun _ => .report sharedReport) ∧
      ∃ course, execute setup registry groups = .ok course ∧
        course.outcomes.map (fun o => o.allViolations.map Violation.engine) =
          [[some "x", some "x", some "other"], [some "y", some "y", some "other"]] ∧
        course.registry.HandsOver setup.tree (fun _ => .report sharedReport) ∧
        ∀ o ∈ course.outcomes, o.success = true → o.Copies sharedReport := by
  intro setup registry groups
  have hkeyed : registry.WellKeyed := by
    refine Registry.WellKeyed.registerAll (r := {}) (fun id e h => ?_) _
    cases h
  have hkept : registry.HandsOver setup.tree (fun _ => .report sharedReport) := by
    refine .of_supplied fun entry hentry => ?_
    have hcases : entry = ("x", sharingEngine "x" 0) ∨ entry = ("y", sharingEngine "y" 1) := by
      simpa [registry, Registry.registerAll, Registry.register, Keyed.put, sharingEngine,
        Engine.ofBehaviour, Engine.supportAll] using hentry
    rcases hcases with rfl | rfl
    · exact ⟨_, rfl, fun _ _ => rfl⟩
    · exact ⟨_, rfl, fun _ _ => rfl⟩
  have hshown : (execute setup registry groups).toOption.map (fun course =>
      course.outcomes.map fun o => o.allViolations.map Violation.engine) =
      some [[some "x", some "x", some "other"], [some "y", some "y", some "other"]] := by
    decide +kernel
  cases hcourse : execute setup registry groups with
  | error f =>
    rw [hcourse] at hshown
    cases hshown
  | ok course =>
    rw [hcourse] at hshown
    obtain ⟨-, -, -, huntouched, -⟩ := execute_attributes_findings setup hkeyed hcourse
    obtain ⟨hafter, hall⟩ := huntouched _ hkept
    refine ⟨hkeyed, hkept, course, rfl, Option.some.inj hshown, hafter, fun o ho hsuccess => ?_⟩
    obtain ⟨r, hr, hcopy⟩ := hall o ho hsuccess
    obtain rfl : sharedReport = r := Except.ok.inj hr
    exact hcopy

end RuleAudit
