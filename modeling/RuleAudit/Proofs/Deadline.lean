import RuleAudit.Proofs.AlikeAuditors
import RuleAudit.Proofs.Run.Agreement
import RuleAudit.Proofs.Run.Serving

/-!
# Deadlines

A call that ends by itself gives its report; a call that its deadline finds under way gives a failed
outcome and nothing else, whatever its engine does from then on (`execute_keeps_deadlines`).
-/

namespace RuleAudit

/-! ## Outcomes -/

namespace Job

variable {setup : RunSetup} {job : Job}

@[simp] theorem outcome_timeoutMs (result : Except Fault Report) :
    (job.outcome setup result).timeoutMs = job.timeoutMs setup := by
  cases result <;> rfl

/-- A failed outcome has an error and its class, and no findings. -/
theorem outcome_of_failed {result : Except Fault Report}
    (h : (job.outcome setup result).success = false) :
    (job.outcome setup result).results = [] ∧ (job.outcome setup result).violations = [] ∧
      (job.outcome setup result).error.isSome ∧
      (job.outcome setup result).classification.isSome := by
  cases result with
  | ok report => cases h
  | error f => exact ⟨rfl, rfl, rfl, rfl⟩

/-- An outcome that succeeded has the findings of a report, and neither an error nor a class. -/
theorem outcome_of_succeeded {result : Except Fault Report}
    (h : (job.outcome setup result).success = true) :
    ∃ report, result = .ok report ∧ (job.outcome setup result).results = report.results ∧
      (job.outcome setup result).violations = report.violations ∧
      (job.outcome setup result).error = none ∧
      (job.outcome setup result).classification = none := by
  cases result with
  | ok report => exact ⟨report, rfl, rfl, rfl, rfl, rfl⟩
  | error f => cases h

/-- A call that is judged to have a report has ended by itself with it. -/
theorem exists_of_judge_eq_ok {reply : Reply} {report : Report}
    (h : job.judge setup reply = .ok report) :
    reply.lapses (job.timeoutMs setup) = false ∧
      ∃ findings found, reply.answer = .ok findings ∧ findings.toReport = .ok found ∧
        report = found.stamp job.batch.engine := by
  unfold judge at h
  split at h
  · cases h
  · rename_i hlapses
    refine ⟨Bool.eq_false_iff.mpr hlapses, ?_⟩
    split at h
    · cases h
    · cases h
    · rename_i findings hanswer
      obtain ⟨found, hfound, rfl⟩ := exists_of_map_eq_ok h
      exact ⟨findings, found, hanswer, hfound, rfl⟩

/-- The token of a job's call has not been cancelled. -/
theorem token_of_request {call : Call} (h : job.request setup = .ok call) :
    call.token.reason = none := by
  unfold request Token.start at h
  obtain ⟨token, htoken, rfl⟩ := exists_of_map_eq_ok h
  obtain ⟨seconds, -, rfl⟩ := exists_of_map_eq_ok htoken
  rfl

end Job

/-- A call that its deadline does not find has not slept, or not for longer than that. -/
theorem Reply.pauseMs_of_not_lapses {reply : Reply} {timeoutMs : Int}
    (h : reply.lapses timeoutMs = false) : reply.pauseMs ≤ 0 ∨ reply.pauseMs ≤ timeoutMs := by
  unfold Reply.lapses at h
  split at h
  · exact .inr (by simpa using h)
  · exact .inl (by omega)

/-- A call that its deadline found fails, and may be retried. -/
theorem Serving.outcome_of_lapsed {setup : RunSetup} {first : Registry} {v : Serving}
    (hsound : v.Sound setup first) (h : v.lapsed setup = true) :
    (v.outcome setup).success = false ∧
      ∃ c, (v.outcome setup).classification = some c ∧ c.kind = .retryable ∧
        c.reason = "BatchTimeoutError" := by
  have hlapses : (v.reply setup).lapses (v.job.timeoutMs setup) = true := by
    rw [← Job.timeoutMs_of_request hsound.request]
    exact h
  unfold Serving.outcome
  rw [Job.judge_of_lapses hlapses]
  exact ⟨rfl, _, rfl, rfl, rfl⟩

/-- A call whose outcome succeeded has ended by itself and in time, and its report is what the
outcome found. -/
theorem Serving.outcome_of_succeeded {setup : RunSetup} {first : Registry} {v : Serving}
    (hsound : v.Sound setup first) (h : (v.outcome setup).success = true) :
    (v.outcome setup).error = none ∧ (v.outcome setup).classification = none ∧
      v.lapsed setup = false ∧
      ((v.reply setup).pauseMs ≤ 0 ∨ (v.reply setup).pauseMs ≤ (v.outcome setup).timeoutMs) ∧
      ∃ findings found, (v.reply setup).answer = .ok findings ∧ findings.toReport = .ok found ∧
        (v.outcome setup).results = (found.stamp (v.outcome setup).engine).results ∧
        (v.outcome setup).violations = (found.stamp (v.outcome setup).engine).violations := by
  obtain ⟨report, hreport, hresults, hviolations, herror, hclass⟩ := Job.outcome_of_succeeded h
  obtain ⟨hlapses, findings, found, hanswer, hfound, rfl⟩ := Job.exists_of_judge_eq_ok hreport
  have htimeout := Job.timeoutMs_of_request hsound.request
  have hengine : (v.outcome setup).engine = v.job.batch.engine := Job.outcome_engine setup v.job _
  refine ⟨herror, hclass, ?_, ?_, findings, found, hanswer, hfound, ?_, ?_⟩
  · rw [Serving.lapsed, htimeout, hlapses]
  · have hdeadline : (v.outcome setup).timeoutMs = v.job.timeoutMs setup :=
      Job.outcome_timeoutMs _
    rw [hdeadline]
    exact Reply.pauseMs_of_not_lapses hlapses
  · rw [hengine]
    exact hresults
  · rw [hengine]
    exact hviolations

/-! ## Runs -/

/-- Late replies change no result of a run. -/
theorem Auditor.Alike.run_eq {a a' : Auditor} (h : a.Alike equalUntilDeadline a')
    (tree : FileTree) (files : List FilePath) (inputs : List RuleInput)
    (requested : Option String) :
    (a'.run tree files inputs requested).result = (a.run tree files inputs requested).result := by
  rcases h.run_cases tree files inputs requested with ⟨f, hf⟩ |
    ⟨setup, groups, fileCount, metrics, skipped, categories, -, hresult⟩
  · rw [hf a (.inl rfl), hf a' (.inr rfl)]
  · rw [hresult a (.inl rfl), hresult a' (.inr rfl)]
    rcases execute_alike setup (h.setUp tree).auditor.registry groups with
      ⟨f, hf, hf'⟩ | ⟨course, course', hcourse, hcourse', hregistry, -, houtcomes⟩
    · rw [hf, hf']
    · have hmetadata : ∀ settings, Auditor.metadata course'.registry settings =
          Auditor.metadata course.registry settings := by
        intro settings
        unfold Auditor.metadata
        rw [hregistry.ids_eq]
      rw [hcourse, hcourse']
      dsimp only [Except.map]
      rw [houtcomes, hmetadata]

/-- A failed outcome has an error and its class, and no findings. An outcome that succeeded has no
error; its call was made and ended by itself, asleep no longer than the deadline allows, and the
findings are those of the call's report with missing engine names filled in. Every call that was
made has its outcome. A call that its deadline found under way has failed in a way that may be
retried, and its token was cancelled for that reason. Whatever engines do after their deadlines,
returning or failing, no outcome, nothing that is told and no result of a run is changed by it. -/
theorem execute_keeps_deadlines (setup : RunSetup) {registry : Registry}
    (hkeyed : registry.WellKeyed) {groups : Keyed (List Rule)} {course : SequenceCourse}
    (hcourse : execute setup registry groups = .ok course) :
    (∀ o ∈ course.outcomes,
      (o.success = false →
        o.results = [] ∧ o.violations = [] ∧ o.error.isSome ∧ o.classification.isSome) ∧
      (o.success = true →
        o.error = none ∧ o.classification = none ∧
        ∃ v : Serving, v.Sound setup registry ∧ .called v.engine.tag v.call ∈ course.notices ∧
          o = v.outcome setup ∧ v.lapsed setup = false ∧
          ((v.reply setup).pauseMs ≤ 0 ∨ (v.reply setup).pauseMs ≤ o.timeoutMs) ∧
          ∃ findings found, (v.reply setup).answer = .ok findings ∧
            findings.toReport = .ok found ∧ o.results = (found.stamp o.engine).results ∧
            o.violations = (found.stamp o.engine).violations)) ∧
    (∀ tag call, .called tag call ∈ course.notices →
      ∃ v : Serving, v.engine.tag = tag ∧ v.call = call ∧ v.Sound setup registry ∧
        v.outcome setup ∈ course.outcomes ∧
        (v.lapsed setup = true →
          (v.outcome setup).success = false ∧
          (∃ c, (v.outcome setup).classification = some c ∧ c.kind = .retryable ∧
            c.reason = "BatchTimeoutError") ∧
          .late tag (Job.lateReason call.timeoutMs) ∈ course.notices ∧
          (call.token.cancel (Job.lateReason call.timeoutMs)).reason =
            some (Job.lateReason call.timeoutMs))) ∧
    (∀ registry', registry.Alike equalUntilDeadline registry' →
      ∃ course', execute setup registry' groups = .ok course' ∧
        course'.outcomes = course.outcomes ∧ course'.notices = course.notices) ∧
    ∀ (tree : FileTree) (a a' : Auditor) (files : List FilePath) (inputs : List RuleInput)
      (requested : Option String), a.Alike equalUntilDeadline a' →
      (a'.run tree files inputs requested).result =
        (a.run tree files inputs requested).result := by
  have haccounts := execute_accounts hkeyed hcourse
  refine ⟨fun o ho => ?_, fun tag call hcalled => ?_, fun registry' halike => ?_,
    fun tree a a' files inputs requested halike => halike.run_eq tree files inputs requested⟩
  · rcases haccounts.outcomes o ho with ⟨job, f, rfl⟩ | ⟨v, hsound, htold, rfl⟩
    · exact ⟨Job.outcome_of_failed, by simp [Job.outcome]⟩
    · refine ⟨Job.outcome_of_failed, fun hsuccess => ?_⟩
      obtain ⟨herror, hclass, hlapsed, hpause, hfindings⟩ :=
        Serving.outcome_of_succeeded hsound hsuccess
      exact ⟨herror, hclass, v, hsound, htold.called, rfl, hlapsed, hpause, hfindings⟩
  · obtain ⟨v, rfl, rfl, hsound, htold, houtcome⟩ := haccounts.calls tag call hcalled
    refine ⟨v, rfl, rfl, hsound, houtcome, fun hlapsed => ?_⟩
    obtain ⟨hfailed, hclass⟩ := Serving.outcome_of_lapsed hsound hlapsed
    refine ⟨hfailed, hclass, htold.late hlapsed, ?_⟩
    rw [Token.cancel, Job.token_of_request hsound.request]
  · rcases execute_alike setup halike groups with
      ⟨f, hf, -⟩ | ⟨found, course', hfound, hcourse', -, hnotices, houtcomes⟩
    · rw [hcourse] at hf
      cases hf
    · obtain rfl : found = course := Except.ok.inj (hfound.symm.trans hcourse)
      exact ⟨course', hcourse', houtcomes, hnotices⟩

/-- An engine that sleeps through every deadline and then fails. -/
def sleepingEngine : Engine :=
  .ofBehaviour "sleeping" "1.0.0" [] false
    { analyze := fun _ _ => { pauseMs := 1000000000, answer := .error (.plain .memory none) } } 2

/-- A sleeping engine beside a patient one: its batch fails, and it hears why. -/
theorem execute_sleeping_engine :
    let setup : RunSetup :=
      { limits := { ruleBatchSize := some 1, maxConcurrentBatches := 2 }, files := [] }
    let registry : Registry :=
      { entries := [("sleeping", sleepingEngine), ("patient", patientEngine)] }
    let groups : Keyed (List Rule) :=
      [("sleeping", [{ id := "A" }]), ("patient", [{ id := "B" }, { id := "C" }])]
    registry.WellKeyed ∧ ∃ course, execute setup registry groups = .ok course ∧
      course.outcomes.map (fun o => (o.rules, o.success)) =
        [(["A"], false), (["B"], true), (["C"], true)] ∧
      (∀ o ∈ course.outcomes, o.success = false → o.results = [] ∧ o.violations = []) ∧
      Notice.lateReasons course.notices 2 = ["deadline of 31000ms exceeded"] := by
  intro setup registry groups
  have hkeyed : registry.WellKeyed := by
    intro id e he
    simp only [registry, Registry.get?, Keyed.get?, beq_iff_eq] at he
    split at he
    · rename_i hid
      cases he
      exact hid
    · split at he
      · rename_i hid
        cases he
        exact hid
      · cases he
  have hshown : (execute setup registry groups).toOption.map (fun course =>
      (course.outcomes.map (fun o => (o.rules, o.success)),
        Notice.lateReasons course.notices 2)) =
      some ([(["A"], false), (["B"], true), (["C"], true)], ["deadline of 31000ms exceeded"]) := by
    decide +kernel
  refine ⟨hkeyed, ?_⟩
  cases hcourse : execute setup registry groups with
  | error f =>
    rw [hcourse] at hshown
    cases hshown
  | ok course =>
    rw [hcourse] at hshown
    obtain ⟨houtcomes, hlate⟩ := Prod.mk.inj (Option.some.inj hshown)
    obtain ⟨hall, -⟩ := execute_keeps_deadlines setup hkeyed hcourse
    refine ⟨course, rfl, houtcomes, fun o ho hfailed => ?_, hlate⟩
    obtain ⟨hresults, hviolations, -⟩ := (hall o ho).1 hfailed
    exact ⟨hresults, hviolations⟩

end RuleAudit
