import Mathlib.Data.List.Perm.Basic
import RuleAudit.Proofs.Conservation
import RuleAudit.Proofs.Deadline
import RuleAudit.Proofs.Decision
import RuleAudit.Proofs.Escape
import RuleAudit.Proofs.Run.Twins

/-!
# Batches do not show in what is found

The pattern scanner finds for each rule and each file what the rule finds there on its own. So the
violations of a run do not depend on how its rules were cut into batches, how many of these ran at
once, or whether failed ones would have been tried again, as long as no deadline fires
(`Auditor.run_batched_agrees`).

A job of the scanner comes to a deadline or to a report of what its rules find
(`Job.answer_of_scanner`). Without deadlines nothing fails, so nothing is retried and the outcomes
are the batches' own (`Unfolds.of_timely`); together they have what all the rules find, in another
order (`Engine.flatMap_findingsOf_perm`).
-/

namespace RuleAudit

/-! ## The scanner's answer to a job -/

/-- Whether a scanner scans for a rule: it brings patterns and is supported. -/
def Engine.scansFor (e : Engine) (rule : Rule) : Bool :=
  !rule.patterns.isEmpty && e.supports rule.id

/-- What a rule compiles to with the patterns that a scanner keeps. -/
def Engine.nodesOf (e : Engine) (rule : Rule) : List Pattern.Node :=
  match e.kind with
  | .supplied _ => []
  | .scanner _ cache => ((Scan.compileRule cache rule).2.toOption).getD []

/-- What a scanner finds for rules in files, each rule with its compiled patterns. -/
def Engine.findingsOf (tree : FileTree) (e : Engine) (nodes : Rule → List Pattern.Node)
    (files : List FilePath) (rules : List Rule) : List Violation :=
  files.flatMap fun path =>
    (rules.filter e.scansFor).flatMap (Scan.violationsIn tree e.id nodes path)

theorem Report.allViolations_stamp (engine : String) (r : Report) :
    (r.stamp engine).allViolations = r.allViolations.map (Violation.stamp engine) := by
  unfold Report.allViolations Report.stamp
  rw [List.map_append, List.flatMap_map, List.map_flatMap]
  rfl

/-- The scanner's course for rules that compile: it finds what they find, and takes up all files
unless it scans for none of the rules. -/
theorem Engine.findings_scanCourse (tree : FileTree) (e : Engine) {cache : Scan.Cache} {call : Call}
    {nodes : Rule → List Pattern.Node} (hcoherent : Scan.Coherent call.rules)
    (hnodes : ∀ rule ∈ call.rules, (Scan.compileRule cache rule).2 = .ok (nodes rule))
    (htoken : call.token.check = .ok ()) (hlegal : ∀ path ∈ call.files, path.hasNull = false) :
    ∃ found, (e.scanCourse tree cache call).2.findings = .ok found ∧
      found.flatMap FileFindings.violations = e.findingsOf tree nodes call.files call.rules := by
  have hmem : ∀ rule ∈ call.rules.filter e.scansFor, rule ∈ call.rules :=
    fun rule hrule => (List.mem_filter.mp hrule).1
  have hactive : Scan.Coherent (call.rules.filter e.scansFor) :=
    fun r hr r' hr' => hcoherent r (hmem r hr) r' (hmem r' hr')
  obtain ⟨-, found, hfound, hviolations⟩ := Scan.findings_scanFiles hactive
    (fun rule hrule => hnodes rule (hmem rule hrule)) tree e.id htoken hlegal
  unfold Engine.scanCourse Engine.findingsOf
  dsimp only
  split
  · -- none of the rules is scanned for
    rename_i hnone
    have hempty : call.rules.filter e.scansFor = [] := List.isEmpty_iff.mp hnone
    refine ⟨[], rfl, ?_⟩
    rw [hempty, List.flatMap_nil, eq_comm, List.flatMap_eq_nil_iff]
    exact fun path _ => rfl
  · exact ⟨found, hfound, hviolations⟩

/-- What a job comes to whose engine is the scanner and whose rules compile: its deadline, or a
report of what the rules find. -/
theorem Job.answer_of_scanner {setup : RunSetup} {registry : Registry} {job : Job} {e : Engine}
    {bound : Bool} {cache : Scan.Cache} {nodes : Rule → List Pattern.Node}
    (hget : registry.get? job.batch.engine = some e) (hkind : e.kind = .scanner bound cache)
    (hcoherent : Scan.Coherent job.batch.rules)
    (hnodes : ∀ rule ∈ job.batch.rules, (Scan.compileRule cache rule).2 = .ok (nodes rule))
    (hlegal : ∀ path ∈ setup.files, path.hasNull = false)
    (hseconds : ∃ s, Token.seconds (job.timeoutMs setup) = .ok s) :
    job.answer setup registry = .error (.deadline (job.context setup)) ∨
      ∃ report, job.answer setup registry = .ok report ∧ report.allViolations =
        (e.findingsOf setup.tree nodes setup.files job.batch.rules).map
          (Violation.stamp job.batch.engine) := by
  obtain ⟨s, hs⟩ := hseconds
  obtain ⟨call, hcall⟩ : ∃ call, job.request setup = .ok call := by
    unfold request Token.start
    dsimp only
    rw [hs]
    exact ⟨_, rfl⟩
  have hrules := rules_of_request hcall
  have hfiles : call.files = setup.files := by
    unfold request at hcall
    obtain ⟨token, -, rfl⟩ := exists_of_map_eq_ok hcall
    rfl
  have htoken : call.token.check = .ok () := by
    rw [Token.check, token_of_request hcall]
  rw [← hrules] at hcoherent hnodes
  rw [← hfiles] at hlegal
  obtain ⟨found, hfound, hviolations⟩ :=
    Engine.findings_scanCourse setup.tree e hcoherent hnodes htoken hlegal
  rw [answer_of_ok (prepareCall_eq_ok_iff.mpr ⟨hget, hcall⟩), Engine.analyze_of_scanner _ hkind]
  dsimp only
  rw [hfound]
  unfold judge
  split
  · exact .inl rfl
  · refine .inr ⟨_, rfl, ?_⟩
    rw [Report.allViolations_stamp, ← hfiles, ← hrules, ← hviolations]
    exact congrArg (List.map _) (List.append_nil _)

/-! ## Outcomes without deadlines -/

/-- An outcome of a batch whose deadline fired. -/
def Outcome.IsLate (o : Outcome) : Prop :=
  ∃ c, o.classification = some c ∧ c.reason = "BatchTimeoutError"

/-- Jobs that come to their deadlines or to reports, none of whose deadlines fires: all succeed, and
what they contribute are the violations of their reports. -/
theorem Unfolds.of_timely {setup : RunSetup} {answers : Job → Except Fault Report → Prop}
    {found : Job → List Violation} {jobs : List Job} {outcomes : List Outcome}
    (h : Unfolds setup answers jobs outcomes)
    (hjobs : ∀ job ∈ jobs, ∀ result, answers job result →
      result = .error (.deadline (job.context setup)) ∨
        ∃ report, result = .ok report ∧ report.allViolations = found job)
    (hlate : ∀ o ∈ outcomes, ¬ o.IsLate) :
    (∀ o ∈ outcomes, o.success = true) ∧
      outcomes.flatMap Merge.contributed = jobs.flatMap found := by
  induction h with
  | nil => exact ⟨fun o ho => absurd ho List.not_mem_nil, rfl⟩
  | @cons job rest result below beside answer slices others _ hothers =>
    rcases hjobs job List.mem_cons_self result answer with rfl | ⟨report, rfl, hreport⟩
    · exact absurd ⟨_, rfl, rfl⟩ (hlate _ List.mem_cons_self)
    · -- what has succeeded is not tried again
      have hnone : job.retries setup (job.outcome setup (.ok report)) = [] := by
        rw [Job.retries_outcome, if_neg]
        rw [Job.shouldRetry_iff]
        rintro ⟨-, hrecommended, -⟩
        cases hrecommended
      rw [hnone] at slices
      cases slices
      obtain ⟨hsuccess, hcontributed⟩ := hothers
        (fun other hother => hjobs other (List.mem_cons_of_mem _ hother))
        fun o ho => hlate o (List.mem_cons_of_mem _ (by simpa using ho))
      rw [List.nil_append]
      refine ⟨?_, ?_⟩
      · intro o ho
        rcases List.mem_cons.mp ho with rfl | ho
        · rfl
        · exact hsuccess o ho
      · rw [List.flatMap_cons, List.flatMap_cons, hcontributed, ← hreport]
        rfl

/-! ## All batches together -/

/-- What batches find, one after another, is what all their rules find, in another order. -/
theorem Engine.flatMap_findingsOf_perm (tree : FileTree) (e : Engine)
    (nodes : Rule → List Pattern.Node) (files : List FilePath) (batches : List Batch) :
    (batches.flatMap fun b => e.findingsOf tree nodes files b.rules).Perm
      (e.findingsOf tree nodes files (batches.flatMap Batch.rules)) := by
  induction batches with
  | nil =>
    have hnone : e.findingsOf tree nodes files [] = [] := by
      unfold Engine.findingsOf
      rw [List.flatMap_eq_nil_iff]
      exact fun path _ => rfl
    exact .of_eq hnone.symm
  | cons b rest ih =>
    rw [List.flatMap_cons, List.flatMap_cons]
    refine (ih.append_left _).trans ?_
    unfold Engine.findingsOf
    simp only [List.filter_append, List.flatMap_append]
    exact List.flatMap_append_perm files _ _

/-! ## A registry of one scanner -/

/-- A registry of one engine under its own identifier. -/
def Registry.only (e : Engine) : Registry :=
  { entries := [(e.id, e)] }

theorem Registry.get?_only (e : Engine) : (only e).get? e.id = some e := by
  simp [only, Registry.get?, Keyed.get?]

theorem Registry.eq_of_get?_only {e found : Engine} {id : String}
    (h : (only e).get? id = some found) : id = e.id ∧ found = e := by
  simp only [only, Registry.get?, Keyed.get?, beq_iff_eq] at h
  split at h
  · rename_i heq
    exact ⟨heq.symm, (Option.some.inj h).symm⟩
  · cases h

theorem Registry.wellKeyed_only (e : Engine) : (only e).WellKeyed := by
  intro id found hfound
  obtain ⟨rfl, rfl⟩ := eq_of_get?_only hfound
  rfl

theorem Registry.Twin.only_self {e : Engine} {bound : Bool} {cache : Scan.Cache}
    (hkind : e.kind = .scanner bound cache) (rules : List Rule) :
    Registry.Twin rules (.only e) (.only e) :=
  .cons ⟨rfl, rfl, fun _ => Iff.rfl, hkind ▸ .scanner bound (.refl rules cache)⟩ .nil

/-- The jobs of routed rules are answered by the scanner: each comes to its deadline or to a report
of what its rules find. -/
theorem answer_of_scanner_only {setup : RunSetup} {e : Engine} {bound : Bool} {cache : Scan.Cache}
    (hkind : e.kind = .scanner bound cache) {rules : List Rule}
    (hnodup : (rules.map Rule.id).Nodup)
    (hcompiles : ∀ rule ∈ rules, ∃ nodes, Scan.compilePatterns rule.patterns = .ok nodes)
    (hlegal : ∀ path ∈ setup.files, path.hasNull = false)
    (hseconds : ∀ n : Nat, n ≤ rules.length →
      ∃ s, Token.seconds (adaptiveTimeout setup.limits setup.files.length n) = .ok s)
    {job : Job} (hengine : job.batch.engine = e.id) (hjob : job.batch.rules.Subperm rules)
    {result : Except Fault Report}
    (hanswer : AnswersUnder setup (Registry.Twin rules (.only e)) job result) :
    result = .error (.deadline (job.context setup)) ∨ ∃ report, result = .ok report ∧
      report.allViolations = (e.findingsOf setup.tree e.nodesOf setup.files job.batch.rules).map
        (Violation.stamp e.id) := by
  have hcoherent := Scan.coherent_of_nodup hnodup
  obtain ⟨later, htwin, rfl⟩ := hanswer
  rw [htwin.answer_eq hcoherent hjob.subset, ← hengine]
  refine Job.answer_of_scanner ?_ hkind ?_ ?_ hlegal (hseconds _ hjob.length_le)
  · rw [hengine]
    exact Registry.get?_only e
  · exact fun r hr r' hr' => hcoherent r (hjob.subset hr) r' (hjob.subset hr')
  · intro rule hrule
    obtain ⟨nodes, hnodes⟩ :=
      Scan.exists_compileRule_eq_ok cache (hcompiles rule (hjob.subset hrule))
    have hkept : e.nodesOf rule = nodes := by
      unfold Engine.nodesOf
      rw [hkind]
      dsimp only
      rw [hnodes]
      rfl
    rw [hnodes, hkept]

/-- A scanner can run the groups of routed rules. If no deadline fires, nothing fails, and the
outcomes have what the scanner finds for the rules of the groups. -/
theorem execute_of_scanner (setup : RunSetup) (hlimits : setup.limits.Valid) {e : Engine}
    {bound : Bool} {cache : Scan.Cache} (hkind : e.kind = .scanner bound cache)
    {rules : List Rule} (hnodup : (rules.map Rule.id).Nodup)
    (hcompiles : ∀ rule ∈ rules, ∃ nodes, Scan.compilePatterns rule.patterns = .ok nodes)
    {settings : Settings} {plan : Plan}
    (hplan : (Routing.route (.only e) settings rules).2 = .ok plan)
    (hlegal : ∀ path ∈ setup.files, path.hasNull = false)
    (hseconds : ∀ n : Nat, n ≤ rules.length →
      ∃ s, Token.seconds (adaptiveTimeout setup.limits setup.files.length n) = .ok s) :
    ∃ course, execute setup (.only e) plan.groups = .ok course ∧
      ((∀ o ∈ course.outcomes, ¬ o.IsLate) → (∀ o ∈ course.outcomes, o.success = true) ∧
        (course.outcomes.flatMap Merge.contributed).Perm
          ((e.findingsOf setup.tree e.nodesOf setup.files (plan.groups.flatMap Prod.snd)).map
            (Violation.stamp e.id))) := by
  obtain ⟨batches, hbatches⟩ := exists_batchesOf_eq_ok hlimits plan.groups
  obtain ⟨hrules, hengines⟩ := batchesOf_rules hbatches
  have hpart : ∀ b ∈ batches, b.engine = e.id ∧ b.rules.Subperm rules := by
    intro b hb
    refine ⟨?_, subperm_of_mem_batchesOf hplan hbatches hb⟩
    obtain ⟨group, hgroup, hengine⟩ := List.mem_map.mp (hengines b hb)
    obtain ⟨found, hget⟩ :=
      Option.isSome_iff_exists.mp (Routing.isSome_get?_of_mem_groups hplan hgroup)
    rw [← hengine]
    exact (Registry.eq_of_get?_only hget).1
  -- whatever the scanner has served before does not matter
  have hkeeps : Keeps setup (fun job => ∀ rule ∈ job.batch.rules, rule ∈ rules)
      (Registry.Twin rules (.only e)) :=
    Registry.Twin.keeps (Scan.coherent_of_nodup hnodup) (Registry.wellKeyed_only e)
  have hjobs : ∀ job ∈ jobsOf batches, ∀ rule ∈ job.batch.rules, rule ∈ rules := by
    intro job hjob
    obtain ⟨b, hb, rfl⟩ := List.mem_map.mp hjob
    exact (hpart b hb).2.subset
  obtain ⟨course, hcourse, -, hunfolds⟩ :=
    hkeeps.execute (Registry.Twin.only_self hkind rules) hbatches hjobs
  refine ⟨course, hcourse, fun htimely => ?_⟩
  let found (job : Job) : List Violation :=
    (e.findingsOf setup.tree e.nodesOf setup.files job.batch.rules).map (Violation.stamp e.id)
  have hanswers : ∀ job ∈ jobsOf batches, ∀ result,
      AnswersUnder setup (Registry.Twin rules (.only e)) job result →
      result = .error (.deadline (job.context setup)) ∨
        ∃ report, result = .ok report ∧ report.allViolations = found job := by
    intro job hjob result hanswer
    obtain ⟨b, hb, rfl⟩ := List.mem_map.mp hjob
    obtain ⟨hengine, hsub⟩ := hpart b hb
    exact answer_of_scanner_only hkind hnodup hcompiles hlegal hseconds hengine hsub hanswer
  obtain ⟨hsuccess, hfound⟩ := hunfolds.of_timely hanswers htimely
  refine ⟨hsuccess, ?_⟩
  have hall := (Engine.flatMap_findingsOf_perm setup.tree e e.nodesOf setup.files batches).map
    (Violation.stamp e.id)
  rw [List.map_flatMap, hrules] at hall
  rwa [hfound, jobsOf, List.flatMap_map]

/-! ## What a result has -/

/-- A result without failures that has some violations, in any order, and counts them. -/
structure RunResult.Finds (categories : Keyed String) (found : List Violation) (r : RunResult) :
    Prop where
  success : ∀ o ∈ r.outcomes, o.success = true
  violations : r.violations.Perm found
  categories : ∀ key, r.summary.categories.get? key =
    (found.foldl (fun counts v => Merge.count counts (Merge.categoryOf categories v)) []).get? key
  severities : ∀ key, r.summary.severities.get? key =
    (found.foldl (fun counts v => Merge.count counts v.severity.word) []).get? key

/-- What outcomes contribute, their merged result has. -/
theorem RunResult.finds_merge {outcomes : List Outcome} {categories : Keyed String}
    {found : List Violation} (hsuccess : ∀ o ∈ outcomes, o.success = true)
    (hfound : (outcomes.flatMap Merge.contributed).Perm found) (fileCount : Int)
    (metrics : Metrics) (skipped : List String) (metadata : Keyed Value) :
    (merge outcomes fileCount metrics skipped categories metadata).Finds categories found := by
  obtain ⟨hcategories, hseverities⟩ := Merge.counts_foldl categories outcomes {}
  have hviolations := Merge.violations_foldl categories outcomes {}
  rw [show Merge.State.violations {} = [] from rfl, List.nil_append] at hviolations
  refine ⟨hsuccess, ?_, fun key => ?_, fun key => ?_⟩
  · show (Merge.fold categories outcomes).violations.Perm found
    rw [Merge.fold, hviolations]
    exact hfound
  · show (Merge.fold categories outcomes).categories.get? key = _
    rw [Merge.fold, hcategories]
    exact Merge.get?_foldl_count_of_perm _ hfound _ key
  · show (Merge.fold categories outcomes).severities.get? key = _
    rw [Merge.fold, hseverities]
    exact Merge.get?_foldl_count_of_perm _ hfound _ key

theorem RunResult.Finds.hasFailures {categories : Keyed String} {found : List Violation}
    {r : RunResult} (h : r.Finds categories found) : r.hasFailures = false := by
  unfold RunResult.hasFailures
  rw [List.any_eq_false]
  intro o ho
  rw [h.success o ho]
  exact Bool.false_ne_true

end RuleAudit
