import Mathlib.Data.List.Perm.Subperm
import Mathlib.Tactic.Ring
import RuleAudit.Proofs.Run.Keeping
import RuleAudit.Proofs.Run.RetryTree

/-!
# What retries recover

Take an engine that manages `m` rules at once and runs out of something with more. A batch of `n`
rules that fails is tried again in slices of `n / 2` rules, these in slices of `n / 4`, and so on
down to the depth `D` that the limits allow. All rules get through if `n / 2 ^ D ≤ m`; otherwise
some are left behind (`runJobs_recovers_within_depth`).

A last slice may be shorter than the others, but never longer: every slice of a node has at most
half the rules of the node, and the first one has exactly half (`SlicesOf.length_head`). The first
bound carries the induction that everything is recovered, the second the one that something is
lost.
-/

namespace RuleAudit

/-- The outcome of an engine that manages `m` rules at once: it succeeds with so many, and with more
it fails in a way that a smaller batch may avoid. -/
structure Outcome.LimitedTo (m : Nat) (o : Outcome) : Prop where
  succeeds : o.rules.length ≤ m → o.success = true
  fails : m < o.rules.length → o.success = false ∧ o.retryRecommended = true

/-- The engine of a batch manages `m` of its rules at once, whatever it has served before. -/
def Registry.LimitedTo (setup : RunSetup) (registry : Registry) (batch : Batch) (m : Nat) : Prop :=
  ∀ later, Registry.Later setup.tree registry later → ∀ job : Job,
    job.batch.engine = batch.engine → job.batch.rules <:+: batch.rules →
      (job.run setup later).outcome.LimitedTo m

/-- The rules of the outcomes that succeeded, in the order of the outcomes. -/
def recovered (outcomes : List Outcome) : List String :=
  (outcomes.filter Outcome.success).flatMap Outcome.rules

theorem recovered_cons_of_success {o : Outcome} (h : o.success = true) (rest : List Outcome) :
    recovered (o :: rest) = o.rules ++ recovered rest := by
  rw [recovered, List.filter_cons_of_pos h, List.flatMap_cons, recovered]

theorem recovered_cons_of_failure {o : Outcome} (h : o.success = false) (rest : List Outcome) :
    recovered (o :: rest) = recovered rest := by
  rw [recovered, List.filter_cons_of_neg (by simp [h]), recovered]

theorem recovered_append (first later : List Outcome) :
    recovered (first ++ later) = recovered first ++ recovered later := by
  rw [recovered, List.filter_append, List.flatMap_append, recovered, recovered]

/-- If the outcomes that succeeded have no rule twice, a recovered rule is in exactly one of
them. -/
theorem countP_contains_eq_one {outcomes : List Outcome} (hnodup : (recovered outcomes).Nodup)
    {id : String} (hid : id ∈ recovered outcomes) :
    outcomes.countP (fun o => o.success && o.rules.contains id) = 1 := by
  induction outcomes with
  | nil => cases hid
  | cons o rest ih =>
    cases ho : o.success with
    | false =>
      rw [recovered_cons_of_failure ho] at hnodup hid
      rw [List.countP_cons_of_neg (by simp [ho])]
      exact ih hnodup hid
    | true =>
      rw [recovered_cons_of_success ho] at hnodup hid
      obtain ⟨-, hrest, hapart⟩ := List.nodup_append.mp hnodup
      by_cases hmem : id ∈ o.rules
      · have hnone : rest.countP (fun o => o.success && o.rules.contains id) = 0 := by
          rw [List.countP_eq_zero]
          intro other hother hboth
          rw [Bool.and_eq_true, List.contains_iff_mem] at hboth
          have hlater : id ∈ recovered rest :=
            List.mem_flatMap.mpr ⟨other, List.mem_filter.mpr ⟨hother, hboth.1⟩, hboth.2⟩
          exact hapart id hmem id hlater rfl
        rw [List.countP_cons_of_pos (by simp [ho, hmem]), hnone]
      · rw [List.countP_cons_of_neg (by simp [hmem])]
        exact ih hrest ((List.mem_append.mp hid).resolve_left hmem)

namespace RetryForest

/-- The first slice has half the rules, rounded down. -/
theorem SlicesOf.length_head {failed first : Outcome} {others : List Outcome}
    (h : SlicesOf failed (first :: others)) (hlen : 1 < failed.rules.length) :
    first.rules.length = failed.rules.length / 2 := by
  rw [h.window 0 first rfl, Nat.zero_mul, List.drop_zero, List.length_take]
  omega

section Depth

variable {limits : Limits} {m D : Nat}

/-- What succeeded below an outcome has rules of the outcome, if the slices have. -/
theorem recovered_below_sublist {root : Outcome} {below : RetryForest}
    (hslices : below.roots ≠ [] → SlicesOf root below.roots)
    (hbelow : (recovered below.preorder).Sublist (below.roots.flatMap Outcome.rules)) :
    (recovered below.preorder).Sublist root.rules := by
  by_cases hnone : below.roots = []
  · rw [eq_nil_of_roots hnone]
    exact List.nil_sublist _
  · exact (hslices hnone).whole ▸ hbelow

/-- Nothing stands below an outcome that succeeded. -/
theorem eq_nil_of_success {root : Outcome} {below beside : RetryForest}
    (h : (cons root below beside).Splits limits) (hsuccess : root.success = true) :
    below = nil := by
  refine eq_nil_of_roots ?_
  by_contra hne
  rw [(h.1.mp hne).2.1] at hsuccess
  cases hsuccess

/-- What succeeded in a tree has rules of the roots, in their order and none at two places. -/
theorem recovered_sublist {f : RetryForest} (h : f.Splits limits) :
    (recovered f.preorder).Sublist (f.roots.flatMap Outcome.rules) := by
  induction f with
  | nil => exact List.Sublist.refl _
  | cons root below beside hbelow hbeside =>
    rw [preorder, roots, List.flatMap_cons]
    cases hroot : root.success with
    | false =>
      rw [recovered_cons_of_failure hroot, recovered_append]
      exact (recovered_below_sublist h.2.1 (hbelow h.2.2.1)).append (hbeside h.2.2.2)
    | true =>
      rw [recovered_cons_of_success hroot, eq_nil_of_success h hroot]
      exact (List.Sublist.refl _).append (hbeside h.2.2.2)

/-- An outcome with too many rules is split, unless it is as deep as the limits allow. -/
theorem roots_ne_nil_iff (hon : limits.retryFailedBatches = true) (hdepth : limits.maxRetries = D)
    (hm : 1 ≤ m) {root : Outcome} {below beside : RetryForest}
    (h : (cons root below beside).Splits limits) (hlimited : root.LimitedTo m)
    (hlarge : m < root.rules.length) : below.roots ≠ [] ↔ root.attempt < D := by
  obtain ⟨hfails, hrecommended⟩ := hlimited.fails hlarge
  have hone : 1 < root.rules.length := by omega
  rw [h.1, hdepth]
  simp [hon, hfails, hrecommended, hone]

/-- With at most `m` rules left at the greatest depth, everything is recovered. -/
theorem recovered_eq (hon : limits.retryFailedBatches = true) (hdepth : limits.maxRetries = D)
    (hm : 1 ≤ m) {f : RetryForest} (h : f.Splits limits)
    (hlimited : ∀ o ∈ f.preorder, o.LimitedTo m)
    (hroots : ∀ o ∈ f.roots, ∃ d : Nat, o.attempt + d = D ∧ o.rules.length < (m + 1) * 2 ^ d) :
    recovered f.preorder = f.roots.flatMap Outcome.rules := by
  induction f with
  | nil => rfl
  | cons root below beside hbelow hbeside =>
    have hroot := hlimited root (by simp [preorder])
    obtain ⟨d, hattempt, hless⟩ := hroots root (by simp [roots])
    have hright := hbeside h.2.2.2 (fun o ho => hlimited o (by simp [preorder, ho]))
      fun o ho => hroots o (by simp [roots, ho])
    rw [preorder, roots, List.flatMap_cons]
    by_cases hlarge : m < root.rules.length
    · -- the outcome fails above slices that have one level less and half the rules
      obtain ⟨d, rfl⟩ : ∃ k, d = k + 1 := by
        refine ⟨d - 1, ?_⟩
        by_contra hzero
        obtain rfl : d = 0 := by omega
        omega
      have hne := (roots_ne_nil_iff hon hdepth hm h hroot hlarge).mpr (by omega)
      have hslices := h.2.1 hne
      have hleft := hbelow h.2.2.1 (fun o ho => hlimited o (by simp [preorder, ho])) <| by
        intro slice hslice
        have hhalf := (hslices.two_le (by omega)).2 slice hslice
        refine ⟨d, by rw [hslices.attempt slice hslice]; omega, ?_⟩
        have hpow : (m + 1) * 2 ^ (d + 1) = 2 * ((m + 1) * 2 ^ d) := by ring
        omega
      rw [recovered_cons_of_failure (hroot.fails hlarge).1, recovered_append, hleft, hright,
        hslices.whole]
    · have hsuccess := hroot.succeeds (by omega)
      rw [recovered_cons_of_success hsuccess, eq_nil_of_success h hsuccess, hright.symm]
      rfl

/-- With more than `m` rules left at the greatest depth, something is lost. -/
theorem length_recovered_lt (hon : limits.retryFailedBatches = true)
    (hdepth : limits.maxRetries = D) (hm : 1 ≤ m) {f : RetryForest} (h : f.Splits limits)
    (hlimited : ∀ o ∈ f.preorder, o.LimitedTo m)
    (hroots : ∃ o ∈ f.roots, ∃ d : Nat, o.attempt + d = D ∧ (m + 1) * 2 ^ d ≤ o.rules.length) :
    (recovered f.preorder).length < (f.roots.flatMap Outcome.rules).length := by
  induction f with
  | nil =>
    obtain ⟨o, ho, -⟩ := hroots
    cases ho
  | cons root below beside hbelow hbeside =>
    obtain ⟨o, ho, d, hattempt, hmany⟩ := hroots
    rw [roots, List.mem_cons] at ho
    rcases ho with rfl | ho
    · -- the outcome fails, and so much of what stands below it does that rules are lost there
      have hroot := hlimited o (by simp [preorder])
      have hpow : 1 ≤ 2 ^ d := Nat.one_le_two_pow
      have hlarge : m < o.rules.length :=
        Nat.lt_of_lt_of_le (Nat.lt_of_lt_of_le m.lt_succ_self (Nat.le_mul_of_pos_right _ hpow))
          hmany
      have hiff := roots_ne_nil_iff hon hdepth hm h hroot hlarge
      have hlost : (recovered below.preorder).length < o.rules.length := by
        cases d with
        | zero =>
          have hnone : below.roots = [] := by
            by_contra hne
            have hless := hiff.mp hne
            omega
          rw [eq_nil_of_roots hnone]
          exact Nat.lt_of_le_of_lt (Nat.zero_le m) hlarge
        | succ d =>
          have hne := hiff.mpr (by omega)
          have hslices := h.2.1 hne
          rw [← hslices.whole]
          refine hbelow h.2.2.1 (fun slice hslice => hlimited slice (by simp [preorder, hslice])) ?_
          -- the first slice has exactly half the rules
          obtain ⟨first, others, hfirst⟩ := List.exists_cons_of_ne_nil hne
          rw [hfirst] at hslices ⊢
          have hhalf := hslices.length_head (by omega)
          refine ⟨first, by simp, d, by rw [hslices.attempt first (by simp)]; omega, ?_⟩
          have htwice : (m + 1) * 2 ^ (d + 1) = 2 * ((m + 1) * 2 ^ d) := by ring
          omega
      have hright := (recovered_sublist h.2.2.2).length_le
      rw [preorder, roots, List.flatMap_cons, recovered_cons_of_failure (hroot.fails hlarge).1,
        recovered_append, List.length_append, List.length_append]
      omega
    · have hright := hbeside h.2.2.2
        (fun other hother => hlimited other (by simp [preorder, hother]))
        ⟨o, ho, d, hattempt, hmany⟩
      have hfirst : (recovered (cons root below nil).preorder).length ≤ root.rules.length := by
        have hsub := recovered_sublist (f := cons root below nil) ⟨h.1, h.2.1, h.2.2.1, trivial⟩
        simpa [roots] using hsub.length_le
      have hsplit : (cons root below beside).preorder =
          (cons root below nil).preorder ++ beside.preorder := by
        simp [preorder]
      rw [hsplit, roots, List.flatMap_cons, recovered_append, List.length_append,
        List.length_append]
      omega

end Depth

end RetryForest

/-! ## Running a batch -/

/-- The slices of a job run a part of its batch. -/
theorem Job.part_of_mem_retries {setup : RunSetup} {job slice : Job} {result : Except Fault Report}
    (h : slice ∈ job.retries setup (job.outcome setup result)) :
    slice.batch.engine = job.batch.engine ∧ slice.batch.rules <:+: job.batch.rules := by
  obtain ⟨hlen, i, rules, hrules, rfl⟩ := exists_of_mem_retries h
  refine ⟨rfl, ?_⟩
  rw [pieces, chunks_getElem? (by omega)] at hrules
  split at hrules
  · cases hrules
    exact (List.take_prefix _ _).isInfix.trans (List.drop_suffix _ _).isInfix
  · cases hrules

/-- Running a batch gives the outcomes of a tree that splits as the limits say, with the batch at
its only root. If the engine manages `m` rules at once, this is so for every outcome. -/
theorem exists_forest_runJobs {setup : RunSetup} {registry : Registry} {batch : Batch} {m : Nat}
    (hlimited : registry.LimitedTo setup batch m) :
    ∃ (f : RetryForest) (root : Outcome),
      f.preorder = (runJobs setup registry [{ batch := batch }]).outcomes ∧
        f.Splits setup.limits ∧ f.roots = [root] ∧ root.rules = batch.ruleIds ∧
        root.attempt = 0 ∧ ∀ o ∈ f.preorder, o.LimitedTo m := by
  have hunfolds := unfolds_runJobs setup registry registry [{ batch := batch }]
    Relation.ReflTransGen.refl
  obtain ⟨f, hpreorder, hsplits, horigin⟩ := hunfolds.exists_forest
  obtain ⟨root, hroots⟩ : ∃ root, f.roots = [root] := by
    rw [← List.length_eq_one_iff]
    simpa using congrArg List.length horigin
  rw [hroots] at horigin
  have hroot : root.origin = ({ batch := batch } : Job).origin := (List.cons.inj horigin).1
  refine ⟨f, root, hpreorder, hsplits, hroots, congrArg Origin.rules hroot,
    congrArg Origin.attempt hroot, fun o ho => ?_⟩
  rw [hpreorder] at ho
  -- every outcome is that of the batch or of a part of it
  obtain ⟨job, result, hjob, ⟨later, hlater, rfl⟩, rfl⟩ := hunfolds.exists_of_mem
    (p := fun job => job.batch.engine = batch.engine ∧ job.batch.rules <:+: batch.rules)
    (fun job result hjob slice hslice => by
      obtain ⟨hengine, hpart⟩ := Job.part_of_mem_retries hslice
      exact ⟨hengine.trans hjob.1, hpart.trans hjob.2⟩)
    (by simp) ho
  rw [← Job.run_outcome]
  exact hlimited later hlater job hjob.1 hjob.2

/-- A batch is run under limits that allow `D` levels of retries, by an engine that manages `m` of
its rules at once. With fewer than `(m + 1) * 2 ^ D` rules, the outcomes that succeed have together
exactly the rules of the batch, in their order. With so many rules or more, rules are missing there.
If no identifier stands in the batch twice, this says of each rule whether an outcome that succeeds
has it: exactly one, or none for some rule. -/
theorem runJobs_recovers_within_depth {setup : RunSetup} {registry : Registry} {batch : Batch}
    {m D : Nat} (hon : setup.limits.retryFailedBatches = true)
    (hdepth : setup.limits.maxRetries = D) (hm : 1 ≤ m)
    (hlimited : registry.LimitedTo setup batch m) :
    let outcomes := (runJobs setup registry [{ batch := batch }]).outcomes
    (batch.rules.length < (m + 1) * 2 ^ D →
      recovered outcomes = batch.ruleIds ∧
        (batch.ruleIds.Nodup → ∀ id ∈ batch.ruleIds,
          outcomes.countP (fun o => o.success && o.rules.contains id) = 1)) ∧
    ((m + 1) * 2 ^ D ≤ batch.rules.length →
      (recovered outcomes).Sublist batch.ruleIds ∧
        (recovered outcomes).length < batch.rules.length ∧
        (batch.ruleIds.Nodup → ∃ id ∈ batch.ruleIds,
          ∀ o ∈ outcomes, o.success = true → id ∉ o.rules)) := by
  intro outcomes
  obtain ⟨f, root, hpreorder, hsplits, hroots, hrules, hattempt, hall⟩ :=
    exists_forest_runJobs hlimited
  have houtcomes : outcomes = f.preorder := hpreorder.symm
  have hlen : root.rules.length = batch.rules.length := by
    rw [hrules, Batch.ruleIds, List.length_map]
  have hwhole : f.roots.flatMap Outcome.rules = batch.ruleIds := by
    rw [hroots, List.flatMap_singleton, hrules]
  constructor
  · intro hfew
    have heq : recovered outcomes = batch.ruleIds := by
      rw [← hwhole, houtcomes]
      refine RetryForest.recovered_eq hon hdepth hm hsplits hall fun o ho => ?_
      rw [hroots, List.mem_singleton] at ho
      subst ho
      exact ⟨D, by rw [hattempt, Int.zero_add], by rw [hlen]; exact hfew⟩
    refine ⟨heq, fun hnodup id hid => ?_⟩
    rw [← heq] at hnodup hid
    exact countP_contains_eq_one hnodup hid
  · intro hmany
    have hsublist : (recovered outcomes).Sublist batch.ruleIds := by
      rw [← hwhole, houtcomes]
      exact RetryForest.recovered_sublist hsplits
    have hless : (recovered outcomes).length < batch.ruleIds.length := by
      rw [← hwhole, houtcomes]
      refine RetryForest.length_recovered_lt hon hdepth hm hsplits hall ⟨root, ?_, D, ?_, ?_⟩
      · rw [hroots, List.mem_singleton]
      · rw [hattempt, Int.zero_add]
      · rw [hlen]
        exact hmany
    refine ⟨hsublist, by rwa [Batch.ruleIds, List.length_map] at hless, fun hnodup => ?_⟩
    -- were no rule missing, as many as there are would have been recovered
    obtain ⟨id, hid, hmissing⟩ : ∃ id ∈ batch.ruleIds, id ∉ recovered outcomes := by
      by_contra! hnone
      have hle := (hnodup.subperm hnone).length_le
      omega
    refine ⟨id, hid, fun o ho hsuccess hmem => hmissing ?_⟩
    exact List.mem_flatMap.mpr ⟨o, List.mem_filter.mpr ⟨ho, hsuccess⟩, hmem⟩

/-- The narrow engine manages one rule at once. -/
theorem narrowEngine_limitedTo {setup : RunSetup} {batch : Batch}
    (hengine : batch.engine = "narrow")
    (hseconds : ∀ n : Nat, n ≤ batch.rules.length →
      ∃ s, Token.seconds (adaptiveTimeout setup.limits setup.files.length n) = .ok s) :
    Registry.LimitedTo setup { entries := [("narrow", narrowEngine)] } batch 1 := by
  intro later hlater job hjob hpart
  have hget : Registry.get? { entries := [("narrow", narrowEngine)] } job.batch.engine =
      some narrowEngine := by
    rw [hjob, hengine]
    rfl
  have hkeyed : Registry.WellKeyed { entries := [("narrow", narrowEngine)] } := by
    intro id e he
    simp only [Registry.get?, Keyed.get?, beq_iff_eq] at he
    split at he
    · cases he
      assumption
    · cases he
  obtain ⟨history, hlast⟩ := hlater.get?_after hkeyed hget
  obtain ⟨s, hs⟩ := hseconds _ hpart.length_le
  obtain ⟨call, hcall⟩ : ∃ call, job.request setup = .ok call := by
    unfold Job.request Token.start Job.timeoutMs
    dsimp only
    rw [hs]
    exact ⟨_, rfl⟩
  have hreply : ((narrowEngine.after setup.tree history).analyze setup.tree call).2.2 =
      { answer := if job.batch.rules.length ≤ 1 then .ok (.report {})
          else .error (.plain .memory none) } := by
    rw [Engine.steady_of_supplied rfl (fun _ _ _ => rfl) history call, ← Job.rules_of_request hcall]
    rfl
  have hrun := Job.run_outcome setup later job
  rw [Job.answer_of_ok (Job.prepareCall_eq_ok_iff.mpr ⟨hlast, hcall⟩), hreply] at hrun
  have hrules : (job.run setup later).outcome.rules.length = job.batch.rules.length := by
    rw [hrun, Job.outcome_rules, Batch.ruleIds, List.length_map]
  -- the call neither sleeps nor steps aside, so no deadline finds it
  have hends : ∀ (answer : Except Fault Findings) (timeoutMs : Int),
      ({ answer := answer } : Reply).lapses timeoutMs = false := by
    intro answer timeoutMs
    simp [Reply.lapses]
  rw [Job.judge, if_neg (by rw [hends]; exact Bool.false_ne_true)] at hrun
  constructor
  · intro hfew
    rw [hrules] at hfew
    rw [hrun, if_pos hfew]
    rfl
  · intro hmany
    rw [hrules] at hmany
    rw [hrun, if_neg (by omega)]
    exact ⟨rfl, rfl⟩

/-- Five rules for the narrow engine. Three levels of retries recover them all; one level leaves
slices of two, and some rule is lost. -/
theorem runJobs_narrow_batch_depths :
    let setup (depth : Int) : RunSetup :=
      { limits := { retryFailedBatches := true, maxRetries := depth }, files := [] }
    let batch : Batch := ⟨"narrow", 1, 1, ["A", "B", "C", "D", "E"].map fun id => { id := id }⟩
    let run (depth : Int) :=
      (runJobs (setup depth) { entries := [("narrow", narrowEngine)] }
        [{ batch := batch }]).outcomes
    recovered (run 3) = batch.ruleIds ∧
      ∃ id ∈ batch.ruleIds, ∀ o ∈ run 1, o.success = true → id ∉ o.rules := by
  intro setup batch run
  have hlimited : ∀ depth,
      Registry.LimitedTo (setup depth) { entries := [("narrow", narrowEngine)] } batch 1 := by
    intro depth
    have hall : ∀ n < (6 : Nat), (Token.seconds (adaptiveTimeout {} 0 n)).toBool = true := by
      decide +kernel
    refine narrowEngine_limitedTo rfl fun n hn => ?_
    have hone := hall n (Nat.lt_succ_of_le hn)
    show ∃ s, Token.seconds (adaptiveTimeout {} 0 n) = .ok s
    cases hseconds : Token.seconds (adaptiveTimeout {} 0 n) with
    | error f =>
      rw [hseconds] at hone
      cases hone
    | ok s => exact ⟨s, rfl⟩
  have hthree := (runJobs_recovers_within_depth (D := 3) rfl rfl (by decide) (hlimited 3)).1
    (by decide)
  have hone := (runJobs_recovers_within_depth (D := 1) rfl rfl (by decide) (hlimited 1)).2
    (by decide)
  exact ⟨hthree.1, hone.2.2 (by decide)⟩

end RuleAudit
