import RuleAudit.Proofs.Run.Unfolding

/-!
# The tree of retries

A batch and its retry slices form a tree: below a failed outcome stand the outcomes of its slices.
`RetryForest` holds such trees in a row, and `RetryForest.Splits` says which shape the limits of a
run give them: a node has children exactly when it may be retried, and the children share out its
rules in consecutive windows of half the size.

The shape alone bounds the tree. Every split makes at least two non-empty slices, so a batch of `n`
rules has at most `2n - 1` outcomes (`RetryForest.length_preorder_le`); every slice has at most half
the rules, so no attempt exceeds `log2 n` (`RetryForest.attempt_le_log2`), however many retries the
limits allow. The main statement, `runJobs_batch_eq_preorder`, is that running a batch gives the
outcomes of such a tree in pre-order.
-/

namespace RuleAudit

/-! ## Trees -/

/-- Outcomes with those of their slices below them, in a row. -/
inductive RetryForest where
  | nil
  | cons (root : Outcome) (below beside : RetryForest)

namespace RetryForest

/-- The outcomes that stand at the top. -/
def roots : RetryForest → List Outcome
  | nil => []
  | cons root _ beside => root :: beside.roots

/-- All outcomes, each before those below it. -/
def preorder : RetryForest → List Outcome
  | nil => []
  | cons root below beside => root :: (below.preorder ++ beside.preorder)

/-- The outcomes with nothing below them. -/
def leaves : RetryForest → List Outcome
  | nil => []
  | cons root nil beside => root :: beside.leaves
  | cons _ (cons first deeper others) beside =>
    (cons first deeper others).leaves ++ beside.leaves

/-- All outcomes in pre-order, each with the position of its first rule; the rules of the roots
take up consecutive positions from `start` on. -/
def spans : Nat → RetryForest → List (Nat × Outcome)
  | _, nil => []
  | start, cons root below beside =>
    (start, root) :: (below.spans start ++ beside.spans (start + root.rules.length))

/-- How outcomes of slices share out what failed: consecutive windows of half the rules, numbered
from 1, one attempt on, under the same number of the same engine's batches. -/
structure SlicesOf (failed : Outcome) (slices : List Outcome) : Prop where
  nonempty : ∀ slice ∈ slices, slice.rules ≠ []
  window : ∀ i slice, slices[i]? = some slice →
    slice.rules = (failed.rules.drop (i * max 1 (failed.rules.length / 2))).take
      (max 1 (failed.rules.length / 2))
  whole : slices.flatMap Outcome.rules = failed.rules
  numbered : ∀ i slice, slices[i]? = some slice → slice.subBatch = some (Int.ofNat i + 1)
  attempt : ∀ slice ∈ slices, slice.attempt = failed.attempt + 1
  place : ∀ slice ∈ slices, slice.engine = failed.engine ∧
    slice.batchNumber = failed.batchNumber ∧ slice.totalBatches = failed.totalBatches

/-- An outcome stands above slices exactly when its failure may be retried, at a depth the limits
allow and with more than one rule; what stands below it are its slices. -/
def Splits (limits : Limits) : RetryForest → Prop
  | nil => True
  | cons root below beside =>
    (below.roots ≠ [] ↔ limits.retryFailedBatches = true ∧ root.success = false ∧
      root.retryRecommended = true ∧ root.attempt < limits.maxRetries ∧ 1 < root.rules.length) ∧
    (below.roots ≠ [] → SlicesOf root below.roots) ∧ below.Splits limits ∧ beside.Splits limits

theorem spans_map_snd (f : RetryForest) (start : Nat) :
    (f.spans start).map Prod.snd = f.preorder := by
  induction f generalizing start with
  | nil => rfl
  | cons root below beside hbelow hbeside =>
    rw [spans, preorder, List.map_cons, List.map_append, hbelow, hbeside]

theorem eq_nil_of_roots {f : RetryForest} (h : f.roots = []) : f = nil := by
  cases f with
  | nil => rfl
  | cons root below beside => cases h

/-- There are at least two slices, each with at most half the rules. -/
theorem SlicesOf.two_le {failed : Outcome} {slices : List Outcome} (h : SlicesOf failed slices)
    (hlen : 1 < failed.rules.length) :
    2 ≤ slices.length ∧ ∀ slice ∈ slices, slice.rules.length ≤ failed.rules.length / 2 := by
  have hhalf : ∀ slice ∈ slices, slice.rules.length ≤ failed.rules.length / 2 := by
    intro slice hslice
    obtain ⟨i, hi⟩ := List.mem_iff_getElem?.mp hslice
    rw [h.window i slice hi, List.length_take]
    omega
  refine ⟨?_, hhalf⟩
  match slices, h.whole, hhalf with
  | [], hwhole, _ =>
    rw [← hwhole] at hlen
    cases hlen
  | [only], hwhole, hhalf =>
    have honly : only.rules = failed.rules := by simpa using hwhole
    have hle := hhalf only (by simp)
    rw [honly] at hle
    omega
  | _ :: _ :: rest, _, _ => simp

/-! ## What the shape bounds -/

section Bounds

variable {limits : Limits}

/-- The leaves share out the rules of the roots. -/
theorem leaves_flatMap_rules {f : RetryForest} (h : f.Splits limits) :
    f.leaves.flatMap Outcome.rules = f.roots.flatMap Outcome.rules := by
  induction f with
  | nil => rfl
  | cons root below beside hbelow hbeside =>
    obtain ⟨_, hslices, hsplitsBelow, hsplitsBeside⟩ := h
    rw [roots, List.flatMap_cons, ← hbeside hsplitsBeside]
    cases below with
    | nil => rw [leaves, List.flatMap_cons]
    | cons first deeper others =>
      rw [leaves, List.flatMap_append, hbelow hsplitsBelow, (hslices (by simp [roots])).whole]

/-- Two outcomes for each rule of the roots, less one for each root. -/
theorem length_preorder_le {f : RetryForest} (h : f.Splits limits)
    (hroots : ∀ o ∈ f.roots, o.rules ≠ []) :
    f.preorder.length + f.roots.length ≤ 2 * (f.roots.flatMap Outcome.rules).length := by
  induction f with
  | nil => simp [preorder, roots]
  | cons root below beside hbelow hbeside =>
    obtain ⟨hiff, hslices, hsplitsBelow, hsplitsBeside⟩ := h
    have hroot : 0 < root.rules.length := List.length_pos_iff.mpr (hroots root (by simp [roots]))
    have hright := hbeside hsplitsBeside fun o ho => hroots o (by simp [roots, ho])
    simp only [preorder, roots, List.length_cons, List.length_append, List.flatMap_cons]
    by_cases hnone : below.roots = []
    · -- a leaf: one outcome, and a root that has a rule
      rw [eq_nil_of_roots hnone, preorder, List.length_nil]
      omega
    · -- a split: at least two slices pay for the outcome above them
      have hof := hslices hnone
      have hleft := hbelow hsplitsBelow hof.nonempty
      have htwo := (hof.two_le (hiff.mp hnone).2.2.2.2).1
      rw [hof.whole] at hleft
      omega

/-- Each attempt halves the rules of a root at least once more. -/
theorem attempt_le_log2 {f : RetryForest} (h : f.Splits limits) :
    ∀ o ∈ f.preorder, ∃ root ∈ f.roots, o.attempt ≤ root.attempt + Nat.log2 root.rules.length := by
  induction f with
  | nil => intro o ho; cases ho
  | cons root below beside hbelow hbeside =>
    obtain ⟨hiff, hslices, hsplitsBelow, hsplitsBeside⟩ := h
    intro o ho
    rw [preorder, List.mem_cons, List.mem_append] at ho
    rcases ho with rfl | ho | ho
    · exact ⟨o, by simp [roots], by omega⟩
    · obtain ⟨slice, hslice, hle⟩ := hbelow hsplitsBelow o ho
      have hne : below.roots ≠ [] := List.ne_nil_of_mem hslice
      have hlen := (hiff.mp hne).2.2.2.2
      have hhalf := ((hslices hne).two_le hlen).2 slice hslice
      have hdepth := (hslices hne).attempt slice hslice
      have hlog : Nat.log2 slice.rules.length + 1 ≤ Nat.log2 root.rules.length := by
        have hslicePos : slice.rules.length ≠ 0 := by
          simpa using (hslices hne).nonempty slice hslice
        rw [Nat.le_log2 (by omega), Nat.pow_succ]
        have hpow := Nat.log2_self_le hslicePos
        omega
      exact ⟨root, by simp [roots], by omega⟩
    · obtain ⟨r, hr, hle⟩ := hbeside hsplitsBeside o ho
      exact ⟨r, by simp [roots, hr], hle⟩

/-- No attempt exceeds the number of retries, except that of a root. -/
theorem attempt_le_maxRetries {f : RetryForest} (h : f.Splits limits) :
    ∀ o ∈ f.preorder, o ∈ f.roots ∨ o.attempt ≤ limits.maxRetries := by
  induction f with
  | nil => intro o ho; cases ho
  | cons root below beside hbelow hbeside =>
    obtain ⟨hiff, hslices, hsplitsBelow, hsplitsBeside⟩ := h
    intro o ho
    rw [preorder, List.mem_cons, List.mem_append] at ho
    rcases ho with rfl | ho | ho
    · exact .inl (by simp [roots])
    · rcases hbelow hsplitsBelow o ho with hslice | hle
      · have hne : below.roots ≠ [] := List.ne_nil_of_mem hslice
        have hdepth := (hslices hne).attempt o hslice
        have hroot := (hiff.mp hne).2.2.2.1
        exact .inr (by omega)
      · exact .inr hle
    · rcases hbeside hsplitsBeside o ho with hroot | hle
      · exact .inl (by simp [roots, hroot])
      · exact .inr hle

end Bounds

/-! ## Positions -/

section Positions

variable {limits : Limits}

/-- Every outcome has the rules that stand in a list at its position, if the roots have. -/
theorem rules_of_mem_spans {f : RetryForest} (h : f.Splits limits) {ids : List String}
    (before after : List String)
    (hids : ids = before ++ (f.roots.flatMap Outcome.rules ++ after)) :
    ∀ span ∈ f.spans before.length,
      span.2.rules = (ids.drop span.1).take span.2.rules.length := by
  induction f generalizing before after with
  | nil => intro span hspan; cases hspan
  | cons root below beside hbelow hbeside =>
    obtain ⟨_, hslices, hsplitsBelow, hsplitsBeside⟩ := h
    rw [roots, List.flatMap_cons, List.append_assoc] at hids
    intro span hspan
    rw [spans, List.mem_cons, List.mem_append] at hspan
    rcases hspan with rfl | hspan | hspan
    · rw [hids, List.drop_left, List.take_left]
    · by_cases hnone : below.roots = []
      · rw [eq_nil_of_roots hnone] at hspan
        cases hspan
      · exact hbelow hsplitsBelow before _ (by rw [(hslices hnone).whole, hids]) span hspan
    · refine hbeside hsplitsBeside (before ++ root.rules) after (by rw [hids]; simp) span ?_
      rw [List.length_append]
      exact hspan

/-- The positions of all outcomes lie within those of the roots. -/
theorem bounds_of_mem_spans {f : RetryForest} (h : f.Splits limits) (start : Nat) :
    ∀ span ∈ f.spans start, start ≤ span.1 ∧
      span.1 + span.2.rules.length ≤ start + (f.roots.flatMap Outcome.rules).length := by
  induction f generalizing start with
  | nil => intro span hspan; cases hspan
  | cons root below beside hbelow hbeside =>
    obtain ⟨_, hslices, hsplitsBelow, hsplitsBeside⟩ := h
    intro span hspan
    rw [roots, List.flatMap_cons, List.length_append]
    rw [spans, List.mem_cons, List.mem_append] at hspan
    rcases hspan with rfl | hspan | hspan
    · exact ⟨Nat.le_refl _, by dsimp only; omega⟩
    · by_cases hnone : below.roots = []
      · rw [eq_nil_of_roots hnone] at hspan
        cases hspan
      · have hin := hbelow hsplitsBelow start span hspan
        rw [(hslices hnone).whole] at hin
        omega
    · have hin := hbeside hsplitsBeside _ span hspan
      omega

/-- The outcomes that succeeded take up positions one after another. -/
theorem pairwise_spans_success {f : RetryForest} (h : f.Splits limits) (start : Nat) :
    ((f.spans start).filter fun span => span.2.success).Pairwise fun first later =>
      first.1 + first.2.rules.length ≤ later.1 := by
  induction f generalizing start with
  | nil => exact List.Pairwise.nil
  | cons root below beside hbelow hbeside =>
    obtain ⟨hiff, hslices, hsplitsBelow, hsplitsBeside⟩ := h
    have hright := hbeside hsplitsBeside (start + root.rules.length)
    have hafter := bounds_of_mem_spans hsplitsBeside (start + root.rules.length)
    rw [spans, List.filter_cons]
    split
    · -- what succeeded stands above nothing
      rename_i hsuccess
      have hnone : below.roots = [] := by
        by_contra hne
        rw [(hiff.mp hne).2.1] at hsuccess
        cases hsuccess
      rw [eq_nil_of_roots hnone, spans, List.nil_append]
      refine List.Pairwise.cons (fun span hspan => ?_) hright
      exact (hafter span (List.mem_of_mem_filter hspan)).1
    · rw [List.filter_append]
      refine List.pairwise_append.mpr ⟨hbelow hsplitsBelow start, hright, ?_⟩
      intro first hfirst later hlater
      have hlate := (hafter later (List.mem_of_mem_filter hlater)).1
      by_cases hnone : below.roots = []
      · rw [eq_nil_of_roots hnone] at hfirst
        cases hfirst
      · have hin := bounds_of_mem_spans hsplitsBelow start first (List.mem_of_mem_filter hfirst)
        rw [(hslices hnone).whole] at hin
        omega

end Positions

end RetryForest

/-! ## The tree of a batch -/

/-- Which batch or slice something is of. -/
structure Origin where
  engine : String
  batchNumber : Int
  totalBatches : Int
  rules : List String
  attempt : Int
  subBatch : Option Int

/-- The batch or slice an outcome is of. -/
def Outcome.origin (o : Outcome) : Origin :=
  ⟨o.engine, o.batchNumber, o.totalBatches, o.rules, o.attempt, o.subBatch⟩

/-- The batch or slice a job is. -/
def Job.origin (job : Job) : Origin :=
  ⟨job.batch.engine, job.batch.number, job.batch.total, job.batch.ruleIds, job.attempt,
    job.slice.map Int.ofNat⟩

@[simp] theorem Job.outcome_origin (setup : RunSetup) (job : Job) (result : Except Fault Report) :
    (job.outcome setup result).origin = job.origin := by
  cases result <;> rfl

/-- Outcomes of the slices of a job are slices of its outcome. -/
theorem Job.slicesOf_retries {setup : RunSetup} {job : Job} {result : Except Fault Report}
    {slices : List Outcome}
    (h : slices.map Outcome.origin =
      (job.retries setup (job.outcome setup result)).map Job.origin)
    (hne : slices ≠ []) : RetryForest.SlicesOf (job.outcome setup result) slices := by
  have hretry : job.shouldRetry setup (job.outcome setup result) = true := by
    by_contra hno
    rw [retries_outcome, if_neg hno, List.map_nil] at h
    exact hne (List.map_eq_nil_iff.mp h)
  rw [retries_outcome, if_pos hretry] at h
  have hlen : 1 < job.batch.rules.length := (shouldRetry_iff.mp hretry).2.2.2
  -- what stands at a place among the outcomes is the slice at that place
  have hat : ∀ i slice, slices[i]? = some slice → ∃ rules, job.pieces[i]? = some rules ∧
      slice.origin = (job.sliceOf (1 + i) rules).origin := by
    intro i slice hslice
    have horigin : ((job.slicesFrom 1 job.pieces).map Job.origin)[i]? = some slice.origin := by
      rw [← h, List.getElem?_map, hslice]
      rfl
    rw [List.getElem?_map, slicesFrom_getElem?] at horigin
    obtain ⟨_, hpiece, horigin⟩ := Option.map_eq_some_iff.mp horigin
    obtain ⟨rules, hrules, rfl⟩ := Option.map_eq_some_iff.mp hpiece
    exact ⟨rules, hrules, horigin.symm⟩
  have hmem : ∀ slice ∈ slices, ∃ i rules, job.pieces[i]? = some rules ∧
      slice.origin = (job.sliceOf (1 + i) rules).origin := by
    intro slice hslice
    obtain ⟨i, hi⟩ := List.mem_iff_getElem?.mp hslice
    exact ⟨i, hat i slice hi⟩
  refine
    { nonempty := fun slice hslice => ?_
      window := fun i slice hslice => ?_
      whole := ?_
      numbered := fun i slice hslice => ?_
      attempt := fun slice hslice => ?_
      place := fun slice hslice => ?_ }
  · obtain ⟨i, rules, hrules, horigin⟩ := hmem slice hslice
    have hpos := ((pieces_of_one_lt hlen).2 rules (List.mem_of_getElem? hrules)).1
    rw [show slice.rules = rules.map Rule.id from congrArg Origin.rules horigin]
    intro hnil
    rw [List.map_eq_nil_iff.mp hnil] at hpos
    cases hpos
  · obtain ⟨rules, hrules, horigin⟩ := hat i slice hslice
    rw [show slice.rules = rules.map Rule.id from congrArg Origin.rules horigin]
    rw [pieces, chunks_getElem? (by omega)] at hrules
    split at hrules
    · cases hrules
      simp [Batch.ruleIds]
    · cases hrules
  · calc slices.flatMap Outcome.rules
        = ((slices.map Outcome.origin).map Origin.rules).flatten := by
          rw [List.map_map, List.flatMap_def]
          rfl
      _ = ((job.slicesFrom 1 job.pieces).map
            (fun slice => slice.batch.rules.map Rule.id)).flatten := by
          rw [h, List.map_map]
          rfl
      _ = (job.pieces.map (List.map Rule.id)).flatten := by
          rw [← slicesFrom_map_rules job 1 job.pieces, List.map_map, slicesFrom_map_rules]
          rfl
      _ = (job.outcome setup result).rules := by
          rw [← List.map_flatten, flatten_pieces, outcome_rules, Batch.ruleIds]
  · obtain ⟨rules, _, horigin⟩ := hat i slice hslice
    rw [show slice.subBatch = some (Int.ofNat (1 + i)) from congrArg Origin.subBatch horigin]
    simp [Int.add_comm]
  · obtain ⟨i, rules, _, horigin⟩ := hmem slice hslice
    rw [show slice.attempt = Int.ofNat (job.attempt + 1) from congrArg Origin.attempt horigin,
      outcome_attempt]
    rfl
  · obtain ⟨i, rules, _, horigin⟩ := hmem slice hslice
    rw [outcome_engine, outcome_batchNumber, outcome_totalBatches]
    exact ⟨congrArg Origin.engine horigin, congrArg Origin.batchNumber horigin,
      congrArg Origin.totalBatches horigin⟩

/-- The outcomes that jobs unfold to are trees in pre-order, with the jobs at their roots. -/
theorem Unfolds.exists_forest {setup : RunSetup} {answers : Job → Except Fault Report → Prop}
    {jobs : List Job} {outcomes : List Outcome} (h : Unfolds setup answers jobs outcomes) :
    ∃ f : RetryForest, f.preorder = outcomes ∧ f.Splits setup.limits ∧
      f.roots.map Outcome.origin = jobs.map Job.origin := by
  induction h with
  | nil => exact ⟨.nil, rfl, trivial, rfl⟩
  | @cons job rest result _ _ _ _ _ hslices hothers =>
    obtain ⟨below, rfl, hsplitsBelow, hrootsBelow⟩ := hslices
    obtain ⟨beside, rfl, hsplitsBeside, hrootsBeside⟩ := hothers
    refine ⟨.cons (job.outcome setup result) below beside, rfl, ⟨?_, ?_, hsplitsBelow,
      hsplitsBeside⟩, ?_⟩
    · have hnone : below.roots = [] ↔
          job.shouldRetry setup (job.outcome setup result) ≠ true := by
        rw [← List.map_eq_nil_iff (f := Outcome.origin), hrootsBelow, List.map_eq_nil_iff,
          Job.retries_outcome]
        split
        · rename_i hretry
          have htwo := (Job.pieces_of_one_lt (Job.shouldRetry_iff.mp hretry).2.2.2).1
          have hslices := congrArg List.length (Job.slicesFrom_map_rules job 1 job.pieces)
          rw [List.length_map] at hslices
          constructor
          · intro hnil
            rw [hnil, List.length_nil] at hslices
            omega
          · intro hno
            exact absurd hretry hno
        · rename_i hretry
          simp [hretry]
      rw [ne_eq, hnone, Decidable.not_not, Job.shouldRetry_iff, Job.outcome_attempt,
        Job.outcome_rules, Batch.ruleIds, List.length_map]
      constructor
      · rintro ⟨hon, hrecommended, hrest⟩
        exact ⟨hon, job.success_eq_false_of_retryRecommended setup result hrecommended,
          hrecommended, hrest⟩
      · rintro ⟨hon, _, hrest⟩
        exact ⟨hon, hrest⟩
    · exact Job.slicesOf_retries hrootsBelow
    · rw [RetryForest.roots, List.map_cons, List.map_cons, hrootsBeside, Job.outcome_origin]

/-! ## Engine calls -/

/-- Whether a notice tells of an engine call. -/
def Notice.isCall : Notice → Bool
  | .called .. => true
  | _ => false

/-- Whether a notice is a line of the log. -/
def Notice.isLog : Notice → Bool
  | .log .. => true
  | _ => false

theorem Notice.isCall_of_isLog {n : Notice} (h : n.isLog = true) : n.isCall = false := by
  cases n with
  | log => rfl
  | _ => cases h

theorem Scan.isLog_scanFile (tree : FileTree) (engine : String) (active : List Rule)
    (cache : Cache) (path : FilePath) :
    ∀ n ∈ (scanFile tree engine active cache path).2.1, n.isLog = true := by
  unfold scanFile
  dsimp only
  split
  · simp
  · split
    · simp [Notice.isLog]
    · simp
    · split <;> simp

theorem Scan.isLog_scanFiles (tree : FileTree) (engine : String) (active : List Rule)
    (token : Token) (cache : Cache) (paths : List FilePath) :
    ∀ n ∈ (scanFiles tree engine active token cache paths).notices, n.isLog = true := by
  induction paths generalizing cache with
  | nil => intro n hn; cases hn
  | cons path rest ih =>
    have hfile := isLog_scanFile tree engine active cache path
    unfold scanFiles
    split
    · intro n hn; cases hn
    · split
      · rename_i heq
        rw [heq] at hfile
        exact hfile
      · rename_i later notices found heq
        rw [heq] at hfile
        intro n hn
        rcases List.mem_append.mp hn with hn | hn
        · exact hfile n hn
        · exact ih later n hn

/-- An engine at work writes to the log and tells of nothing else. -/
theorem Engine.isLog_analyze (tree : FileTree) (e : Engine) (call : Call) :
    ∀ n ∈ (e.analyze tree call).2.1, n.isLog = true := by
  unfold Engine.analyze
  split
  · simp
  · unfold Engine.scanCourse
    dsimp only
    split
    · simp
    · exact Scan.isLog_scanFiles tree e.id _ call.token _ call.files

/-- So it tells of no calls itself. -/
theorem Engine.isCall_analyze (tree : FileTree) (e : Engine) (call : Call) :
    ∀ n ∈ (e.analyze tree call).2.1, n.isCall = false :=
  fun n hn => Notice.isCall_of_isLog (e.isLog_analyze tree call n hn)

theorem Job.countP_isCall_announce (setup : RunSetup) (job : Job) :
    (job.announce setup).countP Notice.isCall = 0 := rfl

theorem Job.countP_isCall_report (setup : RunSetup) (job : Job) (o : Outcome) (elapsedMs : Int) :
    (job.report setup o elapsedMs).countP Notice.isCall = 0 := by
  unfold Job.report Job.warning
  dsimp only
  split
  · rfl
  · split <;> rfl

theorem Job.countP_isCall_announceRetries (job : Job) (o : Outcome) (slices : List Job) :
    (job.announceRetries o slices).countP Notice.isCall = 0 := by
  unfold Job.announceRetries
  split <;> rfl

/-- A job makes at most one engine call. -/
theorem Job.countP_isCall_run_le (setup : RunSetup) (registry : Registry) (job : Job) :
    (job.run setup registry).notices.countP Notice.isCall ≤ 1 := by
  unfold Job.run
  split
  · rw [List.countP_append, countP_isCall_announce, countP_isCall_report]
    omega
  · rename_i engine call _
    have hserved := List.countP_eq_zero.mpr fun n hn =>
      (Bool.eq_false_iff.mp (engine.isCall_analyze setup.tree call n hn))
    have hcut := List.countP_eq_zero.mpr fun n hn => (Bool.eq_false_iff.mp
      (engine.isCall_analyze setup.tree { call with files := call.files.take 1 } n hn))
    unfold Job.call
    dsimp only
    split
    · simp only [List.countP_append, countP_isCall_announce, countP_isCall_report,
        Engine.analyzeCut, List.cons_append, List.countP_cons, List.countP_nil, hcut]
      simp [Notice.isCall]
    · simp only [List.countP_append, countP_isCall_announce, countP_isCall_report,
        List.cons_append, List.countP_cons, List.countP_nil, hserved]
      simp [Notice.isCall]

/-- A run makes at most one engine call for each outcome. -/
theorem countP_isCall_runJobs_le (setup : RunSetup) (registry : Registry) (jobs : List Job) :
    (runJobs setup registry jobs).notices.countP Notice.isCall
      ≤ (runJobs setup registry jobs).outcomes.length := by
  induction hweight : totalWeight jobs using Nat.strongRecOn generalizing registry jobs with
  | ind weight ih =>
    match jobs with
    | [] => exact Nat.le_refl 0
    | job :: rest =>
      have hless := job.totalWeight_retries_lt setup (job.answer setup registry)
      rw [← Job.run_outcome] at hless
      have hlater := ih _ (by rw [← hweight, totalWeight_append, totalWeight_cons]; omega)
        (job.run setup registry).registry
        (job.retries setup (job.run setup registry).outcome ++ rest) rfl
      have hone := job.countP_isCall_run_le setup registry
      rw [runJobs_cons]
      dsimp only
      rw [List.countP_append, List.countP_append, Job.countP_isCall_announceRetries,
        List.length_cons]
      omega

/-! ## Running a batch -/

/-- Running a batch of at least one rule gives, in pre-order, the outcomes of a tree that splits as
the limits say, with the whole batch at its root. Its leaves share out the rules of the batch; an
outcome has the rules at its position, and those that succeeded take up separate positions. There
are at most `2n - 1` outcomes for `n` rules and no more engine calls, and no attempt is higher than
the number of retries (none if it is negative) or than `log2 n`. -/
theorem runJobs_batch_eq_preorder (setup : RunSetup) (registry : Registry) (batch : Batch)
    (hrules : batch.rules ≠ []) :
    ∃ root below, ∃ tree : RetryForest, tree = .cons root below .nil ∧
      (runJobs setup registry [{ batch := batch }]).outcomes = tree.preorder ∧
      tree.Splits setup.limits ∧
      root.origin = ⟨batch.engine, batch.number, batch.total, batch.ruleIds, 0, none⟩ ∧
      tree.leaves.flatMap Outcome.rules = batch.ruleIds ∧
      ((tree.spans 0).map Prod.snd = tree.preorder ∧
        (∀ span ∈ tree.spans 0,
          span.2.rules = (batch.ruleIds.drop span.1).take span.2.rules.length) ∧
        ((tree.spans 0).filter fun span => span.2.success).Pairwise fun first later =>
          first.1 + first.2.rules.length ≤ later.1) ∧
      tree.preorder.length ≤ 2 * batch.rules.length - 1 ∧
      (runJobs setup registry [{ batch := batch }]).notices.countP Notice.isCall
        ≤ 2 * batch.rules.length - 1 ∧
      ∀ o ∈ tree.preorder,
        o.attempt ≤ min (max 0 setup.limits.maxRetries) (Nat.log2 batch.rules.length) := by
  have hunfolds := unfolds_runJobs setup registry registry [{ batch := batch }]
    Relation.ReflTransGen.refl
  obtain ⟨tree, hpreorder, hsplits, horigin⟩ := hunfolds.exists_forest
  obtain ⟨root, below, rfl⟩ : ∃ root below, tree = .cons root below .nil := by
    cases tree with
    | nil => cases horigin
    | cons root below beside =>
      have hbeside := (List.cons.inj horigin).2
      rw [RetryForest.eq_nil_of_roots (List.map_eq_nil_iff.mp hbeside)]
      exact ⟨root, below, rfl⟩
  have hroot : root.origin = ⟨batch.engine, batch.number, batch.total, batch.ruleIds, 0, none⟩ :=
    (List.cons.inj horigin).1
  have hids : root.rules = batch.ruleIds := congrArg Origin.rules hroot
  have hattempt : root.attempt = 0 := congrArg Origin.attempt hroot
  have hlen : root.rules.length = batch.rules.length := by
    rw [hids, Batch.ruleIds, List.length_map]
  have hroots : (RetryForest.cons root below .nil).roots.flatMap Outcome.rules
      = batch.ruleIds := by
    simp [RetryForest.roots, hids]
  have hcount := RetryForest.length_preorder_le hsplits (by
    intro o ho
    obtain rfl : o = root := by simpa [RetryForest.roots] using ho
    rw [hids, Batch.ruleIds, ne_eq, List.map_eq_nil_iff]
    exact hrules)
  rw [hroots, Batch.ruleIds, List.length_map, RetryForest.roots, RetryForest.roots,
    List.length_singleton] at hcount
  have hcalls := countP_isCall_runJobs_le setup registry [{ batch := batch }]
  rw [← hpreorder] at hcalls
  refine ⟨root, below, _, rfl, hpreorder.symm, hsplits, hroot, ?_, ⟨?_, ?_, ?_⟩, by omega,
    by omega, ?_⟩
  · rw [RetryForest.leaves_flatMap_rules hsplits, hroots]
  · exact RetryForest.spans_map_snd _ 0
  · exact RetryForest.rules_of_mem_spans hsplits [] [] (by rw [hroots]; simp)
  · exact RetryForest.pairwise_spans_success hsplits 0
  · intro o ho
    obtain ⟨r, hr, hlog⟩ := RetryForest.attempt_le_log2 hsplits o ho
    obtain rfl : r = root := by simpa [RetryForest.roots] using hr
    rw [hattempt, hlen] at hlog
    rcases RetryForest.attempt_le_maxRetries hsplits o ho with hmem | hle
    · obtain rfl : o = r := by simpa [RetryForest.roots] using hmem
      omega
    · omega

/-- An engine that runs out of memory as soon as it is given two rules at once. -/
def narrowEngine : Engine :=
  .ofBehaviour "narrow" "1.0.0" [] true
    { analyze := fun _ call =>
        { answer := if call.rules.length ≤ 1 then .ok (.report {})
            else .error (.plain .memory none) } }
    0

/-- Limits that let a failed batch be tried again in slices, three times over. -/
def retrySetup : RunSetup :=
  { limits := { retryFailedBatches := true, maxRetries := 3 }, files := [] }

/-- Five rules for the narrow engine: the batch fails, and so do its two slices of two rules. -/
theorem runJobs_narrow_batch_five :
    let batch : Batch := ⟨"narrow", 1, 1, ["A", "B", "C", "D", "E"].map fun id => { id := id }⟩
    let course := runJobs retrySetup { entries := [("narrow", narrowEngine)] } [{ batch := batch }]
    batch.rules ≠ [] ∧ course.outcomes.map Outcome.attempt = [0, 1, 2, 2, 1, 2, 2, 1] ∧
      course.outcomes.length ≤ 2 * 5 - 1 ∧ ∀ o ∈ course.outcomes, o.attempt ≤ min (max 0 3) 2 := by
  intro batch course
  have hrules : batch.rules ≠ [] := by decide
  obtain ⟨root, below, tree, -, houtcomes, -, -, -, -, hcount, -, hattempt⟩ :=
    runJobs_batch_eq_preorder retrySetup { entries := [("narrow", narrowEngine)] } batch hrules
  have hlog : Nat.log2 batch.rules.length = 2 := by decide +kernel
  rw [← houtcomes] at hcount hattempt
  rw [hlog] at hattempt
  exact ⟨hrules, by decide +kernel, hcount, hattempt⟩

end RuleAudit
