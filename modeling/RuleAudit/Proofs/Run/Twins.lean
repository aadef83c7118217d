import RuleAudit.Proofs.Alike
import RuleAudit.Proofs.Run.Keeping
import RuleAudit.Proofs.Scan

/-!
# Engines that answer alike whatever they have served

Twins are engines with one identifier and one way to work that support the same rules. What sets
them apart does not show in their replies to calls for given rules: the age of an engine whose
replies depend on the call alone, or the compiled patterns of scanners, as long as the rules compile
to the same. Serving such a call leaves an engine a twin of what it was (`Engine.Twin.analyze`). So
registries of twins route rules alike (`Registry.Twin.route_eq`), and a run of groups comes to the
same outcomes with both and leaves twins (`Registry.Twin.execute`).
-/

namespace RuleAudit

/-! ## Keyed lists -/

namespace Keyed.Alike

variable {α : Type} {related : α → α → Prop} {m m' m'' : Keyed α}

theorem refl_left (h : Keyed.Alike related m m')
    (hrefl : ∀ a a', related a a' → related a a) : Keyed.Alike related m m := by
  induction h with
  | nil => exact .nil
  | cons hentry _ ih => exact .cons ⟨rfl, hrefl _ _ hentry.2⟩ ih

theorem trans (h : Keyed.Alike related m m') (h' : Keyed.Alike related m' m'')
    (htrans : ∀ a b c, related a b → related b c → related a c) : Keyed.Alike related m m'' := by
  induction h generalizing m'' with
  | nil =>
    cases h'
    exact .nil
  | cons hentry _ ih =>
    cases h' with
    | cons hentry' hrest' =>
      exact .cons ⟨hentry.1.trans hentry'.1, htrans _ _ _ hentry.2 hentry'.2⟩ (ih hrest')

/-- Only the second list changes, under a key where its new value fits. -/
theorem put_right (h : Keyed.Alike related m m') {key : String} {a a' : α}
    (hget : m.get? key = some a) (ha : related a a') :
    Keyed.Alike related m (m'.put key a') := by
  induction h with
  | nil => cases hget
  | @cons entry entry' rest rest' hentry hrest ih =>
    obtain ⟨k, b⟩ := entry
    obtain ⟨k', b'⟩ := entry'
    obtain ⟨rfl, hrelated⟩ := hentry
    by_cases hk : k = key
    · subst hk
      simp only [Keyed.get?, BEq.rfl, if_true, Option.some.injEq] at hget
      subst hget
      simp only [Keyed.put, BEq.rfl, if_true]
      exact .cons ⟨rfl, ha⟩ hrest
    · simp only [Keyed.get?, hk, beq_iff_eq, if_false] at hget
      simp only [Keyed.put, hk, beq_iff_eq, if_false]
      exact .cons ⟨rfl, hrelated⟩ (ih hget)

end Keyed.Alike

/-! ## Engines -/

/-- Replies that depend on the call alone. -/
def Behaviour.Ageless (b : Behaviour) : Prop :=
  ∀ age age' call, b.analyze age call = b.analyze age' call

/-- Ways to work that differ at most in the compiled patterns, by which some rules compile alike. -/
inductive EngineKind.Twin (rules : List Rule) : EngineKind → EngineKind → Prop where
  | supplied {b : Behaviour} (h : b.Ageless) : Twin rules (.supplied b) (.supplied b)
  | scanner (bound : Bool) {c c' : Scan.Cache} (h : Scan.AgreeOn rules c c') :
      Twin rules (.scanner bound c) (.scanner bound c')

/-- Engines that answer calls for some rules alike. -/
structure Engine.Twin (rules : List Rule) (e e' : Engine) : Prop where
  id : e'.id = e.id
  supported : ∀ id, id ∈ e'.supported ↔ id ∈ e.supported
  kind : e.kind.Twin rules e'.kind

theorem Engine.Twin.supports {rules : List Rule} {e e' : Engine} (h : e.Twin rules e') :
    e'.supports = e.supports := by
  funext ruleId
  rw [Bool.eq_iff_iff]
  unfold Engine.supports
  rw [List.contains_iff_mem, List.contains_iff_mem]
  exact h.supported _

theorem EngineKind.Twin.refl_left {rules : List Rule} {kind kind' : EngineKind}
    (h : kind.Twin rules kind') : kind.Twin rules kind := by
  cases h with
  | supplied h => exact .supplied h
  | scanner bound h => exact .scanner bound (.refl rules _)

theorem Engine.Twin.refl_left {rules : List Rule} {e e' : Engine} (h : e.Twin rules e') :
    e.Twin rules e :=
  ⟨rfl, fun _ => Iff.rfl, h.kind.refl_left⟩

theorem EngineKind.Twin.trans {rules : List Rule} {kind kind' kind'' : EngineKind}
    (h : kind.Twin rules kind') (h' : kind'.Twin rules kind'') : kind.Twin rules kind'' := by
  cases h with
  | supplied h => exact h'
  | scanner bound h =>
    cases h' with
    | scanner _ h' => exact .scanner bound (h.trans h')

theorem Engine.Twin.trans {rules : List Rule} {e e' e'' : Engine} (h : e.Twin rules e')
    (h' : e'.Twin rules e'') : e.Twin rules e'' :=
  ⟨h'.id.trans h.id, fun id => (h'.supported id).trans (h.supported id), h.kind.trans h'.kind⟩

namespace Engine

variable {rules : List Rule} {e e' : Engine}

/-- How a scanner serves a call. -/
theorem analyze_of_scanner (tree : FileTree) {bound : Bool} {cache : Scan.Cache}
    (hkind : e.kind = .scanner bound cache) (call : Call) :
    e.analyze tree call =
      let scanned := e.scanCourse tree cache call
      ({ e with kind := .scanner bound scanned.2.cache }, scanned.2.notices,
        { turns := scanned.2.taken
          answer := scanned.2.findings.map fun results =>
            .report
              { results := results
                metadata := [("engine", .text e.id), ("rules", .texts (scanned.1.map Rule.id))] } }) := by
  rw [Engine.analyze, hkind]

/-- With caches that agree on the rules of a call, scanners that support the same rules take the
same course but for the cache, which keeps what the rules compile to. -/
theorem scanCourse_agree (hcoherent : Scan.Coherent rules) {call : Call}
    (hcall : ∀ rule ∈ call.rules, rule ∈ rules) (hid : e'.id = e.id)
    (hsupports : e'.supports = e.supports) {c c' : Scan.Cache} (h : Scan.AgreeOn rules c c')
    (tree : FileTree) :
    Scan.AgreeOn rules c' (e'.scanCourse tree c' call).2.cache ∧
      (e'.scanCourse tree c' call).1 = (e.scanCourse tree c call).1 ∧
      (e'.scanCourse tree c' call).2.taken = (e.scanCourse tree c call).2.taken ∧
      (e'.scanCourse tree c' call).2.findings = (e.scanCourse tree c call).2.findings := by
  unfold scanCourse
  dsimp only
  rw [hid, hsupports]
  split
  · exact ⟨.refl rules c', rfl, rfl, rfl⟩
  · obtain ⟨hkeep, -, htaken, hfindings⟩ := Scan.scanFiles_agree hcoherent
      (fun rule hrule => hcall rule (List.mem_filter.mp hrule).1) h.symm tree e.id call.token
      call.files
    exact ⟨hkeep, rfl, htaken, hfindings⟩

/-- Twins reply alike to a call for the rules, and serving it leaves twins. -/
theorem Twin.analyze (hcoherent : Scan.Coherent rules) (h : e.Twin rules e') {call : Call}
    (hcall : ∀ rule ∈ call.rules, rule ∈ rules) (tree : FileTree) :
    e.Twin rules (e'.analyze tree call).1 ∧
      (e'.analyze tree call).2.2 = (e.analyze tree call).2.2 := by
  have hkind := h.kind
  generalize hk : e.kind = kind at hkind
  generalize hk' : e'.kind = kind' at hkind
  cases hkind with
  | @supplied b hb =>
    rw [analyze_of_supplied tree hk, analyze_of_supplied tree hk']
    exact ⟨⟨h.id, h.supported, h.kind⟩, hb _ _ call⟩
  | @scanner bound c c' hagree =>
    obtain ⟨hkeep, hactive, htaken, hfindings⟩ :=
      scanCourse_agree hcoherent hcall h.id h.supports hagree tree
    rw [analyze_of_scanner tree hk, analyze_of_scanner tree hk']
    refine ⟨⟨h.id, h.supported, ?_⟩, ?_⟩
    · rw [hk]
      exact .scanner bound (hagree.trans hkeep)
    · dsimp only
      rw [hactive, htaken, hfindings, h.id]

end Engine

/-! ## Registries -/

/-- Registries with the same identifiers, and twins under them. -/
def Registry.Twin (rules : List Rule) (r r' : Registry) : Prop :=
  Keyed.Alike (Engine.Twin rules) r.entries r'.entries

namespace Registry.Twin

variable {rules : List Rule} {r r' : Registry}

theorem ids_eq (h : r.Twin rules r') : r'.ids = r.ids :=
  Keyed.Alike.keys_eq h

theorem get? (h : r.Twin rules r') (id : String) :
    (r.get? id = none ∧ r'.get? id = none) ∨
      ∃ e e', r.get? id = some e ∧ r'.get? id = some e' ∧ e.Twin rules e' :=
  Keyed.Alike.get? h id

theorem refl_left (h : r.Twin rules r') : r.Twin rules r :=
  Keyed.Alike.refl_left h fun _ _ htwin => htwin.refl_left

theorem trans {r'' : Registry} (h : r.Twin rules r') (h' : r'.Twin rules r'') :
    r.Twin rules r'' :=
  Keyed.Alike.trans h h' fun _ _ _ htwin htwin' => htwin.trans htwin'

theorem wellKeyed (h : r.Twin rules r') (hkeyed : r.WellKeyed) : r'.WellKeyed := by
  intro id e' he'
  rcases h.get? id with ⟨-, hnone'⟩ | ⟨e, x', hsome, hsome', htwin⟩
  · rw [hnone'] at he'
    cases he'
  · obtain rfl : x' = e' := Option.some.inj (hsome'.symm.trans he')
    rw [htwin.id, hkeyed id e hsome]

theorem supports_eq (h : r.Twin rules r') : r'.supports = r.supports := by
  funext id ruleId
  unfold Registry.supports
  rcases h.get? id with ⟨hnone, hnone'⟩ | ⟨e, e', hsome, hsome', htwin⟩
  · rw [hnone, hnone']
  · rw [hsome, hsome']
    exact congrFun htwin.supports ruleId

/-- Rules are routed alike. -/
theorem route_eq (h : r.Twin rules r') (settings : Settings) (routed : List Rule) :
    Routing.route r' settings routed = Routing.route r settings routed :=
  Routing.route_congr h.ids_eq h.supports_eq (Keyed.Alike.has_eq h) settings routed

/-- A registry stays a twin when one of its engines becomes another twin. -/
theorem update (h : r.Twin rules r') {id : String} {e served : Engine} (he : r.get? id = some e)
    (hid : e.id = id) (hserved : e.Twin rules served) : r.Twin rules (r'.update served) := by
  unfold Registry.update
  split
  · refine Keyed.Alike.put_right h ?_ hserved
    rw [hserved.id, hid]
    exact he
  · exact h

/-! ## Runs -/

section Runs

variable {setup : RunSetup}

/-- Twins answer a job with some of the rules alike. -/
theorem answer_eq (hcoherent : Scan.Coherent rules) (h : r.Twin rules r') {job : Job}
    (hjob : ∀ rule ∈ job.batch.rules, rule ∈ rules) :
    job.answer setup r' = job.answer setup r := by
  unfold Job.answer
  rw [Job.prepareCall_eq, Job.prepareCall_eq]
  rcases h.get? job.batch.engine with ⟨hnone, hnone'⟩ | ⟨e, e', hsome, hsome', htwin⟩
  · rw [hnone, hnone']
  · rw [hsome, hsome']
    cases hrequest : job.request setup with
    | error f => rfl
    | ok call =>
      have hrules := Job.rules_of_request hrequest
      obtain ⟨-, hreply⟩ := htwin.analyze hcoherent (hrules ▸ hjob) setup.tree
      show job.judge setup _ = job.judge setup _
      rw [hreply]

/-- Serving the calls of jobs with some of the rules keeps twins. -/
theorem keeps (hcoherent : Scan.Coherent rules) (hkeyed : r.WellKeyed) :
    Keeps setup (fun job => ∀ rule ∈ job.batch.rules, rule ∈ rules) (r.Twin rules) := by
  refine ⟨fun job result hjob slice hslice rule hrule => ?_, ?_⟩
  · exact hjob rule (Job.subset_of_mem_retries hslice rule hrule)
  · intro r' job engine call htwin hjob hprepared
    obtain ⟨hget, hrequest⟩ := Job.prepareCall_eq_ok_iff.mp hprepared
    have hrules := Job.rules_of_request hrequest
    rcases htwin.get? job.batch.engine with ⟨-, hnone'⟩ | ⟨e, e', hsome, hsome', hboth⟩
    · rw [hnone'] at hget
      cases hget
    · obtain rfl : e' = engine := Option.some.inj (hsome'.symm.trans hget)
      have hid := hkeyed _ e hsome
      unfold Registry.serve
      split
      · -- a call that is given up is for the same rules
        refine htwin.update hsome hid (hboth.analyze hcoherent ?_ setup.tree).1
        exact hrules ▸ hjob
      · exact htwin.update hsome hid (hboth.analyze hcoherent (hrules ▸ hjob) setup.tree).1

/-- A run of groups with some of the rules comes to the same outcomes with twins, and leaves
twins. -/
theorem execute (hcoherent : Scan.Coherent rules) (hkeyed : r.WellKeyed) (h : r.Twin rules r')
    {groups : Keyed (List Rule)} {batches : List Batch}
    (hbatches : batchesOf setup groups = .ok batches)
    (hrules : ∀ b ∈ batches, ∀ rule ∈ b.rules, rule ∈ rules) :
    ∃ course course', RuleAudit.execute setup r groups = .ok course ∧
      RuleAudit.execute setup r' groups = .ok course' ∧ r.Twin rules course.registry ∧
      r.Twin rules course'.registry ∧ course'.outcomes = course.outcomes := by
  have hkeeps : Keeps setup (fun job => ∀ rule ∈ job.batch.rules, rule ∈ rules) (r.Twin rules) :=
    keeps hcoherent hkeyed
  have hjobs : ∀ job ∈ jobsOf batches, ∀ rule ∈ job.batch.rules, rule ∈ rules := by
    intro job hjob
    obtain ⟨b, hb, rfl⟩ := List.mem_map.mp hjob
    exact hrules b hb
  obtain ⟨course, hcourse, htwin, hunfolds⟩ := hkeeps.execute h.refl_left hbatches hjobs
  obtain ⟨course', hcourse', htwin', hunfolds'⟩ := hkeeps.execute h hbatches hjobs
  refine ⟨course, course', hcourse, hcourse', htwin, htwin', ?_⟩
  -- whoever of the twins serves a job, its answer is the one of `r`
  have honly : ∀ job result, (∀ rule ∈ job.batch.rules, rule ∈ rules) →
      AnswersUnder setup (r.Twin rules) job result → result = job.answer setup r := by
    rintro job result hjob ⟨later, hlater, rfl⟩
    exact hlater.answer_eq hcoherent hjob
  exact (hunfolds'.mono_on hkeeps.slices honly hjobs).unique
    (hunfolds.mono_on hkeeps.slices honly hjobs)

end Runs

end Registry.Twin

end RuleAudit
