import Mathlib.Logic.Relation
import RuleAudit.Run.Sequence

/-!
# Engines at work

What a run does to a registry: engines serve calls, one at a time, and each call may change the
engine that serves it. `Registry.Later` relates a registry to those it can become that way.
Identifiers stay (`Registry.Later.isSome_get?`); where every engine stands under its own identifier,
each later engine is the old one after some calls (`Registry.Later.get?_after`).

`Job.answer` is what a job's call comes to. With engines that have no memory it is the same in every
later registry (`Job.answer_later`).
-/

namespace RuleAudit

/-! ## Look-ups in an updated registry -/

namespace Registry

/-- Every engine stands under its own identifier, as registration leaves it. -/
def WellKeyed (r : Registry) : Prop :=
  ∀ id e, r.get? id = some e → e.id = id

theorem get?_update_ne (r : Registry) (e : Engine) {id : String} (h : id ≠ e.id) :
    (r.update e).get? id = r.get? id := by
  unfold update
  split
  · exact Keyed.get?_put_ne r.entries e h
  · rfl

theorem get?_update_self (r : Registry) (e : Engine) (h : (r.get? e.id).isSome) :
    (r.update e).get? e.id = some e := by
  have hhas : r.entries.has e.id = true := h
  simp [update, hhas, get?]

/-- An update neither adds nor removes an identifier. -/
theorem isSome_get?_update (r : Registry) (e : Engine) (id : String) :
    ((r.update e).get? id).isSome = (r.get? id).isSome := by
  by_cases hid : id = e.id
  · subst hid
    cases h : (r.get? e.id).isSome with
    | true => rw [get?_update_self r e h]; rfl
    | false =>
      have hhas : r.entries.has e.id = false := h
      simp only [update, hhas, Bool.false_eq_true, if_false]
      exact h
  · rw [get?_update_ne r e hid]

theorem WellKeyed.update {r : Registry} (h : r.WellKeyed) (e : Engine) :
    (r.update e).WellKeyed := by
  intro id found hfound
  by_cases hid : id = e.id
  · subst hid
    have hsome : (r.get? e.id).isSome := by
      rw [← isSome_get?_update r e, hfound]
      rfl
    rw [get?_update_self r e hsome] at hfound
    cases hfound
    rfl
  · rw [get?_update_ne r e hid] at hfound
    exact h id found hfound

theorem WellKeyed.register {r : Registry} (h : r.WellKeyed) (e : Engine) :
    (r.register e).1.WellKeyed := by
  intro id found hfound
  simp only [Registry.register, get?] at hfound
  by_cases hid : id = e.id
  · subst hid
    rw [Keyed.get?_put_self] at hfound
    cases hfound
    rfl
  · rw [Keyed.get?_put_ne _ _ hid] at hfound
    exact h id found hfound

/-- Registration leaves every engine under its own identifier. -/
theorem WellKeyed.registerAll {r : Registry} (h : r.WellKeyed) (engines : List Engine) :
    (r.registerAll engines).1.WellKeyed := by
  induction engines generalizing r with
  | nil => exact h
  | cons e rest ih => exact ih (h.register e)

end Registry

/-! ## Serving calls -/

/-- Serving a call leaves an engine its identifier. -/
@[simp] theorem Engine.analyze_id (tree : FileTree) (e : Engine) (call : Call) :
    (e.analyze tree call).1.id = e.id := by
  unfold Engine.analyze
  split <;> rfl

/-- An engine after it has served calls, the first one first. -/
def Engine.after (tree : FileTree) (e : Engine) (history : List Call) : Engine :=
  history.foldl (fun e call => (e.analyze tree call).1) e

theorem Engine.after_concat (tree : FileTree) (e : Engine) (history : List Call) (call : Call) :
    e.after tree (history ++ [call]) = ((e.after tree history).analyze tree call).1 := by
  simp [Engine.after]

/-- An engine without memory: what it replies to a call does not depend on the calls it has served
before. -/
def Engine.Steady (tree : FileTree) (e : Engine) : Prop :=
  ∀ history call, ((e.after tree history).analyze tree call).2.2 = (e.analyze tree call).2.2

theorem Engine.analyze_of_supplied (tree : FileTree) {e : Engine} {behaviour : Behaviour}
    (h : e.kind = .supplied behaviour) (call : Call) :
    e.analyze tree call = ({ e with age := e.age + 1 }, [], behaviour.analyze e.age call) := by
  rw [Engine.analyze, h]

/-- An engine of a supplied behaviour that ignores its age is without memory. -/
theorem Engine.steady_of_supplied {tree : FileTree} {e : Engine} {behaviour : Behaviour}
    (hkind : e.kind = .supplied behaviour)
    (h : ∀ age age' call, behaviour.analyze age call = behaviour.analyze age' call) :
    e.Steady tree := by
  intro history call
  induction history generalizing e with
  | nil => rfl
  | cons first rest ih =>
    have hrest := @ih { e with age := e.age + 1 } hkind
    rw [analyze_of_supplied tree hkind,
      @analyze_of_supplied tree { e with age := e.age + 1 } _ hkind] at *
    rw [← h (e.age + 1) e.age call, ← hrest]
    simp only [Engine.after, List.foldl_cons, analyze_of_supplied tree hkind]

namespace Registry

/-- All engines of a registry are without memory. -/
def Steady (tree : FileTree) (r : Registry) : Prop :=
  ∀ id e, r.get? id = some e → e.Steady tree

/-- One engine of a registry serves one call. -/
def ServesCall (tree : FileTree) (r r' : Registry) : Prop :=
  ∃ id e call, r.get? id = some e ∧ r' = r.update (e.analyze tree call).1

/-- A registry and one that it may have become after serving calls. -/
def Later (tree : FileTree) : Registry → Registry → Prop :=
  Relation.ReflTransGen (ServesCall tree)

variable {tree : FileTree} {r r' : Registry}

theorem Later.isSome_get? (h : Later tree r r') (id : String) :
    (r'.get? id).isSome = (r.get? id).isSome := by
  induction h with
  | refl => rfl
  | tail _ hstep ih =>
    obtain ⟨_, e, call, _, rfl⟩ := hstep
    rw [isSome_get?_update, ih]

theorem Later.wellKeyed (h : Later tree r r') (hr : r.WellKeyed) : r'.WellKeyed := by
  induction h with
  | refl => exact hr
  | tail _ hstep ih =>
    obtain ⟨_, e, call, _, rfl⟩ := hstep
    exact ih.update _

/-- A later engine is the old one after the calls it has served. -/
theorem Later.get?_after (h : Later tree r r') (hr : r.WellKeyed) {id : String} {e : Engine}
    (he : r.get? id = some e) : ∃ history, r'.get? id = some (e.after tree history) := by
  induction h with
  | refl => exact ⟨[], he⟩
  | @tail mid last hmid hstep ih =>
    obtain ⟨history, hget⟩ := ih
    obtain ⟨served, f, call, hf, rfl⟩ := hstep
    have hfid : f.id = served := Later.wellKeyed hmid hr served f hf
    by_cases hid : id = served
    · -- the engine at hand serves the call
      subst hid
      obtain rfl : f = e.after tree history := by
        rw [hget] at hf
        exact (Option.some.inj hf).symm
      refine ⟨history ++ [call], ?_⟩
      have hself := get?_update_self mid ((e.after tree history).analyze tree call).1
        (by rw [Engine.analyze_id, hfid, hget]; rfl)
      rw [Engine.analyze_id, hfid] at hself
      rw [hself, Engine.after_concat]
    · refine ⟨history, ?_⟩
      rw [get?_update_ne _ _ (by rw [Engine.analyze_id, hfid]; exact hid), hget]

/-- The registry after an engine has served a call, to its end or to its deadline. -/
def serve (tree : FileTree) (registry : Registry) (engine : Engine) (call : Call) : Registry :=
  if (engine.analyze tree call).2.2.lapses call.timeoutMs then
    registry.update (engine.analyzeCut tree call).1
  else registry.update (engine.analyze tree call).1

theorem serve_later {registry : Registry} {id : String} {engine : Engine}
    (h : registry.get? id = some engine) (call : Call) :
    Later tree registry (registry.serve tree engine call) := by
  unfold serve
  split
  · exact Relation.ReflTransGen.single
      ⟨id, engine, { call with files := call.files.take 1 }, h, rfl⟩
  · exact Relation.ReflTransGen.single ⟨id, engine, call, h, rfl⟩

end Registry

/-! ## What the call of a job comes to -/

namespace Job

/-- The call of a job, apart from the engine that serves it. -/
def request (setup : RunSetup) (job : Job) : Except Fault Call :=
  (Token.start (.ofInt 0) (some (job.timeoutMs setup))).map fun token =>
    { files := setup.files
      rules := job.batch.rules
      batch := job.batch.number
      total := job.batch.total
      timeoutMs := job.timeoutMs setup
      verbose := setup.output.verbose
      extras := (setup.engineSettings.get? job.batch.engine).getD []
      token := token }

/-- Only the engine of a prepared call comes from the registry. -/
theorem prepareCall_eq (setup : RunSetup) (registry : Registry) (job : Job) :
    job.prepareCall setup registry =
      match registry.get? job.batch.engine with
      | none => .error (.plain .key (some job.batch.engine))
      | some engine => (job.request setup).map fun call => (engine, call) := by
  unfold prepareCall request Registry.get
  cases registry.get? job.batch.engine with
  | none => rfl
  | some engine => cases Token.start (.ofInt 0) (some (job.timeoutMs setup)) <;> rfl

theorem prepareCall_eq_ok_iff {setup : RunSetup} {registry : Registry} {job : Job}
    {engine : Engine} {call : Call} :
    job.prepareCall setup registry = .ok (engine, call) ↔
      registry.get? job.batch.engine = some engine ∧ job.request setup = .ok call := by
  rw [prepareCall_eq]
  cases registry.get? job.batch.engine with
  | none => simp
  | some found =>
    cases job.request setup with
    | error f => simp [Except.map]
    | ok made => simp [Except.map]

/-- The report or fault that the call of a job comes to. -/
def answer (setup : RunSetup) (registry : Registry) (job : Job) : Except Fault Report :=
  match job.prepareCall setup registry with
  | .error f => .error f
  | .ok (engine, call) => job.judge setup (engine.analyze setup.tree call).2.2

theorem answer_of_error {setup : RunSetup} {registry : Registry} {job : Job} {f : Fault}
    (h : job.prepareCall setup registry = .error f) : job.answer setup registry = .error f := by
  rw [answer, h]

theorem answer_of_ok {setup : RunSetup} {registry : Registry} {job : Job} {engine : Engine}
    {call : Call} (h : job.prepareCall setup registry = .ok (engine, call)) :
    job.answer setup registry = job.judge setup (engine.analyze setup.tree call).2.2 := by
  rw [answer, h]

/-- Engines without memory answer a job alike at any later moment. -/
theorem answer_later {setup : RunSetup} {r r' : Registry} (h : Registry.Later setup.tree r r')
    (hr : r.WellKeyed) (hsteady : r.Steady setup.tree) (job : Job) :
    job.answer setup r' = job.answer setup r := by
  unfold answer
  rw [prepareCall_eq, prepareCall_eq]
  cases he : r.get? job.batch.engine with
  | none =>
    have hnone : r'.get? job.batch.engine = none := by
      have hsome := h.isSome_get? job.batch.engine
      rw [he] at hsome
      exact Option.not_isSome_iff_eq_none.mp (by rw [hsome]; decide)
    rw [hnone]
  | some e =>
    obtain ⟨history, he'⟩ := h.get?_after hr he
    rw [he']
    cases job.request setup with
    | error f => rfl
    | ok call =>
      show job.judge setup _ = job.judge setup _
      rw [hsteady _ e he history call]

/-! ## Running one job -/

/-- The outcome of a job is that of its answer. -/
theorem run_outcome (setup : RunSetup) (registry : Registry) (job : Job) :
    (job.run setup registry).outcome = job.outcome setup (job.answer setup registry) := by
  unfold run answer
  cases job.prepareCall setup registry with
  | error f => rfl
  | ok prepared =>
    unfold Job.call
    dsimp only
    split <;> rfl

/-- The engine of a job's call serves it, to its end or to its deadline. -/
theorem call_registry (setup : RunSetup) (registry : Registry) (job : Job) (engine : Engine)
    (call : Call) :
    (job.call setup registry engine call).1 = registry.serve setup.tree engine call := by
  unfold Job.call Registry.serve
  dsimp only
  split <;> rfl

/-- A job changes a registry only by having its engine serve a call. -/
theorem run_later (setup : RunSetup) (registry : Registry) (job : Job) :
    Registry.Later setup.tree registry (job.run setup registry).registry := by
  unfold run
  split
  · exact Relation.ReflTransGen.refl
  · rename_i engine call h
    show Registry.Later setup.tree registry (job.call setup registry engine call).1
    rw [call_registry]
    exact Registry.serve_later (prepareCall_eq_ok_iff.mp h).1 call

end Job

end RuleAudit
