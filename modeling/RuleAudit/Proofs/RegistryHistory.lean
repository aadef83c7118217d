import RuleAudit.Proofs.Availability
import RuleAudit.Proofs.EngineByEngine

/-!
# The history of a registry

The history of a registry is kept as a log of registrations and removals; a set-up that an engine
refuses is a removal (`Registry.log`). The log alone tells which engines are registered
(`Registry.Recorded`): the identifiers of the registrations that no later removal undoes
(`Registry.lasting`), in the order of their first appearance, each with the engine that was
registered last, as successful set-ups have left it. Every request keeps that invariant, hence so
does every sequence of requests.

Setting engines up one after another is read position by position (`Registry.trials`): the engine
that the identifier has by then is ready or refuses, or there is none. What remains afterwards is
what was there without the engines that refused (`Registry.Remains`).
-/

namespace RuleAudit

/-- An engine, and what successful set-ups have made of it. -/
def Engine.SetUpTo : Engine → Engine → Prop :=
  Relation.ReflTransGen fun e e' => ∃ tree c settings, (e.setUp tree c settings).2 = (e', .ok ())

namespace Registry

/-! ## Requests -/

/-- What a registry is asked. -/
inductive Request where
  | register (product : Product)
  | deregister (id : String)
  | reset
  | setUp (tree : FileTree) (catalog : Catalog) (id : String) (settings : Keyed Value)
  | setUpAll (tree : FileTree) (catalog : Catalog) (ids : List String)
      (settings : Keyed (Keyed Value))

/-- The registry after a request, with the failures of set-ups or the fault of the request. -/
def perform (r : Registry) : Request → Registry × Except Fault (List Fault)
  | .register product => ((r.offer product).1, (r.offer product).2.2.map fun _ => [])
  | .deregister id => (r.remove id, .ok [])
  | .reset => ({}, .ok [])
  | .setUp tree catalog id settings =>
    ((r.setUp tree catalog id settings).2.1,
      (r.setUp tree catalog id settings).2.2.map fun _ => [])
  | .setUpAll tree catalog ids settings => (setUpAll tree settings catalog r ids).2

/-- The registry after several requests. -/
def performAll (r : Registry) (requests : List Request) : Registry :=
  requests.foldl (fun r request => (r.perform request).1) r

/-- An engine that is offered refuses to be set up only with ordinary faults. -/
def Request.Ordinary : Request → Prop
  | .register (.engine e) => e.Ordinary
  | _ => True

/-! ## Trials -/

/-- What it comes to to set up the engine of an identifier, if it has one. -/
inductive Trial where
  | absent
  | ready (e : Engine)
  | refused (f : Fault)

namespace Trial

def run (tree : FileTree) (c : Catalog) (settings : Keyed Value) :
    Option Engine → Catalog × Trial
  | none => (c, .absent)
  | some e =>
    match e.setUp tree c settings with
    | (c, e, .ok ()) => (c, .ready e)
    | (c, _, .error f) => (c, .refused f)

/-- The engine that the identifier has afterwards. -/
def engine : Trial → Option Engine
  | .ready e => some e
  | .absent | .refused _ => none

/-- The failure that is reported. -/
def failure (id : String) : Trial → Option Fault
  | .absent => some (.setUpReason id "engine not registered")
  | .ready _ => none
  | .refused f => some (.setUp id f)

/-- Whether the engine of the identifier refused. -/
def isRefusal : Trial → Bool
  | .refused _ => true
  | .absent | .ready _ => false

end Trial

/-- Set engines up one after another. `engines` tells which engine an identifier has. -/
def trials (tree : FileTree) (settings : String → Keyed Value) :
    Catalog → (String → Option Engine) → List String → List (String × Trial)
  | _, _, [] => []
  | c, engines, id :: rest =>
    let trial := Trial.run tree c (settings id) (engines id)
    (id, trial.2) ::
      trials tree settings trial.1 (Function.update engines id trial.2.engine) rest

/-- The identifiers whose engines refused. -/
def refusedIn (trials : List (String × Trial)) : List String :=
  (trials.filter fun entry => entry.2.isRefusal).map Prod.fst

theorem refusedIn_cons (step : String × Trial) (later : List (String × Trial)) :
    refusedIn (step :: later) = refusedIn [step] ++ refusedIn later := by
  unfold refusedIn
  rw [← List.map_append, ← List.filter_append, List.singleton_append]

/-! ## The log -/

/-- What changes which engines are registered. -/
inductive Event where
  | registered (e : Engine)
  | removed (id : String)
  | cleared

/-- Whether an event removes whatever engine an identifier has. -/
def Event.removes (id : String) : Event → Bool
  | .registered _ => false
  | .removed other => other == id
  | .cleared => true

/-- The events that a request brings. -/
def events (engines : String → Option Engine) : Request → List Event
  | .register (.engine e) => [.registered e]
  | .register (.other _) => []
  | .deregister id => [.removed id]
  | .reset => [.cleared]
  | .setUp tree catalog id settings =>
    (refusedIn (trials tree (fun _ => settings) catalog engines [id])).map .removed
  | .setUpAll tree catalog ids settings =>
    (refusedIn (trials tree (fun id => (settings.get? id).getD []) catalog engines ids)).map .removed

/-- The events that several requests bring. -/
def log (r : Registry) : List Request → List Event
  | [] => []
  | request :: rest => events r.get? request ++ log (r.perform request).1 rest

/-- The engines whose registrations no later event undoes. -/
def lasting : List Event → List Engine
  | [] => []
  | .registered e :: rest => if rest.any (Event.removes e.id) then lasting rest else e :: lasting rest
  | _ :: rest => lasting rest

/-- The last of some engines with an identifier. -/
def lastOf (engines : List Engine) (id : String) : Option Engine :=
  engines.reverse.find? (·.id == id)

/-- Later events undo earlier registrations. -/
theorem lasting_append (earlier later : List Event) :
    lasting (earlier ++ later) =
      (lasting earlier).filter (fun e => !later.any (Event.removes e.id)) ++ lasting later := by
  induction earlier with
  | nil => rfl
  | cons event rest ih =>
    cases event with
    | registered e =>
      rw [List.cons_append, lasting, lasting, List.any_append, ih]
      cases hrest : rest.any (Event.removes e.id) with
      | true => rfl
      | false =>
        cases hlater : later.any (Event.removes e.id) <;> simp [hlater]
    | removed id => exact ih
    | cleared => exact ih

theorem registered_of_mem_lasting {log : List Event} {e : Engine} (h : e ∈ lasting log) :
    Event.registered e ∈ log := by
  induction log with
  | nil => cases h
  | cons event rest ih =>
    cases event with
    | registered first =>
      rw [lasting] at h
      split at h
      · exact List.mem_cons_of_mem _ (ih h)
      · obtain rfl | hlater := List.mem_cons.mp h
        · exact List.mem_cons_self
        · exact List.mem_cons_of_mem _ (ih hlater)
    | removed id => exact List.mem_cons_of_mem _ (ih h)
    | cleared => exact List.mem_cons_of_mem _ (ih h)

/-- Removals leave the registrations of the other identifiers. -/
theorem lasting_append_removed (log : List Event) (ids : List String) :
    lasting (log ++ ids.map .removed) = (lasting log).filter fun e => !ids.contains e.id := by
  have hany : ∀ id, (ids.map .removed).any (Event.removes id) = ids.contains id := by
    intro id
    induction ids with
    | nil => rfl
    | cons first rest ih =>
      rw [List.map_cons, List.any_cons, ih, List.contains_cons, Event.removes, Bool.beq_comm]
  have hnone : lasting (ids.map .removed) = [] := by
    clear hany
    induction ids with
    | nil => rfl
    | cons id rest ih => exact ih
  rw [lasting_append, hnone, List.append_nil]
  simp only [hany]

/-! ## What remains -/

/-- A registry after set-ups under the identifiers `named`, those `refused` excepted: the others
stand as they stood, each with its engine as successful set-ups have left it. -/
structure Remains (refused named : List String) (r r' : Registry) : Prop where
  ids : r'.ids = r.ids.filter fun id => !refused.contains id
  kept : ∀ id e, r.get? id = some e → id ∉ refused →
    ∃ e', r'.get? id = some e' ∧ e.SetUpTo e' ∧ (id ∉ named → e' = e)

theorem Remains.refl (named : List String) (r : Registry) : Remains [] named r r where
  ids := by simp
  kept := fun _ e he _ => ⟨e, he, .refl, fun _ => rfl⟩

theorem Remains.trans {refused refused' named named' : List String} {r r' r'' : Registry}
    (h : Remains refused named r r') (h' : Remains refused' named' r' r'') :
    Remains (refused ++ refused') (named ++ named') r r'' where
  ids := by
    rw [h'.ids, h.ids, List.filter_filter]
    refine List.filter_congr fun id _ => ?_
    simp [Bool.and_comm]
  kept := by
    intro id e he hid
    obtain ⟨hfirst, hlater⟩ := not_or.mp (mt List.mem_append.mpr hid)
    obtain ⟨e', he', hup, hsame⟩ := h.kept id e he hfirst
    obtain ⟨e'', he'', hup', hsame'⟩ := h'.kept id e' he' hlater
    refine ⟨e'', he'', hup.trans hup', fun hnamed => ?_⟩
    obtain ⟨hnot, hnot'⟩ := not_or.mp (mt List.mem_append.mpr hnamed)
    rw [hsame' hnot', hsame hnot]

theorem remains_remove (r : Registry) (id : String) : Remains [id] [] r (r.remove id) where
  ids := by
    rw [ids_remove]
    refine List.filter_congr fun other _ => ?_
    simp [Bool.beq_eq_decide_eq]
  kept := fun other e he hother =>
    ⟨e, (get?_remove_ne r (by simpa using hother)).trans he, .refl, fun _ => rfl⟩

/-! ## Setting up, position by position -/

/-- A registry after the trial of the engine of an identifier. -/
def Trial.leave (r : Registry) (id : String) : Trial → Registry
  | .absent => r
  | .ready e => r.update e
  | .refused _ => r.remove id

section Trials

variable {r : Registry} {tree : FileTree}

theorem Trial.isOrdinary_of_failure {trial : Trial} {id : String} {f : Fault}
    (h : trial.failure id = some f) : f.isOrdinary = true := by
  cases trial with
  | ready e => cases h
  | absent =>
    cases h
    rfl
  | refused fault =>
    cases h
    rfl

/-- To set an engine up is to try it. -/
theorem setUp_eq_trial (hordinary : r.Ordinary) (tree : FileTree) (c : Catalog) (id : String)
    (settings : Keyed Value) :
    let trial := Trial.run tree c settings (r.get? id)
    Registry.setUp tree c r id settings =
      (trial.1, trial.2.leave r id,
        match trial.2.failure id with
        | some f => .error f
        | none => .ok ()) := by
  unfold Registry.setUp Trial.run
  cases he : r.get? id with
  | none => rfl
  | some e =>
    have hfault : ∀ f, (e.setUp tree c settings).2.2 = .error f → f.isOrdinary = true :=
      fun f hf => (hordinary (id, e) (Keyed.mem_of_get? he)).isOrdinary_of_setUp hf
    dsimp only
    generalize e.setUp tree c settings = course at hfault ⊢
    obtain ⟨c', e', f | done⟩ := course
    · dsimp only
      rw [if_pos (hfault f rfl)]
      rfl
    · rfl

/-- What the engine of an identifier becomes when it is set up and does not refuse. -/
theorem exists_of_run_eq_ready {c : Catalog} {settings : Keyed Value} {found : Option Engine}
    {e' : Engine} (h : (Trial.run tree c settings found).2 = .ready e') :
    ∃ e, found = some e ∧ (e.setUp tree c settings).2 = (e', .ok ()) := by
  unfold Trial.run at h
  split at h
  · cases h
  · rename_i e
    split at h
    · rename_i heq
      cases h
      exact ⟨e, rfl, congrArg Prod.snd heq⟩
    · cases h

/-- An engine that has been set up stands in its place. -/
theorem get?_update_of_setUp (h : r.Distinct) {c : Catalog} {id : String} {settings : Keyed Value}
    {e e' : Engine} (he : r.get? id = some e)
    (hsetUp : (e.setUp tree c settings).2 = (e', .ok ())) :
    (r.update e').get? = Function.update r.get? id (some e') := by
  have hid : e'.id = id := by
    have hsame := e.setUp_id tree c settings
    rw [hsetUp] at hsame
    exact hsame.trans (h.wellKeyed id e he)
  funext other
  by_cases hother : other = id
  · subst hother
    have hself := get?_update_self r e' (by rw [hid, he]; rfl)
    rw [hid] at hself
    rw [hself, Function.update_self]
  · rw [get?_update_ne r e' (by rwa [hid]), Function.update_of_ne hother]

/-- A trial concerns one identifier. -/
theorem get?_leave (h : r.Distinct) (tree : FileTree) (c : Catalog) (id : String) (settings : Keyed Value) :
    let trial := (Trial.run tree c settings (r.get? id)).2
    (trial.leave r id).get? = Function.update r.get? id trial.engine := by
  intro trial
  cases htrial : trial with
  | absent =>
    have hnone : r.get? id = none := by
      cases he : r.get? id with
      | none => rfl
      | some e =>
        simp only [trial, he, Trial.run] at htrial
        split at htrial <;> cases htrial
    rw [Trial.engine, ← hnone, Function.update_eq_self]
    rfl
  | ready e' =>
    obtain ⟨e, he, hsetUp⟩ := exists_of_run_eq_ready htrial
    exact get?_update_of_setUp h he hsetUp
  | refused f =>
    funext other
    by_cases hother : other = id
    · subst hother
      rw [Trial.leave, Trial.engine, Function.update_self, get?_remove_self]
    · rw [Trial.leave, Function.update_of_ne hother, get?_remove_ne r hother]

theorem remains_leave (h : r.Distinct) (tree : FileTree) (c : Catalog) (id : String) (settings : Keyed Value) :
    let trial := (Trial.run tree c settings (r.get? id)).2
    Remains (refusedIn [(id, trial)]) [id] r (trial.leave r id) := by
  intro trial
  cases htrial : trial with
  | absent => exact .refl [id] r
  | ready e' =>
    obtain ⟨e, he, hsetUp⟩ := exists_of_run_eq_ready htrial
    have hget := get?_update_of_setUp h he hsetUp
    refine ⟨?_, fun other old hold _ => ?_⟩
    · rw [Trial.leave, ids_update]
      exact (Remains.refl [id] r).ids
    · by_cases hother : other = id
      · subst hother
        obtain rfl : e = old := Option.some.inj (he.symm.trans hold)
        refine ⟨e', ?_, .single ⟨tree, c, settings, hsetUp⟩, fun hnot => absurd (by simp) hnot⟩
        rw [Trial.leave, hget, Function.update_self]
      · refine ⟨old, ?_, .refl, fun _ => rfl⟩
        rw [Trial.leave, hget, Function.update_of_ne hother, hold]
  | refused f => exact (remains_remove r id).trans (.refl [id] _)

theorem Distinct.leave (h : r.Distinct) (id : String) (trial : Trial) :
    (trial.leave r id).Distinct := by
  cases trial with
  | absent => exact h
  | ready e => exact h.update e
  | refused f => exact h.remove id

/-- The first of several set-ups is followed by the others in the registry that it leaves. -/
theorem setUpAll_cons_eq_trial (hordinary : r.Ordinary) (tree : FileTree) (c : Catalog)
    (settings : Keyed (Keyed Value)) (id : String) (rest : List String) :
    let trial := Trial.run tree c ((settings.get? id).getD []) (r.get? id)
    let later := (Registry.setUpAll tree settings trial.1 (trial.2.leave r id) rest).2
    (Registry.setUpAll tree settings c r (id :: rest)).2 =
      (later.1, later.2.map ((trial.2.failure id).toList ++ ·)) := by
  have hone := setUp_eq_trial hordinary tree c id ((settings.get? id).getD [])
  dsimp only at hone ⊢
  rw [Registry.setUpAll, hone]
  generalize Trial.run tree c ((settings.get? id).getD []) (r.get? id) = trial
  cases hfailure : trial.2.failure id with
  | none =>
    dsimp only
    generalize Registry.setUpAll tree settings trial.1 (trial.2.leave r id) rest = later
    obtain ⟨c', r', f | failures⟩ := later <;> rfl
  | some f =>
    dsimp only
    rw [if_pos (Trial.isOrdinary_of_failure hfailure)]
    generalize Registry.setUpAll tree settings trial.1 (trial.2.leave r id) rest = later
    obtain ⟨c', r', f | failures⟩ := later <;> rfl

/-- To set engines up one after another is to try one after another, each as the trials before it
have left it. -/
theorem setUpAll_eq_trials (h : r.Distinct) (hordinary : r.Ordinary) (tree : FileTree)
    (c : Catalog) (settings : Keyed (Keyed Value)) (ids : List String) :
    let steps := trials tree (fun id => (settings.get? id).getD []) c r.get? ids
    let done := (Registry.setUpAll tree settings c r ids).2
    done.2 = .ok (steps.filterMap fun step => step.2.failure step.1) ∧
      Remains (refusedIn steps) ids r done.1 ∧ done.1.Distinct ∧ done.1.Ordinary := by
  induction ids generalizing r c with
  | nil => exact ⟨rfl, .refl [] r, h, hordinary⟩
  | cons id rest ih =>
    have hkept : ((Trial.run tree c ((settings.get? id).getD []) (r.get? id)).2.leave r id).Ordinary := by
      have hone := (hordinary.setUp tree c id ((settings.get? id).getD [])).1
      rwa [setUp_eq_trial hordinary] at hone
    have hget := get?_leave h tree c id ((settings.get? id).getD [])
    have hstays := remains_leave h tree c id ((settings.get? id).getD [])
    intro steps done
    simp only [steps, done, trials, setUpAll_cons_eq_trial hordinary]
    generalize Trial.run tree c ((settings.get? id).getD []) (r.get? id) = trial
      at hkept hget hstays ⊢
    obtain ⟨hresult, hlater, hdistinct, hafter⟩ := ih (h.leave id trial.2) hkept trial.1
    rw [← hget, hresult, refusedIn_cons]
    refine ⟨?_, hstays.trans hlater, hdistinct, hafter⟩
    cases hfailure : trial.2.failure id <;> simp [hfailure, Except.map]

end Trials

theorem map_fst_trials (tree : FileTree) (settings : String → Keyed Value) (c : Catalog)
    (engines : String → Option Engine) (ids : List String) :
    (trials tree settings c engines ids).map Prod.fst = ids := by
  induction ids generalizing c engines with
  | nil => rfl
  | cons id rest ih => rw [trials, List.map_cons, ih]

/-! ## Histories -/

/-- What a log tells about a registry. -/
structure Recorded (log : List Event) (r : Registry) : Prop where
  distinct : r.Distinct
  ordinary : r.Ordinary
  order : r.ids = ((lasting log).map Engine.id).eraseDups
  latest : ∀ id e, lastOf (lasting log) id = some e → ∃ e', r.get? id = some e' ∧ e.SetUpTo e'

namespace Recorded

variable {log : List Event} {r : Registry}

theorem nil : Recorded [] {} where
  distinct := ⟨List.nodup_nil, fun entry hentry => by cases hentry⟩
  ordinary := fun entry hentry => by cases hentry
  order := rfl
  latest := fun id e h => by cases h

/-- An identifier without a lasting registration has no engine. -/
theorem get?_eq_none (h : Recorded log r) {id : String} (hid : id ∉ (lasting log).map Engine.id) :
    r.get? id = none := by
  refine Keyed.get?_eq_none_iff.mpr fun hmem => hid ?_
  have hids : id ∈ r.ids := hmem
  rwa [h.order, List.mem_eraseDups] at hids

theorem register (h : Recorded log r) {e : Engine} (he : e.Ordinary) :
    Recorded (log ++ [.registered e]) (r.register e).1 := by
  have hlasting : lasting (log ++ [.registered e]) = lasting log ++ [e] := by
    rw [lasting_append]
    exact congrArg (· ++ [e]) (List.filter_eq_self.mpr fun _ _ => rfl)
  refine ⟨h.distinct.register e, h.ordinary.put he, ?_, fun id last hlast => ?_⟩
  -- the identifier goes to the end, unless a lasting registration has it already
  · have hmem : e.id ∈ r.entries.keys ↔ e.id ∈ (lasting log).map Engine.id := by
      rw [← List.mem_eraseDups (l := (lasting log).map Engine.id), ← h.order]
      rfl
    rw [hlasting, List.map_append, List.map_singleton, eraseDups_concat, ← h.order]
    show (r.entries.put e.id e).keys = _
    rw [Keyed.keys_put]
    exact if_congr hmem rfl rfl
  -- under its own identifier the engine is now the last, under others nothing has changed
  · rw [hlasting, lastOf, List.reverse_append, List.reverse_singleton, List.singleton_append,
      List.find?_cons] at hlast
    by_cases hid : e.id = id
    · subst hid
      rw [beq_self_eq_true] at hlast
      obtain rfl : e = last := Option.some.inj hlast
      exact ⟨e, Keyed.get?_put_self _ _ _, .refl⟩
    · rw [beq_false_of_ne hid] at hlast
      obtain ⟨e', he', hup⟩ := h.latest id last hlast
      exact ⟨e', (Keyed.get?_put_ne _ _ (Ne.symm hid)).trans he', hup⟩

theorem clear (log : List Event) : Recorded (log ++ [.cleared]) {} := by
  have hlasting : lasting (log ++ [.cleared]) = [] := by
    rw [lasting_append, List.filter_eq_nil_iff.mpr fun e _ => by simp [Event.removes]]
    rfl
  exact ⟨nil.distinct, nil.ordinary, by rw [hlasting]; rfl, fun id e he => by rw [hlasting] at he; cases he⟩

/-- Removals and set-ups that succeed are recorded as removals. -/
theorem remains (h : Recorded log r) {refused named : List String} {r' : Registry}
    (hremains : Remains refused named r r') (hdistinct : r'.Distinct) (hordinary : r'.Ordinary) :
    Recorded (log ++ refused.map .removed) r' := by
  refine ⟨hdistinct, hordinary, ?_, fun id e he => ?_⟩
  · rw [hremains.ids, h.order, ← eraseDups_filter, List.filter_map, lasting_append_removed]
    rfl
  · rw [lasting_append_removed, lastOf, ← List.filter_reverse] at he
    obtain ⟨hmem, hkept⟩ := List.mem_filter.mp (List.mem_of_find?_eq_some he)
    have hid : e.id = id := beq_iff_eq.mp (List.find?_some he :)
    have hstays : id ∉ refused := by simpa [hid] using hkept
    -- the engine was the last of its identifier, which no removal concerns
    have hlast : lastOf (lasting log) id = some e := by
      rw [← he, lastOf, List.find?_filter]
      refine List.find?_congr fun other _ => ?_
      by_cases hother : other.id = id
      · simp [hother, hstays]
      · simp [hother]
    obtain ⟨e', he', hup⟩ := h.latest id e hlast
    obtain ⟨e'', he'', hup', -⟩ := hremains.kept id e' he' hstays
    exact ⟨e'', he'', hup.trans hup'⟩

/-- What one request brings is recorded. -/
theorem perform (h : Recorded log r) {request : Request} (hordinary : request.Ordinary) :
    Recorded (log ++ events r.get? request) (r.perform request).1 := by
  cases request with
  | register product =>
    cases product with
    | engine e => exact h.register hordinary
    | other v =>
      rw [events, List.append_nil]
      exact h
  | deregister id =>
    exact h.remains (remains_remove r id) (h.distinct.remove id) (h.ordinary.remove id)
  | reset => exact clear log
  | setUp tree catalog id settings =>
    have hkept := (h.ordinary.setUp tree catalog id settings).1
    rw [Registry.perform]
    dsimp only
    rw [setUp_eq_trial h.ordinary] at hkept ⊢
    exact h.remains (remains_leave h.distinct tree catalog id settings) (h.distinct.leave id _) hkept
  | setUpAll tree catalog ids settings =>
    obtain ⟨-, hremains, hdistinct, hafter⟩ :=
      setUpAll_eq_trials h.distinct h.ordinary tree catalog settings ids
    exact h.remains hremains hdistinct hafter

theorem performAll (h : Recorded log r) {requests : List Request}
    (hordinary : ∀ request ∈ requests, request.Ordinary) :
    Recorded (log ++ r.log requests) (r.performAll requests) := by
  induction requests generalizing log r with
  | nil =>
    rw [Registry.log, List.append_nil]
    exact h
  | cons request rest ih =>
    rw [Registry.log, ← List.append_assoc]
    exact ih (h.perform (hordinary request List.mem_cons_self))
      fun other hother => hordinary other (List.mem_cons_of_mem _ hother)

end Recorded

/-- An identifier that is removed and not registered again has no lasting registration. -/
theorem not_mem_lasting_of_removes {before after : List Event} {event : Event} {id : String}
    (hremoves : event.removes id = true)
    (hafter : ∀ e, Event.registered e ∈ after → e.id ≠ id) :
    id ∉ (lasting (before ++ event :: after)).map Engine.id := by
  intro hmem
  obtain ⟨e, he, rfl⟩ := List.mem_map.mp hmem
  rw [lasting_append] at he
  obtain hearlier | hlater := List.mem_append.mp he
  · have hstays := (List.mem_filter.mp hearlier).2
    rw [List.any_cons, hremoves] at hstays
    cases hstays
  · obtain hevent | hother := List.mem_cons.mp (registered_of_mem_lasting hlater)
    · rw [← hevent] at hremoves
      cases hremoves
    · exact hafter e hother rfl

/-- Take any requests to an empty registry, for engines that refuse to be set up only with ordinary
faults. Every engine stands under its own identifier. The identifiers are distinct and in the order
of the registrations that no later event undoes, and each has the engine that was registered last
under it, as successful set-ups have left it. What is no engine is rejected, and nothing changes. To
set up engines removes those that refuse, keeps the others in their order, and tells of every
position at which an engine refused or there was none. A removed identifier supports no rule until
it is registered again. -/
theorem performAll_records {requests : List Request}
    (hordinary : ∀ request ∈ requests, request.Ordinary) :
    let history := log {} requests
    let r := performAll {} requests
    ((∀ entry ∈ r.entries, entry.2.id = entry.1) ∧ r.ids.Nodup ∧
      r.ids = ((lasting history).map Engine.id).eraseDups) ∧
    (∀ id, match lastOf (lasting history) id with
      | some e => ∃ e', r.get? id = some e' ∧ e.SetUpTo e'
      | none => r.get? id = none) ∧
    (∀ v, (r.perform (.register (.other v))).1 = r ∧
      ∃ f, (r.perform (.register (.other v))).2 = .error f) ∧
    (∀ tree catalog ids settings,
      let steps := trials tree (fun id => (settings.get? id).getD []) catalog r.get? ids
      let done := r.perform (.setUpAll tree catalog ids settings)
      steps.map Prod.fst = ids ∧
        done.2 = .ok (steps.filterMap fun step => step.2.failure step.1) ∧
        done.1.ids = r.ids.filter (fun id => !(refusedIn steps).contains id) ∧
        ∀ id e, r.get? id = some e → id ∉ refusedIn steps →
          ∃ e', done.1.get? id = some e' ∧ e.SetUpTo e' ∧ (id ∉ ids → e' = e)) ∧
    ∀ before event after id, history = before ++ event :: after → event.removes id = true →
      (∀ e, Event.registered e ∈ after → e.id ≠ id) → ∀ ruleId, r.supports id ruleId = false := by
  intro history r
  have h : Recorded history r := Recorded.nil.performAll hordinary
  refine ⟨⟨h.distinct.keyed, h.distinct.nodup, h.order⟩, fun id => ?_, fun v => ⟨rfl, _, rfl⟩,
    fun tree catalog ids settings => ?_, fun before event after id hhistory hremoves hafter ruleId => ?_⟩
  · cases hlast : lastOf (lasting history) id with
    | some e => exact h.latest id e hlast
    | none =>
      refine h.get?_eq_none fun hmem => ?_
      obtain ⟨e, he, hid⟩ := List.mem_map.mp hmem
      exact List.find?_eq_none.mp hlast e (List.mem_reverse.mpr he) (beq_iff_eq.mpr hid)
  · obtain ⟨hresult, hremains, -⟩ :=
      setUpAll_eq_trials h.distinct h.ordinary tree catalog settings ids
    exact ⟨map_fst_trials tree _ catalog r.get? ids, hresult, hremains.ids, hremains.kept⟩
  · have hnone : r.get? id = none :=
      h.get?_eq_none (hhistory ▸ not_mem_lasting_of_removes hremoves hafter)
    rw [Registry.supports, hnone]

/-- An engine that is replaced keeps its place, and one that is registered again goes to the end. The
replacement refuses to be set up, so the second attempt at it finds no engine. -/
theorem performAll_records_replaced :
    let engine (id : String) (tag : Nat) (fault : Option Fault) : Engine :=
      .ofBehaviour id "1" [] false
        { setUp := fun _ _ => fault, analyze := fun _ _ => { answer := .ok (.raw .null) } } tag
    let requests : List Request :=
      [.register (.engine (engine "A" 1 none)), .register (.engine (engine "C" 2 none)),
        .register (.engine (engine "B" 3 none)), .register (.other .null), .deregister "C",
        .register (.engine (engine "C" 4 none)),
        .register (.engine (engine "A" 5 (some (.plain .value (some "no"))))),
        .setUp [] {} "Q" []]
    let r := performAll {} requests
    let ids := ["A", "Q", "C", "A"]
    let steps := trials [] (fun _ => []) {} r.get? ids
    let done := r.perform (.setUpAll [] {} ids [])
    (∀ request ∈ requests, request.Ordinary) ∧
      r.ids = ((lasting (log {} requests)).map Engine.id).eraseDups ∧ r.ids = ["A", "B", "C"] ∧
      (r.get? "A").map Engine.tag = some 5 ∧
      done.2 = .ok (steps.filterMap fun step => step.2.failure step.1) ∧
      (steps.filterMap fun step => step.2.failure step.1).map Fault.message =
        ["Failed to initialize engine 'A': no",
          "Failed to initialize engine 'Q': engine not registered",
          "Failed to initialize engine 'A': engine not registered"] ∧
      done.1.ids = ["B", "C"] := by
  intro engine requests r ids steps done
  have hordinary : ∀ request ∈ requests, request.Ordinary := by
    have hengine : ∀ id tag fault, (∀ f, fault = some f → f.isOrdinary = true) →
        (engine id tag fault).Ordinary := fun id tag fault hfault _ _ f hf => hfault f hf
    simp only [requests, List.forall_mem_cons]
    refine ⟨hengine "A" 1 none (by simp), hengine "C" 2 none (by simp), hengine "B" 3 none (by simp),
      trivial, trivial, hengine "C" 4 none (by simp), hengine "A" 5 _ fun f hf => ?_, trivial, by simp⟩
    cases hf
    rfl
  obtain ⟨⟨-, -, horder⟩, -, -, hsetUp, -⟩ := performAll_records hordinary
  obtain ⟨-, hfailures, -⟩ := hsetUp [] {} ids []
  exact ⟨hordinary, horder, by decide +kernel, by decide +kernel, hfailures, by decide +kernel,
    by decide +kernel⟩

end Registry

end RuleAudit
