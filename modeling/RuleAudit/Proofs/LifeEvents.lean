import RuleAudit.Proofs.Availability
import RuleAudit.Proofs.EngineByEngine
import RuleAudit.Proofs.Alike

/-!
# Life events of engines

Between its calls an engine is built by a factory, set up and shut down. The events of an operation
are read off its recursion, in their order. When every engine stands under its own identifier, all
registered engines are set up one after the other (`Registry.setUpEvents_eq`), and all are shut down
(`Registry.tearDownEvents_eq`).

`Registry.Tended` says what a log of such events and a registry have in common: no engine is
registered whose set-up failed since it was built last. Factories, set-ups and shut-downs keep that
(`Registry.Tended.load`, `Registry.Tended.setUpAll`, `Registry.Tended.tearDownAll`).
-/

namespace RuleAudit

/-! ## Events -/

/-- What happens to an engine between its calls. -/
inductive LifeEvent where
  | built (id : String)
  | setUp (id : String) (succeeded : Bool)
  | tearDown (id : String)
  deriving Repr, DecidableEq

namespace LifeEvent

/-- The engine that an event happens to. -/
def engine : LifeEvent → String
  | .built id | .setUp id _ | .tearDown id => id

/-- The most recent event of an engine. -/
def latest (log : List LifeEvent) (id : String) : Option LifeEvent :=
  (log.filter fun event => event.engine == id).getLast?

/-- An engine could not be set up, and no factory has built it since. -/
def Fallen (log : List LifeEvent) (id : String) : Prop :=
  (log.filter fun event => event == .built id || event == .setUp id false).getLast? =
    some (.setUp id false)

theorem latest_append (log more : List LifeEvent) (id : String) :
    latest (log ++ more) id = (latest more id).or (latest log id) := by
  unfold latest
  rw [List.filter_append, List.getLast?_append]

/-- Where nothing decides it anew, an engine has fallen if it had. -/
theorem fallen_append_iff {log more : List LifeEvent} {id : String} (hbuilt : .built id ∉ more)
    (hfailed : .setUp id false ∉ more) : Fallen (log ++ more) id ↔ Fallen log id := by
  have hnone : (more.filter fun event => event == .built id || event == .setUp id false) = [] := by
    rw [List.filter_eq_nil_iff]
    intro event hevent hkind
    rcases (Bool.or_eq_true_iff.mp hkind) with heq | heq
    · exact hbuilt (beq_iff_eq.mp heq ▸ hevent)
    · exact hfailed (beq_iff_eq.mp heq ▸ hevent)
  unfold Fallen
  rw [List.filter_append, hnone, List.append_nil]

theorem not_fallen_built (log : List LifeEvent) (id : String) :
    ¬ Fallen (log ++ [.built id]) id := by
  unfold Fallen
  rw [List.filter_append, List.filter_cons_of_pos (by simp), List.getLast?_append]
  simp

end LifeEvent

/-! ## Reading events off -/

/-- The engines that factories build, in order. -/
def Factories.loadEvents (factories : Factories) : List String → List LifeEvent
  | [] => []
  | id :: rest =>
    match Keyed.get? factories id with
    | none => factories.loadEvents rest
    | some factory =>
      match factory.build with
      | .error f => if f.isOrdinary then factories.loadEvents rest else []
      | .ok (.other _) => []
      | .ok (.engine e) => .built e.id :: factories.loadEvents rest

namespace Registry

/-- The set-ups of engines, in order, and whether they succeed. -/
def setUpEvents (tree : FileTree) (settings : Keyed (Keyed Value)) :
    Catalog → Registry → List String → List LifeEvent
  | _, _, [] => []
  | c, r, id :: rest =>
    let own := (settings.get? id).getD []
    let event := match r.get? id with
      | none => []
      | some e => [.setUp id (e.setUp tree c own).2.2.isOk]
    event ++
      match r.setUp tree c id own with
      | (c, r, .ok ()) => setUpEvents tree settings c r rest
      | (c, r, .error f) => if f.isOrdinary then setUpEvents tree settings c r rest else []

/-- The engines that are shut down, in order. -/
def tearDownEvents : Registry → List String → List LifeEvent
  | _, [] => []
  | r, id :: rest =>
    match r.get? id with
    | none => tearDownEvents r rest
    | some e =>
      .tearDown id ::
        match e.tearDown with
        | (e, .ok ()) => tearDownEvents (r.update e) rest
        | (e, .error f) => if f.isOrdinary then tearDownEvents (r.update e) rest else []

section SetUp

variable {tree : FileTree} {c : Catalog} {settings : Keyed (Keyed Value)}

/-- The set-up of the engine under an identifier. -/
def attemptEvent (tree : FileTree) (c : Catalog) (settings : Keyed (Keyed Value))
    (entry : String × Engine) : LifeEvent :=
  .setUp entry.1 (attempt tree c settings entry).2.isOk

theorem setUpEvents_append (hc : c.Settled tree) (before : Keyed Engine) {after : Keyed Engine}
    (hnodup : (Keyed.keys (before ++ after)).Nodup)
    (hkeyed : ∀ entry ∈ after, entry.2.id = entry.1)
    (hordinary : ∀ entry ∈ after, ∀ f, (attempt tree c settings entry).2 = .error f →
      f.isOrdinary = true) :
    setUpEvents tree settings c { entries := before ++ after } (Keyed.keys after) =
      after.map (attemptEvent tree c settings) := by
  induction after generalizing before with
  | nil => rfl
  | cons entry rest ih =>
    obtain ⟨id, e⟩ := entry
    have hlater := ih _ (nodup_keys_standing tree c settings hnodup)
      (fun other hother => hkeyed other (List.mem_cons_of_mem _ hother))
      fun other hother => hordinary other (List.mem_cons_of_mem _ hother)
    obtain ⟨hfresh, hrest⟩ := Keyed.not_mem_keys_of_nodup hnodup
    have hget : ({ entries := before ++ (id, e) :: rest } : Registry).get? id = some e :=
      Keyed.get?_append_cons e hfresh
    have hone := @setUp_append_cons tree c settings hc before rest id e hfresh hrest
      (hkeyed _ List.mem_cons_self) (hordinary _ List.mem_cons_self)
    rw [show Keyed.keys ((id, e) :: rest) = id :: Keyed.keys rest from rfl, List.map_cons]
    unfold setUpEvents
    dsimp only
    rw [hget, hone, ← hlater]
    show attemptEvent tree c settings (id, e) :: _ = _
    cases (attempt tree c settings (id, e)).2 with
    | ok _ => rfl
    | error f => rfl

/-- Every engine of a registry is set up once, in order. -/
theorem setUpEvents_eq {r : Registry} (h : r.Distinct) (hc : c.Settled tree)
    (hordinary : ∀ entry ∈ r.entries, ∀ f, (attempt tree c settings entry).2 = .error f →
      f.isOrdinary = true) :
    setUpEvents tree settings c r r.ids = r.entries.map (attemptEvent tree c settings) :=
  setUpEvents_append hc [] h.nodup h.keyed hordinary

/-- When all engines of a registry are set up, each of them is set up once. -/
theorem filter_engine_attempts {r : Registry} (h : r.Distinct) {id : String} {e : Engine}
    (hmem : (id, e) ∈ r.entries) :
    (r.entries.map (attemptEvent tree c settings)).filter (fun event => event.engine == id) =
      [attemptEvent tree c settings (id, e)] := by
  have hkey := Keyed.filter_key h.nodup id
  rw [Keyed.get?_of_mem h.nodup hmem] at hkey
  rw [List.filter_map, show ((fun event : LifeEvent => event.engine == id) ∘
    attemptEvent tree c settings) = fun entry => entry.1 == id from rfl, hkey]
  rfl

end SetUp

theorem tearDownEvents_append (before : Keyed Engine) {after : Keyed Engine}
    (hnodup : (Keyed.keys (before ++ after)).Nodup)
    (hkeyed : ∀ entry ∈ after, entry.2.id = entry.1)
    (hordinary : ∀ entry ∈ after, ∀ f, entry.2.tearDown.2 = .error f → f.isOrdinary = true) :
    tearDownEvents { entries := before ++ after } (Keyed.keys after) =
      (Keyed.keys after).map .tearDown := by
  induction after generalizing before with
  | nil => rfl
  | cons entry rest ih =>
    obtain ⟨id, e⟩ := entry
    have hfresh := (Keyed.not_mem_keys_of_nodup hnodup).1
    have hget : ({ entries := before ++ (id, e) :: rest } : Registry).get? id = some e :=
      Keyed.get?_append_cons e hfresh
    have hname : e.tearDown.1.id = id := e.tearDown_id.trans (hkeyed (id, e) List.mem_cons_self)
    have hlater := ih (before ++ [(id, e.tearDown.1)]) (by simpa [Keyed.keys] using hnodup)
      (fun other hother => hkeyed other (List.mem_cons_of_mem _ hother))
      fun other hother => hordinary other (List.mem_cons_of_mem _ hother)
    have hupdate : ({ entries := before ++ (id, e) :: rest } : Registry).update e.tearDown.1 =
        { entries := (before ++ [(id, e.tearDown.1)]) ++ rest } := by
      rw [update_append_cons e hfresh hname]
      simp
    have hhead : ∀ f, e.tearDown.2 = .error f → f.isOrdinary = true :=
      hordinary (id, e) List.mem_cons_self
    rw [show Keyed.keys ((id, e) :: rest) = id :: Keyed.keys rest from rfl, List.map_cons,
      ← hlater, ← hupdate]
    conv_lhs => unfold tearDownEvents
    rw [hget]
    dsimp only
    generalize e.tearDown = course at hhead ⊢
    obtain ⟨e', f | _⟩ := course
    · dsimp only
      rw [if_pos (hhead f rfl)]
    · rfl

/-- Every engine of a registry is shut down once, in order, whichever of them fail. -/
theorem tearDownEvents_eq {r : Registry} (h : r.Distinct)
    (hordinary : ∀ entry ∈ r.entries, ∀ f, entry.2.tearDown.2 = .error f → f.isOrdinary = true) :
    r.tearDownEvents r.ids = r.ids.map .tearDown :=
  tearDownEvents_append [] h.nodup h.keyed hordinary

end Registry

/-! ## Tame engines -/

/-- A behaviour that refuses to be set up or shut down only with ordinary faults. -/
structure Behaviour.Tame (b : Behaviour) : Prop where
  setUp : ∀ age settings f, b.setUp age settings = some f → f.isOrdinary = true
  tearDown : ∀ age f, b.tearDown age = some f → f.isOrdinary = true

/-- The behaviour that was supplied for an engine, if any was. -/
def EngineKind.behaviour? : EngineKind → Option Behaviour
  | .supplied behaviour => some behaviour
  | .scanner .. => none

namespace Engine

/-- The built-in scanner, or an engine whose behaviour is tame. -/
def Tame (e : Engine) : Prop :=
  ∀ b, e.kind.behaviour? = some b → b.Tame

theorem behaviour?_setUp (e : Engine) (tree : FileTree) (c : Catalog) (settings : Keyed Value) :
    (e.setUp tree c settings).2.1.kind.behaviour? = e.kind.behaviour? := by
  cases hkind : e.kind with
  | supplied b =>
    rw [setUp_of_supplied hkind]
    have hprepared := (prepare_id_kind { e with age := e.age + 1 } settings).2
    cases b.setUp e.age settings with
    | some f => exact congrArg EngineKind.behaviour? hkind
    | none =>
      dsimp only at hprepared ⊢
      generalize prepare { e with age := e.age + 1 } settings = prepared at hprepared ⊢
      obtain ⟨x, f | _⟩ := prepared
      · exact congrArg EngineKind.behaviour? (hprepared.trans hkind)
      · have hall := (supportAll_id_kind x b.declared).2
        exact congrArg EngineKind.behaviour? (hall.trans (hprepared.trans hkind))
  | scanner bound cache =>
    obtain ⟨compiled, hscanner⟩ := exists_scanner_of_setUp hkind tree c settings
    rw [hscanner]
    rfl

theorem behaviour?_tearDown (e : Engine) :
    e.tearDown.1.kind.behaviour? = e.kind.behaviour? := by
  unfold tearDown
  split
  · split <;> rfl
  · rename_i hkind
    rw [hkind]
    rfl

theorem behaviour?_analyze (tree : FileTree) (e : Engine) (call : Call) :
    (e.analyze tree call).1.kind.behaviour? = e.kind.behaviour? := by
  unfold analyze
  split
  · rfl
  · rename_i hkind
    rw [hkind]
    rfl

theorem Tame.ordinary {e : Engine} (h : e.Tame) : e.Ordinary := by
  unfold Tame at h
  unfold Ordinary EngineKind.Ordinary
  split
  · rename_i b hkind
    exact (h b (congrArg EngineKind.behaviour? hkind)).setUp
  · exact trivial

theorem Tame.isOrdinary_of_tearDown {e : Engine} (h : e.Tame) {f : Fault}
    (hf : e.tearDown.2 = .error f) : f.isOrdinary = true := by
  unfold tearDown at hf
  split at hf
  · rename_i b hkind
    split at hf
    · rename_i g hg
      cases hf
      exact (h b (congrArg EngineKind.behaviour? hkind)).tearDown _ _ hg
    · cases hf
  · cases hf

end Engine

/-- A factory that builds tame engines, if it builds any. -/
def Factory.BuildsTame (factory : Factory) : Prop :=
  ∀ e, factory.build = .ok (.engine e) → e.Tame

/-! ## Logs and registries -/

/-- A log of events and a registry that go together: the engines are distinct and tame, and none of
them has fallen. -/
structure Registry.Tended (log : List LifeEvent) (r : Registry) : Prop where
  distinct : r.Distinct
  tame : ∀ entry ∈ r.entries, entry.2.Tame
  fallen : ∀ id ∈ r.ids, ¬ LifeEvent.Fallen log id

namespace Registry.Tended

variable {log : List LifeEvent} {r : Registry}

/-- A factory builds an engine, which is registered. -/
theorem register (h : r.Tended log) {e : Engine} (he : e.Tame) :
    (r.register e).1.Tended (log ++ [.built e.id]) where
  distinct := h.distinct.register e
  tame := by
    intro entry hentry
    rcases Keyed.mem_put hentry with rfl | hold
    · exact he
    · exact h.tame entry hold
  fallen := by
    intro id hid
    by_cases hsame : id = e.id
    · rw [hsame]
      exact LifeEvent.not_fallen_built log e.id
    · rw [LifeEvent.fallen_append_iff (by simpa using hsame) (by simp)]
      have hkeys : id ∈ (r.entries.put e.id e).keys := hid
      rw [Keyed.keys_put] at hkeys
      split at hkeys
      · exact h.fallen id hkeys
      · rcases List.mem_append.mp hkeys with hold | hnew
        · exact h.fallen id hold
        · exact absurd (List.mem_singleton.mp hnew) hsame

/-- Factories build engines, which are registered. -/
theorem load (h : r.Tended log) {factories : Factories}
    (hbuilt : ∀ entry ∈ factories, entry.2.BuildsTame)
    (ids : List String) : (factories.load r ids).1.Tended (log ++ factories.loadEvents ids) := by
  induction ids generalizing r log with
  | nil =>
    rw [Factories.loadEvents, List.append_nil]
    exact h
  | cons id rest ih =>
    unfold Factories.load Factories.loadEvents
    cases hfactory : Keyed.get? factories id with
    | none => exact ih h
    | some factory =>
      dsimp only
      cases hbuild : factory.build with
      | error f =>
        dsimp only
        split
        · exact ih h
        · rw [List.append_nil]
          exact h
      | ok product =>
        cases product with
        | other v =>
          dsimp only
          rw [List.append_nil]
          exact h
        | engine e =>
          have hrest := ih (h.register (hbuilt (id, factory) (Keyed.mem_of_get? hfactory) e hbuild))
          rw [List.append_assoc] at hrest
          exact hrest

theorem isOrdinary_of_attempt (h : r.Tended log) (tree : FileTree) (c : Catalog)
    (settings : Keyed (Keyed Value)) : ∀ entry ∈ r.entries, ∀ f,
    (Registry.attempt tree c settings entry).2 = .error f → f.isOrdinary = true :=
  fun entry hentry _ hf => (h.tame entry hentry).ordinary.isOrdinary_of_setUp hf

/-- Engines are set up: those that refuse are removed, and for each of the others the most recent
event is that it has been set up. -/
theorem setUpAll (h : r.Tended log) {tree : FileTree} {c : Catalog} (hc : c.Settled tree)
    (settings : Keyed (Keyed Value)) :
    ∃ failures later, Registry.setUpAll tree settings c r r.ids = (c, later, .ok failures) ∧
      later.Tended (log ++ Registry.setUpEvents tree settings c r r.ids) ∧
      ∀ id ∈ later.ids, LifeEvent.latest (log ++ Registry.setUpEvents tree settings c r r.ids) id =
        some (.setUp id true) := by
  have hordinary := h.isOrdinary_of_attempt tree c settings
  have hall := Registry.setUpAll_append hc [] h.distinct.nodup h.distinct.keyed hordinary
  rw [Registry.setUpEvents_eq h.distinct hc hordinary]
  -- what happens to an engine that remains is that it is set up
  have hremains : ∀ id ∈ Keyed.keys (r.entries.filterMap (Registry.survivor tree c settings)),
      id ∈ r.ids ∧ (r.entries.map (Registry.attemptEvent tree c settings)).filter
        (fun event => event.engine == id) = [.setUp id true] := by
    intro id hid
    obtain ⟨entry, hentry, rfl⟩ := List.mem_map.mp hid
    obtain ⟨e, hold, hattempt⟩ := Registry.exists_of_mem_survivors hentry
    have hregistered : entry.1 ∈ r.ids := List.mem_map.mpr ⟨(entry.1, e), hold, rfl⟩
    refine ⟨hregistered, ?_⟩
    rw [Registry.filter_engine_attempts h.distinct hold, Registry.attemptEvent, hattempt]
    rfl
  refine ⟨_, { entries := r.entries.filterMap (Registry.survivor tree c settings) }, hall,
    ⟨h.distinct.survivors, ?_, ?_⟩, ?_⟩
  · intro entry hentry b hb
    obtain ⟨e, hold, hattempt⟩ := Registry.exists_of_mem_survivors hentry
    have hbehaviour := e.behaviour?_setUp tree c ((settings.get? entry.1).getD [])
    unfold Registry.attempt at hattempt
    rw [hattempt] at hbehaviour
    exact h.tame _ hold b (hbehaviour ▸ hb)
  · intro id hid
    obtain ⟨hregistered, hown⟩ := hremains id hid
    rw [LifeEvent.fallen_append_iff]
    · exact h.fallen id hregistered
    · simp [Registry.attemptEvent]
    · intro hfailed
      have hmem : LifeEvent.setUp id false ∈ [LifeEvent.setUp id true] :=
        hown ▸ List.mem_filter.mpr ⟨hfailed, beq_self_eq_true id⟩
      cases List.mem_singleton.mp hmem
  · intro id hid
    rw [LifeEvent.latest_append]
    unfold LifeEvent.latest
    rw [(hremains id hid).2]
    rfl

/-- Shutting engines down leaves them registered. -/
theorem tearDownAll (h : r.Tended log) :
    ∃ failures later, r.tearDownAll = (later, .ok failures) ∧ later.ids = r.ids ∧
      r.tearDownEvents r.ids = r.ids.map .tearDown ∧
      later.Tended (log ++ r.tearDownEvents r.ids) := by
  have hordinary : ∀ entry ∈ r.entries, ∀ f, entry.2.tearDown.2 = .error f → f.isOrdinary = true :=
    fun entry hentry f hf => (h.tame entry hentry).isOrdinary_of_tearDown hf
  obtain ⟨failures, hall⟩ := Registry.tearDownAll_eq h.distinct hordinary
  have hevents := Registry.tearDownEvents_eq h.distinct hordinary
  have hids : Keyed.keys (r.entries.map fun entry => (entry.1, entry.2.tearDown.1)) = r.ids := by
    simp [Keyed.keys, Registry.ids]
  refine ⟨failures, _, hall, hids, hevents, ⟨?_, ?_⟩, ?_, ?_⟩
  · show (Keyed.keys _).Nodup
    rw [hids]
    exact h.distinct.nodup
  · intro entry hentry
    obtain ⟨old, hold, rfl⟩ := List.mem_map.mp hentry
    exact old.2.tearDown_id.trans (h.distinct.keyed old hold)
  · intro entry hentry
    obtain ⟨old, hold, rfl⟩ := List.mem_map.mp hentry
    intro b hb
    rw [Engine.behaviour?_tearDown] at hb
    exact h.tame old hold b hb
  · intro id hid
    rw [hevents, LifeEvent.fallen_append_iff (by simp) (by simp)]
    exact h.fallen id (hids ▸ hid)

/-- Serving a call changes nothing in what a log and a registry have in common. -/
theorem serve (h : r.Tended log) {id : String} {engine : Engine} (hget : r.get? id = some engine)
    (tree : FileTree) (call : Call) :
    (r.serve tree engine call).Tended log ∧ (r.serve tree engine call).ids = r.ids := by
  have hserved : ∀ served : Engine, served.id = engine.id →
      served.kind.behaviour? = engine.kind.behaviour? →
      (r.update served).Tended log ∧ (r.update served).ids = r.ids := by
    intro served hid hbehaviour
    have hids := ids_update r served
    refine ⟨⟨h.distinct.update served, fun entry hentry => ?_, hids ▸ h.fallen⟩, hids⟩
    unfold Registry.update at hentry
    split at hentry
    · rcases Keyed.mem_put hentry with rfl | hold
      · intro b hb
        exact h.tame _ (Keyed.mem_of_get? hget) b (hbehaviour ▸ hb)
      · exact h.tame entry hold
    · exact h.tame entry hentry
  unfold Registry.serve
  split
  · exact hserved _ (engine.analyze_id tree _) (engine.behaviour?_analyze tree _)
  · exact hserved _ (engine.analyze_id tree call) (engine.behaviour?_analyze tree call)

end Registry.Tended

end RuleAudit
