import Mathlib.Data.List.Forall2
import RuleAudit.Proofs.Registration
import RuleAudit.Proofs.Routing
import RuleAudit.Run

/-!
# Engines that differ in their replies

Two engines are alike when they have everything in common but what a supplied behaviour replies to
calls, and when these replies are related in a given way. So are registries of such engines. Replies
play no part in setting up, in routing and in cutting groups into lanes: registries that are alike
stay alike (`Registry.Alike.setUpAll`), rules are routed the same with both
(`Registry.Alike.route_eq`), and so are the lanes (`Registry.Alike.lanesOf_eq`).
-/

namespace RuleAudit

/-! ## Keyed lists -/

/-- Keyed lists with the same keys, and related values under them. -/
def Keyed.Alike {α : Type} (related : α → α → Prop) (m m' : Keyed α) : Prop :=
  List.Forall₂ (fun entry entry' => entry.1 = entry'.1 ∧ related entry.2 entry'.2) m m'

namespace Keyed.Alike

variable {α : Type} {related : α → α → Prop} {m m' : Keyed α}

theorem keys_eq (h : Keyed.Alike related m m') : m'.keys = m.keys := by
  induction h with
  | nil => rfl
  | cons hentry _ ih =>
    simp only [Keyed.keys, List.map_cons, hentry.1] at ih ⊢
    rw [ih]

theorem isEmpty_eq (h : Keyed.Alike related m m') : m'.isEmpty = m.isEmpty := by
  cases h <;> rfl

theorem get? (h : Keyed.Alike related m m') (key : String) :
    (m.get? key = none ∧ m'.get? key = none) ∨
      ∃ a a', m.get? key = some a ∧ m'.get? key = some a' ∧ related a a' := by
  induction h with
  | nil => exact .inl ⟨rfl, rfl⟩
  | @cons entry entry' rest rest' hentry _ ih =>
    obtain ⟨k, a⟩ := entry
    obtain ⟨k', a'⟩ := entry'
    obtain ⟨rfl, hrelated⟩ := hentry
    by_cases hk : k = key
    · refine .inr ⟨a, a', ?_, ?_, hrelated⟩ <;> simp [Keyed.get?, hk]
    · simpa [Keyed.get?, hk] using ih

theorem has_eq (h : Keyed.Alike related m m') (key : String) : m'.has key = m.has key := by
  unfold Keyed.has
  rcases h.get? key with ⟨hnone, hnone'⟩ | ⟨a, a', hsome, hsome', -⟩
  · rw [hnone, hnone']
  · rw [hsome, hsome']
    rfl

theorem put (h : Keyed.Alike related m m') (key : String) {a a' : α} (ha : related a a') :
    Keyed.Alike related (m.put key a) (m'.put key a') := by
  induction h with
  | nil => exact .cons ⟨rfl, ha⟩ .nil
  | @cons entry entry' rest rest' hentry hrest ih =>
    obtain ⟨k, b⟩ := entry
    obtain ⟨k', b'⟩ := entry'
    obtain ⟨rfl, hrelated⟩ := hentry
    by_cases hk : k = key
    · simp only [Keyed.put, hk, BEq.rfl, if_true]
      exact .cons ⟨rfl, ha⟩ hrest
    · simp only [Keyed.put, hk, beq_iff_eq, if_false]
      exact .cons ⟨rfl, hrelated⟩ ih

theorem erase (h : Keyed.Alike related m m') (key : String) :
    Keyed.Alike related (m.erase key) (m'.erase key) := by
  induction h with
  | nil => exact .nil
  | @cons entry entry' rest rest' hentry _ ih =>
    unfold Keyed.erase at ih ⊢
    rw [List.filter_cons, List.filter_cons, ← hentry.1]
    split
    · exact .cons hentry ih
    · exact ih

end Keyed.Alike

/-! ## Engines -/

/-- Behaviours that differ at most in their replies, which are related. -/
structure Behaviour.Alike (related : Call → Reply → Reply → Prop) (b b' : Behaviour) : Prop where
  declared : b'.declared = b.declared
  setUp : b'.setUp = b.setUp
  tearDown : b'.tearDown = b.tearDown
  analyze : ∀ age call, related call (b.analyze age call) (b'.analyze age call)

/-- Ways to work that differ at most in the replies of supplied behaviours. -/
inductive EngineKind.Alike (related : Call → Reply → Reply → Prop) :
    EngineKind → EngineKind → Prop where
  | supplied {b b' : Behaviour} (h : b.Alike related b') :
      Alike related (.supplied b) (.supplied b')
  | scanner (bound : Bool) (compiled : Scan.Cache) :
      Alike related (.scanner bound compiled) (.scanner bound compiled)

/-- A relation between the replies that two engines of an identifier give to a call. -/
abbrev ReplyRelation := String → Call → Reply → Reply → Prop

/-- The engine working in another way. -/
def Engine.withKind (e : Engine) (kind : EngineKind) : Engine :=
  { e with kind := kind }

/-- Engines that differ at most in their replies. -/
structure Engine.Alike (related : ReplyRelation) (e e' : Engine) : Prop where
  kind : e.kind.Alike (related e.id) e'.kind
  rest : e' = e.withKind e'.kind

namespace Engine

variable {related : ReplyRelation} {e e' : Engine}

theorem supportAll_withKind (e : Engine) (kind : EngineKind) (ids : List String) :
    (e.withKind kind).supportAll ids = (e.supportAll ids).withKind kind := by
  have hone : ∀ (e : Engine) (id : String),
      (e.withKind kind).support id = (e.support id).withKind kind := by
    intro e id
    unfold support withKind
    dsimp only
    split <;> rfl
  unfold supportAll
  induction ids generalizing e with
  | nil => rfl
  | cons id rest ih => rw [List.foldl_cons, List.foldl_cons, hone, ih]

theorem prepare_withKind (e : Engine) (kind : EngineKind) (settings : Keyed Value) :
    (e.withKind kind).prepare settings =
      ((e.prepare settings).1.withKind kind, (e.prepare settings).2) := by
  have hall := supportAll_withKind
    { e with verbose := ((settings.get? "verbose").map Value.isTruthy).getD false } kind
  unfold prepare
  dsimp only
  cases listedRules settings with
  | error f => rfl
  | ok ids =>
    exact congrArg (fun e : Engine => (({ e with ready := true } : Engine), Except.ok ()))
      (hall ids)

theorem Alike.id_eq (h : e.Alike related e') : e'.id = e.id := by
  rw [h.rest]
  rfl

theorem Alike.tag_eq (h : e.Alike related e') : e'.tag = e.tag := by
  rw [h.rest]
  rfl

theorem Alike.supports_eq (h : e.Alike related e') (ruleId : String) :
    e'.supports ruleId = e.supports ruleId := by
  rw [h.rest]
  rfl

theorem Alike.concurrencySafe_eq (h : e.Alike related e') :
    e'.concurrencySafe = e.concurrencySafe := by
  rw [h.rest]
  rfl

theorem Alike.prepare (h : e.Alike related e') (settings : Keyed Value) :
    (e.prepare settings).1.Alike related (e'.prepare settings).1 ∧
      (e'.prepare settings).2 = (e.prepare settings).2 := by
  obtain ⟨hid, hkind⟩ := prepare_id_kind e settings
  have hboth := prepare_withKind e e'.kind settings
  rw [← h.rest] at hboth
  rw [hboth]
  refine ⟨⟨?_, rfl⟩, rfl⟩
  rw [hid, hkind]
  exact h.kind

theorem Alike.supportAll (h : e.Alike related e') (ids : List String) :
    (e.supportAll ids).Alike related (e'.supportAll ids) := by
  obtain ⟨hid, hkind⟩ := supportAll_id_kind e ids
  have hboth := supportAll_withKind e e'.kind ids
  rw [← h.rest] at hboth
  rw [hboth]
  refine ⟨?_, rfl⟩
  rw [hid, hkind]
  exact h.kind

/-- An engine that serves a request is one request older. -/
theorem Alike.older (h : e.Alike related e') :
    ({ e with age := e.age + 1 } : Engine).Alike related { e' with age := e'.age + 1 } := by
  refine ⟨h.kind, ?_⟩
  rw [h.rest]
  rfl

/-- How an engine of a supplied behaviour is set up. -/
theorem setUp_of_supplied {b : Behaviour} (hkind : e.kind = .supplied b) (tree : FileTree)
    (catalog : Catalog) (settings : Keyed Value) :
    e.setUp tree catalog settings =
      match b.setUp e.age settings with
      | some f => (catalog, { e with age := e.age + 1 }, .error f)
      | none =>
        match ({ e with age := e.age + 1 } : Engine).prepare settings with
        | (e, .ok ()) => (catalog, e.supportAll b.declared, .ok ())
        | (e, .error f) => (catalog, e, .error f) := by
  cases e
  cases hkind
  rfl

/-- A scanner that has been set up is a scanner. -/
theorem exists_scanner_of_setUp {bound : Bool} {compiled : Scan.Cache}
    (hkind : e.kind = .scanner bound compiled) (tree : FileTree) (catalog : Catalog)
    (settings : Keyed Value) :
    ∃ compiled, (e.setUp tree catalog settings).2.1.kind = .scanner bound compiled := by
  have hprepared := (prepare_id_kind e settings).2
  unfold Engine.setUp
  rw [hkind] at hprepared ⊢
  dsimp only
  generalize e.prepare settings = prepared at hprepared ⊢
  obtain ⟨x, f | _⟩ := prepared
  · exact ⟨_, hprepared⟩
  · cases bound with
    | false => exact ⟨_, hprepared⟩
    | true =>
      dsimp only
      split
      · exact ⟨_, hprepared⟩
      · exact ⟨_, rfl⟩

/-- Engines that are alike are set up alike. -/
theorem Alike.setUp (h : e.Alike related e') (tree : FileTree) (catalog : Catalog)
    (settings : Keyed Value) :
    (e'.setUp tree catalog settings).1 = (e.setUp tree catalog settings).1 ∧
      (e.setUp tree catalog settings).2.1.Alike related (e'.setUp tree catalog settings).2.1 ∧
      (e'.setUp tree catalog settings).2.2 = (e.setUp tree catalog settings).2.2 := by
  have hkind := h.kind
  generalize hk : e.kind = kind at hkind
  generalize hk' : e'.kind = kind' at hkind
  cases hkind with
  | @supplied b b' hb =>
    have hage : e'.age = e.age := by rw [h.rest]; rfl
    rw [setUp_of_supplied hk, setUp_of_supplied hk', hb.setUp, hage]
    have holder := h.older
    rw [hage] at holder
    cases b.setUp e.age settings with
    | some f => exact ⟨rfl, holder, rfl⟩
    | none =>
      have hprepared := holder.prepare settings
      generalize ({ e with age := e.age + 1 } : Engine).prepare settings = prepared at *
      generalize ({ e' with age := e.age + 1 } : Engine).prepare settings = prepared' at *
      obtain ⟨x, result⟩ := prepared
      obtain ⟨x', result'⟩ := prepared'
      obtain ⟨halike, rfl⟩ : x.Alike related x' ∧ result' = result := hprepared
      cases result' with
      | error f => exact ⟨rfl, halike, rfl⟩
      | ok _ => exact ⟨rfl, hb.declared ▸ halike.supportAll b.declared, rfl⟩
  | scanner bound compiled =>
    -- the same scanner in both
    obtain rfl : e' = e := by
      rw [h.rest, hk', ← hk]
      rfl
    obtain ⟨compiled', hkind'⟩ := exists_scanner_of_setUp hk tree catalog settings
    refine ⟨rfl, ⟨?_, rfl⟩, rfl⟩
    rw [hkind']
    exact .scanner _ compiled'

/-- Engines that are alike serve a call alike, and their replies are related. -/
theorem Alike.analyze (hrefl : ∀ id call reply, related id call reply reply)
    (h : e.Alike related e') (tree : FileTree) (call : Call) :
    (e.analyze tree call).1.Alike related (e'.analyze tree call).1 ∧
      (e'.analyze tree call).2.1 = (e.analyze tree call).2.1 ∧
      related e.id call (e.analyze tree call).2.2 (e'.analyze tree call).2.2 := by
  have hkind := h.kind
  generalize hk : e.kind = kind at hkind
  generalize hk' : e'.kind = kind' at hkind
  cases hkind with
  | @supplied b b' hb =>
    have hage : e'.age = e.age := by rw [h.rest]; rfl
    rw [analyze_of_supplied tree hk, analyze_of_supplied tree hk']
    refine ⟨h.older, rfl, ?_⟩
    dsimp only
    rw [hage]
    exact hb.analyze e.age call
  | scanner bound compiled =>
    obtain rfl : e' = e := by
      rw [h.rest, hk', ← hk]
      rfl
    refine ⟨⟨?_, rfl⟩, rfl, hrefl _ _ _⟩
    rw [Engine.analyze, hk]
    exact .scanner _ _

/-- So they serve a call that is given up half-way. -/
theorem Alike.analyzeCut (hrefl : ∀ id call reply, related id call reply reply)
    (h : e.Alike related e') (tree : FileTree) (call : Call) :
    (e.analyzeCut tree call).1.Alike related (e'.analyzeCut tree call).1 ∧
      (e'.analyzeCut tree call).2 = (e.analyzeCut tree call).2 := by
  obtain ⟨hserved, hnotices, -⟩ := h.analyze hrefl tree { call with files := call.files.take 1 }
  exact ⟨hserved, hnotices⟩

end Engine

/-! ## Registries -/

/-- Registries with the same identifiers, and engines under them that are alike. -/
def Registry.Alike (related : ReplyRelation) (r r' : Registry) : Prop :=
  Keyed.Alike (Engine.Alike related) r.entries r'.entries

namespace Registry.Alike

variable {related : ReplyRelation} {r r' : Registry}

theorem ids_eq (h : r.Alike related r') : r'.ids = r.ids :=
  Keyed.Alike.keys_eq h

theorem isEmpty_eq (h : r.Alike related r') : r'.isEmpty = r.isEmpty :=
  Keyed.Alike.isEmpty_eq h

theorem get? (h : r.Alike related r') (id : String) :
    (r.get? id = none ∧ r'.get? id = none) ∨
      ∃ e e', r.get? id = some e ∧ r'.get? id = some e' ∧ e.Alike related e' :=
  Keyed.Alike.get? h id

theorem wellKeyed (h : r.Alike related r') (hkeyed : r.WellKeyed) : r'.WellKeyed := by
  intro id e' he'
  rcases h.get? id with ⟨-, hnone'⟩ | ⟨e, x', hsome, hsome', halike⟩
  · rw [hnone'] at he'
    cases he'
  · obtain rfl : x' = e' := Option.some.inj (hsome'.symm.trans he')
    rw [halike.id_eq, hkeyed id e hsome]

theorem update (h : r.Alike related r') {e e' : Engine} (he : e.Alike related e') :
    (r.update e).Alike related (r'.update e') := by
  unfold Registry.update
  rw [he.id_eq, Keyed.Alike.has_eq h]
  split
  · exact Keyed.Alike.put h e.id he
  · exact h

theorem register (h : r.Alike related r') {e e' : Engine} (he : e.Alike related e') :
    (r.register e).1.Alike related (r'.register e').1 := by
  show Keyed.Alike _ (r.entries.put e.id e) (r'.entries.put e'.id e')
  rw [he.id_eq]
  exact Keyed.Alike.put h e.id he

theorem supports_eq (h : r.Alike related r') : r'.supports = r.supports := by
  funext id ruleId
  unfold Registry.supports
  rcases h.get? id with ⟨hnone, hnone'⟩ | ⟨e, e', hsome, hsome', halike⟩
  · rw [hnone, hnone']
  · rw [hsome, hsome']
    exact halike.supports_eq ruleId

/-- Registries that are alike set up an engine alike. -/
theorem setUp (h : r.Alike related r') (tree : FileTree) (catalog : Catalog) (id : String)
    (settings : Keyed Value) :
    (r'.setUp tree catalog id settings).1 = (r.setUp tree catalog id settings).1 ∧
      (r.setUp tree catalog id settings).2.1.Alike related
        (r'.setUp tree catalog id settings).2.1 ∧
      (r'.setUp tree catalog id settings).2.2 = (r.setUp tree catalog id settings).2.2 := by
  unfold Registry.setUp
  rcases h.get? id with ⟨hnone, hnone'⟩ | ⟨e, e', hsome, hsome', halike⟩
  · rw [hnone, hnone']
    exact ⟨rfl, h, rfl⟩
  · rw [hsome, hsome']
    dsimp only
    have hengine := halike.setUp tree catalog settings
    generalize e.setUp tree catalog settings = served at hengine ⊢
    generalize e'.setUp tree catalog settings = served' at hengine ⊢
    obtain ⟨c, x, result⟩ := served
    obtain ⟨c', x', result'⟩ := served'
    obtain ⟨rfl, hx, rfl⟩ : c' = c ∧ x.Alike related x' ∧ result' = result := hengine
    cases result' with
    | ok _ => exact ⟨rfl, h.update hx, rfl⟩
    | error f =>
      dsimp only
      split
      · exact ⟨rfl, Keyed.Alike.erase h id, rfl⟩
      · exact ⟨rfl, h.update hx, rfl⟩

/-- So they do one engine after the other. -/
theorem setUpAll (tree : FileTree) (settings : Keyed (Keyed Value)) (h : r.Alike related r')
    (catalog : Catalog) (ids : List String) :
    let after := Registry.setUpAll tree settings catalog r ids
    let after' := Registry.setUpAll tree settings catalog r' ids
    after'.1 = after.1 ∧ after.2.1.Alike related after'.2.1 ∧ after'.2.2 = after.2.2 := by
  induction ids generalizing catalog r r' with
  | nil => exact ⟨rfl, h, rfl⟩
  | cons id rest ih =>
    dsimp only at ih ⊢
    have hfirst := h.setUp tree catalog id ((settings.get? id).getD [])
    unfold Registry.setUpAll
    generalize r.setUp tree catalog id ((settings.get? id).getD []) = served at hfirst ⊢
    generalize r'.setUp tree catalog id ((settings.get? id).getD []) = served' at hfirst ⊢
    obtain ⟨c, x, result⟩ := served
    obtain ⟨c', x', result'⟩ := served'
    obtain ⟨rfl, hx, rfl⟩ : c' = c ∧ x.Alike related x' ∧ result' = result := hfirst
    have hrest := ih hx c'
    cases result' with
    | ok _ => exact hrest
    | error f =>
      dsimp only
      split
      · generalize Registry.setUpAll tree settings c' x rest = later at hrest ⊢
        generalize Registry.setUpAll tree settings c' x' rest = later' at hrest ⊢
        obtain ⟨d, y, failures⟩ := later
        obtain ⟨d', y', failures'⟩ := later'
        obtain ⟨rfl, hy, rfl⟩ : d' = d ∧ y.Alike related y' ∧ failures' = failures := hrest
        cases failures' <;> exact ⟨rfl, hy, rfl⟩
      · exact ⟨rfl, hx, rfl⟩

/-- Rules are routed alike. -/
theorem route_eq (h : r.Alike related r') (settings : Settings) (rules : List Rule) :
    Routing.route r' settings rules = Routing.route r settings rules :=
  Routing.route_congr h.ids_eq h.supports_eq (Keyed.Alike.has_eq h) settings rules

/-- Groups are cut into the same lanes. -/
theorem lanesOf_eq (h : r.Alike related r') (setup : RunSetup) (groups : Keyed (List Rule)) :
    lanesOf setup r' groups = lanesOf setup r groups := by
  have hgroup : ∀ id rules, groupLanes setup r' id rules = groupLanes setup r id rules := by
    intro id rules
    have hsafe : (r'.get? id).map Engine.concurrencySafe =
        (r.get? id).map Engine.concurrencySafe := by
      rcases h.get? id with ⟨hnone, hnone'⟩ | ⟨e, e', hsome, hsome', halike⟩
      · rw [hnone, hnone']
      · rw [hsome, hsome']
        exact congrArg some halike.concurrencySafe_eq
    unfold groupLanes
    rw [hsafe]
  induction groups with
  | nil => rfl
  | cons group rest ih =>
    unfold lanesOf
    rw [hgroup, ih]

end Registry.Alike

end RuleAudit
