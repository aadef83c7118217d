import RuleAudit.Proofs.Registration

/-!
# Loading engines

What the factory of an identifier comes to does not depend on the identifiers before it: it builds
an engine, it is passed over because there is none or because it fails, or it breaks the loading off
(`Factories.interruption?`). So loading registers the engines built until it breaks off, the last of
each identifier, over those that were there, and tells the identifiers of all of them if it does not
(`Factories.load_until_interrupted`). Nothing but a product that is no engine, and a withdrawal,
breaks it off.
-/

namespace RuleAudit

theorem Registry.get?_register (r : Registry) (e : Engine) (id : String) :
    (r.register e).1.get? id = if e.id == id then some e else r.get? id := by
  show (r.entries.put e.id e).get? id = _
  split
  · rename_i heq
    rw [← beq_iff_eq.mp heq]
    exact Keyed.get?_put_self r.entries e.id e
  · rename_i hne
    exact Keyed.get?_put_ne r.entries e fun heq => hne (beq_iff_eq.mpr heq.symm)

namespace Factories

/-- The engine that the factory of an identifier builds, if it builds one. -/
def engine? (factories : Factories) (id : String) : Option Engine :=
  match factories.create id with
  | .ok (.engine e) => some e
  | _ => none

/-- The fault with which loading breaks off at an identifier, if it does: its factory builds
something that is no engine, or ends in a way that cannot be handled. -/
def interruption? (factories : Factories) (id : String) : Option Fault :=
  match factories.create id with
  | .ok (.engine _) => none
  | .ok (.other v) =>
    some (.plain .type (some (v.literal ++ " does not implement the Engine contract")))
  | .error f => if f.isOrdinary then none else some f

section Step

variable {factories : Factories} {id : String}

/-- What loading does for the first identifier depends on what its factory comes to. -/
theorem load_cons (factories : Factories) (r : Registry) (id : String) (rest : List String) :
    ((factories.load r (id :: rest)).1, (factories.load r (id :: rest)).2.2) =
      match factories.create id with
      | .ok (.engine e) =>
        let later := factories.load (r.register e).1 rest
        (later.1, later.2.2.map (e.id :: ·))
      | .ok (.other v) => (r, (r.offer (.other v)).2.2.map fun _ => [])
      | .error f =>
        if f.isOrdinary then ((factories.load r rest).1, (factories.load r rest).2.2)
        else (r, .error f) := by
  rw [load]
  unfold create
  cases Keyed.get? factories id with
  | none => rfl
  | some factory =>
    dsimp only
    cases factory.build with
    | error f =>
      dsimp only
      split <;> rfl
    | ok product =>
      cases product with
      | engine e => rfl
      | other v => rfl

/-- An engine that is built is registered. -/
theorem load_of_engine {e : Engine} (h : factories.create id = .ok (.engine e)) (r : Registry)
    (rest : List String) :
    (factories.load r (id :: rest)).1 = (factories.load (r.register e).1 rest).1 ∧
      (factories.load r (id :: rest)).2.2 =
        (factories.load (r.register e).1 rest).2.2.map (e.id :: ·) := by
  have hstep := load_cons factories r id rest
  rw [h] at hstep
  exact Prod.mk.inj hstep

/-- An identifier without a factory, or with one that fails in the ordinary way, is passed over. -/
theorem load_of_error {f : Fault} (h : factories.create id = .error f) (hf : f.isOrdinary = true)
    (r : Registry) (rest : List String) :
    (factories.load r (id :: rest)).1 = (factories.load r rest).1 ∧
      (factories.load r (id :: rest)).2.2 = (factories.load r rest).2.2 := by
  have hstep := load_cons factories r id rest
  rw [h] at hstep
  dsimp only at hstep
  rw [if_pos hf] at hstep
  exact Prod.mk.inj hstep

/-- Where loading breaks off, the registry is left as it is. -/
theorem load_of_interruption {f : Fault} (h : factories.interruption? id = some f) (r : Registry)
    (rest : List String) :
    (factories.load r (id :: rest)).1 = r ∧ (factories.load r (id :: rest)).2.2 = .error f := by
  have hstep := load_cons factories r id rest
  unfold interruption? at h
  split at h
  · cases h
  · rename_i v hbuild
    rw [hbuild] at hstep
    cases h
    exact Prod.mk.inj hstep
  · rename_i g hbuild
    rw [hbuild] at hstep
    split at h
    · cases h
    · rename_i hpasses
      cases h
      dsimp only at hstep
      rw [if_neg hpasses] at hstep
      exact Prod.mk.inj hstep

/-- Where loading does not break off, an engine is built or the identifier is passed over. -/
theorem create_cases (h : factories.interruption? id = none) :
    (∃ e, factories.create id = .ok (.engine e) ∧ factories.engine? id = some e) ∨
      ∃ f, factories.create id = .error f ∧ f.isOrdinary = true ∧ factories.engine? id = none := by
  unfold interruption? at h
  unfold engine?
  split at h
  · rename_i e hbuild
    exact .inl ⟨e, hbuild, by rw [hbuild]⟩
  · cases h
  · rename_i f hbuild
    split at h
    · rename_i hordinary
      exact .inr ⟨f, hbuild, hordinary, by rw [hbuild]⟩
    · cases h

end Step

/-- Take any factories, any registry and any identifiers. Loading fails exactly if the factory of
some identifier breaks it off, with the fault of the first one; otherwise it tells the identifiers
of all engines that the factories build, in order. Either way every engine built until then is
registered under its identifier, the last one of equal identifiers, and the engines that were there
before stand under all others. -/
theorem load_until_interrupted (factories : Factories) (r : Registry) (ids : List String) :
    let reached := ids.takeWhile fun id => (factories.interruption? id).isNone
    (factories.load r ids).2.2 =
        (match ids.findSome? factories.interruption? with
        | some f => .error f
        | none => .ok ((ids.filterMap factories.engine?).map Engine.id)) ∧
      ∀ id, (factories.load r ids).1.get? id =
        ((reached.filterMap factories.engine?).reverse.find? (·.id == id)).or (r.get? id) := by
  induction ids generalizing r with
  | nil => exact ⟨rfl, fun _ => rfl⟩
  | cons first rest ih =>
    cases hbreak : factories.interruption? first with
    | some f =>
      obtain ⟨hregistry, hresult⟩ := load_of_interruption hbreak r rest
      simp [hregistry, hresult, hbreak]
    | none =>
      obtain ⟨e, hbuild, hengine⟩ | ⟨f, hbuild, hordinary, hengine⟩ := create_cases hbreak
      · obtain ⟨hregistry, hresult⟩ := load_of_engine hbuild r rest
        obtain ⟨hlater, hstands⟩ := ih (r.register e).1
        refine ⟨?_, fun id => ?_⟩
        · rw [hresult, hlater]
          simp only [List.findSome?_cons, hbreak, List.filterMap_cons, hengine, List.map_cons]
          cases rest.findSome? factories.interruption? <;> rfl
        · -- the engine stands unless a later one has its identifier
          rw [hregistry, hstands, Registry.get?_register]
          simp only [List.takeWhile_cons, hbreak, Option.isNone_none, if_true, List.filterMap_cons,
            hengine, List.reverse_cons, List.find?_append, Option.or_assoc]
          cases hid : e.id == id <;> simp [hid]
      · obtain ⟨hregistry, hresult⟩ := load_of_error hbuild hordinary r rest
        obtain ⟨hlater, hstands⟩ := ih r
        refine ⟨?_, fun id => ?_⟩
        · rw [hresult, hlater]
          simp only [List.findSome?_cons, hbreak, List.filterMap_cons, hengine]
        · rw [hregistry, hstands]
          simp only [List.takeWhile_cons, hbreak, Option.isNone_none, if_true, List.filterMap_cons,
            hengine]

/-- A product that is no engine keeps what comes after it from being loaded. -/
example :
    let factories : Factories :=
      [("fake", .extension (.ok (.other (.text "str")))), ("heuristic", .scanner)]
    (factories.load {} ["fake", "heuristic"]).1.ids = [] ∧
      (factories.load {} ["fake", "heuristic"]).2.2.toBool = false ∧
      (factories.load {} ["missing", "heuristic"]).1.ids = ["heuristic"] := by
  decide +kernel

end Factories

end RuleAudit
