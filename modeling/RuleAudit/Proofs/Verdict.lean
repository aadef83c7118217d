import RuleAudit.Value.Check

/-!
# What a check ensures

A verdict on the whole is valid when those on its parts are, and with their results
(`Verdict.seq_eq_valid_iff`). A check ensures a property when every valid result has it. The
property carries over from the parts of a check to the whole: through changes, fields and sections,
up to the result that a reader gives (`Verdict.Ensures.of_toExcept`).
-/

namespace RuleAudit

/-- A changed result comes from a result. -/
theorem exists_of_map_eq_ok {ε α β : Type} {x : Except ε α} {f : α → β} {b : β}
    (h : x.map f = .ok b) : ∃ a, x = .ok a ∧ f a = b := by
  cases x with
  | error e => cases h
  | ok a => exact ⟨a, rfl, Except.ok.inj h⟩

/-- A result of two steps comes from a result of the first. -/
theorem exists_of_bind_eq_ok {ε α β : Type} {x : Except ε α} {f : α → Except ε β} {b : β}
    (h : x >>= f = .ok b) : ∃ a, x = .ok a ∧ f a = .ok b := by
  cases x with
  | error e => cases h
  | ok a => exact ⟨a, rfl, h⟩

theorem eq_ok_of_toOption_eq_some {ε α : Type} {x : Except ε α} {a : α}
    (h : x.toOption = some a) : x = .ok a := by
  cases x with
  | error e => cases h
  | ok b => exact congrArg Except.ok (Option.some.inj h)

theorem exists_eq_ok_of_toBool {ε α : Type} {x : Except ε α} (h : x.toBool = true) :
    ∃ a, x = .ok a := by
  cases x with
  | error e => cases h
  | ok a => exact ⟨a, rfl⟩

namespace Verdict

variable {α β : Type}

/-! ## Valid verdicts -/

theorem map_eq_valid_iff {f : α → β} {v : Verdict α} {b : β} :
    f <$> v = valid b ↔ ∃ a, v = valid a ∧ f a = b := by
  constructor
  · intro h
    cases v with
    | valid a => exact ⟨a, rfl, valid.inj h⟩
    | flawed issues => cases h
    | broken fault => cases h
  · rintro ⟨a, rfl, rfl⟩
    rfl

theorem seq_eq_valid_iff {f : Verdict (α → β)} {v : Verdict α} {b : β} :
    f <*> v = valid b ↔ ∃ g a, f = valid g ∧ v = valid a ∧ g a = b := by
  constructor
  · intro h
    cases f with
    | valid g =>
      cases v with
      | valid a => exact ⟨g, a, rfl, rfl, valid.inj h⟩
      | flawed issues => cases h
      | broken fault => cases h
    | flawed issues => cases v <;> cases h
    | broken fault => cases h
  · rintro ⟨g, a, rfl, rfl, rfl⟩
    rfl

theorem andThen_eq_valid_iff {v : Verdict α} {f : α → Verdict β} {b : β} :
    v.andThen f = valid b ↔ ∃ a, v = valid a ∧ f a = valid b := by
  constructor
  · intro h
    cases v with
    | valid a => exact ⟨a, rfl, h⟩
    | flawed issues => cases h
    | broken fault => cases h
  · rintro ⟨a, rfl, h⟩
    exact h

theorem under_eq_valid_iff {step : Step} {v : Verdict α} {a : α} :
    v.under step = valid a ↔ v = valid a := by
  cases v <;> simp [under]

theorem toExcept_eq_ok_iff {model : String} {v : Verdict α} {a : α} :
    v.toExcept model = .ok a ↔ v = valid a := by
  cases v <;> simp [toExcept]

/-! ## What a check ensures -/

/-- Every valid result of a check has a property. -/
def Ensures (p : α → Prop) (v : Verdict α) : Prop :=
  ∀ a, v = .valid a → p a

theorem ensures_valid {p : α → Prop} {a : α} (h : p a) : (valid a).Ensures p := by
  intro b hb
  cases hb
  exact h

theorem ensures_issue (p : α → Prop) (kind : IssueKind) : (issue kind).Ensures p := by
  intro a ha
  cases ha

theorem Ensures.map {p : β → Prop} {f : α → β} {v : Verdict α} (h : v.Ensures fun a => p (f a)) :
    (f <$> v).Ensures p := by
  intro b hb
  obtain ⟨a, ha, rfl⟩ := map_eq_valid_iff.mp hb
  exact h a ha

/-- A property that the last field brings about. -/
theorem Ensures.seq_arg {p : α → Prop} {q : β → Prop} {f : Verdict (α → β)} {v : Verdict α}
    (h : f.Ensures fun g => ∀ a, p a → q (g a)) (hv : v.Ensures p) : (f <*> v).Ensures q := by
  intro b hb
  obtain ⟨g, a, hg, ha, rfl⟩ := seq_eq_valid_iff.mp hb
  exact h g hg a (hv a ha)

/-- A property of a record that is known to have the result of its last field. -/
theorem Ensures.seq_valid {q : β → Prop} {f : Verdict (α → β)} {v : Verdict α}
    (h : f.Ensures fun g => ∀ a, v = valid a → q (g a)) : (f <*> v).Ensures q :=
  Ensures.seq_arg h fun _ ha => ha

/-- A property that the second check brings about where the first ensures another. -/
theorem Ensures.andThen_of {p : β → Prop} {q : α → Prop} {v : Verdict α} (hv : v.Ensures q)
    {f : α → Verdict β} (h : ∀ a, q a → (f a).Ensures p) : (v.andThen f).Ensures p := by
  intro b hb
  obtain ⟨a, ha, hfa⟩ := andThen_eq_valid_iff.mp hb
  exact h a (hv a ha) b hfa

theorem Ensures.andThen {p : β → Prop} (v : Verdict α) {f : α → Verdict β}
    (h : ∀ a, (f a).Ensures p) : (v.andThen f).Ensures p :=
  andThen_of (q := fun _ => True) (fun _ _ => trivial) fun a _ => h a

theorem Ensures.under {p : α → Prop} {v : Verdict α} (h : v.Ensures p) (step : Step) :
    (v.under step).Ensures p := by
  intro a ha
  exact h a (under_eq_valid_iff.mp ha)

theorem Ensures.model {p : α → Prop} {check : Keyed Value → Verdict α}
    (h : ∀ fields, (check fields).Ensures p) (v : Value) : (Check.model check v).Ensures p := by
  unfold Check.model
  split
  · exact h _
  · exact ensures_issue p _

theorem Ensures.of_toExcept {p : α → Prop} {v : Verdict α} (h : v.Ensures p) {model : String}
    {a : α} (hv : v.toExcept model = .ok a) : p a :=
  h a (toExcept_eq_ok_iff.mp hv)

/-- What the changes of all fields keep holds of a section that is read field by field. -/
theorem Ensures.foldl_change {p : α → Prop} {change : String → Value → Verdict (α → α)}
    (hchange : ∀ name v, (change name v).Ensures fun g => ∀ a, p a → p (g a))
    (fields : Keyed Value) (names : List String) {start : Verdict α} (hstart : start.Ensures p) :
    (names.foldl (fun current name =>
      match fields.get? name with
      | none => current
      | some v => (fun a f => f a) <$> current <*> (change name v).under (.key name))
      start).Ensures p := by
  induction names generalizing start with
  | nil => exact hstart
  | cons name rest ih =>
    rw [List.foldl_cons]
    refine ih ?_
    split
    · exact hstart
    · rename_i v _
      -- the field's change acts on a section that has the property already
      refine Ensures.seq_arg (p := fun g => ∀ a, p a → p (g a)) ?_ ((hchange name v).under _)
      exact Ensures.map fun a ha g hg => hg a (hstart a ha)

end Verdict

end RuleAudit
