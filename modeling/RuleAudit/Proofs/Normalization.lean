import RuleAudit.Proofs.Keyed
import RuleAudit.Proofs.LowerCase

/-!
# Rules in normal form

A rule that has been read is in normal form (`Rule.normalized_of_read`): its identifier and its
category are what normalising them gives, its name is not empty, and it goes without principles only
where its category stands for none. A rule in normal form is written as an entry in which nothing is
left to be filled in, so reading that entry gives the same rule (`Rule.read_toValue`).
-/

namespace RuleAudit

/-! ## Values that are given -/

theorem Binary64.positional_ne_nil (digits : List Char) (exponent : Int) :
    positional digits exponent ≠ [] := by
  unfold positional
  split <;> simp

theorem Binary64.scientific_ne_nil (digits : List Char) (lead : Int) :
    scientific digits lead ≠ [] := by
  unfold scientific
  dsimp only
  split <;> simp

theorem Binary64.text_ne_empty (x : Binary64) : x.text ≠ "" := by
  unfold text
  split
  · decide
  · split <;> decide
  · dsimp only
    split
    · simp [String.ofList_eq_empty_iff]
    · rw [ne_eq, String.ofList_eq_empty_iff, List.append_eq_nil_iff, not_and]
      intro _
      exact iteInduction (motive := fun body => ¬ body = [])
        (fun _ => positional_ne_nil _ _) fun _ => scientific_ne_nil _ _

theorem Moment.plain_ne_empty (m : Moment) : m.plain ≠ "" := by
  cases m with
  | date d => simp [plain, dayText, toString]
  | time c =>
    simp only [plain, clockText]
    split <;> simp [toString]
  | instant d c offset => cases offset <;> simp [plain, dayText, toString]

/-- A value that is given has a text to it. -/
theorem Value.display_ne_empty {v : Value} (h : v.isTruthy = true) : v.display ≠ "" := by
  cases v with
  | null => cases h
  | bool b =>
    cases h
    decide
  | int n =>
    cases n with
    | ofNat n => exact Nat.repr_ne_empty
    | negSucc n => simp [display, literal, toString, Int.repr]
  | float x => exact x.text_ne_empty
  | text s => simpa [display, isTruthy] using h
  | moment m => exact m.plain_ne_empty
  | list items => simp [display, literal]
  | table fields => simp [display, literal]

/-! ## Checks of what is written -/

namespace Check

@[simp] theorem sequence_texts (items : List String) :
    sequence text (.texts items) = .valid items := by
  have hitems : ∀ (items : List String) (i : Nat),
      Verdict.itemsFrom text i (items.map .text) = .valid items := by
    intro items
    induction items with
    | nil => exact fun _ => rfl
    | cons item rest ih =>
      intro i
      rw [List.map_cons, Verdict.itemsFrom, ih]
      rfl
  exact hitems items 0

/-- Only an empty list is read as no texts. -/
theorem eq_of_sequence_eq_nil {v : Value} (h : sequence text v = .valid []) : v = .list [] := by
  cases v with
  | list items =>
    cases items with
    | nil => rfl
    | cons item rest =>
      obtain ⟨_, _, hcons, -, hnil⟩ := Verdict.seq_eq_valid_iff.mp h
      obtain ⟨_, -, rfl⟩ := Verdict.map_eq_valid_iff.mp hcons
      cases hnil
  | _ => cases h

@[simp] theorem nullable_ofOption (o : Option String) :
    nullable text (.ofOption .text o) = .valid o := by
  cases o <;> rfl

@[simp] theorem text_text (s : String) : text (.text s) = .valid s :=
  rfl

theorem eq_of_text_eq {v : Value} {s : String} (h : text v = .valid s) : v = .text s := by
  cases v with
  | text t => rw [Verdict.valid.inj h]
  | _ => cases h

section Field

variable {α : Type} {fields : Keyed Value} {name : String} {check : Value → Verdict α}
  {v : Value} {a : α}

theorem required_eq_valid (h : fields.get? name = some v) (hv : check v = .valid a) :
    required fields name check = .valid a := by
  rw [required, h]
  exact Verdict.under_eq_valid_iff.mpr hv

theorem optional_eq_valid (h : fields.get? name = some v) (hv : check v = .valid a) (initial : α) :
    optional fields name initial check = .valid a := by
  rw [optional, h]
  exact Verdict.under_eq_valid_iff.mpr hv

theorem check_eq_valid_of_optional {initial : α} (hname : fields.get? name = some v)
    (h : optional fields name initial check = .valid a) : check v = .valid a := by
  rw [optional, hname] at h
  exact Verdict.under_eq_valid_iff.mp h

end Field

end Check

/-! ## Categories -/

@[simp] theorem Category.principles_lower (category : String) :
    principles (Text.lower category) = principles category := by
  rw [principles, principles, Text.lower_lower]

/-- Only a text that is given as a category has principles. -/
theorem Category.exists_of_principlesOf {v : Value} (hgiven : v.isTruthy = true)
    {names : List String} (h : principlesOf v = .ok names) :
    ∃ category, v = .text category ∧ category ≠ "" ∧ principles category = names := by
  unfold principlesOf at h
  rw [if_pos hgiven] at h
  split at h
  · rename_i category
    exact ⟨category, rfl, by simpa [Value.isTruthy] using hgiven, Except.ok.inj h⟩
  · cases h

namespace Rule

@[simp] theorem lower_categoryOf (v : Value) : Text.lower (categoryOf v) = categoryOf v :=
  Text.lower_lower _

theorem categoryOf_ne_empty (v : Value) : categoryOf v ≠ "" := by
  refine Text.lower_ne_empty ?_
  split
  · exact Value.display_ne_empty ‹_›
  · decide

theorem categoryOf_text {category : String} (h : category ≠ "") :
    categoryOf (.text category) = Text.lower category := by
  simp [categoryOf, Value.isTruthy, Value.display, h]

@[simp] theorem checkSeverity_word (s : Severity) : checkSeverity (.text s.word) = .valid s := by
  have hlower : Text.lower s.word = s.word := by cases s <;> decide +kernel
  simp only [checkSeverity, hlower]
  cases s <;> rfl

/-! ## Reading field by field -/

/-- The category is read from the field for it, or is the default. -/
theorem ReadFrom.category_eq {fields : Keyed Value} {r : Rule} (h : ReadFrom fields r) :
    r.category = categoryOf ((fields.get? "category").getD .null) := by
  have hcategory := h.category
  unfold Check.optional at hcategory
  split at hcategory
  · rename_i v hv
    rw [hv]
    exact (Verdict.valid.inj (Verdict.under_eq_valid_iff.mp hcategory)).symm
  · rename_i hnone
    rw [hnone, ← Verdict.valid.inj hcategory]
    decide +kernel

/-! ## Completing an entry -/

theorem given_iff {fields : Keyed Value} {key : String} :
    ((fields.get? key).map Value.isTruthy).getD false = true ↔
      ∃ v, fields.get? key = some v ∧ v.isTruthy = true := by
  cases fields.get? key <;> simp

/-- A completed entry has a name. -/
theorem given_name_withName (fields : Keyed Value) :
    ∃ v, (withName fields).get? "name" = some v ∧ v.isTruthy = true := by
  unfold withName
  dsimp only
  split
  · exact given_iff.mp ‹_›
  · split
    · rename_i htitle
      obtain ⟨v, hv, hgiven⟩ := given_iff.mp htitle
      exact ⟨v, by rw [hv, Keyed.get?_put_self]; rfl, hgiven⟩
    · exact ⟨_, Keyed.get?_put_self _ _ _, by simp [Value.isTruthy]⟩

/-- An entry keeps the principles that it gives, and gets those of its category otherwise. -/
theorem withPrinciples_cases {fields completed : Keyed Value}
    (h : withPrinciples fields = .valid completed) :
    (completed = fields ∧ ∃ v, fields.get? "principles" = some v ∧ v.isTruthy = true) ∨
      completed = fields.put "principles"
        (.texts (Category.principles (categoryOf ((fields.get? "category").getD .null)))) := by
  unfold withPrinciples at h
  dsimp only at h
  split at h
  · exact .inl ⟨(Verdict.valid.inj h).symm, given_iff.mp ‹_›⟩
  · right
    split at h
    · rename_i hcategory
      obtain ⟨v, hv, hgiven⟩ := given_iff.mp hcategory
      rw [hv, Option.getD_some] at h ⊢
      split at h
      · rename_i names hnames
        obtain ⟨category, rfl, hne, rfl⟩ := Category.exists_of_principlesOf hgiven hnames
        rw [categoryOf_text hne, Category.principles_lower, ← Verdict.valid.inj h]
      · cases h
    · rename_i hcategory
      have hdefault : categoryOf ((fields.get? "category").getD .null) = Text.lower "quality" := by
        cases hv : fields.get? "category" with
        | none => rfl
        | some v =>
          have hnot : v.isTruthy ≠ true := fun hgiven => hcategory (given_iff.mpr ⟨v, hv, hgiven⟩)
          rw [Option.getD_some, categoryOf, if_neg hnot]
      rw [hdefault, Category.principles_lower, ← Verdict.valid.inj h]

/-! ## Rules in normal form -/

/-- A rule as reading leaves it. -/
structure Normalized (r : Rule) : Prop where
  id : normalizeId r.id = r.id
  named : r.name ≠ ""
  category : Text.lower r.category = r.category
  categorized : r.category ≠ ""
  /-- It goes without principles only where it would get none. -/
  principles : r.principles = [] → Category.principles r.category = []

instance (r : Rule) : Decidable r.Normalized :=
  decidable_of_iff (normalizeId r.id = r.id ∧ r.name ≠ "" ∧ Text.lower r.category = r.category ∧
      r.category ≠ "" ∧ (r.principles = [] → Category.principles r.category = []))
    ⟨fun ⟨hid, hnamed, hcategory, hcategorized, hprinciples⟩ =>
      ⟨hid, hnamed, hcategory, hcategorized, hprinciples⟩,
    fun h => ⟨h.id, h.named, h.category, h.categorized, h.principles⟩⟩

theorem normalized_of_read {v : Value} {r : Rule} (h : read v = .ok r) : r.Normalized := by
  have hcheck : check v = .valid r := Verdict.toExcept_eq_ok_iff.mp h
  cases v with
  | table fields =>
    obtain ⟨completed, hcompleted, hfields⟩ := Verdict.andThen_eq_valid_iff.mp hcheck
    have hread := ofFields_eq_valid_iff.mp hfields
    obtain ⟨name, hname, hnamed⟩ := given_name_withName fields
    have hcategory := hread.category_eq
    have hkeeps : completed.get? "name" = some name := by
      obtain ⟨rfl, -⟩ | rfl := withPrinciples_cases hcompleted
      · exact hname
      · rw [Keyed.get?_put_ne _ _ (by decide), hname]
    refine ⟨normalizeId_id_of_read h, ?_, ?_, ?_, fun hnone => ?_⟩
    · obtain rfl := Check.eq_of_text_eq (Check.check_eq_valid_of_optional hkeeps hread.name)
      simpa [Value.isTruthy] using hnamed
    · rw [hcategory, lower_categoryOf]
    · rw [hcategory]
      exact categoryOf_ne_empty _
    · obtain ⟨rfl, v, hv, hgiven⟩ | rfl := withPrinciples_cases hcompleted
      · -- principles that are given are some
        have hempty := Check.check_eq_valid_of_optional hv (hnone ▸ hread.principles)
        rw [Check.eq_of_sequence_eq_nil hempty] at hgiven
        cases hgiven
      · have hprinciples := Check.check_eq_valid_of_optional (Keyed.get?_put_self _ _ _)
          hread.principles
        rw [Check.sequence_texts] at hprinciples
        rw [hcategory, Keyed.get?_put_ne _ _ (by decide), Verdict.valid.inj hprinciples, hnone]
  | _ => cases hcheck

/-! ## Reading back -/

/-- The fields that a rule is written as. -/
def written (r : Rule) : Keyed Value :=
  match r.toValue with
  | .table fields => fields
  | _ => []

theorem readFrom_written {r : Rule} (h : r.Normalized) : ReadFrom r.written r where
  id := by
    refine Check.required_eq_valid rfl ?_
    rw [Value.display, h.id]
  name := Check.optional_eq_valid rfl (Check.text_text _) _
  description := Check.optional_eq_valid rfl (Check.text_text _) _
  category := by
    refine Check.optional_eq_valid rfl ?_ _
    rw [categoryOf_text h.categorized, h.category]
  severity := Check.optional_eq_valid rfl (checkSeverity_word _) _
  languages := Check.optional_eq_valid rfl (Check.sequence_texts _) _
  principles := Check.optional_eq_valid rfl (Check.sequence_texts _) _
  analyzer := Check.optional_eq_valid rfl (Check.nullable_ofOption _) _
  engines := Check.optional_eq_valid rfl (Check.sequence_texts _) _
  patterns := Check.optional_eq_valid rfl (Check.sequence_texts _) _
  message := Check.optional_eq_valid rfl (Check.nullable_ofOption _) _
  version := Check.optional_eq_valid rfl (Check.text_text _) _
  status := Check.optional_eq_valid rfl (Check.text_text _) _
  tags := Check.optional_eq_valid rfl (Check.sequence_texts _) _

theorem withName_written {r : Rule} (h : r.Normalized) : withName r.written = r.written := by
  have hgiven : ((Keyed.get? r.written "name").map Value.isTruthy).getD false = true :=
    given_iff.mpr ⟨.text r.name, rfl, by simpa [Value.isTruthy] using h.named⟩
  unfold withName
  dsimp only
  rw [if_pos hgiven]

theorem withPrinciples_written {r : Rule} (h : r.Normalized) :
    withPrinciples r.written = .valid r.written := by
  unfold withPrinciples
  dsimp only
  split
  · rfl
  · rename_i hnot
    -- the category of a rule without principles stands for none, and none are put again
    have hnone : r.principles = [] := by
      by_contra hsome
      exact hnot (given_iff.mpr ⟨.texts r.principles, rfl, by
        simpa [Value.texts, Value.isTruthy] using hsome⟩)
    have hgiven : (Value.text r.category).isTruthy = true := by
      simpa [Value.isTruthy] using h.categorized
    have hnames : Category.principlesOf (.text r.category) = .ok [] := by
      rw [Category.principlesOf, if_pos hgiven, h.principles hnone]
    have hcategory : (Keyed.get? r.written "category").getD .null = .text r.category := rfl
    have hput : r.written.put "principles" (.texts []) = r.written :=
      Keyed.put_of_get? (hnone ▸ rfl)
    rw [if_pos (given_iff.mpr ⟨.text r.category, rfl, hgiven⟩), hcategory, hnames]
    exact congrArg Verdict.valid hput

/-- A rule in normal form is read back from the entry that it is written as. -/
theorem read_toValue {r : Rule} (h : r.Normalized) : read r.toValue = .ok r := by
  have hcheck : (withPrinciples (withName r.written)).andThen ofFields = .valid r := by
    rw [withName_written h, withPrinciples_written h]
    exact ofFields_eq_valid_iff.mpr (readFrom_written h)
  exact Verdict.toExcept_eq_ok_iff.mpr hcheck

end Rule

end RuleAudit
