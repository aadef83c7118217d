import RuleAudit.Proofs.Verdict
import RuleAudit.Settings
import RuleAudit.Workload

/-!
# Valid limits

A batch size that limits give is positive. Reading and assigning let nothing else through
(`Settings.valid_of_read`, `Settings.valid_of_assign`), and so rules can always be cut into batches
(`Limits.Valid.resolveBatchSize_pos`).
-/

namespace RuleAudit

namespace Limits

/-- A batch size that is given is positive. -/
def Valid (l : Limits) : Prop :=
  ∀ size, l.ruleBatchSize = some size → 0 < size

theorem valid_default : Valid {} := by
  intro size hsize
  cases hsize

theorem markExplicit_ruleBatchSize (l : Limits) (name : String) :
    (l.markExplicit name).ruleBatchSize = l.ruleBatchSize := by
  unfold markExplicit
  split <;> rfl

theorem ensures_checkBatchSize (v : Value) :
    (checkBatchSize v).Ensures fun given => ∀ size, given = some size → 0 < size := by
  refine Verdict.Ensures.andThen _ fun given => ?_
  cases given with
  | none => exact Verdict.ensures_valid fun size hsize => by cases hsize
  | some n =>
    dsimp only
    split
    · exact Verdict.ensures_issue _ _
    · refine Verdict.ensures_valid fun size hsize => ?_
      cases hsize
      omega

/-- A field that is set to what its check lets through keeps limits valid. -/
theorem ensures_set {α : Type} {p : α → Prop} {found : Verdict α} {f : α → Limits → Limits}
    (name : String) (hfound : found.Ensures p)
    (h : ∀ a l, p a → l.Valid → (f a l).Valid) :
    (found.map fun a (l : Limits) => (f a l).markExplicit name).Ensures
      fun g => ∀ l, l.Valid → (g l).Valid := by
  refine Verdict.Ensures.map fun a ha l hl size hsize => ?_
  rw [markExplicit_ruleBatchSize] at hsize
  exact h a l (hfound a ha) hl size hsize

theorem ensures_change (name : String) (v : Value) :
    (change name v).Ensures fun g => ∀ l, l.Valid → (g l).Valid := by
  have hother {α : Type} (found : Verdict α) (f : α → Limits → Limits)
      (h : ∀ a l, (f a l).ruleBatchSize = l.ruleBatchSize) :
      (found.map fun a (l : Limits) => (f a l).markExplicit name).Ensures
        fun g => ∀ l, l.Valid → (g l).Valid := by
    refine ensures_set (p := fun _ => True) name (fun _ _ => trivial) fun a l _ hl size hsize => ?_
    exact hl size ((h a l).symm.trans hsize)
  unfold change
  dsimp only
  split
  -- of all fields only the batch size matters, and its check refuses what is not positive
  case h_6 => exact ensures_set _ (ensures_checkBatchSize v) fun given l hgiven _ => hgiven
  case h_14 => exact Verdict.ensures_issue _ _
  all_goals exact hother _ _ fun _ _ => rfl

theorem ensures_check (v : Value) : (check v).Ensures Valid :=
  Verdict.Ensures.model
    (fun fields => Verdict.Ensures.foldl_change ensures_change fields fieldNames
      (Verdict.ensures_valid valid_default)) v

theorem valid_of_assign {l l' : Limits} {name : String} {v : Value} (hl : l.Valid)
    (h : l.assign name v = .ok l') : l'.Valid := by
  refine Verdict.Ensures.of_toExcept ?_ h
  exact Verdict.Ensures.map fun g hg => ((ensures_change name v).under _) g hg l hl

theorem Valid.resolveBatchSize_pos {l : Limits} (h : l.Valid) (files : Int) :
    0 < resolveBatchSize l files := by
  have hdflt : 0 < resolveBatchSize.dflt files := by
    unfold resolveBatchSize.dflt
    split <;> omega
  unfold resolveBatchSize
  split
  · rename_i size hsize
    split
    · exact h size hsize
    · exact hdflt
  · exact hdflt

end Limits

namespace Settings

theorem ensures_change (name : String) (v : Value) :
    (change name v).Ensures fun g => ∀ s, s.performance.Valid → (g s).performance.Valid := by
  unfold change
  split
  · exact Verdict.Ensures.map fun _ _ s hs => hs
  · exact Verdict.Ensures.map fun _ _ s hs => hs
  · exact Verdict.Ensures.map fun l hl s _ => Limits.ensures_check v l hl
  · exact Verdict.Ensures.map fun _ _ s hs => hs
  · exact Verdict.ensures_issue _ _

/-- Settings that are read have valid limits. -/
theorem valid_of_read {v : Value} {s : Settings} (h : read v = .ok s) : s.performance.Valid := by
  refine Verdict.Ensures.of_toExcept (p := fun s => s.performance.Valid) ?_ h
  refine Verdict.Ensures.model (fun fields => ?_) v
  exact Verdict.Ensures.foldl_change ensures_change fields sectionNames
    (Verdict.ensures_valid Limits.valid_default)

/-- Assigning a section or a field keeps the limits valid. -/
theorem valid_of_assign {s s' : Settings} {path : List String} {v stored : Value}
    (hs : s.performance.Valid) (h : s.assign path v = .ok (s', stored)) :
    s'.performance.Valid := by
  unfold assign at h
  split at h
  · rename_i name
    obtain ⟨g, hg, hpair⟩ := exists_of_map_eq_ok h
    obtain ⟨rfl, -⟩ := Prod.mk.inj hpair
    exact Verdict.Ensures.of_toExcept ((ensures_change name v).under _) hg s hs
  · obtain ⟨engines, -, hpair⟩ := exists_of_map_eq_ok h
    obtain ⟨rfl, -⟩ := Prod.mk.inj hpair
    exact hs
  · obtain ⟨limits, hlimits, hpair⟩ := exists_of_map_eq_ok h
    obtain ⟨rfl, -⟩ := Prod.mk.inj hpair
    exact Limits.valid_of_assign hs hlimits
  · obtain ⟨output, -, hpair⟩ := exists_of_map_eq_ok h
    obtain ⟨rfl, -⟩ := Prod.mk.inj hpair
    exact hs
  all_goals cases h

@[simp] theorem requesting_performance (s : Settings) (engine : Option String) :
    (s.requesting engine).performance = s.performance := by
  cases engine <;> simp only [requesting]

end Settings

end RuleAudit
