import RuleAudit.Proofs.Identifiers

/-!
# Texts in lower case

What lower case gives is in lower case: no run of the table holds what another one, or it itself,
moves a letter to (`missed_of_mem_lowerRuns`), and neither form of the small sigma has a place where
it changes. So a text stays as it is when it is lowered again (`lower_lower`).
-/

namespace RuleAudit.Text

/-- The images of a run are code points of characters that no run moves. -/
theorem missed_of_mem_lowerRuns : ∀ run ∈ lowerRuns,
    (decide (0 ≤ (run.first : Int) + run.shift) &&
      missed (run.move run.first) (run.move run.last) run.step lowerRuns &&
      (Nat.blt (run.move run.last) 0xD800 ||
        Nat.blt 0xDFFF (run.move run.first) && Nat.blt (run.move run.last) 0x110000)) = true := by
  decide +kernel

/-! ## Code points -/

section Code

variable {run : CaseRun} {code : Nat}

theorem lowerCode_move (hrun : run ∈ lowerRuns) (hholds : run.holds code = true) :
    lowerCode (run.move code) = run.move code := by
  have hmissed := missed_of_mem_lowerRuns run hrun
  simp only [Bool.and_eq_true, decide_eq_true_eq] at hmissed
  obtain ⟨hlow, hhigh, hstep⟩ := CaseRun.move_between hmissed.1.1 hholds
  exact moveCode_eq_of_missed hmissed.1.2 hlow hhigh hstep

theorem isValidChar_move (hrun : run ∈ lowerRuns) (hholds : run.holds code = true) :
    (run.move code).isValidChar := by
  have hmissed := missed_of_mem_lowerRuns run hrun
  simp only [Bool.and_eq_true, Bool.or_eq_true, decide_eq_true_eq, Nat.blt_eq] at hmissed
  obtain ⟨hlow, hhigh, -⟩ := CaseRun.move_between hmissed.1.1 hholds
  unfold Nat.isValidChar
  omega

/-- A lowered code point is not lowered further. -/
theorem lowerCode_lowerCode (code : Nat) : lowerCode (lowerCode code) = lowerCode code := by
  obtain hsame | ⟨run, hrun, hholds, heq⟩ := moveCode_eq_or_exists lowerRuns code
  · exact congrArg lowerCode hsame
  · have hmove : lowerCode code = run.move code := heq
    rw [hmove, lowerCode_move hrun hholds]

theorem isValidChar_lowerCode (h : code.isValidChar) : (lowerCode code).isValidChar := by
  obtain hsame | ⟨run, hrun, hholds, heq⟩ := moveCode_eq_or_exists lowerRuns code
  · rwa [lowerCode, hsame]
  · rw [lowerCode, heq]
    exact isValidChar_move hrun hholds

end Code

/-! ## Characters -/

/-- A character that lower case leaves alone, wherever it stands. -/
def IsLower (c : Char) : Prop :=
  lowerCode c.toNat = c.toNat

theorem lowerCharIn_of_isLower {c : Char} (h : IsLower c) (before after : List Char) :
    lowerCharIn before c after = [c] := by
  have hsigma : c.toNat ≠ 0x3A3 := by
    intro heq
    rw [IsLower, heq] at h
    exact absurd h (by decide +kernel)
  have hdotted : c.toNat ≠ 0x130 := by
    intro heq
    rw [IsLower, heq] at h
    exact absurd h (by decide +kernel)
  rw [lowerCharIn, if_neg hsigma, if_neg hdotted, h, Char.ofNat_toNat]

theorem isLower_of_mem_lowerCharIn {before after : List Char} {c d : Char}
    (h : d ∈ lowerCharIn before c after) : IsLower d := by
  unfold lowerCharIn at h
  split at h
  · obtain rfl := List.mem_singleton.mp h
    unfold IsLower
    split <;> decide +kernel
  · split at h
    · obtain rfl | h := List.mem_cons.mp h
      · unfold IsLower
        decide +kernel
      · obtain rfl := List.mem_singleton.mp h
        unfold IsLower
        decide +kernel
    · obtain rfl := List.mem_singleton.mp h
      have hvalid : (lowerCode c.toNat).isValidChar := isValidChar_lowerCode c.valid
      have hcode : (Char.ofNat (lowerCode c.toNat)).toNat = lowerCode c.toNat := by
        rw [Char.ofNat, dif_pos hvalid]
        rfl
      rw [IsLower, hcode, lowerCode_lowerCode]

theorem lowerCharIn_ne_nil (before : List Char) (c : Char) (after : List Char) :
    lowerCharIn before c after ≠ [] := by
  unfold lowerCharIn
  split
  · exact List.cons_ne_nil _ _
  · split <;> exact List.cons_ne_nil _ _

/-! ## Texts -/

theorem isLower_of_mem_lowerAfter {before cs : List Char} {d : Char}
    (h : d ∈ lowerAfter before cs) : IsLower d := by
  induction cs generalizing before with
  | nil => cases h
  | cons c rest ih =>
    obtain hfirst | hlater := List.mem_append.mp h
    · exact isLower_of_mem_lowerCharIn hfirst
    · exact ih hlater

theorem lowerAfter_eq_self {cs : List Char} (h : ∀ c ∈ cs, IsLower c) (before : List Char) :
    lowerAfter before cs = cs := by
  induction cs generalizing before with
  | nil => rfl
  | cons c rest ih =>
    obtain ⟨hc, hrest⟩ := List.forall_mem_cons.mp h
    rw [lowerAfter, lowerCharIn_of_isLower hc, ih hrest]
    rfl

/-- A text in lower case stays as it is. -/
@[simp] theorem lower_lower (s : String) : lower (lower s) = lower s := by
  have hlower : ∀ c ∈ lowerAfter [] s.toList, IsLower c := fun _ => isLower_of_mem_lowerAfter
  rw [lower, lower, String.toList_ofList, lowerAfter_eq_self hlower]

theorem lower_ne_empty {s : String} (h : s ≠ "") : lower s ≠ "" := by
  intro hempty
  have hnil : lowerAfter [] s.toList = [] := by
    rw [← String.toList_ofList (l := lowerAfter [] s.toList)]
    exact congrArg String.toList hempty
  cases hs : s.toList with
  | nil => exact h (String.toList_eq_nil_iff.mp hs)
  | cons c rest =>
    rw [hs, lowerAfter] at hnil
    exact lowerCharIn_ne_nil _ _ _ (List.append_eq_nil_iff.mp hnil).1

end RuleAudit.Text
