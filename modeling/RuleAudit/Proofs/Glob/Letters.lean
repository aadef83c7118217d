import Mathlib.Data.List.Basic
import RuleAudit.Pattern.CharTest
import RuleAudit.Proofs.Identifiers

/-!
# Letters without regard to case

Two characters are the same letter when their lower-case forms are equal or have one upper-case form
(`SameLetter`). The test that stands for a character of a pattern looks different: a character that
has another case is compared through lower-case forms, any other one as it is. Both come to the same
(`CharTest.passes_ofCode_full`), because what lower case gives has another case, and so have the
letters that share an upper-case form. This is read off the tables.
-/

namespace RuleAudit

namespace Text

/-! ## Code points with another case -/

/-- Whether a run holds all the code points `low, low + step, …, high`. -/
def CaseRun.spans (run : CaseRun) (low high step : Nat) : Bool :=
  Nat.ble run.first low && Nat.ble high run.last && Nat.beq ((low - run.first) % run.step) 0 &&
    (Nat.beq low high || Nat.beq (step % run.step) 0)

/-- Whether a code point has an upper-case form of its own, or several. -/
def raised (code : Nat) : Bool :=
  upperRuns.any (fun run => run.spans code code 1) ||
    upperExpansions.any fun entry => Nat.beq entry.1 code

theorem CaseRun.holds_of_spans {run : CaseRun} {low high step : Nat}
    (h : run.spans low high step = true) {code : Nat} (hlow : low ≤ code) (hhigh : code ≤ high)
    (hstep : (code - low) % step = 0) : run.holds code = true := by
  simp only [spans, Bool.and_eq_true, Bool.or_eq_true, Nat.ble_eq, Nat.beq_eq] at h
  obtain ⟨⟨⟨hfirst, hlast⟩, hstart⟩, hsteps⟩ := h
  have hmod : (code - run.first) % run.step = 0 := by
    rcases hsteps with hone | hsteps
    · rw [show code = low by omega, hstart]
    · rw [show code - run.first = (code - low) + (low - run.first) by omega]
      exact Nat.mod_eq_zero_of_dvd <| Nat.dvd_add
        (Nat.dvd_trans (Nat.dvd_of_mod_eq_zero hsteps) (Nat.dvd_of_mod_eq_zero hstep))
        (Nat.dvd_of_mod_eq_zero hstart)
  simp only [holds, Bool.and_eq_true, decide_eq_true_eq, beq_iff_eq]
  exact ⟨⟨by omega, by omega⟩, hmod⟩

/-- The runs are in ascending order. -/
theorem pairwise_first_upperRuns : (upperRuns.map CaseRun.first).Pairwise (· ≤ ·) := by
  rw [← List.isChain_iff_pairwise]
  decide +kernel

theorem shift_ne_zero_of_mem_upperRuns : ∀ run ∈ upperRuns, run.shift ≠ 0 := by
  decide +kernel

theorem move_ne_of_mem_upperRuns {run : CaseRun} (hrun : run ∈ upperRuns) {code : Nat}
    (hholds : run.holds code = true) : run.move code ≠ code := by
  have hclear := clear_of_mem_upperRuns run hrun
  rw [Bool.and_eq_true, decide_eq_true_iff] at hclear
  have hshift := shift_ne_zero_of_mem_upperRuns run hrun
  simp only [CaseRun.holds, Bool.and_eq_true, decide_eq_true_eq] at hholds
  have hcode : (run.move code : Int) = code + run.shift :=
    Int.toNat_of_nonneg (show 0 ≤ (code : Int) + run.shift by omega)
  omega

/-- The walk through ascending runs does not stop before a run that holds the code point. -/
theorem moveCode_ne {runs : List CaseRun}
    (hsorted : (runs.map CaseRun.first).Pairwise (· ≤ ·)) {code : Nat}
    (hmoves : ∀ run ∈ runs, run.holds code = true → run.move code ≠ code)
    (h : ∃ run ∈ runs, run.holds code = true) : moveCode runs code ≠ code := by
  induction runs with
  | nil =>
    obtain ⟨run, hrun, -⟩ := h
    cases hrun
  | cons first rest ih =>
    obtain ⟨hfirst, hrest⟩ := List.pairwise_cons.mp hsorted
    obtain ⟨run, hrun, hholds⟩ := h
    have hbelow : ¬ code < first.first := by
      simp only [CaseRun.holds, Bool.and_eq_true, decide_eq_true_eq] at hholds
      rcases List.mem_cons.mp hrun with rfl | hrun
      · omega
      · have hle := hfirst run.first (List.mem_map_of_mem hrun)
        omega
    unfold moveCode
    rw [if_neg hbelow]
    split
    · exact hmoves first (by simp) ‹_›
    · rename_i hnot
      refine ih hrest (fun other hother => hmoves other (by simp [hother])) ⟨run, ?_, hholds⟩
      rcases List.mem_cons.mp hrun with rfl | hrun
      · exact absurd hholds hnot
      · exact hrun

theorem isCasedCode_of_holds {run : CaseRun} (hrun : run ∈ upperRuns) {code : Nat}
    (hholds : run.holds code = true) : isCasedCode code = true := by
  have hmoved : moveCode upperRuns code ≠ code :=
    moveCode_ne pairwise_first_upperRuns (fun _ hother => move_ne_of_mem_upperRuns hother)
      ⟨run, hrun, hholds⟩
  simp [isCasedCode, hmoved]

theorem isCasedCode_of_raised {code : Nat} (h : raised code = true) : isCasedCode code = true := by
  simp only [raised, Bool.or_eq_true, List.any_eq_true, Nat.beq_eq] at h
  rcases h with ⟨run, hrun, hspans⟩ | ⟨entry, hentry, hcode⟩
  · exact isCasedCode_of_holds hrun
      (CaseRun.holds_of_spans hspans (Nat.le_refl _) (Nat.le_refl _) (Nat.mod_one _))
  · have hany : upperExpansions.any (·.1 == code) = true :=
      List.any_eq_true.mpr ⟨entry, hentry, beq_iff_eq.mpr hcode⟩
    simp [isCasedCode, hany]

/-! ## What lower case gives -/

/-- What a lower-case run gives lies in one upper-case run, or has upper-case forms one by one. -/
theorem spans_of_mem_lowerRuns : ∀ run ∈ lowerRuns,
    (decide (0 ≤ (run.first : Int) + run.shift) && Nat.blt 0 run.step &&
      (upperRuns.any (fun upper => upper.spans (run.move run.first) (run.move run.last) run.step) ||
        (List.range ((run.last - run.first) / run.step + 1)).all fun i =>
          raised (run.move (run.first + i * run.step)))) = true := by
  decide +kernel

theorem isCasedCode_move {run : CaseRun} (hrun : run ∈ lowerRuns) {code : Nat}
    (hholds : run.holds code = true) : isCasedCode (run.move code) = true := by
  have hspans := spans_of_mem_lowerRuns run hrun
  simp only [Bool.and_eq_true, decide_eq_true_eq, Nat.blt_eq, Bool.or_eq_true, List.any_eq_true,
    List.all_eq_true, List.mem_range] at hspans
  obtain ⟨⟨hshift, hstep⟩, hspans⟩ := hspans
  rcases hspans with ⟨upper, hupper, hspans⟩ | hraised
  · obtain ⟨hlow, hhigh, hmod⟩ := CaseRun.move_between hshift hholds
    exact isCasedCode_of_holds hupper (CaseRun.holds_of_spans hspans hlow hhigh hmod)
  · simp only [CaseRun.holds, Bool.and_eq_true, decide_eq_true_eq, beq_iff_eq] at hholds
    obtain ⟨⟨hfirst, hlast⟩, hmod⟩ := hholds
    have hindex : run.first + (code - run.first) / run.step * run.step = code := by
      rw [Nat.div_mul_cancel (Nat.dvd_of_mod_eq_zero hmod)]
      omega
    have hle : (code - run.first) / run.step < (run.last - run.first) / run.step + 1 :=
      Nat.lt_succ_of_le (Nat.div_le_div_right (by omega))
    have hone := hraised _ hle
    rw [hindex] at hone
    exact isCasedCode_of_raised hone

/-- What another code point is lowered to has another case. -/
theorem lowerCode_eq_or_isCased (code : Nat) :
    lowerCode code = code ∨ isCasedCode (lowerCode code) = true := by
  obtain hsame | ⟨run, hrun, hholds, heq⟩ := moveCode_eq_or_exists lowerRuns code
  · exact .inl hsame
  · right
    rw [lowerCode, heq]
    exact isCasedCode_move hrun hholds

theorem lowerCode_eq_of_not_isCased {code : Nat} (h : isCasedCode code = false) :
    lowerCode code = code := by
  simp only [isCasedCode, Bool.or_eq_false_iff, bne_eq_false_iff_eq] at h
  exact h.1.1

end Text

namespace Pattern

/-! ## Letters that share an upper-case form -/

theorem raised_of_mem_caseSiblings :
    ∀ family ∈ caseSiblings, ∀ code ∈ family, Text.raised code = true := by
  decide +kernel

/-- No letter stands in two families. -/
theorem eq_of_mem_caseSiblings : ∀ family ∈ caseSiblings, ∀ other ∈ caseSiblings,
    ∀ code ∈ family, code ∈ other → family = other := by
  decide +kernel

theorem mem_withSiblings_iff {code other : Nat} :
    other ∈ withSiblings code ↔
      other = code ∨ ∃ family ∈ caseSiblings, code ∈ family ∧ other ∈ family := by
  unfold withSiblings
  split
  · rename_i family hfind
    have hfamily := List.mem_of_find?_eq_some hfind
    have hcode : code ∈ family := by simpa using List.find?_some hfind
    rw [List.mem_cons, List.mem_filter]
    constructor
    · rintro (rfl | ⟨hmem, -⟩)
      · exact .inl rfl
      · exact .inr ⟨family, hfamily, hcode, hmem⟩
    · rintro (rfl | ⟨found, hfound, hcode', hmem⟩)
      · exact .inl rfl
      · rw [eq_of_mem_caseSiblings found hfound family hfamily code hcode' hcode] at hmem
        by_cases heq : other = code
        · exact .inl heq
        · exact .inr ⟨hmem, by simpa using heq⟩
  · rename_i hfind
    rw [List.find?_eq_none] at hfind
    rw [List.mem_singleton]
    refine ⟨.inl, ?_⟩
    rintro (rfl | ⟨family, hfamily, hcode, -⟩)
    · rfl
    · exact absurd (List.contains_iff_mem.mpr hcode) (hfind family hfamily)

/-- Two characters that do not differ when case does not count: their lower-case forms are equal,
or share an upper-case form. -/
def SameLetter (a b : Char) : Prop :=
  Text.lowerCode a.toNat = Text.lowerCode b.toNat ∨
    ∃ family ∈ caseSiblings, Text.lowerCode a.toNat ∈ family ∧ Text.lowerCode b.toNat ∈ family

instance (a b : Char) : Decidable (SameLetter a b) :=
  inferInstanceAs (Decidable (_ ∨ _))

theorem sameLetter_equivalence : Equivalence SameLetter where
  refl _ := .inl rfl
  symm := by
    rintro a b (h | ⟨family, hfamily, ha, hb⟩)
    · exact .inl h.symm
    · exact .inr ⟨family, hfamily, hb, ha⟩
  trans := by
    rintro a b c (h | ⟨family, hfamily, ha, hb⟩) (h' | ⟨family', hfamily', hb', hc⟩)
    · exact .inl (h.trans h')
    · exact .inr ⟨family', hfamily', by rwa [h], hc⟩
    · exact .inr ⟨family, hfamily, ha, by rwa [← h']⟩
    · rw [← eq_of_mem_caseSiblings family hfamily family' hfamily' _ hb hb'] at hc
      exact .inr ⟨family, hfamily, ha, hc⟩

/-- A character without another case is the same letter only as itself. -/
theorem SameLetter.eq_of_not_isCased {a b : Char} (h : SameLetter a b)
    (ha : Text.isCasedCode a.toNat = false) : a = b := by
  have hlower := Text.lowerCode_eq_of_not_isCased ha
  rcases h with h | ⟨family, hfamily, hmem, -⟩
  · rw [hlower] at h
    rcases Text.lowerCode_eq_or_isCased b.toNat with hsame | hcased
    · rw [hsame] at h
      exact Char.toNat_inj.mp h
    · rw [← h, ha] at hcased
      cases hcased
  · rw [hlower] at hmem
    have hcased := Text.isCasedCode_of_raised (raised_of_mem_caseSiblings family hfamily _ hmem)
    rw [ha] at hcased
    cases hcased

/-- The test of a character passes the characters that are the same letter. -/
theorem CharTest.passes_ofCode_full (a b : Char) :
    (CharTest.ofCode .full false a.toNat).passes b = true ↔ SameLetter a b := by
  unfold CharTest.ofCode
  split
  · have hmem : Text.lowerCode b.toNat ∈ withSiblings (Text.lowerCode a.toNat) ↔
        SameLetter a b := by
      rw [mem_withSiblings_iff, SameLetter, eq_comm]
    rw [← hmem]
    simp [CharTest.passes, SetItem.holds, Folding.apply]
  · rename_i hcased
    rw [Folding.isCased, Bool.not_eq_true] at hcased
    have hpasses : (⟨false, .exact, [.code a.toNat]⟩ : CharTest).passes b = true ↔ b = a := by
      simp [CharTest.passes, SetItem.holds, Folding.apply, Char.toNat_inj]
    rw [hpasses]
    constructor
    · rintro rfl
      exact sameLetter_equivalence.refl b
    · intro h
      exact (h.eq_of_not_isCased hcased).symm

end Pattern

end RuleAudit
