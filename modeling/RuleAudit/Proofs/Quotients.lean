import Mathlib.Algebra.Order.Floor.Div
import Mathlib.GroupTheory.GroupAction.Ring
import RuleAudit.Proofs.Workload

/-!
# Quotients in double precision

Parts of a number, each divided and rounded up, come to at least the whole divided and rounded up,
and to less than one more for each part after the first (`ceilDiv_sum_le`, `sum_ceilDiv_le`).

A quotient in double precision is rounded, yet rounding it up to an integer afterwards gives what
the exact quotient gives, as long as the numerator is below `2^53` and the denominator below
`2^1075` (`Binary64.ceiling_ofRatio`). The quotient lies at least `1 / den` above the next lower
integer, which is more than half the distance of the doubles around it, so it is not rounded down
to that integer. So the number of batches is counted exactly (`batchCount_eq_ceilDiv`).
-/

namespace RuleAudit

/-! ## Exact quotients -/

section CeilDiv

variable {den : Nat}

theorem le_ceilDiv_mul (hden : 0 < den) (num : Nat) : num ≤ num ⌈/⌉ den * den := by
  rw [Nat.mul_comm]
  exact (ceilDiv_le_iff_le_mul hden).mp le_rfl

theorem ceilDiv_mul_lt (hden : 0 < den) (num : Nat) : num ⌈/⌉ den * den < num + den := by
  have hle := Nat.div_mul_le_self (num + den - 1) den
  rw [Nat.ceilDiv_eq_add_pred_div]
  omega

theorem ceilDiv_mono (hden : 0 < den) {m n : Nat} (h : m ≤ n) : m ⌈/⌉ den ≤ n ⌈/⌉ den := by
  refine (ceilDiv_le_iff_le_mul hden).mpr (h.trans ?_)
  exact (ceilDiv_le_iff_le_mul hden).mp le_rfl

/-- Two parts rounded up come to the whole rounded up, or to one more. -/
theorem ceilDiv_add_bounds (hden : 0 < den) (m n : Nat) :
    (m + n) ⌈/⌉ den ≤ m ⌈/⌉ den + n ⌈/⌉ den ∧
      m ⌈/⌉ den + n ⌈/⌉ den ≤ (m + n) ⌈/⌉ den + 1 := by
  have hm := le_ceilDiv_mul hden m
  have hn := le_ceilDiv_mul hden n
  have hm' := ceilDiv_mul_lt hden m
  have hn' := ceilDiv_mul_lt hden n
  have hboth := le_ceilDiv_mul hden (m + n)
  constructor
  · rw [ceilDiv_le_iff_le_mul hden, Nat.mul_comm, Nat.add_mul]
    exact Nat.add_le_add hm hn
  · refine Nat.le_of_lt_succ (Nat.lt_of_mul_lt_mul_right (a := den) ?_)
    rw [Nat.succ_mul, Nat.add_mul, Nat.add_mul]
    omega

/-- Parts rounded up one by one come to at least the whole rounded up. -/
theorem ceilDiv_sum_le (hden : 0 < den) (parts : List Nat) :
    parts.sum ⌈/⌉ den ≤ (parts.map fun n => n ⌈/⌉ den).sum := by
  induction parts with
  | nil => simp
  | cons n rest ih =>
    have hadd := (ceilDiv_add_bounds hden n rest.sum).1
    simp only [List.sum_cons, List.map_cons]
    omega

/-- They come to at most one more for each part after the first. -/
theorem sum_ceilDiv_le (hden : 0 < den) (parts : List Nat) :
    (parts.map fun n => n ⌈/⌉ den).sum ≤ parts.sum ⌈/⌉ den + (parts.length - 1) := by
  induction parts with
  | nil => simp
  | cons n rest ih =>
    have hadd := (ceilDiv_add_bounds hden n rest.sum).2
    cases rest with
    | nil => simp
    | cons m later =>
      simp only [List.sum_cons, List.map_cons, List.length_cons] at ih hadd ⊢
      omega

end CeilDiv

namespace Binary64

/-! ## Rounding to integers -/

theorem roundDiv_le {num den most : Nat} (hden : 0 < den) (h : num ≤ most * den) :
    roundDiv num den ≤ most := by
  have hquot : num / den ≤ most := Nat.div_le_of_le_mul (by rwa [Nat.mul_comm])
  have hsplit := Nat.div_add_mod num den
  unfold roundDiv
  dsimp only
  split
  · exact hquot
  · rename_i hup
    -- rounded up, the quotient has a remainder, so it is below the bound
    rcases Nat.eq_or_lt_of_le hquot with heq | hlt
    · have hrest : num % den = 0 := by
        rw [heq, Nat.mul_comm] at hsplit
        omega
      simp [hrest, hden] at hup
    · omega

/-- What lies more than half above an integer is rounded to a greater one. -/
theorem lt_roundDiv {num den least more : Nat} (hden : 0 < den) (hhalf : den < 2 * more)
    (h : least * den + more ≤ num) : least < roundDiv num den := by
  have hquot : least ≤ num / den := (Nat.le_div_iff_mul_le hden).mpr (by omega)
  have hsplit := Nat.div_add_mod num den
  unfold roundDiv
  dsimp only
  split
  · rename_i hdown
    rcases Nat.eq_or_lt_of_le hquot with heq | hlt
    · rw [← heq, Nat.mul_comm] at hsplit
      have hmore : more ≤ num % den := by omega
      simp at hdown
      omega
    · exact hlt
  · omega

/-! ## Rounding up doubles -/

theorem toRatio?_finite (m k : Nat) :
    (finite false m (-(k : Int))).toRatio? = some ((m : Int), 2 ^ k) := by
  unfold toRatio?
  cases k with
  | zero => simp
  | succ k =>
    dsimp only
    rw [if_neg (by omega), if_neg (by decide), Int.neg_neg, Int.one_mul]
    rfl

/-- A double above one integer and at most the next is rounded up to the latter. -/
theorem ceiling_finite {m k c : Nat} (habove : c * 2 ^ k < m + 2 ^ k) (hbelow : m ≤ c * 2 ^ k) :
    ceiling (.finite false m (-(k : Int))) = some (c : Int) := by
  unfold ceiling
  rw [toRatio?_finite]
  have hpos : 0 < 2 ^ k := Nat.two_pow_pos k
  generalize 2 ^ k = d at *
  have hlower : -(c : Int) ≤ -(m : Int) / d := by
    refine Int.le_ediv_of_mul_le (by omega) ?_
    rw [Int.neg_mul]
    exact_mod_cast Int.neg_le_neg (by exact_mod_cast hbelow)
  have hupper : -(m : Int) / d < -(c : Int) + 1 := by
    refine Int.ediv_lt_of_lt_mul (by omega) ?_
    rw [Int.add_mul, Int.neg_mul, Int.one_mul]
    have : (c : Int) * d < m + d := by exact_mod_cast habove
    omega
  have hceiling : -Int.fdiv (-(m : Int)) d = c := by
    rw [Int.fdiv_eq_ediv_of_nonneg _ (Int.natCast_nonneg d)]
    omega
  exact congrArg some hceiling

/-! ## Quotients -/

theorem log2_lt_of_lt_two_pow {n k : Nat} (hpos : 0 < n) (h : n < 2 ^ k) : Nat.log2 n < k :=
  (Nat.log2_lt (Nat.ne_of_gt hpos)).mpr h

/-- Half a unit in the last place of a quotient is less than the quotient's distance from any
integer. -/
theorem den_lt_two_mul {num den k : Nat} (hnum : Nat.log2 num < 53) (hden : Nat.log2 den < 1075)
    (hk : max (leadingBit num den - 52) (-1074) = -(k : Int)) : den < 2 * 2 ^ k := by
  rcases Nat.eq_zero_or_pos den with rfl | hpos
  · exact Nat.mul_pos Nat.two_pos (Nat.two_pow_pos k)
  · have hlead := leadingBit_le num den
    have hbits : Nat.log2 den < k + 1 := by omega
    rw [← Nat.pow_succ']
    exact (Nat.log2_lt (by omega)).mp hbits

/-- Rounding a quotient up gives the same in double precision as exactly. -/
theorem ceiling_ofRatio {num den : Nat} (hpos : 0 < den) (hnum : num < 2 ^ 53)
    (hden : Nat.log2 den < 1075) :
    ceiling (ofRatio false num den) = some ((num ⌈/⌉ den : Nat) : Int) := by
  rcases Nat.eq_zero_or_pos num with rfl | hsome
  · rw [zero_ceilDiv]
    rfl
  have hlog : Nat.log2 num < 53 := log2_lt_of_lt_two_pow hsome hnum
  have hlead := leadingBit_le num den
  obtain ⟨k, hk⟩ : ∃ k : Nat, max (leadingBit num den - 52) (-1074) = -(k : Int) :=
    ⟨(-max (leadingBit num den - 52) (-1074)).toNat, by omega⟩
  have hhalf := den_lt_two_mul hlog hden hk
  -- the exact quotient lies above `c` and at most at `c + 1`, and so does the rounded one
  have hbelow := le_ceilDiv_mul hpos num
  have habove := ceilDiv_mul_lt hpos num
  obtain ⟨c, hc⟩ : ∃ c, num ⌈/⌉ den = c + 1 := by
    refine Nat.exists_eq_add_one.mpr (Nat.pos_of_ne_zero fun hzero => ?_)
    rw [hzero, Nat.zero_mul] at hbelow
    omega
  rw [hc] at hbelow habove
  rw [Nat.succ_mul] at habove
  have hm : (if 0 ≤ -(k : Int) then roundDiv num (den * Nat.pow 2 (-(k : Int)).toNat)
      else roundDiv (num * Nat.pow 2 (- -(k : Int)).toNat) den) = roundDiv (num * 2 ^ k) den := by
    cases k with
    | zero => simp
    | succ k =>
      rw [if_neg (by omega), Int.neg_neg]
      rfl
  have hle : roundDiv (num * 2 ^ k) den ≤ (c + 1) * 2 ^ k := by
    refine roundDiv_le hpos ?_
    rw [Nat.mul_right_comm]
    exact Nat.mul_le_mul_right _ hbelow
  have hlt : c * 2 ^ k < roundDiv (num * 2 ^ k) den := by
    refine lt_roundDiv hpos hhalf ?_
    calc c * 2 ^ k * den + 2 ^ k = (c * den + 1) * 2 ^ k := by
          rw [Nat.succ_mul, Nat.mul_right_comm]
      _ ≤ num * 2 ^ k := Nat.mul_le_mul_right _ (by omega)
  unfold ofRatio
  rw [if_neg (by simpa using (by omega : num ≠ 0)), hk]
  dsimp only
  rw [hm, hc]
  generalize roundDiv (num * 2 ^ k) den = m at hle hlt
  split
  · rename_i hcarry
    obtain rfl : m = 2 ^ 53 := by simpa using hcarry
    cases k with
    | zero =>
      -- an integer this large would not be below the numerator
      have hden : c * 1 ≤ c * den := Nat.mul_le_mul_left c hpos
      omega
    | succ k =>
      have hpow : 2 ^ (k + 1) = 2 ^ k * 2 := Nat.pow_succ 2 k
      rw [hpow, ← Nat.mul_assoc] at hle hlt
      have hup : -((k + 1 : Nat) : Int) + 1 = -(k : Int) := by omega
      rw [hup, if_neg (by omega)]
      refine ceiling_finite ?_ ?_
      · change (c + 1) * 2 ^ k < 2 ^ 52 + 2 ^ k
        rw [Nat.succ_mul]
        omega
      · change 2 ^ 52 ≤ (c + 1) * 2 ^ k
        omega
  · rw [if_neg (by omega)]
    exact ceiling_finite (by rw [Nat.succ_mul]; omega) hle

end Binary64

/-- The number of batches is the exact quotient rounded up. -/
theorem batchCount_eq_ceilDiv {limits : Limits} {files : Int} {size : Nat}
    (hsize : resolveBatchSize limits files = size) (hpos : 0 < size) {rules : Nat}
    (hrules : rules < 2 ^ 53) (hlog : Nat.log2 size < 1075) :
    batchCount limits rules files = .ok ((rules ⌈/⌉ size : Nat) : Int) := by
  have hsign : decide ((rules : Int) < 0) = false := decide_eq_false (by omega)
  unfold batchCount Binary64.ofFraction
  dsimp only
  rw [hsize, if_neg (by omega), Int.natAbs_natCast, Int.natAbs_natCast, hsign,
    Binary64.ceiling_ofRatio hpos hrules hlog]

end RuleAudit
