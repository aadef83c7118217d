import Mathlib.Algebra.Order.Floor.Div
import Mathlib.Data.List.Basic
import RuleAudit.Workload

/-!
# Consecutive pieces

`chunks size items` cuts a list into consecutive pieces. For a positive size the pieces are the
windows `items[i · size ..]` of length `size`, the last perhaps shorter (`chunks_getElem?`), and
together they are the list again (`flatten_chunks`). Each of them is non-empty and at most `size`
long, and all but the last are `size` long, so their number is the rounded-up quotient
(`length_chunks`) and a list longer than `size` has at least two. The batches of an engine's rules
are these pieces, numbered in order (`createBatches_cutsEvenly`).
-/

namespace RuleAudit

variable {α : Type}

/-- Once the fuel covers the items, more of it changes nothing. -/
theorem chunksFrom_eq_of_le {size : Nat} (hsize : 0 < size) :
    ∀ {fuel : Nat} {items : List α}, items.length ≤ fuel →
      chunksFrom size fuel items = chunks size items := by
  intro fuel
  induction fuel using Nat.strongRecOn with
  | ind fuel ih =>
    intro items hlen
    match fuel, items with
    | 0, [] => rfl
    | fuel + 1, [] => rfl
    | fuel + 1, a :: rest =>
      -- both sides cut off the same piece and go on with fewer items than fuel
      have hdrop : ((a :: rest).drop size).length ≤ rest.length := by
        simp only [List.length_drop, List.length_cons]
        omega
      have hrest : rest.length ≤ fuel := by simpa using hlen
      have hleft := ih fuel (by omega) (Nat.le_trans hdrop hrest)
      have hright := ih rest.length (by omega) hdrop
      show _ :: chunksFrom size fuel _ = _ :: chunksFrom size rest.length _
      rw [hleft, hright]

@[simp] theorem chunks_nil (size : Nat) : chunks size ([] : List α) = [] := rfl

/-- A non-empty list is cut into its first `size` items and the pieces of the others. -/
theorem chunks_of_ne_nil {size : Nat} (hsize : 0 < size) {items : List α} (h : items ≠ []) :
    chunks size items = items.take size :: chunks size (items.drop size) := by
  obtain ⟨a, rest, rfl⟩ := List.exists_cons_of_ne_nil h
  have hdrop : ((a :: rest).drop size).length ≤ rest.length := by
    simp only [List.length_drop, List.length_cons]
    omega
  show _ :: chunksFrom size rest.length _ = _
  rw [chunksFrom_eq_of_le hsize hdrop]

/-- Induction along the pieces of a list. -/
theorem chunks_induction {size : Nat} (hsize : 0 < size) {motive : List α → Prop}
    (nil : motive []) (cut : ∀ items, items ≠ [] → motive (items.drop size) → motive items)
    (items : List α) : motive items := by
  induction hn : items.length using Nat.strongRecOn generalizing items with
  | ind n ih =>
    by_cases h : items = []
    · exact h ▸ nil
    · have hpos : 0 < items.length := List.length_pos_iff.mpr h
      exact cut items h (ih (items.drop size).length (by rw [List.length_drop]; omega) _ rfl)

/-- The pieces are the list again. -/
@[simp] theorem flatten_chunks {size : Nat} (hsize : 0 < size) (items : List α) :
    (chunks size items).flatten = items := by
  induction items using chunks_induction hsize with
  | nil => rfl
  | cut items h ih =>
    rw [chunks_of_ne_nil hsize h, List.flatten_cons, ih, List.take_append_drop]

/-- Piece `i` is the window that starts at `i · size`. -/
theorem chunks_getElem? {size : Nat} (hsize : 0 < size) (items : List α) (i : Nat) :
    (chunks size items)[i]? =
      if i * size < items.length then some ((items.drop (i * size)).take size) else none := by
  induction items using chunks_induction hsize generalizing i with
  | nil => simp
  | cut items h ih =>
    have hpos : 0 < items.length := List.length_pos_iff.mpr h
    rw [chunks_of_ne_nil hsize h]
    cases i with
    | zero => simp [hpos]
    | succ i =>
      rw [List.getElem?_cons_succ, ih i, List.length_drop, List.drop_drop]
      have hcond : i * size < items.length - size ↔ (i + 1) * size < items.length := by
        rw [Nat.add_mul, Nat.one_mul]
        omega
      have hstart : size + i * size = (i + 1) * size := by
        rw [Nat.add_mul, Nat.one_mul, Nat.add_comm]
      simp only [hcond, hstart]

/-- No piece is empty or longer than `size`. -/
theorem length_of_mem_chunks {size : Nat} (hsize : 0 < size) {items piece : List α}
    (h : piece ∈ chunks size items) : 0 < piece.length ∧ piece.length ≤ size := by
  obtain ⟨i, hi⟩ := List.mem_iff_getElem?.mp h
  rw [chunks_getElem? hsize] at hi
  split at hi
  · rename_i hlt
    cases hi
    rw [List.length_take, List.length_drop]
    omega
  · cases hi

/-- There are as many pieces as the quotient says, rounded up. -/
theorem length_chunks {size : Nat} (hsize : 0 < size) (items : List α) :
    (chunks size items).length = items.length ⌈/⌉ size := by
  induction items using chunks_induction hsize with
  | nil => simp
  | cut items h ih =>
    have hpos : 0 < items.length := List.length_pos_iff.mpr h
    rw [chunks_of_ne_nil hsize h, List.length_cons, ih, List.length_drop,
      Nat.ceilDiv_eq_add_pred_div, Nat.ceilDiv_eq_add_pred_div]
    rcases Nat.le_total items.length size with hle | hle
    · -- one piece is all there is
      rw [Nat.sub_eq_zero_of_le hle, Nat.zero_add, Nat.div_eq_of_lt (by omega),
        Nat.div_eq_of_lt_le (k := 1) (by omega) (by omega)]
    · have hrest : items.length + size - 1 = items.length - size + size - 1 + size := by omega
      rw [hrest, Nat.add_div_right _ hsize]

/-- Every piece but the last is as long as can be. -/
theorem length_of_mem_dropLast_chunks {size : Nat} (hsize : 0 < size) {items piece : List α}
    (h : piece ∈ (chunks size items).dropLast) : piece.length = size := by
  obtain ⟨i, hi⟩ := List.mem_iff_getElem?.mp h
  rw [List.getElem?_dropLast] at hi
  split at hi
  · rename_i hlt
    -- the next piece starts within the list, so this one ends there
    have hnext : (chunks size items)[i + 1]? ≠ none := by
      rw [ne_eq, List.getElem?_eq_none_iff]
      omega
    rw [chunks_getElem? hsize] at hi hnext
    have hstart : (i + 1) * size = i * size + size := Nat.succ_mul i size
    split at hnext
    · rw [if_pos (by omega)] at hi
      cases hi
      rw [List.length_take, List.length_drop]
      omega
    · exact absurd rfl hnext
  · cases hi

/-- A list longer than `size` has at least two pieces. -/
theorem two_le_length_chunks {size : Nat} (hsize : 0 < size) {items : List α}
    (h : size < items.length) : 2 ≤ (chunks size items).length := by
  by_contra hshort
  have hnone : (chunks size items)[1]? = none := List.getElem?_eq_none (by omega)
  rw [chunks_getElem? hsize, Nat.one_mul, if_pos h] at hnone
  cases hnone

/-! ## Batches -/

/-- Batches of one engine that have `rules` in order, `size` of them each until none are left. -/
structure CutsEvenly (engine : String) (rules : List Rule) (size : Nat) (batches : List Batch) :
    Prop where
  count : batches.length = rules.length ⌈/⌉ size
  joined : batches.flatMap Batch.rules = rules
  bounded : ∀ b ∈ batches, b.rules ≠ [] ∧ b.rules.length ≤ size
  full : ∀ b ∈ batches.dropLast, b.rules.length = size
  numbered : batches.map Batch.number = List.range' 1 batches.length
  placed : ∀ b ∈ batches, b.engine = engine ∧ b.total = batches.length

theorem numberBatches_eq_map (engine : String) (total first : Nat) (pieces : List (List Rule)) :
    numberBatches engine total first pieces =
      (pieces.zipIdx first).map fun p => ⟨engine, p.2, total, p.1⟩ := by
  induction pieces generalizing first with
  | nil => rfl
  | cons rules rest ih => rw [numberBatches, ih, List.zipIdx_cons, List.map_cons]

theorem createBatches_of_pos {size : Int} (hsize : 0 < size) (engine : String)
    (rules : List Rule) :
    createBatches engine rules size =
      .ok (numberBatches engine (chunks size.toNat rules).length 1 (chunks size.toNat rules)) := by
  unfold createBatches partition
  rw [if_neg (by omega)]
  rfl

theorem createBatches_of_nonpos {size : Int} (hsize : size ≤ 0) (engine : String)
    (rules : List Rule) :
    createBatches engine rules size =
      .error (.plain .value (some "batch size must be positive")) := by
  unfold createBatches partition
  rw [if_pos hsize]
  rfl

/-- Batches are the pieces of the rules. -/
theorem map_rules_of_createBatches {engine : String} {rules : List Rule} {size : Int}
    {batches : List Batch} (h : createBatches engine rules size = .ok batches) :
    0 < size ∧ batches.map Batch.rules = chunks size.toNat rules := by
  by_cases hsize : 0 < size
  · rw [createBatches_of_pos hsize, numberBatches_eq_map] at h
    cases h
    refine ⟨hsize, ?_⟩
    rw [List.map_map]
    exact List.zipIdx_map_fst 1 _
  · rw [createBatches_of_nonpos (by omega)] at h
    cases h

theorem createBatches_cutsEvenly {engine : String} {rules : List Rule} {size : Int}
    {batches : List Batch} (h : createBatches engine rules size = .ok batches) :
    CutsEvenly engine rules size.toNat batches := by
  obtain ⟨hsize, hrules⟩ := map_rules_of_createBatches h
  have hpos : 0 < size.toNat := by omega
  have hpiece : ∀ b ∈ batches, b.rules ∈ chunks size.toNat rules := fun b hb => by
    rw [← hrules]
    exact List.mem_map_of_mem hb
  have hlength : batches.length = (chunks size.toNat rules).length := by
    rw [← hrules, List.length_map]
  have hmade : batches =
      ((chunks size.toNat rules).zipIdx 1).map fun p => ⟨engine, p.2, batches.length, p.1⟩ := by
    rw [createBatches_of_pos hsize, numberBatches_eq_map, ← hlength] at h
    exact (Except.ok.inj h).symm
  refine ⟨?_, ?_, fun b hb => ?_, fun b hb => ?_, ?_, fun b hb => ?_⟩
  · rw [hlength, length_chunks hpos]
  · rw [List.flatMap_def, hrules, flatten_chunks hpos]
  · obtain ⟨hsome, hshort⟩ := length_of_mem_chunks hpos (hpiece b hb)
    exact ⟨List.ne_nil_of_length_pos hsome, hshort⟩
  · have hfull : b.rules ∈ (chunks size.toNat rules).dropLast := by
      rw [← hrules, ← List.map_dropLast]
      exact List.mem_map_of_mem hb
    exact length_of_mem_dropLast_chunks hpos hfull
  · rw [hmade, List.map_map, List.length_map, List.length_zipIdx]
    exact List.zipIdx_map_snd 1 _
  · rw [hmade] at hb
    obtain ⟨p, -, rfl⟩ := List.mem_map.mp hb
    exact ⟨rfl, rfl⟩

end RuleAudit
