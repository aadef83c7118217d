import Mathlib.Data.List.Basic
import Mathlib.Data.List.Forall2
import Mathlib.Data.List.Induction
import Mathlib.Data.List.Nodup
import RuleAudit.Keyed

/-!
# Laws of keyed lists

What `put` and `alter` do to keys, entries and look-ups. A keyed list that is built by putting
entries has no key twice (`Keyed.nodup_keys_put`), and then a key has at most one entry
(`Keyed.filter_key`). Its keys stand in the order of their first appearance among the entries, each
with the value of its last entry (`Keyed.keys_ofEntries`, `Keyed.get?_ofEntries`).
-/

namespace RuleAudit

/-! ## First appearances -/

/-- An item at the end appears there first unless it has appeared before. -/
theorem eraseDups_concat (items : List String) (item : String) :
    (items ++ [item]).eraseDups =
      if item ∈ items then items.eraseDups else items.eraseDups ++ [item] := by
  rw [List.eraseDups_append]
  by_cases hitem : item ∈ items <;> simp [List.removeAll, List.eraseDups_cons, hitem]

/-- Leaving items out does not change the order in which the others first appear. -/
theorem eraseDups_filter (p : String → Bool) (items : List String) :
    (items.filter p).eraseDups = items.eraseDups.filter p := by
  induction items using List.reverseRecOn with
  | nil => rfl
  | append_singleton earlier item ih =>
    rw [List.filter_append, eraseDups_concat]
    cases hp : p item with
    | false =>
      rw [List.filter_cons_of_neg (by rw [hp]; exact Bool.false_ne_true), List.filter_nil,
        List.append_nil, ih]
      split
      · rfl
      · simp [hp]
    | true =>
      have hmem : item ∈ earlier.filter p ↔ item ∈ earlier := by simp [hp]
      rw [List.filter_cons_of_pos hp, List.filter_nil, eraseDups_concat, if_congr hmem rfl rfl, ih]
      split
      · rfl
      · simp [hp]

/-- A relation that leaves one choice for each item of a list leaves one for the whole of it. -/
theorem forall₂_iff_eq_map {α β : Type} {R : α → β → Prop} {f : α → β} {as : List α} {bs : List β}
    (h : ∀ a ∈ as, ∀ b, R a b ↔ b = f a) : List.Forall₂ R as bs ↔ bs = as.map f := by
  induction as generalizing bs with
  | nil => simp
  | cons a rest ih =>
    have hrest : ∀ bs, List.Forall₂ R rest bs ↔ bs = rest.map f :=
      fun bs => ih fun a ha => h a (List.mem_cons_of_mem _ ha)
    simp only [List.forall₂_cons_left_iff, h a List.mem_cons_self, hrest, List.map_cons]
    constructor
    · rintro ⟨_, _, rfl, rfl, rfl⟩
      rfl
    · rintro rfl
      exact ⟨_, _, rfl, rfl, rfl⟩

namespace Keyed

variable {α : Type}

theorem get?_eq_none_iff {m : Keyed α} {key : String} : m.get? key = none ↔ key ∉ m.keys := by
  induction m with
  | nil => simp [keys]
  | cons entry rest ih =>
    obtain ⟨k, v⟩ := entry
    by_cases hk : k = key
    · simp [get?, keys, hk]
    · have hne : key ≠ k := Ne.symm hk
      simp only [get?, hk, beq_iff_eq, if_false, ih]
      simp [keys, hne]

theorem isSome_get?_iff {m : Keyed α} {key : String} :
    (m.get? key).isSome = true ↔ key ∈ m.keys := by
  rw [Option.isSome_iff_ne_none, ne_eq, get?_eq_none_iff, not_not]

theorem mem_of_get? {m : Keyed α} {key : String} {value : α} (h : m.get? key = some value) :
    (key, value) ∈ m := by
  induction m with
  | nil => cases h
  | cons entry rest ih =>
    obtain ⟨k, v⟩ := entry
    by_cases hk : k = key
    · subst hk
      simp only [get?, BEq.rfl, if_true, Option.some.injEq] at h
      simp [h]
    · simp only [get?, hk, beq_iff_eq, if_false] at h
      simp [ih h]

/-- With no key twice, a key has at most one entry. -/
theorem filter_key {m : Keyed α} (hnodup : m.keys.Nodup) (key : String) :
    m.filter (fun entry => entry.1 == key) = (m.get? key).toList.map (Prod.mk key) := by
  induction m with
  | nil => rfl
  | cons entry rest ih =>
    obtain ⟨k, v⟩ := entry
    obtain ⟨hfresh, hrest⟩ := List.nodup_cons.mp hnodup
    by_cases hk : k = key
    · subst hk
      have hnone : Keyed.get? rest k = none := get?_eq_none_iff.mpr hfresh
      rw [List.filter_cons_of_pos (by simp), ih hrest, hnone]
      simp [get?]
    · rw [List.filter_cons_of_neg (by simpa using hk), ih hrest]
      simp [get?, hk]

theorem get?_of_mem {m : Keyed α} (hnodup : m.keys.Nodup) {key : String} {value : α}
    (h : (key, value) ∈ m) : m.get? key = some value := by
  have hmem : (key, value) ∈ m.filter fun entry => entry.1 == key :=
    List.mem_filter.mpr ⟨h, by simp⟩
  rw [filter_key hnodup] at hmem
  simpa using hmem

theorem nodup_keys_put {m : Keyed α} (h : m.keys.Nodup) (key : String) (value : α) :
    (m.put key value).keys.Nodup := by
  rw [keys_put]
  split
  · exact h
  · rename_i hfresh
    exact List.Nodup.append h (List.nodup_singleton key) (by simpa using hfresh)

theorem mem_put {m : Keyed α} {key : String} {value : α} {entry : String × α}
    (h : entry ∈ m.put key value) : entry = (key, value) ∨ entry ∈ m := by
  induction m with
  | nil => simpa [put] using h
  | cons first rest ih =>
    obtain ⟨k, v⟩ := first
    by_cases hk : k = key
    · simp only [put, hk, BEq.rfl, if_true, List.mem_cons] at h
      rcases h with rfl | hrest
      · exact .inl rfl
      · exact .inr (by simp [hrest])
    · simp only [put, hk, beq_iff_eq, if_false, List.mem_cons] at h
      rcases h with rfl | hrest
      · exact .inr (by simp)
      · exact (ih hrest).imp_right fun hold => by simp [hold]

/-- Putting the value that is there changes nothing. -/
theorem put_of_get? {m : Keyed α} {key : String} {value : α} (h : m.get? key = some value) :
    m.put key value = m := by
  induction m with
  | nil => cases h
  | cons entry rest ih =>
    obtain ⟨k, v⟩ := entry
    by_cases hk : k = key
    · simp only [get?, hk, BEq.rfl, if_true, Option.some.injEq] at h
      simp [put, hk, h]
    · simp only [get?, hk, beq_iff_eq, if_false] at h
      simp [put, hk, ih h]

@[simp] theorem get?_erase_self (m : Keyed α) (key : String) : (m.erase key).get? key = none := by
  rw [get?_eq_none_iff]
  intro hmem
  obtain ⟨entry, hentry, rfl⟩ := List.mem_map.mp hmem
  simpa using (List.mem_filter.mp hentry).2

theorem get?_erase_ne (m : Keyed α) {key other : String} (h : other ≠ key) :
    (m.erase key).get? other = m.get? other := by
  induction m with
  | nil => rfl
  | cons entry rest ih =>
    obtain ⟨k, v⟩ := entry
    unfold erase at ih ⊢
    by_cases hk : k = key
    · subst hk
      rw [List.filter_cons_of_neg (by simp), ih]
      simp [get?, Ne.symm h]
    · rw [List.filter_cons_of_pos (by simpa using hk)]
      simp only [get?]
      rw [ih]

@[simp] theorem get?_alter_self (m : Keyed α) (key : String) (initial : α) (f : α → α) :
    (m.alter key initial f).get? key = some (f ((m.get? key).getD initial)) :=
  get?_put_self m key _

theorem get?_alter_ne (m : Keyed α) {key other : String} (initial : α) (f : α → α)
    (h : other ≠ key) : (m.alter key initial f).get? other = m.get? other :=
  get?_put_ne m _ h

/-! ## Entries put one after another -/

theorem ofEntries_concat (entries : List (String × α)) (entry : String × α) :
    ofEntries (entries ++ [entry]) = (ofEntries entries).put entry.1 entry.2 := by
  simp [ofEntries]

theorem mem_ofEntries {entries : List (String × α)} {entry : String × α}
    (h : entry ∈ ofEntries entries) : entry ∈ entries := by
  induction entries using List.reverseRecOn with
  | nil => exact h
  | append_singleton earlier last ih =>
    rw [ofEntries_concat] at h
    obtain rfl | hold := mem_put h
    · simp
    · exact List.mem_append_left _ (ih hold)

theorem nodup_keys_ofEntries (entries : List (String × α)) : (ofEntries entries).keys.Nodup := by
  induction entries using List.reverseRecOn with
  | nil => exact List.nodup_nil
  | append_singleton earlier entry ih =>
    rw [ofEntries_concat]
    exact nodup_keys_put ih _ _

theorem keys_ofEntries (entries : List (String × α)) :
    (ofEntries entries).keys = (entries.map Prod.fst).eraseDups := by
  induction entries using List.reverseRecOn with
  | nil => rfl
  | append_singleton earlier entry ih =>
    rw [ofEntries_concat, keys_put, ih, List.map_append, List.map_singleton, eraseDups_concat]
    simp only [List.mem_eraseDups]

theorem get?_ofEntries (entries : List (String × α)) (key : String) :
    (ofEntries entries).get? key = (entries.reverse.find? (·.1 == key)).map Prod.snd := by
  induction entries using List.reverseRecOn with
  | nil => rfl
  | append_singleton earlier entry ih =>
    rw [ofEntries_concat, List.reverse_append, List.reverse_singleton, List.singleton_append,
      List.find?_cons]
    by_cases hkey : entry.1 = key
    · simp [hkey]
    · rw [get?_put_ne _ _ (Ne.symm hkey), ih, beq_false_of_ne hkey]

/-! ## A key in the middle -/

section Middle

variable {before after : Keyed α} {key : String}

theorem not_mem_keys_of_nodup {value : α} (h : (keys (before ++ (key, value) :: after)).Nodup) :
    key ∉ before.keys ∧ key ∉ after.keys := by
  have hkeys : (before.keys ++ key :: after.keys).Nodup := by
    simpa [keys] using h
  obtain ⟨-, hafter, hapart⟩ := List.nodup_append.mp hkeys
  exact ⟨fun hmem => hapart key hmem key List.mem_cons_self rfl, (List.nodup_cons.mp hafter).1⟩

theorem get?_append_cons (value : α) (h : key ∉ before.keys) :
    get? (before ++ (key, value) :: after) key = some value := by
  induction before with
  | nil => simp [get?]
  | cons entry rest ih =>
    obtain ⟨k, v⟩ := entry
    obtain ⟨hk, hrest⟩ := not_or.mp (List.mem_cons.not.mp h)
    simp only [List.cons_append, get?, Ne.symm hk, beq_iff_eq, if_false]
    exact ih hrest

theorem put_append_cons (old value : α) (h : key ∉ before.keys) :
    put (before ++ (key, old) :: after) key value = before ++ (key, value) :: after := by
  induction before with
  | nil => simp [put]
  | cons entry rest ih =>
    obtain ⟨k, v⟩ := entry
    obtain ⟨hk, hrest⟩ := not_or.mp (List.mem_cons.not.mp h)
    simp only [List.cons_append, put, Ne.symm hk, beq_iff_eq, if_false]
    rw [ih hrest]

theorem erase_append_cons (old : α) (h : key ∉ before.keys) (h' : key ∉ after.keys) :
    erase (before ++ (key, old) :: after) key = before ++ after := by
  have hkeep : ∀ m : Keyed α, key ∉ m.keys → m.filter (fun entry => !(entry.1 == key)) = m := by
    intro m hm
    rw [List.filter_eq_self]
    intro entry hentry
    have hne : entry.1 ≠ key := fun heq => hm (heq ▸ List.mem_map_of_mem hentry)
    simpa using hne
  unfold erase
  rw [List.filter_append, List.filter_cons_of_neg (by simp), hkeep before h, hkeep after h']

end Middle

/-- Adding an item to the list under one key adds it to the lists together. -/
theorem flatMap_alter_perm (m : Keyed (List α)) (key : String) (a : α) :
    ((m.alter key [] (· ++ [a])).flatMap Prod.snd).Perm (m.flatMap Prod.snd ++ [a]) := by
  unfold alter
  induction m with
  | nil => simp [put]
  | cons entry rest ih =>
    obtain ⟨k, items⟩ := entry
    by_cases hk : k = key
    · simp only [get?, put, hk, BEq.rfl, if_true, Option.getD_some, List.flatMap_cons,
        List.append_assoc]
      exact (List.perm_append_comm).append_left items
    · simp only [get?, put, hk, beq_iff_eq, if_false, List.flatMap_cons, List.append_assoc]
      exact ih.append_left items

end Keyed

end RuleAudit
