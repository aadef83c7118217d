import RuleAudit.Proofs.Keyed
import RuleAudit.Settings.Document

/-!
# Keyed lists laid over others

Keyed lists are laid over others entry by entry: an old key keeps its place and its value is
changed, a new one goes to the end. What comes out is told by one equation (`Keyed.layOver_eq`). It
holds for putting entries (`Keyed.foldl_put`) as well as for merging tables (`overlayFields_eq`),
which differ in what becomes of an old value.
-/

namespace RuleAudit

namespace Keyed

variable {α : Type}

/-- Entries laid over a keyed list; `change` makes the value of an old key. -/
def layOver (change : α → α → α) (base : Keyed α) : List (String × α) → Keyed α
  | [] => base
  | (k, v) :: rest =>
    layOver change (base.put k ((base.get? k).elim v fun old => change old v)) rest

theorem put_of_not_mem {m : Keyed α} {key : String} (h : key ∉ m.keys) (value : α) :
    m.put key value = m ++ [(key, value)] := by
  induction m with
  | nil => rfl
  | cons entry rest ih =>
    obtain ⟨k, v⟩ := entry
    obtain ⟨hk, hrest⟩ := not_or.mp (List.mem_cons.not.mp h)
    simp only [put, Ne.symm hk, beq_iff_eq, if_false]
    rw [ih hrest, List.cons_append]

/-- Putting an old key changes its entry alone. -/
theorem put_of_mem {m : Keyed α} (hnodup : m.keys.Nodup) {key : String} (h : key ∈ m.keys)
    (value : α) :
    m.put key value = m.map fun entry => if entry.1 = key then (key, value) else entry := by
  induction m with
  | nil => cases h
  | cons entry rest ih =>
    obtain ⟨k, v⟩ := entry
    obtain ⟨hfresh, hrest⟩ := List.nodup_cons.mp hnodup
    by_cases hk : k = key
    · subst hk
      have hsame : rest.map (fun entry => if entry.1 = k then (k, value) else entry) = rest := by
        refine (List.map_congr_left fun entry hentry => ?_).trans (List.map_id rest)
        have hne : entry.1 ≠ k := fun heq => hfresh (List.mem_map.mpr ⟨entry, hentry, heq⟩)
        exact if_neg hne
      simp [put, hsame]
    · obtain heq | hin := List.mem_cons.mp h
      · exact absurd heq.symm hk
      · simp [put, hk, ih hrest hin]

theorem has_eq_decide (m : Keyed α) (key : String) : m.has key = decide (key ∈ m.keys) := by
  rw [Bool.eq_iff_iff, decide_eq_true_iff]
  exact isSome_get?_iff

/-- What comes out if no key is there twice: the old entries in their places, changed where their
keys come again, and the new entries behind them. -/
theorem layOver_eq (change : α → α → α) {base : Keyed α} (hbase : base.keys.Nodup)
    {entries : Keyed α} (hentries : entries.keys.Nodup) :
    layOver change base entries =
      (base.map fun e => (e.1, (entries.get? e.1).elim e.2 (change e.2))) ++
        entries.filter fun e => !base.has e.1 := by
  induction entries generalizing base with
  | nil =>
    rw [layOver, List.filter_nil, List.append_nil]
    exact (List.map_id base).symm
  | cons entry rest ih =>
    obtain ⟨k, v⟩ := entry
    obtain ⟨hfresh, hrest⟩ := List.nodup_cons.mp hentries
    have hnone : Keyed.get? rest k = none := get?_eq_none_iff.mpr hfresh
    rw [layOver, ih (nodup_keys_put hbase k _) hrest]
    by_cases hk : k ∈ base.keys
    · -- the key is old: its entry is changed, and no later entry has it
      obtain ⟨old, hold⟩ := Option.isSome_iff_exists.mp (isSome_get?_iff.mpr hk)
      have hhas : base.has k = true := by rw [has_eq_decide, decide_eq_true hk]
      rw [List.filter_cons_of_neg (by simp [hhas]), hold]
      congr 1
      · rw [put_of_mem hbase hk, List.map_map]
        refine List.map_congr_left fun e he => ?_
        obtain ⟨k', v'⟩ := e
        by_cases hk' : k' = k
        · subst hk'
          obtain rfl : old = v' := Option.some.inj (hold.symm.trans (get?_of_mem hbase he))
          simp [get?, hnone]
        · simp [get?, hk', Ne.symm hk']
      · refine List.filter_congr fun e _ => ?_
        rw [has_eq_decide, has_eq_decide, keys_put, if_pos hk]
    · -- the key is new
      have hget : base.get? k = none := get?_eq_none_iff.mpr hk
      have hhas : base.has k = false := by rw [has_eq_decide, decide_eq_false hk]
      rw [List.filter_cons_of_pos (by simp [hhas]), hget, Option.elim_none, put_of_not_mem hk,
        List.map_append, List.append_assoc]
      congr 1
      · refine List.map_congr_left fun e he => ?_
        have hne : k ≠ e.1 := fun heq => hk (List.mem_map.mpr ⟨e, he, heq.symm⟩)
        simp [get?, hne]
      · simp only [List.map_cons, List.map_nil, hnone, Option.elim_none, List.singleton_append,
          List.cons.injEq, true_and]
        refine List.filter_congr fun e he => ?_
        have hne : e.1 ≠ k := fun heq => hfresh (List.mem_map.mpr ⟨e, he, heq⟩)
        unfold has
        rw [← put_of_not_mem hk, get?_put_ne base v hne]

/-- What is found after laying entries over: the changed or new value of a key that comes, else the
old one. -/
theorem get?_layOver (change : α → α → α) (base : Keyed α) {entries : Keyed α}
    (hentries : entries.keys.Nodup) (key : String) :
    (layOver change base entries).get? key =
      ((entries.get? key).map fun v => (base.get? key).elim v fun old => change old v).or
        (base.get? key) := by
  induction entries generalizing base with
  | nil => rfl
  | cons entry rest ih =>
    obtain ⟨k, v⟩ := entry
    obtain ⟨hfresh, hrest⟩ := List.nodup_cons.mp hentries
    rw [layOver, ih _ hrest]
    by_cases hk : k = key
    · subst hk
      have hnone : Keyed.get? rest k = none := get?_eq_none_iff.mpr hfresh
      simp [get?, hnone]
    · simp [get?, hk, get?_put_ne base _ (Ne.symm hk)]

/-- Old keys keep their places, and new ones follow in their order. -/
theorem keys_layOver (change : α → α → α) (base : Keyed α) {entries : Keyed α}
    (hentries : entries.keys.Nodup) :
    (layOver change base entries).keys =
      base.keys ++ entries.keys.filter fun k => decide (k ∉ base.keys) := by
  induction entries generalizing base with
  | nil => simp [layOver, keys]
  | cons entry rest ih =>
    obtain ⟨k, v⟩ := entry
    obtain ⟨hfresh, hrest⟩ := List.nodup_cons.mp hentries
    have hkeys : keys ((k, v) :: rest) = k :: keys rest := rfl
    rw [layOver, ih _ hrest, keys_put, hkeys]
    by_cases hk : k ∈ base.keys
    · rw [if_pos hk, List.filter_cons_of_neg (by simpa using hk)]
    · rw [if_neg hk, List.filter_cons_of_pos (by simpa using hk), List.append_assoc,
        List.singleton_append]
      congr 2
      refine List.filter_congr fun key hkey => ?_
      -- no later key is the one that has just been added
      have hne : key ≠ k := fun heq => hfresh (heq ▸ hkey)
      simp [hne]

/-- Putting entries replaces old values. -/
theorem foldl_put (base : Keyed α) (entries : List (String × α)) :
    entries.foldl (fun m entry => m.put entry.1 entry.2) base =
      layOver (fun _ v => v) base entries := by
  induction entries generalizing base with
  | nil => rfl
  | cons entry rest ih =>
    obtain ⟨k, v⟩ := entry
    rw [List.foldl_cons, ih, layOver]
    cases base.get? k <;> rfl

/-- Entries with no key twice are kept as they are. -/
theorem ofEntries_of_nodup {entries : Keyed α} (h : entries.keys.Nodup) :
    ofEntries entries = entries := by
  unfold ofEntries
  have hnil : (keys ([] : Keyed α)).Nodup := List.nodup_nil
  rw [foldl_put, layOver_eq _ hnil h, List.map_nil, List.nil_append, List.filter_eq_self]
  exact fun _ _ => rfl

/-- Entries with no key twice, put after others of that kind. -/
theorem ofEntries_append {a b : Keyed α} (ha : a.keys.Nodup) (hb : b.keys.Nodup) :
    ofEntries (a ++ b) =
      (a.map fun e => (e.1, (b.get? e.1).elim e.2 fun v => v)) ++ b.filter fun e => !a.has e.1 := by
  have hfirst : a.foldl (fun (m : Keyed α) entry => m.put entry.1 entry.2) [] = a :=
    ofEntries_of_nodup ha
  unfold ofEntries
  rw [List.foldl_append, hfirst, foldl_put, layOver_eq _ ha hb]

end Keyed

/-! ## Merged tables -/

/-- Whether a value is a table. -/
def Value.isTable : Value → Bool
  | .table _ => true
  | _ => false

theorem overlay_of_not_table {base v : Value} (h : (base.isTable && v.isTable) = false) :
    overlay base v = v := by
  cases v with
  | table fields =>
    cases base with
    | table baseFields => cases h
    | null | bool b | int n | float x | text s | moment m | list items => simp [overlay]
  | null | bool b | int n | float x | text s | moment m | list items => simp [overlay]

theorem overlayFields_eq_layOver (base : Keyed Value) (fields : List (String × Value)) :
    overlayFields base fields = Keyed.layOver overlay base fields := by
  induction fields generalizing base with
  | nil => rw [overlayFields, Keyed.layOver]
  | cons entry rest ih =>
    obtain ⟨k, v⟩ := entry
    rw [overlayFields, Keyed.layOver, ih]
    cases base.get? k <;> rfl

/-- Tables are merged key by key: what both have is merged, anything else is taken as it is. -/
theorem overlayFields_eq {base fields : Keyed Value} (hbase : base.keys.Nodup)
    (hfields : fields.keys.Nodup) :
    overlayFields base fields =
      (base.map fun e => (e.1, (fields.get? e.1).elim e.2 (overlay e.2))) ++
        fields.filter fun e => !base.has e.1 :=
  (overlayFields_eq_layOver base fields).trans (Keyed.layOver_eq overlay hbase hfields)

theorem get?_overlayFields (base : Keyed Value) {fields : Keyed Value} (h : fields.keys.Nodup)
    (key : String) :
    (overlayFields base fields).get? key =
      ((fields.get? key).map fun v => (base.get? key).elim v fun old => overlay old v).or
        (base.get? key) := by
  rw [overlayFields_eq_layOver, Keyed.get?_layOver overlay base h]

theorem keys_overlayFields (base : Keyed Value) {fields : Keyed Value} (h : fields.keys.Nodup) :
    (overlayFields base fields).keys =
      base.keys ++ fields.keys.filter fun k => decide (k ∉ base.keys) := by
  rw [overlayFields_eq_layOver, Keyed.keys_layOver overlay base h]

theorem nodup_keys_overlayFields {base fields : Keyed Value} (hbase : base.keys.Nodup)
    (hfields : fields.keys.Nodup) : (overlayFields base fields).keys.Nodup := by
  rw [keys_overlayFields base hfields]
  refine hbase.append (hfields.filter _) fun k hk hnew => ?_
  exact of_decide_eq_true (List.mem_filter.mp hnew).2 hk

/-- A table is laid over nothing as it is. -/
theorem overlayFields_nil_left {fields : Keyed Value} (h : fields.keys.Nodup) :
    overlayFields [] fields = fields := by
  have hnil : (Keyed.keys ([] : Keyed Value)).Nodup := List.nodup_nil
  rw [overlayFields_eq hnil h, List.map_nil, List.nil_append, List.filter_eq_self]
  exact fun _ _ => rfl

end RuleAudit
