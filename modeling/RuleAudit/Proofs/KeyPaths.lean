import RuleAudit.Proofs.Overlay
import RuleAudit.Proofs.Tables

/-!
# Merged tables along key paths

A path of keys leads to a value in nested tables (`Value.at?`). What a table holds once another is
laid over it is told path by path (`LaidOver`): a value of the later table that is no table stands
alone at its path, tables are merged, and where the later table says nothing the earlier one stays.
Key by key this is one equation (`get?_overlay`), and the paths follow from it by induction
(`at?_overlay_of_some`, `at?_overlay_of_none`). Laying a table over itself, or a second time over
what it was laid over, changes nothing, by induction on the later value (`overlay_self`,
`overlay_overlay`).
-/

namespace RuleAudit

/-! ## Paths -/

/-- The value at a path of keys in nested tables. -/
def Value.at? (v : Value) : List String → Option Value
  | [] => some v
  | k :: rest => (v.get? k).bind fun inner => inner.at? rest

@[simp] theorem Value.at?_nil (v : Value) : v.at? [] = some v := rfl

theorem Value.at?_cons (v : Value) (k : String) (rest : List String) :
    v.at? (k :: rest) = (v.get? k).bind fun inner => inner.at? rest := rfl

theorem Value.at?_append (v : Value) (p q : List String) :
    v.at? (p ++ q) = (v.at? p).bind fun inner => inner.at? q := by
  induction p generalizing v with
  | nil => rfl
  | cons k rest ih => cases h : v.get? k <;> simp [Value.at?_cons, h, ih]

theorem Value.get?_of_not_table {v : Value} (h : v.isTable = false) (k : String) :
    v.get? k = none := by
  cases v with
  | table fields => cases h
  | _ => rfl

theorem Value.get?_eq_some_iff {v inner : Value} {k : String} :
    v.get? k = some inner ↔ ∃ fields, v = .table fields ∧ Keyed.get? fields k = some inner := by
  cases v <;> simp [Value.get?]

/-- What is in nested tables is of their kind. -/
theorem Value.Distinct.at? {v : Value} (h : v.Distinct) {p : List String} {inner : Value}
    (hp : v.at? p = some inner) : inner.Distinct := by
  induction p generalizing v with
  | nil => exact Option.some.inj hp ▸ h
  | cons k rest ih =>
    obtain ⟨next, hnext, hrest⟩ := Option.bind_eq_some_iff.mp hp
    obtain ⟨fields, rfl, hfields⟩ := Value.get?_eq_some_iff.mp hnext
    exact ih ((Keyed.distinct_of_table h).get? hfields) hrest

/-! ## One key -/

theorem overlay_table (base fields : Keyed Value) :
    overlay (.table base) (.table fields) = .table (overlayFields base fields) := by
  simp [overlay]

theorem overlay_of_base_not_table {base : Value} (h : base.isTable = false) (v : Value) :
    overlay base v = v :=
  overlay_of_not_table (by rw [h, Bool.false_and])

theorem overlay_of_value_not_table (base : Value) {v : Value} (h : v.isTable = false) :
    overlay base v = v :=
  overlay_of_not_table (by rw [h, Bool.and_false])

/-- What is under a key: what both have merged, or what one of them has. -/
theorem get?_overlay (base : Value) {fields : Keyed Value} (h : fields.keys.Nodup) (k : String) :
    (overlay base (.table fields)).get? k =
      ((fields.get? k).map fun v => (base.get? k).elim v fun old => overlay old v).or
        (base.get? k) := by
  cases hbase : base.isTable with
  | true =>
    cases base with
    | table baseFields =>
      rw [overlay_table]
      exact get?_overlayFields baseFields h k
    | _ => cases hbase
  | false =>
    rw [overlay_of_base_not_table hbase, Value.get?_of_not_table hbase]
    simp [Value.get?]

/-! ## Paths through a merged table -/

/-- What is at a path once `b` is laid over `a`, where `b` has a value there. -/
theorem at?_overlay_of_some {a b : Value} (hb : b.Distinct) {p : List String} {v : Value}
    (h : b.at? p = some v) :
    (overlay a b).at? p = some ((a.at? p).elim v fun old => overlay old v) := by
  induction p generalizing a b with
  | nil =>
    obtain rfl := Option.some.inj h
    rfl
  | cons k rest ih =>
    rw [Value.at?_cons] at h
    obtain ⟨inner, hinner, hv⟩ := Option.bind_eq_some_iff.mp h
    obtain ⟨fields, rfl, hfields⟩ := Value.get?_eq_some_iff.mp hinner
    have hdistinct := Keyed.distinct_of_table hb
    rw [Value.at?_cons, Value.at?_cons, get?_overlay a hdistinct.keys, hfields]
    cases hold : a.get? k with
    | none => simpa using hv
    | some old => simpa using ih (hdistinct.get? hfields) hv

/-- What is at a path once `b` is laid over `a`, where `b` has nothing but tables on the way. -/
theorem at?_overlay_of_none {a b : Value} (hb : b.Distinct) {p : List String}
    (h : b.at? p = none) (htables : ∀ q v, q <+: p → b.at? q = some v → v.isTable = true) :
    (overlay a b).at? p = a.at? p := by
  induction p generalizing a b with
  | nil => cases h
  | cons k rest ih =>
    have htable : b.isTable = true := htables [] b List.nil_prefix rfl
    cases b with
    | table fields =>
      have hdistinct := Keyed.distinct_of_table hb
      rw [Value.at?_cons, Value.at?_cons, get?_overlay a hdistinct.keys]
      cases hfields : Keyed.get? fields k with
      | none => simp
      | some inner =>
        have hinner : (Value.table fields).get? k = some inner := hfields
        rw [Value.at?_cons, hinner, Option.bind_some] at h
        cases hold : a.get? k with
        | none => simpa using h
        | some old =>
          have hbelow : ∀ q v, q <+: rest → inner.at? q = some v → v.isTable = true := by
            intro q v hq hv
            refine htables (k :: q) v ((List.prefix_cons_inj k).mpr hq) ?_
            rw [Value.at?_cons, hinner]
            exact hv
          simpa using ih (hdistinct.get? hfields) h hbelow
    | _ => cases htable

/-! ## Repeated merging -/

/-- A table that already has what is laid over it stays as it is. -/
theorem overlayFields_eq_self {base fields : Keyed Value} (hbase : base.keys.Nodup)
    (hfields : fields.keys.Nodup)
    (h : ∀ k v, fields.get? k = some v → ∃ old, base.get? k = some old ∧ overlay old v = old) :
    overlayFields base fields = base := by
  have hold : (base.map fun e => (e.1, (fields.get? e.1).elim e.2 (overlay e.2))) = base := by
    refine (List.map_congr_left fun e he => ?_).trans (List.map_id base)
    cases hv : fields.get? e.1 with
    | none => rfl
    | some v =>
      obtain ⟨old, hget, hsame⟩ := h e.1 v hv
      obtain rfl : e.2 = old := Option.some.inj ((Keyed.get?_of_mem hbase he).symm.trans hget)
      exact Prod.ext rfl hsame
  have hnew : (fields.filter fun e => !base.has e.1) = [] := by
    rw [List.filter_eq_nil_iff]
    intro e he
    obtain ⟨old, hget, -⟩ := h e.1 e.2 (Keyed.get?_of_mem hfields he)
    simp [Keyed.has, hget]
  rw [overlayFields_eq hbase hfields, hold, hnew, List.append_nil]

theorem overlay_self {v : Value} (h : v.Distinct) : overlay v v = v := by
  induction h with
  | @table fields keys each ih =>
    rw [overlay_table, overlayFields_eq_self keys keys]
    exact fun k v hv => ⟨v, hv, ih (k, v) (Keyed.mem_of_get? hv)⟩
  | _ => exact overlay_of_base_not_table rfl _

/-- Laying a value over once more changes nothing. -/
theorem overlay_overlay {a b : Value} (ha : a.Distinct) (hb : b.Distinct) :
    overlay (overlay a b) b = overlay a b := by
  induction hb generalizing a with
  | @table fields keys each ih =>
    cases hbase : a.isTable with
    | true =>
      cases ha with
      | @table base baseKeys baseEach =>
        rw [overlay_table, overlay_table]
        congr 1
        refine overlayFields_eq_self (nodup_keys_overlayFields baseKeys keys) keys fun k v hv => ?_
        rw [get?_overlayFields base keys, hv]
        refine ⟨_, rfl, ?_⟩
        dsimp only
        cases hold : Keyed.get? base k with
        | none => exact overlay_self (each _ (Keyed.mem_of_get? hv))
        | some old =>
          exact ih (k, v) (Keyed.mem_of_get? hv) (baseEach _ (Keyed.mem_of_get? hold))
      | _ => cases hbase
    | false =>
      rw [overlay_of_base_not_table hbase]
      exact overlay_self (.table keys each)
  | _ => rw [overlay_of_value_not_table (overlay a _) rfl, overlay_of_value_not_table a rfl]

/-! ## The law -/

/-- What `r` holds, path by path, when it comes from laying `b` over `a`. -/
structure LaidOver (a b r : Value) : Prop where
  /-- A value of the later one that is no table stands as it is. -/
  replaced : ∀ p v, b.at? p = some v → v.isTable = false → r.at? p = some v
  /-- Nothing is left below it. -/
  cleared : ∀ p q v, b.at? p = some v → v.isTable = false → q ≠ [] → r.at? (p ++ q) = none
  /-- Two tables are merged. -/
  merged : ∀ p (s t : Keyed Value), a.at? p = some (.table s) → b.at? p = some (.table t) →
    r.at? p = some (.table (overlayFields s t))
  /-- A table where there was none is taken as it is. -/
  added : ∀ p (t : Keyed Value), (∀ s, a.at? p ≠ some (.table s)) → b.at? p = some (.table t) →
    r.at? p = some (.table t)
  /-- What the later one says nothing of stays. -/
  kept : ∀ p, b.at? p = none → (∀ q v, q <+: p → b.at? q = some v → v.isTable = true) →
    r.at? p = a.at? p
  /-- The keys of merged tables: the old ones in their order, then the new ones in theirs. -/
  order : ∀ p (s t : Keyed Value), a.at? p = some (.table s) → b.at? p = some (.table t) →
    ∃ u : Keyed Value, r.at? p = some (.table u) ∧
      u.keys = s.keys ++ t.keys.filter fun k => decide (k ∉ s.keys)

theorem overlay_laidOver (a : Value) {b : Value} (hb : b.Distinct) :
    LaidOver a b (overlay a b) where
  replaced p v hv hplain := by
    rw [at?_overlay_of_some hb hv]
    cases a.at? p with
    | none => rfl
    | some old => exact congrArg some (overlay_of_value_not_table old hplain)
  cleared p q v hv hplain hq := by
    obtain ⟨k, rest, rfl⟩ := List.exists_cons_of_ne_nil hq
    rw [Value.at?_append, at?_overlay_of_some hb hv, Option.bind_some, Value.at?_cons]
    have hsame : ((a.at? p).elim v fun old => overlay old v) = v := by
      cases a.at? p with
      | none => rfl
      | some old => exact overlay_of_value_not_table old hplain
    rw [hsame, Value.get?_of_not_table hplain, Option.bind_none]
  merged p s t hs ht := by
    rw [at?_overlay_of_some hb ht, hs, Option.elim_some, overlay_table]
  added p t hs ht := by
    rw [at?_overlay_of_some hb ht]
    cases hold : a.at? p with
    | none => rfl
    | some old =>
      have hplain : old.isTable = false := by
        cases old with
        | table s => exact absurd hold (hs s)
        | _ => rfl
      exact congrArg some (overlay_of_base_not_table hplain _)
  kept p := at?_overlay_of_none hb
  order p s t hs ht := by
    refine ⟨overlayFields s t, ?_, ?_⟩
    · rw [at?_overlay_of_some hb ht, hs, Option.elim_some, overlay_table]
    · exact keys_overlayFields s (Keyed.distinct_of_table (hb.at? ht)).keys

/-- A table laid over another gives, at every path, what the later one says there and else what the
earlier one says, with the keys of merged tables in order. Laying over or under the empty table,
over itself, or once more changes nothing. -/
theorem overlayFields_along_paths {a b : Keyed Value} (ha : a.Distinct) (hb : b.Distinct) :
    LaidOver (.table a) (.table b) (.table (overlayFields a b)) ∧
      overlayFields [] b = b ∧ overlayFields a [] = a ∧ overlayFields a a = a ∧
      overlayFields (overlayFields a b) b = overlayFields a b := by
  have hlaid := overlay_laidOver (.table a) hb.table
  have hself := overlay_self ha.table
  have hagain := overlay_overlay ha.table hb.table
  simp only [overlay_table, Value.table.injEq] at hlaid hself hagain
  exact ⟨hlaid, overlayFields_nil_left hb.keys, rfl, hself, hagain⟩

/-- A table over a value that is none, such a value over a table, and new keys on two levels. -/
theorem overlayFields_along_clashing_paths :
    let a : Keyed Value :=
      [("rules", .table [("A", .table [("enabled", .bool false)]), ("B", .int 1)]),
        ("output", .table [("quiet", .bool true)])]
    let b : Keyed Value :=
      [("output", .text "plain"), ("engines", .table []),
        ("rules", .table [("C", .int 2), ("B", .table [("enabled", .bool true)])])]
    let r : Keyed Value :=
      [("rules", .table
          [("A", .table [("enabled", .bool false)]), ("B", .table [("enabled", .bool true)]),
            ("C", .int 2)]),
        ("output", .text "plain"), ("engines", .table [])]
    a.Distinct ∧ b.Distinct ∧ overlayFields a b = r ∧ LaidOver (.table a) (.table b) (.table r) ∧
      overlayFields [] b = b ∧ overlayFields a [] = a ∧ overlayFields a a = a ∧
      overlayFields r b = r := by
  intro a b r
  have ha : a.Distinct :=
    ⟨by decide, by
      simpa [a] using ⟨.table (by decide) (by
        simpa using ⟨.table (by decide) (by simpa using .bool _), .int _⟩),
        .table (by decide) (by simpa using .bool _)⟩⟩
  have hb : b.Distinct :=
    ⟨by decide, by
      simpa [b] using ⟨.text _, .table (by decide) (by simp), .table (by decide) (by
        simpa using ⟨.int _, .table (by decide) (by simpa using .bool _)⟩)⟩⟩
  have hr : overlayFields a b = r := by
    simp [a, b, r, overlayFields, overlay, Keyed.get?, Keyed.put]
  have hlaw := overlayFields_along_paths ha hb
  rw [hr] at hlaw
  exact ⟨ha, hb, hr, hlaw⟩

end RuleAudit
