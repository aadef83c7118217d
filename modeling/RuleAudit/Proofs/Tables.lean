import RuleAudit.Proofs.Keyed
import RuleAudit.Proofs.Verdict
import RuleAudit.Settings.Document

/-!
# Tables of a document

No table of a TOML document has a key twice, however deep it lies (`Toml.read_distinct`): a value is
only ever added under a new key, and a table on the way to it is put back in its place. Replacing
references keeps all keys, and a section of a table is one of the tables in it, so the same holds of
what a source of settings gives (`SettingsSource.load_distinct`).
-/

namespace RuleAudit

/-- No table in a value has a key twice. -/
inductive Value.Distinct : Value → Prop where
  | null : Distinct .null
  | bool (b : Bool) : Distinct (.bool b)
  | int (n : Int) : Distinct (.int n)
  | float (x : Binary64) : Distinct (.float x)
  | text (s : String) : Distinct (.text s)
  | moment (m : Moment) : Distinct (.moment m)
  | list {items : List Value} (each : ∀ v ∈ items, Distinct v) : Distinct (.list items)
  | table {fields : List (String × Value)} (keys : (Keyed.keys fields).Nodup)
      (each : ∀ entry ∈ fields, Distinct entry.2) : Distinct (.table fields)

/-- No key is there twice, nor in any table below. -/
structure Keyed.Distinct (t : Keyed Value) : Prop where
  keys : t.keys.Nodup
  each : ∀ entry ∈ t, entry.2.Distinct

namespace Keyed

theorem distinct_nil : Keyed.Distinct [] :=
  ⟨List.nodup_nil, fun _ hentry => by cases hentry⟩

theorem distinct_of_table {t : Keyed Value} (h : (Value.table t).Distinct) : Keyed.Distinct t := by
  cases h with
  | table keys each => exact ⟨keys, each⟩

namespace Distinct

variable {t : Keyed Value}

theorem table (h : Keyed.Distinct t) : (Value.table t).Distinct :=
  .table h.keys h.each

theorem get? (h : Keyed.Distinct t) {k : String} {v : Value} (hv : t.get? k = some v) :
    v.Distinct :=
  h.each _ (mem_of_get? hv)

theorem put (h : Keyed.Distinct t) (k : String) {v : Value} (hv : v.Distinct) :
    Keyed.Distinct (t.put k v) := by
  refine ⟨nodup_keys_put h.keys k v, fun entry hentry => ?_⟩
  obtain rfl | hold := mem_put hentry
  · exact hv
  · exact h.each entry hold

end Distinct

end Keyed

namespace Toml

/-! ## Changing tables -/

/-- A change deep in a table keeps its keys apart if it does so where it happens. -/
theorem changeAt_distinct {throughLists : Bool} {f : Keyed Value → Option (Keyed Value)}
    (hf : ∀ t t', Keyed.Distinct t → f t = some t' → Keyed.Distinct t') {k : Key}
    {t t' : Keyed Value} (h : Keyed.Distinct t) (ht : changeAt throughLists f k t = some t') :
    Keyed.Distinct t' := by
  induction k generalizing t t' with
  | nil => exact hf t t' h ht
  | cons first rest ih =>
    unfold changeAt at ht
    split at ht
    · obtain ⟨inner, hinner, rfl⟩ := Option.map_eq_some_iff.mp ht
      exact h.put first (ih Keyed.distinct_nil hinner).table
    · rename_i old hget
      obtain ⟨inner, hinner, rfl⟩ := Option.map_eq_some_iff.mp ht
      exact h.put first (ih (Keyed.distinct_of_table (h.get? hget)) hinner).table
    · rename_i items hget
      split at ht
      · rename_i old hlast
        obtain ⟨inner, hinner, rfl⟩ := Option.map_eq_some_iff.mp ht
        have hitems := h.get? hget
        cases hitems with
        | list each =>
          have hold := Keyed.distinct_of_table (each _ (List.mem_of_getLast? hlast))
          refine h.put first (.list fun v hv => ?_)
          obtain hv | hv := List.mem_append.mp hv
          · exact each v (List.dropLast_subset _ hv)
          · rw [List.mem_singleton.mp hv]
            exact (ih hold hinner).table
      · cases ht
    · cases ht

theorem addNew_distinct {k : String} {v : Value} (hv : v.Distinct) {t t' : Keyed Value}
    (h : Keyed.Distinct t) (ht : addNew k v t = some t') : Keyed.Distinct t' := by
  unfold addNew at ht
  split at ht
  · cases ht
  · cases ht
    exact h.put k hv

theorem appendTable_distinct {k : String} {t t' : Keyed Value} (h : Keyed.Distinct t)
    (ht : appendTable k t = some t') : Keyed.Distinct t' := by
  have hempty : (Value.table []).Distinct := Keyed.distinct_nil.table
  unfold appendTable at ht
  split at ht
  · cases ht
    refine h.put k (.list fun v hv => ?_)
    rwa [List.mem_singleton.mp hv]
  · rename_i items hget
    cases ht
    have hitems := h.get? hget
    cases hitems with
    | list each =>
      refine h.put k (.list fun v hv => ?_)
      obtain hv | hv := List.mem_append.mp hv
      · exact each v hv
      · rwa [List.mem_singleton.mp hv]
  · cases ht

theorem Inline.add_distinct {t t' : Inline} (h : Keyed.Distinct t.fields) {k : Key} {v : Value}
    (hv : v.Distinct) (ht : t.add k v = some t') : Keyed.Distinct t'.fields := by
  unfold Inline.add at ht
  split at ht
  · cases ht
  · split at ht
    · cases ht
    · obtain ⟨fields, hfields, rfl⟩ := Option.map_eq_some_iff.mp ht
      exact changeAt_distinct (fun _ _ => addNew_distinct hv) h hfields

/-! ## Values -/

/-- Everything that a reader gives keeps its keys apart. -/
def ReadsDistinct (r : Reader Value) : Prop :=
  ∀ cs v rest, r cs = some (v, rest) → v.Distinct

theorem basedInteger_distinct : ReadsDistinct basedInteger := by
  intro cs v rest h
  unfold basedInteger at h
  dsimp only at h
  split at h
  case h_4 => cases h
  all_goals
    split at h
    · cases h
    · cases h
      exact .int _

theorem decimalNumber_distinct : ReadsDistinct decimalNumber := by
  intro cs v rest h
  unfold decimalNumber at h
  obtain ⟨⟨whole, tail⟩, -, hv⟩ := Option.map_eq_some_iff.mp h
  dsimp only at hv
  split at hv
  · cases hv
    exact .int _
  · cases hv
    exact .float _

theorem specialNumber_distinct : ReadsDistinct specialNumber := by
  have hspecial : ∀ (sign : Bool) (body : List Char) (v : Value) (rest : List Char),
      (if startsWith "inf" body then some (Value.float (.infinite sign), body.drop 3)
        else if startsWith "nan" body then some (Value.float .nan, body.drop 3)
        else none) = some (v, rest) → v.Distinct := by
    intro sign body v rest h
    split at h
    · cases h
      exact .float _
    · split at h
      · cases h
        exact .float _
      · cases h
  intro cs v rest h
  unfold specialNumber at h
  split at h
  exact hspecial _ _ _ _ h

theorem dateTime_distinct {cs : List Char} {v : Value} {rest : List Char}
    (h : dateTime cs = some (some (v, rest))) : v.Distinct := by
  unfold dateTime at h
  split at h
  · cases h
  · rename_i d more _
    have hread : ∀ timed : Option (Value × List Char),
        (∀ read, timed = some read → read.1.Distinct) →
        (some (if Moment.validDay d then
          some ((timed.getD (.moment (.date d), more)).1, (timed.getD (.moment (.date d), more)).2)
        else none)) = some (some (v, rest)) → v.Distinct := by
      intro timed htimed heq
      split at heq
      · cases heq
        cases timed with
        | none => exact .moment _
        | some read => exact htimed read rfl
      · cases heq
    refine hread _ (fun read hread => ?_) h
    split at hread
    · split at hread
      · obtain ⟨clocked, -, rfl⟩ := Option.map_eq_some_iff.mp hread
        exact .moment _
      · cases hread
    · cases hread

/-- With so many steps, values, items and members of tables keep their keys apart. -/
theorem readers_distinct (fuel : Nat) :
    ReadsDistinct (value fuel) ∧
      (∀ read, (∀ v ∈ read, v.Distinct) → ReadsDistinct (items fuel read)) ∧
      ∀ t : Inline, Keyed.Distinct t.fields → ReadsDistinct (members fuel t) := by
  induction fuel with
  | zero =>
    refine ⟨fun cs v rest h => ?_, fun read hread cs v rest h => ?_, fun t ht cs v rest h => ?_⟩
    · rw [value] at h
      cases h
    · rw [items] at h
      cases h
    · rw [members] at h
      cases h
  | succ fuel ih =>
    obtain ⟨hvalue, hitems, hmembers⟩ := ih
    refine ⟨fun cs v rest h => ?_, fun read hread cs v rest h => ?_, fun t ht cs v rest h => ?_⟩
    · unfold value at h
      split at h
      · obtain ⟨⟨s, tail⟩, -, heq⟩ := Option.map_eq_some_iff.mp h
        cases heq
        exact .text _
      · obtain ⟨⟨s, tail⟩, -, heq⟩ := Option.map_eq_some_iff.mp h
        cases heq
        exact .text _
      · obtain ⟨tail, -, hread⟩ := Option.bind_eq_some_iff.mp h
        exact hitems [] (fun _ hv => by cases hv) tail v rest hread
      · split at h
        · cases h
          exact Keyed.distinct_nil.table
        · exact hmembers {} Keyed.distinct_nil _ v rest h
      · -- a word, a moment or a number
        split at h
        · cases h
          exact .bool _
        · split at h
          · cases h
            exact .bool _
          · split at h
            · rename_i hmoment
              subst h
              exact dateTime_distinct hmoment
            · split at h
              · cases h
                exact .moment _
              · simp only [Option.orElse_eq_orElse, Option.orElse_eq_or, Option.or_eq_some_iff] at h
                obtain hbased | ⟨-, hdecimal | ⟨-, hspecial⟩⟩ := h
                · exact basedInteger_distinct _ _ _ hbased
                · exact decimalNumber_distinct _ _ _ hdecimal
                · exact specialNumber_distinct _ _ _ hspecial
    · unfold items at h
      split at h
      · cases h
        exact .list fun v hv => hread v (List.mem_reverse.mp hv)
      · split at h
        · cases h
        · rename_i first more hfirst
          have hmore : ∀ v ∈ first :: read, v.Distinct := by
            intro v hv
            obtain rfl | hv := List.mem_cons.mp hv
            · exact hvalue _ _ _ hfirst
            · exact hread v hv
          split at h
          · cases h
            exact .list fun v hv => hmore v (List.mem_reverse.mp hv)
          · obtain ⟨tail, -, hlater⟩ := Option.bind_eq_some_iff.mp h
            exact hitems _ hmore tail v rest hlater
          · cases h
    · unfold members at h
      split at h
      · split at h
        · cases h
        · rename_i first more hfirst
          split at h
          · cases h
          · rename_i t' ht'
            have hadded := Inline.add_distinct ht (hvalue _ _ _ hfirst) ht'
            split at h
            · cases h
              exact hadded.table
            · exact hmembers t' hadded _ v rest h
            · cases h
      · cases h

/-! ## Documents -/

theorem Document.assign_distinct {d d' : Document} (h : Keyed.Distinct d.root) {k : Key} {v : Value}
    (hv : v.Distinct) (hd : d.assign k v = some d') : Keyed.Distinct d'.root := by
  unfold Document.assign at hd
  dsimp only at hd
  split at hd
  · cases hd
  · split at hd
    · cases hd
    · split at hd
      · cases hd
      · obtain ⟨root, hroot, rfl⟩ := Option.map_eq_some_iff.mp hd
        exact changeAt_distinct (fun _ _ => addNew_distinct hv) h hroot

theorem Document.openTable_distinct {d d' : Document} (h : Keyed.Distinct d.root) {k : Key}
    (hd : d.openTable k = some d') : Keyed.Distinct d'.root := by
  unfold Document.openTable at hd
  split at hd
  · cases hd
  · obtain ⟨root, hroot, rfl⟩ := Option.map_eq_some_iff.mp hd
    exact changeAt_distinct (fun _ _ ht heq => Option.some.inj heq ▸ ht) h hroot

theorem Document.openItem_distinct {d d' : Document} (h : Keyed.Distinct d.root) {k : Key}
    (hd : d.openItem k = some d') : Keyed.Distinct d'.root := by
  unfold Document.openItem at hd
  split at hd
  · cases hd
  · split at hd
    · cases hd
    · obtain ⟨root, hroot, rfl⟩ := Option.map_eq_some_iff.mp hd
      exact changeAt_distinct (fun _ _ => appendTable_distinct) h hroot

/-- A statement keeps the keys of all tables apart. -/
theorem statement_distinct {d d' : Document} (h : Keyed.Distinct d.root) {cs rest : List Char}
    (hd : statement d cs = some (d', rest)) : Keyed.Distinct d'.root := by
  unfold statement at hd
  split at hd
  · split at hd
    · obtain ⟨opened, hopened, heq⟩ := Option.map_eq_some_iff.mp hd
      cases heq
      exact Document.openItem_distinct (d := d.settle) h hopened
    · cases hd
  · split at hd
    · obtain ⟨opened, hopened, heq⟩ := Option.map_eq_some_iff.mp hd
      cases heq
      exact Document.openTable_distinct (d := d.settle) h hopened
    · cases hd
  · cases hd
    exact h
  · split at hd
    · split at hd
      · cases hd
      · rename_i v tail hv
        obtain ⟨assigned, hassigned, heq⟩ := Option.map_eq_some_iff.mp hd
        cases heq
        exact Document.assign_distinct h ((readers_distinct _).1 _ _ _ hv) hassigned
    · cases hd

theorem statements_distinct {fuel : Nat} {d d' : Document} (h : Keyed.Distinct d.root)
    {cs : List Char} (hd : statements fuel d cs = some d') : Keyed.Distinct d'.root := by
  induction fuel generalizing d cs with
  | zero =>
    cases hd
    exact h
  | succ fuel ih =>
    unfold statements at hd
    split at hd
    · cases hd
      exact h
    · exact ih h hd
    · split at hd
      · cases hd
      · rename_i next rest hnext
        have hkeeps := statement_distinct h hnext
        split at hd
        · cases hd
          exact hkeeps
        · exact ih hkeeps hd
        · cases hd

/-- No table of a document has a key twice. -/
theorem read_distinct {text : String} {t : Keyed Value} (h : read text = some t) :
    Keyed.Distinct t := by
  obtain ⟨d, hd, rfl⟩ := Option.map_eq_some_iff.mp h
  exact statements_distinct Keyed.distinct_nil hd

end Toml

/-! ## Sources of settings -/

theorem keys_expandFields (env : Keyed String) (fields : Keyed Value) :
    Keyed.keys (expandFields env fields) = fields.keys := by
  induction fields with
  | nil => rfl
  | cons entry rest ih =>
    obtain ⟨k, v⟩ := entry
    rw [expandFields]
    exact congrArg (k :: ·) ih

theorem mem_expandItems {env : Keyed String} {items : List Value} {v : Value}
    (h : v ∈ expandItems env items) : ∃ old ∈ items, v = expandValue env old := by
  induction items with
  | nil =>
    rw [expandItems] at h
    cases h
  | cons first rest ih =>
    rw [expandItems] at h
    obtain rfl | h := List.mem_cons.mp h
    · exact ⟨first, List.mem_cons_self, rfl⟩
    · obtain ⟨old, hold, rfl⟩ := ih h
      exact ⟨old, List.mem_cons_of_mem _ hold, rfl⟩

theorem mem_expandFields {env : Keyed String} {fields : Keyed Value} {entry : String × Value}
    (h : entry ∈ expandFields env fields) :
    ∃ old ∈ fields, entry = (old.1, expandValue env old.2) := by
  induction fields with
  | nil =>
    rw [expandFields] at h
    cases h
  | cons first rest ih =>
    obtain ⟨k, v⟩ := first
    rw [expandFields] at h
    obtain rfl | h := List.mem_cons.mp h
    · exact ⟨(k, v), List.mem_cons_self, rfl⟩
    · obtain ⟨old, hold, rfl⟩ := ih h
      exact ⟨old, List.mem_cons_of_mem _ hold, rfl⟩

/-- Replacing references keeps all keys. -/
theorem Value.Distinct.expandValue {v : Value} (h : v.Distinct) (env : Keyed String) :
    (expandValue env v).Distinct := by
  induction h with
  | null => exact .null
  | bool b => exact .bool b
  | int n => exact .int n
  | float x => exact .float x
  | text s => exact .text _
  | moment m => exact .moment m
  | list each ih =>
    refine .list fun v hv => ?_
    obtain ⟨old, hold, rfl⟩ := mem_expandItems hv
    exact ih old hold
  | table keys each ih =>
    refine .table ?_ fun entry hentry => ?_
    · rwa [keys_expandFields]
    · obtain ⟨old, hold, rfl⟩ := mem_expandFields hentry
      exact ih old hold

theorem Keyed.Distinct.expandFields {t : Keyed Value} (h : Keyed.Distinct t) (env : Keyed String) :
    Keyed.Distinct (expandFields env t) :=
  distinct_of_table (h.table.expandValue env)

namespace SettingsSource

theorem sectionAt_distinct {path : List String} {t : Keyed Value} (h : Keyed.Distinct t) :
    Keyed.Distinct (sectionAt path t) := by
  induction path generalizing t with
  | nil => exact h
  | cons k rest ih =>
    unfold sectionAt
    split
    · rename_i inner hget
      exact ih (Keyed.distinct_of_table (h.get? hget))
    · exact Keyed.distinct_nil

theorem loadDocument_distinct {tree : FileTree} {env : Keyed String} {path : FilePath}
    {t : Keyed Value} (h : loadDocument tree env path = .ok t) : Keyed.Distinct t := by
  unfold loadDocument at h
  obtain ⟨found, -, h⟩ := exists_of_bind_eq_ok h
  split at h
  · cases h
    exact Keyed.distinct_nil
  · cases h
  · split at h
    · cases h
    · split at h
      · cases h
      · rename_i table htable
        cases h
        exact (Toml.read_distinct htable).expandFields env

/-- No table of the settings that a source gives has a key twice. -/
theorem load_distinct {tree : FileTree} {env : Keyed String} {source : SettingsSource}
    {t : Keyed Value} (h : source.load tree env = .ok t) : Keyed.Distinct t := by
  cases source with
  | document path => exact loadDocument_distinct h
  | project path =>
    obtain ⟨whole, hwhole, rfl⟩ := exists_of_map_eq_ok h
    exact sectionAt_distinct (loadDocument_distinct hwhole)

end SettingsSource

end RuleAudit
