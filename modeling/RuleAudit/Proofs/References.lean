import Mathlib.Data.List.TakeWhile
import RuleAudit.Proofs.KeyPaths

/-!
# References to variables

Read from left to right, a text is cut into literal characters and references to variables (`Cut`).
There is one way to cut it (`cut_iff`), and the pieces together are the text again
(`Cut.flatMap_written`). Replacing references goes over a text once: it puts the value of a
variable where a reference to it stood and looks at nothing that it has put there (`replaces_iff`).
In a value this happens to each text, and everything else stays as it is (`sameBut_replaces_iff`).
Laying a table over another looks at no text, so it makes no difference whether references are
replaced before or after (`expandFields_overlayFields`), nor whether in each document of a project
or in all of them merged (`mergeSources_eq_map`).
-/

namespace RuleAudit

/-! ## Cutting a text -/

/-- What is `written` refers to a variable where `rest` follows: a dollar sign with all the word
characters after it, or with a name in braces. -/
inductive Refers : (name written rest : List Char) → Prop where
  | word {name rest : List Char} (hsome : name ≠ []) (hword : ∀ c ∈ name, Text.isWord c = true)
      (hstop : ∀ c, rest.head? = some c → Text.isWord c = false) : Refers name ('$' :: name) rest
  | braced {name rest : List Char} (hsome : name ≠ []) (hinside : '\x7d' ∉ name) :
      Refers name ('$' :: '\x7b' :: name ++ ['\x7d']) rest

/-- Characters cut from left to right into literal ones and references. A character is literal where
no reference begins. -/
inductive Cut : List Char → List Piece → Prop where
  | nil : Cut [] []
  | reference {name written rest : List Char} {pieces : List Piece}
      (href : Refers name written rest) (hrest : Cut rest pieces) :
      Cut (written ++ rest) (.reference name written :: pieces)
  | plain {c : Char} {rest : List Char} {pieces : List Piece}
      (hnone : ∀ name written after, Refers name written after → c :: rest ≠ written ++ after)
      (hrest : Cut rest pieces) : Cut (c :: rest) (.plain c :: pieces)

theorem Refers.exists_written {name written rest : List Char} (h : Refers name written rest) :
    ∃ more, written = '$' :: more ∧ more ≠ [] := by
  cases h with
  | word hsome => exact ⟨name, rfl, hsome⟩
  | braced => exact ⟨_, rfl, by simp⟩

/-- A run of characters is all of a class that is at the front, if what follows starts with none. -/
theorem takeWhile_append_stop {p : Char → Bool} {run after : List Char}
    (hrun : ∀ c ∈ run, p c = true) (hstop : ∀ c, after.head? = some c → p c = false) :
    (run ++ after).takeWhile p = run := by
  have hnone : after.takeWhile p = [] := by
    cases after with
    | nil => rfl
    | cons c rest => rw [List.takeWhile_cons_of_neg (by simp [hstop c rfl])]
  rw [List.takeWhile_append_of_pos hrun, hnone, List.append_nil]

theorem exists_run (p : Char → Bool) (cs : List Char) :
    ∃ run after, cs = run ++ after ∧ (∀ c ∈ run, p c = true) ∧
      ∀ c, after.head? = some c → p c = false := by
  refine ⟨cs.takeWhile p, cs.dropWhile p, List.takeWhile_append_dropWhile.symm,
    fun c hc => List.mem_takeWhile_imp hc, fun c hc => ?_⟩
  have hnot := List.head?_dropWhile_not p cs
  rw [hc] at hnot
  simpa using hnot

theorem reference?_word {name after : List Char} (hsome : name ≠ [])
    (hword : ∀ c ∈ name, Text.isWord c = true)
    (hstop : ∀ c, after.head? = some c → Text.isWord c = false) :
    reference? (name ++ after) = some (.reference name ('$' :: name)) := by
  unfold reference?
  dsimp only
  rw [takeWhile_append_stop hword hstop, if_pos (by simpa using hsome)]

/-- After an opening brace the name goes up to the first closing one. -/
theorem reference?_brace {name after : List Char} (hinside : '\x7d' ∉ name)
    (hstop : ∀ c, after.head? = some c → c = '\x7d') :
    reference? ('\x7b' :: (name ++ after)) =
      if name = [] ∨ after = [] then none
      else some (.reference name ('$' :: '\x7b' :: name ++ ['\x7d'])) := by
  have hbrace : Text.isWord '\x7b' = false := by decide +kernel
  have hname : (name ++ after).takeWhile (· != '\x7d') = name := by
    refine takeWhile_append_stop (fun c hc => ?_) fun c hc => by simp [hstop c hc]
    simpa using fun heq : c = '\x7d' => hinside (heq ▸ hc)
  unfold reference?
  rw [List.takeWhile_cons_of_neg (by simp [hbrace])]
  dsimp only
  rw [if_neg (by simp)]
  split
  · rename_i more hmore
    obtain rfl := (List.cons.inj hmore).2
    rw [hname, List.drop_left]
    cases after with
    | nil => simp
    | cons c rest =>
      obtain rfl := hstop c rfl
      by_cases hnone : name = [] <;> simp [hnone]
  · rename_i hother
    exact absurd rfl (hother _)

/-- A dollar sign before anything else stands for itself. -/
theorem reference?_other {after : List Char}
    (hstop : ∀ c, after.head? = some c → Text.isWord c = false ∧ c ≠ '\x7b') :
    reference? after = none := by
  have hnone : ([] ++ after).takeWhile Text.isWord = [] :=
    takeWhile_append_stop (by simp) fun c hc => (hstop c hc).1
  rw [List.nil_append] at hnone
  unfold reference?
  rw [hnone]
  dsimp only
  split
  · rename_i hsome
    simp at hsome
  · split
    · exact absurd rfl (hstop '\x7b' rfl).2
    · rfl

/-- What is read after a dollar sign is the reference that stands there. -/
theorem reference?_eq_some_iff {rest : List Char} {piece : Piece} :
    reference? rest = some piece ↔ ∃ name written after, piece = .reference name written ∧
      '$' :: rest = written ++ after ∧ Refers name written after := by
  constructor
  · intro h
    obtain ⟨name, after, rfl, hword, hstop⟩ := exists_run Text.isWord rest
    by_cases hsome : name = []
    · subst hsome
      rw [List.nil_append] at h
      by_cases hopen : after.head? = some '\x7b'
      · obtain ⟨more, rfl⟩ := List.head?_eq_some_iff.mp hopen
        obtain ⟨name, after, rfl, hinner, hclose⟩ := exists_run (· != '\x7d') more
        have hinside : '\x7d' ∉ name := fun hmem => by simpa using hinner _ hmem
        have hclose : ∀ c, after.head? = some c → c = '\x7d' := by simpa using hclose
        rw [reference?_brace hinside hclose] at h
        split at h
        · cases h
        · rename_i hboth
          obtain ⟨hsome, hclosed⟩ := not_or.mp hboth
          obtain ⟨c, after, rfl⟩ := List.exists_cons_of_ne_nil hclosed
          obtain rfl := hclose c rfl
          cases h
          exact ⟨name, _, after, rfl, by simp, .braced hsome hinside⟩
      · rw [reference?_other fun c hc => ⟨hstop c hc, fun heq => hopen (heq ▸ hc)⟩] at h
        cases h
    · rw [reference?_word hsome hword hstop] at h
      cases h
      exact ⟨name, _, after, rfl, rfl, .word hsome hword hstop⟩
  · rintro ⟨name, written, after, rfl, heq, href⟩
    cases href with
    | word hsome hword hstop =>
      obtain rfl := (List.cons.inj heq).2
      exact reference?_word hsome hword hstop
    | braced hsome hinside =>
      obtain rfl : rest = '\x7b' :: (name ++ '\x7d' :: after) := by simpa using heq
      rw [reference?_brace hinside (by simp), if_neg (by simp [hsome])]

theorem piecesFrom_eq (skip : Nat) (cs : List Char) :
    piecesFrom skip cs = pieces (cs.drop skip) := by
  induction cs generalizing skip with
  | nil => cases skip <;> rfl
  | cons c rest ih =>
    cases skip with
    | zero => rfl
    | succ skip => rw [piecesFrom, ih, List.drop_succ_cons]

/-- A reference at the front is a piece, and the pieces of what follows come after it. -/
theorem pieces_reference {name written rest : List Char} (h : Refers name written rest) :
    pieces (written ++ rest) = .reference name written :: pieces rest := by
  obtain ⟨more, rfl, -⟩ := h.exists_written
  have href : reference? (more ++ rest) = some (.reference name ('$' :: more)) :=
    reference?_eq_some_iff.mpr ⟨name, _, rest, rfl, rfl, h⟩
  unfold pieces
  rw [List.cons_append, piecesFrom, if_pos (by rfl), href]
  dsimp only
  rw [piecesFrom_eq]
  congr 2
  simp [Piece.written]

/-- A character where no reference begins is a piece by itself. -/
theorem pieces_plain {c : Char} {rest : List Char}
    (h : ∀ name written after, Refers name written after → c :: rest ≠ written ++ after) :
    pieces (c :: rest) = .plain c :: pieces rest := by
  have hnone : (if c == '$' then reference? rest else none) = none := by
    split
    · rename_i hdollar
      obtain rfl := beq_iff_eq.mp hdollar
      rw [Option.eq_none_iff_forall_ne_some]
      intro piece hpiece
      obtain ⟨name, written, after, -, heq, href⟩ := reference?_eq_some_iff.mp hpiece
      exact h name written after href heq
    · rfl
  unfold pieces
  rw [piecesFrom, hnone]

/-- The pieces of a text are the one way to cut it. -/
theorem cut_iff {cs : List Char} {found : List Piece} : Cut cs found ↔ found = pieces cs := by
  constructor
  · intro h
    induction h with
    | nil => rfl
    | reference href _ ih => rw [pieces_reference href, ih]
    | plain hnone _ ih => rw [pieces_plain hnone, ih]
  · rintro rfl
    induction hn : cs.length using Nat.strongRecOn generalizing cs with
    | ind n ih =>
      match cs with
      | [] => exact .nil
      | c :: rest =>
        by_cases hbegins : ∃ name written after, Refers name written after ∧
          c :: rest = written ++ after
        · obtain ⟨name, written, after, href, heq⟩ := hbegins
          rw [heq, pieces_reference href]
          obtain ⟨more, rfl, -⟩ := href.exists_written
          refine .reference href (ih after.length ?_ rfl)
          rw [← hn, heq, List.length_append, List.length_cons]
          omega
        · push Not at hbegins
          rw [pieces_plain hbegins]
          refine .plain hbegins (ih rest.length ?_ rfl)
          rw [← hn]
          simp

/-- The pieces of a text are the text again. -/
theorem Cut.flatMap_written {cs : List Char} {found : List Piece} (h : Cut cs found) :
    found.flatMap Piece.written = cs := by
  induction h with
  | nil => rfl
  | reference _ _ ih => rw [List.flatMap_cons, ih, Piece.written]
  | plain _ _ ih => rw [List.flatMap_cons, ih, Piece.written, List.singleton_append]

/-! ## Replacing references -/

section Replacing

variable {env : Keyed String}

/-- What a piece becomes: a reference to a variable that is set becomes its value, and any other
piece stays as it was written. -/
inductive Piece.Becomes (env : Keyed String) : Piece → List Char → Prop where
  | plain (c : Char) : Becomes env (.plain c) [c]
  | set {name written : List Char} {value : String}
      (h : env.get? (String.ofList name) = some value) :
      Becomes env (.reference name written) value.toList
  | unset {name written : List Char} (h : env.get? (String.ofList name) = none) :
      Becomes env (.reference name written) written

theorem Piece.becomes_iff {p : Piece} {cs : List Char} :
    p.Becomes env cs ↔ cs = p.expand env := by
  constructor
  · rintro (_ | h | h)
    · rfl
    · rw [Piece.expand, h]
    · rw [Piece.expand, h]
  · rintro rfl
    cases p with
    | plain c => exact .plain c
    | reference name written =>
      cases h : env.get? (String.ofList name) with
      | some value =>
        rw [Piece.expand, h]
        exact .set h
      | none =>
        rw [Piece.expand, h]
        exact .unset h

/-- A text comes to another by replacing references: it is cut into pieces, which are the whole of
it, and what each of them becomes stands in its place. -/
def Replaces (env : Keyed String) (s t : String) : Prop :=
  ∃ found texts, Cut s.toList found ∧ found.flatMap Piece.written = s.toList ∧
    List.Forall₂ (Piece.Becomes env) found texts ∧ t.toList = texts.flatten

/-- A text comes to one text only, whatever stands in the values of variables. -/
theorem replaces_iff {s t : String} : Replaces env s t ↔ t = expandText env s := by
  have heach : ∀ texts, List.Forall₂ (Piece.Becomes env) (pieces s.toList) texts ↔
      texts = (pieces s.toList).map (Piece.expand env) :=
    fun texts => forall₂_iff_eq_map fun _ _ _ => Piece.becomes_iff
  unfold expandText
  rw [List.flatMap_def]
  constructor
  · rintro ⟨found, texts, hcut, -, hbecomes, ht⟩
    obtain rfl := cut_iff.mp hcut
    obtain rfl := (heach texts).mp hbecomes
    rw [← ht, String.ofList_toList]
  · rintro rfl
    have hcut : Cut s.toList (pieces s.toList) := cut_iff.mpr rfl
    exact ⟨_, _, hcut, hcut.flatMap_written, (heach _).mpr rfl, String.toList_ofList⟩

end Replacing

/-! ## Values -/

/-- Values that differ at most in their texts, as `related` tells: keys, their order, the lengths of
lists and everything that is no text are the same. -/
inductive Value.SameBut (related : String → String → Prop) : Value → Value → Prop where
  | null : SameBut related .null .null
  | bool (b : Bool) : SameBut related (.bool b) (.bool b)
  | int (n : Int) : SameBut related (.int n) (.int n)
  | float (x : Binary64) : SameBut related (.float x) (.float x)
  | text {s t : String} (h : related s t) : SameBut related (.text s) (.text t)
  | moment (m : Moment) : SameBut related (.moment m) (.moment m)
  | list {items items' : List Value} (each : List.Forall₂ (SameBut related) items items') :
      SameBut related (.list items) (.list items')
  | table {fields fields' : List (String × Value)}
      (keys : Keyed.keys fields' = Keyed.keys fields)
      (each : List.Forall₂ (SameBut related) (fields.map Prod.snd) (fields'.map Prod.snd)) :
      SameBut related (.table fields) (.table fields')

/-- What holds of a list when it holds of its items, of a table when it holds of the values in it,
and of everything else, holds of every value. -/
@[elab_as_elim]
theorem Value.nested_induction {motive : Value → Prop} (null : motive .null)
    (bool : ∀ b, motive (.bool b)) (int : ∀ n, motive (.int n)) (float : ∀ x, motive (.float x))
    (text : ∀ s, motive (.text s)) (moment : ∀ m, motive (.moment m))
    (list : ∀ items, (∀ v ∈ items, motive v) → motive (.list items))
    (table : ∀ fields, (∀ e ∈ fields, motive e.2) → motive (.table fields)) (v : Value) :
    motive v := by
  induction hn : sizeOf v using Nat.strongRecOn generalizing v with
  | ind n ih =>
    subst hn
    cases v with
    | null => exact null
    | bool b => exact bool b
    | int n => exact int n
    | float x => exact float x
    | text s => exact text s
    | moment m => exact moment m
    | list items =>
      refine list items fun v hv => ih _ ?_ v rfl
      have := List.sizeOf_lt_of_mem hv
      simp only [Value.list.sizeOf_spec]
      omega
    | table fields =>
      refine table fields fun e he => ih _ ?_ e.2 rfl
      have := List.sizeOf_lt_of_mem he
      have : sizeOf e.2 < sizeOf e := by
        cases e
        simp only [Prod.mk.sizeOf_spec]
        omega
      simp only [Value.table.sizeOf_spec]
      omega

/-- A keyed list with its values changed. -/
def Keyed.mapValues {α : Type} (f : α → α) (m : Keyed α) : Keyed α :=
  m.map fun entry => (entry.1, f entry.2)

namespace Keyed

variable {α : Type} {f : α → α}

theorem eq_mapValues_iff {m m' : Keyed α} :
    m' = m.mapValues f ↔ m'.keys = m.keys ∧ m'.map Prod.snd = (m.map Prod.snd).map f := by
  constructor
  · rintro rfl
    simp [mapValues, keys]
  · rintro ⟨hkeys, hvalues⟩
    rw [List.zip_of_prod hkeys hvalues, List.map_map]
    exact List.zip_map'

theorem get?_mapValues (m : Keyed α) (key : String) :
    (m.mapValues f).get? key = (m.get? key).map f := by
  induction m with
  | nil => rfl
  | cons entry rest ih =>
    obtain ⟨k, v⟩ := entry
    unfold mapValues at ih
    by_cases hk : k = key <;> simp [mapValues, get?, hk, ih]

theorem mapValues_put (m : Keyed α) (key : String) (value : α) :
    (m.put key value).mapValues f = (m.mapValues f).put key (f value) := by
  induction m with
  | nil => rfl
  | cons entry rest ih =>
    obtain ⟨k, v⟩ := entry
    unfold mapValues at ih
    by_cases hk : k = key <;> simp [mapValues, put, hk, ih]

/-- Changing values goes through laying over where it goes through the change of each value. -/
theorem mapValues_layOver {change : α → α → α} {entries : List (String × α)}
    (h : ∀ entry ∈ entries, ∀ old, f (change old entry.2) = change (f old) (f entry.2))
    (base : Keyed α) :
    (layOver change base entries).mapValues f =
      layOver change (base.mapValues f) (mapValues f entries) := by
  induction entries generalizing base with
  | nil => rfl
  | cons entry rest ih =>
    obtain ⟨k, v⟩ := entry
    have hstep : f ((base.get? k).elim v fun old => change old v) =
        ((base.mapValues f).get? k).elim (f v) fun old => change old (f v) := by
      rw [get?_mapValues]
      cases base.get? k with
      | none => rfl
      | some old => exact h (k, v) List.mem_cons_self old
    rw [layOver, ih (fun entry hentry => h entry (List.mem_cons_of_mem _ hentry)), mapValues_put,
      hstep]
    rfl

end Keyed

section Expansion

variable (env : Keyed String)

theorem expandItems_eq_map (items : List Value) :
    expandItems env items = items.map (expandValue env) := by
  induction items with
  | nil => rw [expandItems, List.map_nil]
  | cons v rest ih => rw [expandItems, ih, List.map_cons]

theorem expandFields_eq_mapValues (fields : Keyed Value) :
    expandFields env fields = fields.mapValues (expandValue env) := by
  induction fields with
  | nil => rw [expandFields]; rfl
  | cons entry rest ih =>
    obtain ⟨k, v⟩ := entry
    rw [expandFields, ih]
    rfl

/-- A value comes to one value only, and it is made in one pass over its parts. -/
theorem sameBut_replaces_iff {v w : Value} :
    Value.SameBut (Replaces env) v w ↔ w = expandValue env v := by
  induction v using Value.nested_induction generalizing w with
  | text s =>
    rw [expandValue]
    constructor
    · intro h
      cases h with
      | text h => rw [replaces_iff.mp h]
    · rintro rfl
      exact .text (replaces_iff.mpr rfl)
  | list items ih =>
    have heach : ∀ items', List.Forall₂ (Value.SameBut (Replaces env)) items items' ↔
        items' = items.map (expandValue env) :=
      fun _ => forall₂_iff_eq_map fun v hv _ => ih v hv
    rw [expandValue, expandItems_eq_map]
    constructor
    · intro h
      cases h with
      | list each => rw [(heach _).mp each]
    · rintro rfl
      exact .list ((heach _).mpr rfl)
  | table fields ih =>
    have heach : ∀ fields' : Keyed Value,
        List.Forall₂ (Value.SameBut (Replaces env)) (fields.map Prod.snd) (fields'.map Prod.snd) ↔
          fields'.map Prod.snd = (fields.map Prod.snd).map (expandValue env) :=
      fun _ => forall₂_iff_eq_map fun v hv _ => by
        obtain ⟨e, he, rfl⟩ := List.mem_map.mp hv
        exact ih e he
    rw [expandValue, expandFields_eq_mapValues]
    constructor
    · intro h
      cases h with
      | table keys each => rw [Keyed.eq_mapValues_iff.mpr ⟨keys, (heach _).mp each⟩]
    · rintro rfl
      have hsame := Keyed.eq_mapValues_iff.mp (Eq.refl (Keyed.mapValues (expandValue env) fields))
      exact .table hsame.1 ((heach _).mpr hsame.2)
  | _ =>
    simp only [expandValue]
    constructor
    · intro h
      cases h
      rfl
    · rintro rfl
      constructor

/-! ## Replacing and merging -/

theorem isTable_expandValue (v : Value) : (expandValue env v).isTable = v.isTable := by
  cases v <;> rw [expandValue] <;> simp [Value.isTable]

/-- Laying a value over another looks at no text in it. -/
theorem expandValue_overlay (a v : Value) :
    expandValue env (overlay a v) = overlay (expandValue env a) (expandValue env v) := by
  induction v using Value.nested_induction generalizing a with
  | table fields ih =>
    cases a with
    | table base =>
      rw [overlay_table, expandValue, expandValue, expandValue, overlay_table]
      simp only [expandFields_eq_mapValues, overlayFields_eq_layOver]
      rw [Keyed.mapValues_layOver fun entry hentry old => ih entry hentry old]
    | _ =>
      rw [overlay_of_base_not_table rfl, overlay_of_base_not_table]
      exact isTable_expandValue env _
  | _ =>
    rw [overlay_of_value_not_table _ rfl, overlay_of_value_not_table]
    exact isTable_expandValue env _

theorem expandFields_overlayFields (a b : Keyed Value) :
    expandFields env (overlayFields a b) =
      overlayFields (expandFields env a) (expandFields env b) := by
  have h := expandValue_overlay env (.table a) (.table b)
  rw [overlay_table, expandValue, expandValue, expandValue, overlay_table] at h
  exact Value.table.inj h

/-- Without variables nothing is replaced. -/
theorem expandText_nil (s : String) : expandText [] s = s := by
  have hcut : Cut s.toList (pieces s.toList) := cut_iff.mpr rfl
  have hkept : Piece.expand [] = Piece.written := by
    funext piece
    cases piece <;> rfl
  rw [expandText, hkept, hcut.flatMap_written, String.ofList_toList]

theorem expandValue_nil (v : Value) : expandValue [] v = v := by
  induction v using Value.nested_induction with
  | text s => rw [expandValue, expandText_nil]
  | list items ih =>
    rw [expandValue, expandItems_eq_map, List.map_congr_left ih, List.map_id']
  | table fields ih =>
    have hsame : ∀ e ∈ fields, (e.1, expandValue [] e.2) = e := fun e he => Prod.ext rfl (ih e he)
    rw [expandValue, expandFields_eq_mapValues, Keyed.mapValues, List.map_congr_left hsame,
      List.map_id']
  | _ => simp only [expandValue]

theorem expandFields_nil (fields : Keyed Value) : expandFields [] fields = fields := by
  have h := expandValue_nil (.table fields)
  rw [expandValue] at h
  exact Value.table.inj h

namespace SettingsSource

theorem sectionAt_expandFields (path : List String) (t : Keyed Value) :
    sectionAt path (expandFields env t) = expandFields env (sectionAt path t) := by
  induction path generalizing t with
  | nil => rfl
  | cons k rest ih =>
    have hget : Keyed.get? (expandFields env t) k = (t.get? k).map (expandValue env) := by
      rw [expandFields_eq_mapValues, Keyed.get?_mapValues]
    unfold sectionAt
    rw [hget]
    cases t.get? k with
    | none => exact (expandFields.eq_1 env).symm
    | some v =>
      cases v with
      | table inner =>
        rw [Option.map_some, expandValue]
        exact ih inner
      | _ =>
        simp only [Option.map_some, expandValue]
        exact (expandFields.eq_1 env).symm

theorem loadDocument_eq_map (tree : FileTree) (path : FilePath) :
    loadDocument tree env path = (loadDocument tree [] path).map (expandFields env) := by
  have hempty : Except.ok (ε := Fault) [] = .ok (expandFields env []) := by rw [expandFields]
  simp only [loadDocument, bind, Except.bind, expandFields_nil]
  cases tree.entry? path with
  | error f => rfl
  | ok found =>
    rcases found with _ | content | _
    · exact hempty
    · dsimp only
      cases content.decode? with
      | none => rfl
      | some text =>
        dsimp only
        cases Toml.read text <;> rfl
    · rfl

/-- A source gives what it would give without variables, with the references replaced. -/
theorem load_eq_map (tree : FileTree) (source : SettingsSource) :
    source.load tree env = (source.load tree []).map (expandFields env) := by
  cases source with
  | document path => exact loadDocument_eq_map env tree path
  | project path =>
    change (loadDocument tree env path).map _ = ((loadDocument tree [] path).map _).map _
    rw [loadDocument_eq_map]
    cases loadDocument tree [] path with
    | error f => rfl
    | ok t => exact congrArg Except.ok (sectionAt_expandFields env _ t)

end SettingsSource

/-- References may as well be replaced once all documents are merged. -/
theorem mergeSources_eq_map (tree : FileTree) (merged : Keyed Value)
    (sources : List SettingsSource) :
    mergeSources tree env (expandFields env merged) sources =
      (mergeSources tree [] merged sources).map (expandFields env) := by
  induction sources generalizing merged with
  | nil => rfl
  | cons source rest ih =>
    unfold mergeSources
    rw [source.load_eq_map env]
    cases source.load tree [] with
    | error f => rfl
    | ok t =>
      rw [← ih, expandFields_overlayFields]
      rfl

end Expansion

/-- Replacing references goes over a value once and keeps its structure: keys, lengths and all that
is no text stay, and each text, cut in the one way there is, becomes what its pieces become one
after another. It makes no difference whether two tables are merged before or after. -/
theorem expandValue_single_pass (env : Keyed String) :
    (∀ cs, ∃! found, Cut cs found) ∧
      (∀ v w, Value.SameBut (Replaces env) v w ↔ w = expandValue env v) ∧
      ∀ a b, expandFields env (overlayFields a b) =
        overlayFields (expandFields env a) (expandFields env b) :=
  ⟨fun cs => ⟨pieces cs, cut_iff.mpr rfl, fun _ h => cut_iff.mp h⟩,
    fun _ _ => sameBut_replaces_iff env, expandFields_overlayFields env⟩

/-- Adjacent, unclosed and empty references, an unset name, and a value that looks like one. -/
example :
    expandText [("A", "$B"), ("B", "b")] "$A$B-$\x7bA\x7d$\x7b\x7d$\x7bB $C$$" =
      "$Bb-$B$\x7b\x7d$\x7bB $C$$" := by
  decide +kernel

end RuleAudit
