import Mathlib.Data.List.Infix
import Mathlib.Data.List.Lex
import Mathlib.Data.List.Nodup
import Mathlib.Data.String.Basic
import RuleAudit.FileTree

/-!
# Trees of files

When a list of entries is a tree (`FileTree.IsTree`): no place has two entries, places are spelled
with names a file system admits, and above every entry are directories. Adding an entry keeps a tree
one (`FileTree.IsTree.add`).

In a tree a walk along names leads straight down (`FileTree.eq_append_of_walk`), nothing stops it
before an entry (`FileTree.IsTree.walk_of_mem`), and a path continued below a directory leads to the
place below the directory's (`FileTree.IsTree.entry?_join`). What stands below a directory is listed
once, in strict order (`FileTree.IsTree.pairwise_placesBelow`).
-/

namespace RuleAudit.FileTree

/-! ## Names and places -/

/-- What a file or directory can be called. -/
structure IsName (n : String) : Prop where
  nonempty : n ≠ ""
  notHere : n ≠ "."
  notAbove : n ≠ ".."
  noSlash : '/' ∉ n.toList
  noNull : Char.ofNat 0 ∉ n.toList
  short : n.utf8ByteSize ≤ nameLimit

instance (n : String) : Decidable (IsName n) :=
  decidable_of_iff (n ≠ "" ∧ n ≠ "." ∧ n ≠ ".." ∧ '/' ∉ n.toList ∧ Char.ofNat 0 ∉ n.toList ∧
      n.utf8ByteSize ≤ nameLimit)
    ⟨fun ⟨h₁, h₂, h₃, h₄, h₅, h₆⟩ => ⟨h₁, h₂, h₃, h₄, h₅, h₆⟩,
      fun h => ⟨h.nonempty, h.notHere, h.notAbove, h.noSlash, h.noNull, h.short⟩⟩

theorem IsName.ne_slash {n : String} (h : IsName n) : n ≠ "/" := by
  rintro rfl
  exact h.noSlash (by decide)

/-- Where a place starts: at the working directory, at the root or at a directory further up. -/
def IsAnchor (place : List String) : Prop :=
  place = ["/"] ∨ ∃ n, place = List.replicate n ".."

/-- Names after an anchor. -/
def IsPlace (place : List String) : Prop :=
  ∃ anchor names, IsAnchor anchor ∧ (∀ n ∈ names, IsName n) ∧ place = anchor ++ names

/-- Entries that make a tree. -/
structure IsTree (t : FileTree) : Prop where
  once : (t.map Prod.fst).Nodup
  spelled : ∀ place ∈ t.map Prod.fst, IsPlace place
  closed : ∀ place ∈ t.map Prod.fst, ∀ above, above <+: place → above ≠ place →
    t.at? above = some .directory

theorem isTree_nil : IsTree [] where
  once := List.nodup_nil
  spelled := fun _ h => nomatch h
  closed := fun _ h => nomatch h

section Entries

variable {t : FileTree} {place : List String} {e : Entry}

theorem at?_of_ne_nil (hplace : place ≠ []) :
    t.at? place = (t.find? (·.1 == place)).map Prod.snd := by
  unfold at?
  rw [if_neg (by simpa using hplace)]

theorem mem_of_at? (hplace : place ≠ []) (h : t.at? place = some e) : (place, e) ∈ t := by
  rw [at?_of_ne_nil hplace, Option.map_eq_some_iff] at h
  obtain ⟨⟨found, e'⟩, hfind, rfl⟩ := h
  have hkey : found = place := by simpa using List.find?_some hfind
  exact hkey ▸ List.mem_of_find?_eq_some hfind

theorem at?_append (hplace : place ≠ []) (s : FileTree) :
    at? (t ++ s) place = (t.at? place).or (s.at? place) := by
  rw [at?_of_ne_nil hplace, at?_of_ne_nil hplace, at?_of_ne_nil hplace, List.find?_append]
  cases List.find? (·.1 == place) t <;> rfl

theorem at?_eq_none_iff (hplace : place ≠ []) :
    t.at? place = none ↔ place ∉ t.map Prod.fst := by
  rw [at?_of_ne_nil hplace, Option.map_eq_none_iff, List.find?_eq_none]
  constructor
  · intro h hmem
    obtain ⟨x, hx, hkey⟩ := List.mem_map.mp hmem
    exact h x hx (by simpa using hkey)
  · intro h x hx hkey
    exact h (List.mem_map.mpr ⟨x, hx, by simpa using hkey⟩)

/-- In a tree the entry at a place is the one listed there. -/
theorem IsTree.at?_eq_some_iff (ht : t.IsTree) (hplace : place ≠ []) :
    t.at? place = some e ↔ (place, e) ∈ t := by
  refine ⟨mem_of_at? hplace, fun hmem => ?_⟩
  cases hat : t.at? place with
  | none => exact absurd (List.mem_map_of_mem hmem) ((at?_eq_none_iff hplace).mp hat)
  | some e' =>
    have hsame := List.inj_on_of_nodup_map ht.once (mem_of_at? hplace hat) hmem rfl
    rw [(Prod.mk.inj hsame).2]

end Entries

/-! ## Adding entries -/

section Adding

variable {t : FileTree} {place : List String} {e : Entry}

theorem put_of_at?_eq_none (hplace : place ≠ []) (hnew : t.at? place = none) :
    t.put place e = t ++ [(place, e)] := by
  have hany : t.any (·.1 == place) = false := by
    rw [List.any_eq_false]
    intro x hx hkey
    exact (at?_eq_none_iff hplace).mp hnew (List.mem_map.mpr ⟨x, hx, by simpa using hkey⟩)
  unfold put
  rw [hany]
  rfl

theorem at?_put (hplace : place ≠ []) (hnew : t.at? place = none) (q : List String) :
    (t.put place e).at? q = if q = place then some e else t.at? q := by
  rw [put_of_at?_eq_none hplace hnew]
  cases q with
  | nil => rw [if_neg hplace.symm]; rfl
  | cons part rest =>
    have hsingle : at? [(place, e)] (part :: rest) =
        if part :: rest = place then some e else none := by
      rw [at?_of_ne_nil (List.cons_ne_nil _ _), List.find?_singleton]
      by_cases hq : part :: rest = place
      · rw [if_pos hq, if_pos (beq_iff_eq.mpr hq.symm)]
        rfl
      · rw [if_neg hq, if_neg fun h => hq (beq_iff_eq.mp h).symm]
        rfl
    rw [at?_append (List.cons_ne_nil _ _), hsingle]
    by_cases hq : part :: rest = place
    · rw [if_pos hq, if_pos hq, hq, hnew]
      rfl
    · rw [if_neg hq, if_neg hq, Option.or_none]

/-- A new entry with directories above it keeps a tree one. -/
theorem IsTree.put (ht : t.IsTree) (hplace : place ≠ []) (hspelled : IsPlace place)
    (hnew : t.at? place = none)
    (habove : ∀ above, above <+: place → above ≠ place → t.at? above = some .directory) :
    (t.put place e).IsTree := by
  have hkeys : (t.put place e).map Prod.fst = t.map Prod.fst ++ [place] := by
    rw [put_of_at?_eq_none hplace hnew, List.map_append, List.map_singleton]
  have hkept : ∀ above, t.at? above = some .directory →
      (t.put place e).at? above = some .directory := by
    intro above hdir
    have hne : above ≠ place := by
      rintro rfl
      cases hnew.symm.trans hdir
    rw [at?_put hplace hnew, if_neg hne, hdir]
  constructor
  · rw [hkeys, ← List.concat_eq_append]
    exact ht.once.concat ((at?_eq_none_iff hplace).mp hnew)
  · rw [hkeys]
    intro other hother
    rcases List.mem_append.mp hother with hold | hlast
    · exact ht.spelled other hold
    · exact List.mem_singleton.mp hlast ▸ hspelled
  · rw [hkeys]
    intro other hother above hwithin hne
    rcases List.mem_append.mp hother with hold | hlast
    · exact hkept above (ht.closed other hold above hwithin hne)
    · rw [List.mem_singleton.mp hlast] at hwithin hne
      exact hkept above (habove above hwithin hne)

theorem IsPlace.above {above : List String} (h : IsPlace place) (hwithin : above <+: place) :
    IsPlace above := by
  obtain ⟨anchor, names, hanchor, hnames, rfl⟩ := h
  obtain ⟨rest, hrest⟩ := hwithin
  rcases List.append_eq_append_iff.mp hrest with ⟨up, rfl, -⟩ | ⟨down, rfl, hdown⟩
  · refine ⟨above, [], ?_, by simp, (List.append_nil _).symm⟩
    rcases hanchor with hroot | ⟨n, hn⟩
    · rcases List.append_eq_singleton_iff.mp hroot with ⟨rfl, -⟩ | ⟨rfl, -⟩
      · exact .inr ⟨0, rfl⟩
      · exact .inl rfl
    · exact .inr ⟨above.length, (List.prefix_replicate_iff.mp ⟨up, hn⟩).2⟩
  · exact ⟨anchor, down, hanchor, fun n hn => hnames n (hdown ▸ List.mem_append_left _ hn), rfl⟩

/-- The tree with a directory at a place, unless an entry is there. -/
def withDirectory (t : FileTree) (dir : List String) : FileTree :=
  if dir.isEmpty || (t.at? dir).isSome then t else t.put dir .directory

theorem at?_withDirectory (t : FileTree) (dir q : List String) :
    (t.withDirectory dir).at? q =
      if q = dir then some ((t.at? q).getD .directory) else t.at? q := by
  unfold withDirectory
  by_cases hthere : dir.isEmpty || (t.at? dir).isSome
  · rw [if_pos hthere]
    split
    · next hq =>
      obtain hempty | hsome := Bool.or_eq_true _ _ ▸ hthere
      · rw [hq, List.isEmpty_iff.mp hempty]
        rfl
      · obtain ⟨e, he⟩ := Option.isSome_iff_exists.mp hsome
        rw [hq, he]
        rfl
    · rfl
  · rw [if_neg hthere]
    obtain ⟨hne, hnew⟩ := not_or.mp (Bool.or_eq_true _ _ ▸ hthere)
    have hdir : dir ≠ [] := fun h => hne (List.isEmpty_iff.mpr h)
    have hnone : t.at? dir = none := Option.not_isSome_iff_eq_none.mp hnew
    rw [at?_put hdir hnone]
    split
    · next hq => rw [hq, hnone]; rfl
    · rfl

theorem IsTree.withDirectory {dir : List String} (ht : t.IsTree) (hspelled : IsPlace dir)
    (habove : ∀ above, above <+: dir → above ≠ dir → t.at? above = some .directory) :
    (t.withDirectory dir).IsTree := by
  unfold FileTree.withDirectory
  split
  · exact ht
  · next hthere =>
    obtain ⟨hne, hnew⟩ := not_or.mp (Bool.or_eq_true _ _ ▸ hthere)
    exact ht.put (fun h => hne (List.isEmpty_iff.mpr h)) hspelled
      (Option.not_isSome_iff_eq_none.mp hnew) habove

/-- The directories above a place, put one after the other from the top. -/
theorem IsTree.withDirectories (ht : t.IsTree) (hspelled : IsPlace place)
    (hfree : ∀ n < place.length, (t.at? (place.take n)).any Entry.isFile = false) (k : Nat)
    (hk : k ≤ place.length) :
    let s := ((List.range k).map fun n => place.take n).foldl FileTree.withDirectory t
    s.IsTree ∧ ∀ q, s.at? q =
      if ∃ n < k, q = place.take n then some .directory else t.at? q := by
  induction k with
  | zero => exact ⟨ht, fun q => by simp⟩
  | succ k ih =>
    obtain ⟨hs, hat⟩ := ih (Nat.le_of_succ_le hk)
    rw [List.range_succ, List.map_append, List.foldl_append]
    set s := ((List.range k).map fun n => place.take n).foldl FileTree.withDirectory t
    have hwithin : place.take k <+: place := List.take_prefix k place
    constructor
    · refine hs.withDirectory (hspelled.above hwithin) fun above habove hne => ?_
      have hlt : above.length < k :=
        Nat.lt_of_le_of_ne (habove.length_le.trans (List.length_take_le k place)) fun hlen =>
          hne (habove.eq_of_length (by rw [List.length_take]; omega))
      rw [hat, if_pos ⟨above.length, hlt, List.prefix_iff_eq_take.mp (habove.trans hwithin)⟩]
    · intro q
      change (s.withDirectory (place.take k)).at? q = _
      simp only [at?_withDirectory, hat, Nat.exists_lt_succ_right]
      by_cases hq : q = place.take k
      · -- an entry that was there already is a directory
        have hold := hfree k hk
        rw [← hq] at hold
        have hupto : (∃ n < k, q = place.take n) ∨ q = place.take k := .inr hq
        rw [if_pos hq, if_pos hupto]
        split
        · rfl
        · rcases hat : t.at? q with _ | _ | _
          · rfl
          · rw [hat] at hold
            cases hold
          · rfl
      · simp only [hq, or_false, if_false]

/-- A new entry that no file is above keeps a tree one. -/
theorem IsTree.add (ht : t.IsTree) (hplace : place ≠ []) (hspelled : IsPlace place)
    (hnew : t.at? place = none)
    (hfree : ∀ n < place.length, (t.at? (place.take n)).any Entry.isFile = false) :
    (t.add place e).IsTree := by
  obtain ⟨hs, hat⟩ := ht.withDirectories hspelled hfree place.length le_rfl
  refine hs.put hplace hspelled ?_ fun above hwithin hne => ?_
  · rw [hat, if_neg, hnew]
    rintro ⟨n, hn, htake⟩
    have hlen := congrArg List.length htake
    rw [List.length_take] at hlen
    omega
  · have hlt : above.length < place.length :=
      Nat.lt_of_le_of_ne hwithin.length_le fun hlen => hne (hwithin.eq_of_length hlen)
    rw [hat, if_pos ⟨above.length, hlt, List.prefix_iff_eq_take.mp hwithin⟩]

end Adding

/-! ## Walking -/

section Walking

variable {t : FileTree} {here place more : List String}

/-- A walk that ends at a directory goes on from there. -/
theorem walk_append (h : t.walk here more = .ok place)
    (hdir : ∀ content, t.at? place ≠ some (.file content)) (rest : List String) :
    t.walk here (more ++ rest) = t.walk place rest := by
  induction more generalizing here with
  | nil => cases h; rfl
  | cons part later ih =>
    rw [List.cons_append]
    rw [walk] at h ⊢
    split at h
    · next hup => rw [if_pos hup, ih h]
    · next hup =>
      rw [if_neg hup]
      split at h
      · cases h
      · next hshort =>
        rw [if_neg hshort]
        split at h
        · cases h
        · exact ih h
        · next content hfile =>
          split at h
          · cases h
            exact absurd hfile (hdir content)
          · cases h

theorem walk_name {part : String} (hpart : IsName part) (rest : List String) :
    t.walk here (part :: rest) =
      match t.at? (here ++ [part]) with
      | none => .error .absent
      | some .directory => t.walk (here ++ [part]) rest
      | some (.file _) => if rest.isEmpty then .ok (here ++ [part]) else .error .notDirectory := by
  rcases hat : t.at? (here ++ [part]) with _ | _ | _ <;>
  simp [walk, hpart.notAbove, Nat.not_lt.mpr hpart.short, hat]

/-- Names lead straight down. -/
theorem eq_append_of_walk (hmore : ∀ n ∈ more, IsName n) (h : t.walk here more = .ok place) :
    place = here ++ more := by
  induction more generalizing here with
  | nil => cases h; exact (List.append_nil _).symm
  | cons part rest ih =>
    rw [walk_name (hmore part List.mem_cons_self)] at h
    split at h
    · cases h
    · rw [ih (fun n hn => hmore n (List.mem_cons_of_mem _ hn)) h, List.append_assoc]
      rfl
    · split at h
      · next hrest =>
        cases h
        rw [List.isEmpty_iff.mp hrest]
      · cases h

/-- In a tree nothing stops a walk to an entry. -/
theorem IsTree.walk_of_mem (ht : t.IsTree) {e : Entry} (hmore : ∀ n ∈ more, IsName n)
    (h : (here ++ more, e) ∈ t) : t.walk here more = .ok (here ++ more) := by
  induction more generalizing here with
  | nil => rw [walk, List.append_nil]
  | cons part rest ih =>
    have hassoc : here ++ [part] ++ rest = here ++ part :: rest := List.append_cons .. |>.symm
    rw [walk_name (hmore part List.mem_cons_self), ← hassoc]
    rw [← hassoc] at h
    have hrest := ih (fun n hn => hmore n (List.mem_cons_of_mem _ hn)) h
    cases rest with
    | nil =>
      rw [List.append_nil] at h ⊢
      rw [(ht.at?_eq_some_iff (by simp)).mpr h]
      cases e <;> rfl
    | cons next later =>
      rw [ht.closed _ (List.mem_map_of_mem h) (here ++ [part]) (List.prefix_append _ _) (by simp)]
      exact hrest

/-- A first component that is too long stops a walk. -/
theorem lookup_of_long {p : FilePath} {part : String} {rest : List String}
    (hparts : p.parts = part :: rest) (hshort : isTooLong p = false) (hup : part ≠ "..")
    (hlong : nameLimit < part.utf8ByteSize) : t.lookup p = .error .nameTooLong := by
  unfold lookup locate
  rw [hshort, hparts, if_neg Bool.false_ne_true, walk, if_neg (by simpa using hup), if_pos hlong]
  rfl

end Walking

/-! ## Entries of paths -/

section Paths

variable {t : FileTree} {p : FilePath} {content : Content}

theorem entry?_eq_some_iff {e : Entry} :
    t.entry? p = .ok (some e) ↔
      p.hasNull = false ∧
        ∃ place, t.locate p = .ok place ∧ (t.at? place).getD .directory = e := by
  unfold entry? lookup
  cases p.hasNull with
  | true => simp
  | false =>
    cases t.locate p with
    | error problem => cases problem <;> simp [Except.map]
    | ok place => simp [Except.map]

theorem entry?_eq_file_iff :
    t.entry? p = .ok (some (.file content)) ↔
      p.hasNull = false ∧ ∃ place, t.locate p = .ok place ∧ t.at? place = some (.file content) := by
  rw [entry?_eq_some_iff]
  refine and_congr_right fun _ => exists_congr fun place => and_congr_right fun _ => ?_
  rcases t.at? place with _ | _ | _ <;> simp

theorem entry?_eq_directory_iff :
    t.entry? p = .ok (some .directory) ↔
      p.hasNull = false ∧
        ∃ place, t.locate p = .ok place ∧ ∀ content, t.at? place ≠ some (.file content) := by
  rw [entry?_eq_some_iff]
  refine and_congr_right fun _ => exists_congr fun place => and_congr_right fun _ => ?_
  rcases t.at? place with _ | _ | _ <;> simp

theorem entry?_eq_error_iff {f : Fault} :
    t.entry? p = .error f ↔
      p.hasNull = false ∧ t.lookup p = .error .nameTooLong ∧ f = .file .nameTooLong p.text := by
  unfold entry?
  cases p.hasNull with
  | true => simp
  | false =>
    cases t.lookup p with
    | ok e => simp
    | error problem => cases problem <;> simp [eq_comm]

theorem hasNull_join {more : List String} (hmore : ∀ n ∈ more, IsName n) :
    (p.join more).hasNull = p.hasNull := by
  have hnone : (more.any fun part => part.toList.contains (Char.ofNat 0)) = false := by
    rw [List.any_eq_false]
    exact fun n hn h => (hmore n hn).noNull (List.contains_iff_mem.mp h)
  unfold FilePath.hasNull FilePath.join
  rw [List.any_append, hnone, Bool.or_false]

/-- What a path continued below a directory leads to stands below the directory's place. -/
theorem IsTree.entry?_join (ht : t.IsTree) {place more : List String}
    (hdir : t.entry? p = .ok (some .directory)) (hplace : t.locate p = .ok place)
    (hmore : ∀ n ∈ more, IsName n) :
    t.entry? (p.join more) = .ok (some (.file content)) ↔
      more ≠ [] ∧ (place ++ more, .file content) ∈ t ∧ isTooLong (p.join more) = false := by
  obtain ⟨hnull, _, hsame, hnofile⟩ := entry?_eq_directory_iff.mp hdir
  cases hplace.symm.trans hsame
  have hwalk : t.walk (start p) p.parts = .ok place := by
    unfold locate at hplace
    split at hplace
    · cases hplace
    · exact hplace
  have hlocate : t.locate (p.join more) =
      if isTooLong (p.join more) then .error .nameTooLong else t.walk place more := by
    rw [← walk_append hwalk hnofile more]
    rfl
  rw [entry?_eq_file_iff, hasNull_join hmore, hlocate]
  cases hlong : isTooLong (p.join more) with
  | true => simp
  | false =>
    rw [if_neg Bool.false_ne_true]
    constructor
    · rintro ⟨-, end', hend, hat⟩
      cases eq_append_of_walk hmore hend
      have hne : more ≠ [] := by
        rintro rfl
        rw [List.append_nil] at hat
        exact hnofile content hat
      exact ⟨hne, mem_of_at? (by simp [hne]) hat, rfl⟩
    · rintro ⟨hne, hmem, -⟩
      exact ⟨hnull, place ++ more, ht.walk_of_mem hmore hmem,
        (ht.at?_eq_some_iff (by simp [hne])).mpr hmem⟩

end Paths

/-! ## What stands below a directory -/

section Below

variable {t : FileTree} {kind : Entry → Bool} {dir place more : List String}

theorem below?_eq_some_iff :
    below? dir place = some more ↔
      place = dir ++ more ∧ ∃ part rest, more = part :: rest ∧ part ≠ "/" ∧ part ≠ ".." := by
  constructor
  · intro h
    unfold below? at h
    split at h
    · cases h
    · next part rest hdrop =>
      split at h
      · next hcond =>
        cases h
        simp only [Bool.and_eq_true, List.isPrefixOf_iff_prefix, bne_iff_ne] at hcond
        obtain ⟨⟨⟨tail, rfl⟩, hroot⟩, hup⟩ := hcond
        rw [List.drop_left] at hdrop
        exact ⟨by rw [hdrop], part, rest, rfl, hroot, hup⟩
      · cases h
  · rintro ⟨rfl, part, rest, rfl, hroot, hup⟩
    have hcond : (dir.isPrefixOf (dir ++ part :: rest) && part != "/" && part != "..") = true := by
      simp [hroot, hup]
    unfold below?
    rw [List.drop_left]
    exact if_pos hcond

theorem IsAnchor.not_isName {anchor : List String} (h : IsAnchor anchor) {part : String}
    (hpart : part ∈ anchor) : part = "/" ∨ part = ".." := by
  rcases h with rfl | ⟨n, rfl⟩
  · exact .inl (List.mem_singleton.mp hpart)
  · exact .inr (List.eq_of_mem_replicate hpart)

/-- Below a directory stand names only. -/
theorem IsPlace.isName_of_below (h : IsPlace place) (hbelow : below? dir place = some more) :
    ∀ n ∈ more, IsName n := by
  obtain ⟨anchor, names, hanchor, hnames, hplace⟩ := h
  obtain ⟨hsplit, part, rest, rfl, hroot, hup⟩ := below?_eq_some_iff.mp hbelow
  rcases List.append_eq_append_iff.mp (hplace.symm.trans hsplit) with
    ⟨down, -, hdown⟩ | ⟨up, hanc, hmore⟩
  · exact fun n hn => hnames n (hdown ▸ List.mem_append_right _ hn)
  · cases up with
    | nil => exact hmore ▸ hnames
    | cons first later =>
      have hfirst : first = part := (List.cons.inj hmore).1.symm
      have hpart : part ∈ anchor := by simp [hanc, hfirst]
      exact ((hanchor.not_isName hpart).elim hroot hup).elim

theorem IsTree.mem_placesBelow (ht : t.IsTree) :
    more ∈ t.placesBelow kind dir ↔
      more ≠ [] ∧ (∀ n ∈ more, IsName n) ∧ ∃ e, kind e = true ∧ (dir ++ more, e) ∈ t := by
  unfold placesBelow
  rw [List.mem_mergeSort, List.mem_filterMap]
  constructor
  · rintro ⟨place, hplace, hbelow⟩
    obtain ⟨⟨_, e⟩, hentry, rfl⟩ := List.mem_map.mp hplace
    obtain ⟨hmem, hkind⟩ := List.mem_filter.mp hentry
    have hnames := (ht.spelled _ (List.mem_map_of_mem hmem)).isName_of_below hbelow
    obtain ⟨hsplit, part, rest, rfl, -, -⟩ := below?_eq_some_iff.mp hbelow
    exact ⟨List.cons_ne_nil _ _, hnames, e, hkind, hsplit ▸ hmem⟩
  · rintro ⟨hne, hnames, e, hkind, hmem⟩
    obtain ⟨part, rest, rfl⟩ := List.exists_cons_of_ne_nil hne
    have hpart := hnames part List.mem_cons_self
    exact ⟨dir ++ part :: rest, List.mem_map_of_mem (List.mem_filter.mpr ⟨hmem, hkind⟩),
      below?_eq_some_iff.mpr ⟨rfl, part, rest, rfl, hpart.ne_slash, hpart.notAbove⟩⟩

/-- The places below a directory stand in strict order. -/
theorem IsTree.pairwise_placesBelow (ht : t.IsTree) :
    (t.placesBelow kind dir).Pairwise (· < ·) := by
  unfold placesBelow
  set found := ((t.filter fun x => kind x.2).map Prod.fst).filterMap (below? dir) with hfound
  have honce : found.Nodup := by
    refine List.Nodup.filterMap ?_ (ht.once.sublist (List.filter_sublist.map _))
    intro a b more ha hb
    rw [(below?_eq_some_iff.mp ha).1, (below?_eq_some_iff.mp hb).1]
  have hsorted : (found.mergeSort fun a b => !(b < a)).Pairwise fun a b => (!(b < a)) = true :=
    List.pairwise_mergeSort (by simpa using fun a b c => le_trans) (by simpa using le_total) found
  have hdistinct : (found.mergeSort fun a b => !(b < a)).Pairwise (· ≠ ·) :=
    (List.mergeSort_perm _ _).nodup_iff.mpr honce
  exact (hsorted.and hdistinct).imp fun ⟨hle, hne⟩ =>
    lt_of_le_of_ne (by simpa using hle) hne

end Below

end RuleAudit.FileTree
