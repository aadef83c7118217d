import Mathlib.Data.Nat.Find
import RuleAudit.Proofs.Trees
import RuleAudit.Selection

/-!
# Collecting files

What the arguments of a command yield: a file stands for itself, whatever its extension, and a
directory for the source files below it (`Selection.Yields`). The collection holds what the
arguments yield, each path once, in the order of the first argument that yields it and then in the
order of components (`Selection.Collects`). An argument whose files are there already adds nothing.

The first argument that cannot be used ends the collection. A missing one is an error of the
command, but an argument with a path that is too long to be looked up is not: it ends in the fault
of the lookup.
-/

namespace RuleAudit.Selection

open FileTree (IsName)

/-! ## What arguments stand for -/

/-- A path with a known source extension, in any case. -/
def IsSource (p : FilePath) : Prop :=
  Text.lower p.extension ∈ languageExtensions.map Prod.fst

/-- The files an argument yields: itself, or the source files below it. -/
inductive Yields (tree : FileTree) (arg : FilePath) : FilePath → Prop
  | named {content : Content} (hfile : tree.entry? arg = .ok (some (.file content))) :
      Yields tree arg arg
  | below {more : List String} {content : Content}
      (hdir : tree.entry? arg = .ok (some .directory)) (hmore : ∀ n ∈ more, IsName n)
      (hfile : tree.entry? (arg.join more) = .ok (some (.file content)))
      (hsource : IsSource (arg.join more)) : Yields tree arg (arg.join more)

/-- The paths met in an argument that are too long: itself, or one of an entry below it. -/
inductive MeetsTooLong (tree : FileTree) (arg : FilePath) : FilePath → Prop
  | itself (hnull : arg.hasNull = false) (hlong : tree.lookup arg = .error .nameTooLong) :
      MeetsTooLong tree arg arg
  | below {place more : List String} (hdir : tree.entry? arg = .ok (some .directory))
      (hplace : tree.locate arg = .ok place) (hmore : ∀ n ∈ more, IsName n) (hne : more ≠ [])
      (hthere : (tree.at? (place ++ more)).isSome) (hlong : FileTree.isTooLong (arg.join more)) :
      MeetsTooLong tree arg (arg.join more)

/-- An argument that leads to nothing. -/
def Missing (tree : FileTree) (arg : FilePath) : Prop :=
  tree.entry? arg = .ok none

/-- An argument that leads to a file or directory, with no path in it too long. -/
def Usable (tree : FileTree) (arg : FilePath) : Prop :=
  (∃ e, tree.entry? arg = .ok (some e)) ∧ ∀ p, ¬MeetsTooLong tree arg p

/-- Files are what an argument yields, in the order of their components. -/
structure Lists (tree : FileTree) (arg : FilePath) (files : List FilePath) : Prop where
  exact : ∀ p, p ∈ files ↔ Yields tree arg p
  sorted : files.Pairwise fun p q => p.parts < q.parts

/-- The argument at an index is the first that yields a path. -/
def FirstYields (tree : FileTree) (paths : List FilePath) (k : Nat) (p : FilePath) : Prop :=
  (∃ arg, paths[k]? = some arg ∧ Yields tree arg p) ∧
    ∀ j < k, ∀ arg, paths[j]? = some arg → ¬Yields tree arg p

/-- A path comes before another: an earlier argument yields it first, or the same one does and its
components are smaller. -/
def Precedes (tree : FileTree) (paths : List FilePath) (p q : FilePath) : Prop :=
  ∃ i j, FirstYields tree paths i p ∧ FirstYields tree paths j q ∧
    (i < j ∨ i = j ∧ p.parts < q.parts)

/-- Files are the collection of arguments. -/
structure Collects (tree : FileTree) (paths files : List FilePath) : Prop where
  once : files.Nodup
  exact : ∀ p, p ∈ files ↔ ∃ arg ∈ paths, Yields tree arg p
  order : files.Pairwise (Precedes tree paths)

/-! ## One argument -/

section Argument

variable {tree : FileTree} {arg p : FilePath}

theorem isSome_languageOf? : (languageOf? p).isSome = true ↔ IsSource p := by
  unfold languageOf? IsSource
  simp

theorem usable_or_missing_or_tooLong (tree : FileTree) (arg : FilePath) :
    Usable tree arg ∨ Missing tree arg ∨ ∃ p, MeetsTooLong tree arg p := by
  by_cases hlong : ∃ p, MeetsTooLong tree arg p
  · exact .inr (.inr hlong)
  · have hnone : ∀ p, ¬MeetsTooLong tree arg p := fun p hp => hlong ⟨p, hp⟩
    cases hentry : tree.entry? arg with
    | ok found =>
      cases found with
      | some e => exact .inl ⟨⟨e, hentry⟩, hnone⟩
      | none => exact .inr (.inl hentry)
    | error f =>
      obtain ⟨hnull, hlookup, -⟩ := FileTree.entry?_eq_error_iff.mp hentry
      exact (hnone arg (.itself hnull hlookup)).elim

theorem filesOf_of_missing (h : Missing tree arg) :
    filesOf tree arg = .error (.command s!"Path does not exist: {arg.text}" 2) := by
  unfold filesOf
  rw [show tree.entry? arg = .ok none from h]

/-- The paths a walk below a directory looks at. -/
theorem mem_walked (ht : tree.IsTree) {place : List String} :
    p ∈ (tree.placesBelow (fun e => !e.isFile) place).map arg.join ++
        (tree.placesBelow Entry.isFile place).map arg.join ↔
      ∃ more, p = arg.join more ∧ more ≠ [] ∧ (∀ n ∈ more, IsName n) ∧
        (tree.at? (place ++ more)).isSome := by
  simp only [List.mem_append, List.mem_map, ht.mem_placesBelow]
  constructor
  · rintro (⟨more, ⟨hne, hmore, e, -, hmem⟩, rfl⟩ | ⟨more, ⟨hne, hmore, e, -, hmem⟩, rfl⟩) <;>
    exact ⟨more, rfl, hne, hmore, Option.isSome_iff_exists.mpr
      ⟨e, (ht.at?_eq_some_iff (by simp [hne])).mpr hmem⟩⟩
  · rintro ⟨more, rfl, hne, hmore, hthere⟩
    obtain ⟨e, he⟩ := Option.isSome_iff_exists.mp hthere
    have hmem := FileTree.mem_of_at? (by simp [hne]) he
    cases hkind : e.isFile with
    | true => exact .inr ⟨more, ⟨hne, hmore, e, hkind, hmem⟩, rfl⟩
    | false => exact .inl ⟨more, ⟨hne, hmore, e, by rw [hkind]; rfl, hmem⟩, rfl⟩

theorem filesOf_of_tooLong (ht : tree.IsTree) (h : ∃ p, MeetsTooLong tree arg p) :
    ∃ p, MeetsTooLong tree arg p ∧ filesOf tree arg = .error (.file .nameTooLong p.text) := by
  obtain ⟨_, hp⟩ := h
  unfold filesOf
  cases hp with
  | itself hnull hlong =>
    rw [FileTree.entry?_eq_error_iff.mpr ⟨hnull, hlong, rfl⟩]
    exact ⟨arg, .itself hnull hlong, rfl⟩
  | @below place more hdir hplace hmore hne hthere hlong =>
    rw [hdir, hplace]
    dsimp only [sourcesBelow]
    split
    · next q hfind =>
      obtain ⟨more', rfl, hne', hmore', hthere'⟩ :=
        (mem_walked ht).mp (List.mem_of_find?_eq_some hfind)
      exact ⟨_, .below hdir hplace hmore' hne' hthere' (List.find?_some hfind), rfl⟩
    · next hfind =>
      exact absurd hlong (List.find?_eq_none.mp hfind _
        ((mem_walked ht).mpr ⟨more, rfl, hne, hmore, hthere⟩))

/-- A walk that meets no path that is too long finds what a directory yields, in the order of
components. -/
theorem sourcesBelow_of_usable (ht : tree.IsTree) {place : List String}
    (hdir : tree.entry? arg = .ok (some .directory)) (hplace : tree.locate arg = .ok place)
    (hshort : ∀ p, ¬MeetsTooLong tree arg p) :
    ∃ files, sourcesBelow tree arg place = .ok files ∧ Lists tree arg files := by
  have hwalked : ∀ more, more ≠ [] → (∀ n ∈ more, IsName n) →
      (tree.at? (place ++ more)).isSome → FileTree.isTooLong (arg.join more) = false :=
    fun more hne hmore hthere => by
      by_contra hlong
      exact hshort _ (.below hdir hplace hmore hne hthere (by simpa using hlong))
  have hfind : ((tree.placesBelow (fun e => !e.isFile) place).map arg.join ++
      (tree.placesBelow Entry.isFile place).map arg.join).find? FileTree.isTooLong = none := by
    rw [List.find?_eq_none]
    intro q hq
    obtain ⟨more, rfl, hne, hmore, hthere⟩ := (mem_walked ht).mp hq
    simp [hwalked more hne hmore hthere]
  dsimp only [sourcesBelow]
  rw [hfind]
  refine ⟨_, rfl, fun p => ?_, ?_⟩
  · rw [List.mem_filter, isSome_languageOf?, List.mem_map]
    constructor
    · rintro ⟨⟨more, hmem, rfl⟩, hsource⟩
      obtain ⟨hne, hmore, e, hkind, hin⟩ := ht.mem_placesBelow.mp hmem
      cases e with
      | directory => cases hkind
      | file content =>
        have hat := (ht.at?_eq_some_iff (by simp [hne])).mpr hin
        have hlong := hwalked more hne hmore (by rw [hat]; rfl)
        exact .below hdir hmore ((ht.entry?_join hdir hplace hmore).mpr ⟨hne, hin, hlong⟩) hsource
    · intro hyields
      cases hyields with
      | named hfile => cases hdir.symm.trans hfile
      | @below more content _ hmore hfile hsource =>
        obtain ⟨hne, hin, -⟩ := (ht.entry?_join hdir hplace hmore).mp hfile
        exact ⟨⟨more, ht.mem_placesBelow.mpr ⟨hne, hmore, _, rfl, hin⟩, rfl⟩, hsource⟩
  · refine (List.pairwise_map.mpr ?_).filter _
    exact ht.pairwise_placesBelow.imp fun hlt => List.append_left_lt hlt

/-- An argument that can be used stands for what it yields. -/
theorem filesOf_of_usable (ht : tree.IsTree) (h : Usable tree arg) :
    ∃ files, filesOf tree arg = .ok files ∧ Lists tree arg files := by
  obtain ⟨⟨e, hentry⟩, hshort⟩ := h
  unfold filesOf
  rw [hentry]
  cases e with
  | file content =>
    refine ⟨[arg], rfl, fun p => ?_, List.pairwise_singleton _ _⟩
    rw [List.mem_singleton]
    constructor
    · rintro rfl
      exact .named hentry
    · intro hyields
      cases hyields with
      | named => rfl
      | below hdir => cases hentry.symm.trans hdir
  | directory =>
    obtain ⟨-, place, hplace, -⟩ := FileTree.entry?_eq_directory_iff.mp hentry
    rw [hplace]
    exact sourcesBelow_of_usable ht hentry hplace hshort

/-- An argument can be used if it stands for files. -/
theorem usable_of_filesOf (ht : tree.IsTree) {files : List FilePath}
    (h : filesOf tree arg = .ok files) : Usable tree arg := by
  rcases usable_or_missing_or_tooLong tree arg with husable | hmissing | hlong
  · exact husable
  · cases h.symm.trans (filesOf_of_missing hmissing)
  · obtain ⟨p, -, hfault⟩ := filesOf_of_tooLong ht hlong
    cases h.symm.trans hfault

end Argument

/-! ## Arguments in turn -/

section Arguments

variable {tree : FileTree} {paths : List FilePath} {arg p q : FilePath} {k : Nat}

theorem Lists.nodup {files : List FilePath} (h : Lists tree arg files) : files.Nodup :=
  h.sorted.imp fun hlt => ne_of_apply_ne FilePath.parts hlt.ne

theorem addPaths_eq {more : List FilePath} (hmore : more.Nodup) (collected : List FilePath) :
    addPaths collected more = collected ++ more.filter fun p => p ∉ collected := by
  unfold addPaths
  induction more generalizing collected with
  | nil => exact (List.append_nil _).symm
  | cons p rest ih =>
    obtain ⟨hp, hrest⟩ := List.nodup_cons.mp hmore
    rw [List.foldl_cons, ih hrest]
    by_cases hthere : p ∈ collected
    · rw [if_pos (List.contains_iff_mem.mpr hthere),
        List.filter_cons_of_neg (by simpa using hthere)]
    · have hsame : (rest.filter fun q => q ∉ collected ++ [p]) =
          rest.filter fun q => q ∉ collected :=
        List.filter_congr fun q hq => by
          have hne : q ≠ p := fun h => hp (h ▸ hq)
          simp [hne]
      rw [if_neg (by simpa using hthere), List.filter_cons_of_pos (by simpa using hthere), hsame,
        List.append_assoc]
      rfl

theorem collectFrom_cons (collected : List FilePath) (arg : FilePath) (rest : List FilePath) :
    collectFrom tree collected (arg :: rest) =
      (filesOf tree arg).bind fun files => collectFrom tree (addPaths collected files) rest := by
  rw [collectFrom]
  cases filesOf tree arg <;> rfl

theorem collectFrom_append (collected first second : List FilePath) :
    collectFrom tree collected (first ++ second) =
      (collectFrom tree collected first).bind fun c => collectFrom tree c second := by
  induction first generalizing collected with
  | nil => rfl
  | cons arg rest ih =>
    rw [List.cons_append, collectFrom_cons, collectFrom_cons]
    cases filesOf tree arg with
    | error f => rfl
    | ok files => exact ih _

theorem FirstYields.append (h : FirstYields tree paths k p) (later : List FilePath) :
    FirstYields tree (paths ++ later) k p := by
  obtain ⟨⟨arg, hk, hyields⟩, hfirst⟩ := h
  have hlt : k < paths.length := (List.getElem?_eq_some_iff.mp hk).1
  refine ⟨⟨arg, by rwa [List.getElem?_append_left hlt], hyields⟩, fun j hj a ha => ?_⟩
  rw [List.getElem?_append_left (hj.trans hlt)] at ha
  exact hfirst j hj a ha

theorem FirstYields.lt_length (h : FirstYields tree paths k p) : k < paths.length := by
  obtain ⟨⟨arg, hk, -⟩, -⟩ := h
  exact (List.getElem?_eq_some_iff.mp hk).1

theorem Precedes.append (h : Precedes tree paths p q) (later : List FilePath) :
    Precedes tree (paths ++ later) p q := by
  obtain ⟨i, j, hp, hq, hlt⟩ := h
  exact ⟨i, j, hp.append later, hq.append later, hlt⟩

/-- What earlier arguments yield is yielded by a first one of them. -/
theorem exists_firstYields (h : ∃ arg ∈ paths, Yields tree arg p) :
    ∃ k, FirstYields tree paths k p := by
  classical
  have hindex : ∃ k : Nat, ∃ arg, paths[k]? = some arg ∧ Yields tree arg p := by
    obtain ⟨arg, harg, hyields⟩ := h
    obtain ⟨k, hk⟩ := List.mem_iff_getElem?.mp harg
    exact ⟨k, arg, hk, hyields⟩
  exact ⟨Nat.find hindex, Nat.find_spec hindex, fun j hj arg harg hyields =>
    Nat.find_min hindex hj ⟨arg, harg, hyields⟩⟩

theorem firstYields_last (hnew : ¬∃ a ∈ paths, Yields tree a p) (h : Yields tree arg p) :
    FirstYields tree (paths ++ [arg]) paths.length p := by
  refine ⟨⟨arg, by simp, h⟩, fun j hj a ha hyields => hnew ⟨a, ?_, hyields⟩⟩
  rw [List.getElem?_append_left hj] at ha
  exact List.mem_of_getElem? ha

/-- One more argument adds what it yields that is not there yet, at the end. -/
theorem Collects.concat {files more : List FilePath} (h : Collects tree paths files)
    (hmore : Lists tree arg more) :
    Collects tree (paths ++ [arg]) (files ++ more.filter fun p => p ∉ files) := by
  have hnew : ∀ p ∈ more.filter (fun p => p ∉ files),
      FirstYields tree (paths ++ [arg]) paths.length p := by
    intro p hp
    obtain ⟨hp, hout⟩ := List.mem_filter.mp hp
    exact firstYields_last (fun hearlier => of_decide_eq_true hout ((h.exact p).mpr hearlier))
      ((hmore.exact p).mp hp)
  constructor
  · refine List.nodup_append.mpr ⟨h.once, hmore.nodup.filter _, ?_⟩
    rintro p hp q hq rfl
    exact of_decide_eq_true (List.mem_filter.mp hq).2 hp
  · intro p
    have hunion : p ∈ files ++ more.filter (fun p => p ∉ files) ↔ p ∈ files ∨ p ∈ more := by
      rw [List.mem_append, List.mem_filter, decide_eq_true_iff]
      exact ⟨fun h => h.imp_right And.left, fun h => or_iff_not_imp_left.mpr fun hout =>
        ⟨h.resolve_left hout, hout⟩⟩
    rw [hunion, h.exact, hmore.exact]
    simp only [List.mem_append, List.mem_singleton, or_and_right, exists_or, exists_eq_left]
  · refine List.pairwise_append.mpr ⟨h.order.imp fun hpq => hpq.append [arg], ?_, ?_⟩
    · -- among the new paths the order is that of their components
      exact (hmore.sorted.filter _).imp_of_mem fun hp hq hlt =>
        ⟨paths.length, paths.length, hnew _ hp, hnew _ hq, .inr ⟨rfl, hlt⟩⟩
    · -- a path that is there already was yielded by an earlier argument
      intro p hp q hq
      obtain ⟨i, hi⟩ := exists_firstYields ((h.exact p).mp hp)
      exact ⟨i, paths.length, hi.append [arg], hnew q hq, .inl hi.lt_length⟩

theorem collectFiles_concat {files more : List FilePath} (h : collectFiles tree paths = .ok files)
    (harg : filesOf tree arg = .ok more) (hmore : more.Nodup) :
    collectFiles tree (paths ++ [arg]) = .ok (files ++ more.filter fun p => p ∉ files) := by
  unfold collectFiles at h ⊢
  rw [collectFrom_append, h]
  change collectFrom tree files [arg] = _
  rw [collectFrom_cons, harg, ← addPaths_eq hmore]
  rfl

/-- Arguments that can all be used have a collection. -/
theorem exists_collects (ht : tree.IsTree) (h : ∀ arg ∈ paths, Usable tree arg) :
    ∃ files, collectFiles tree paths = .ok files ∧ Collects tree paths files := by
  induction paths using List.reverseRecOn with
  | nil => exact ⟨[], rfl, List.nodup_nil, by simp, List.Pairwise.nil⟩
  | append_singleton earlier arg ih =>
    obtain ⟨files, hfiles, hcollects⟩ := ih fun a ha => h a (List.mem_append_left _ ha)
    obtain ⟨more, hmore, hlists⟩ := filesOf_of_usable ht (h arg (by simp))
    exact ⟨_, collectFiles_concat hfiles hmore hlists.nodup, hcollects.concat hlists⟩

/-- An argument that yields only what earlier ones do adds nothing. -/
theorem collectFiles_skip (ht : tree.IsTree) {before : List FilePath}
    (hbefore : ∀ a ∈ before, Usable tree a) (harg : Usable tree arg)
    (hcover : ∀ p, Yields tree arg p → ∃ a ∈ before, Yields tree a p) (after : List FilePath) :
    collectFiles tree (before ++ arg :: after) = collectFiles tree (before ++ after) := by
  obtain ⟨files, hfiles, hcollects⟩ := exists_collects ht hbefore
  obtain ⟨more, hmore, hlists⟩ := filesOf_of_usable ht harg
  have hnone : (more.filter fun p => p ∉ files) = [] := by
    rw [List.filter_eq_nil_iff]
    intro p hp hout
    exact of_decide_eq_true hout ((hcollects.exact p).mpr (hcover p ((hlists.exact p).mp hp)))
  have hskip := collectFiles_concat hfiles hmore hlists.nodup
  rw [hnone, List.append_nil] at hskip
  unfold collectFiles at hfiles hskip ⊢
  rw [List.append_cons, collectFrom_append [] (before ++ [arg]), collectFrom_append [] before after,
    hskip, hfiles]

theorem collectFiles_of_filesOf {before : List FilePath} {f : Fault} (ht : tree.IsTree)
    (hbefore : ∀ a ∈ before, Usable tree a) (harg : filesOf tree arg = .error f)
    (after : List FilePath) : collectFiles tree (before ++ arg :: after) = .error f := by
  obtain ⟨files, hfiles, -⟩ := exists_collects ht hbefore
  unfold collectFiles at hfiles ⊢
  rw [collectFrom_append, hfiles]
  change collectFrom tree files (arg :: after) = _
  rw [collectFrom_cons, harg]
  rfl

/-- Arguments that can all be used have a collection, to which an argument adds nothing if earlier
ones yield its files. Otherwise the first argument that cannot be used decides the fault: an error
of the command if it is missing, and that of the lookup if a path in it is too long. -/
theorem collectFiles_collects (ht : tree.IsTree) (paths : List FilePath) :
    ((∀ arg ∈ paths, Usable tree arg) →
      (∃ files, collectFiles tree paths = .ok files ∧ Collects tree paths files) ∧
      ∀ before arg after, paths = before ++ arg :: after →
        (∀ p, Yields tree arg p → ∃ a ∈ before, Yields tree a p) →
        collectFiles tree (before ++ after) = collectFiles tree paths) ∧
    ∀ before arg after, paths = before ++ arg :: after → (∀ a ∈ before, Usable tree a) →
      (Usable tree arg ∨ Missing tree arg ∨ ∃ p, MeetsTooLong tree arg p) ∧
      (Missing tree arg → collectFiles tree paths =
        .error (.command s!"Path does not exist: {arg.text}" 2)) ∧
      ((∃ p, MeetsTooLong tree arg p) → ∃ p, MeetsTooLong tree arg p ∧
        collectFiles tree paths = .error (.file .nameTooLong p.text)) := by
  constructor
  · refine fun husable => ⟨exists_collects ht husable, fun before arg after hpaths hcover => ?_⟩
    rw [hpaths] at husable ⊢
    exact (collectFiles_skip ht (fun a ha => husable a (List.mem_append_left _ ha))
      (husable arg (by simp)) hcover after).symm
  · intro before arg after hpaths hbefore
    rw [hpaths]
    refine ⟨usable_or_missing_or_tooLong tree arg, fun hmissing => ?_, fun hlong => ?_⟩
    · exact collectFiles_of_filesOf ht hbefore (filesOf_of_missing hmissing) after
    · obtain ⟨p, hp, hfault⟩ := filesOf_of_tooLong ht hlong
      exact ⟨p, hp, collectFiles_of_filesOf ht hbefore hfault after⟩

end Arguments

/-- A tree with source files on two levels and a file that is none. -/
def smallTree : FileTree :=
  let blank := Entry.file (.text "")
  ((FileTree.add [] ["src", "b.js"] blank).add ["src", "a", "x.PY"] blank).add ["notes.txt"] blank

theorem isTree_smallTree : smallTree.IsTree := by
  have hplace : ∀ names : List String, (∀ n ∈ names, IsName n) → FileTree.IsPlace names :=
    fun names hnames => ⟨[], names, .inr ⟨0, rfl⟩, hnames, rfl⟩
  refine ((FileTree.isTree_nil.add ?_ (hplace _ ?_) ?_ ?_).add ?_ (hplace _ ?_) ?_ ?_).add ?_
    (hplace _ ?_) ?_ ?_ <;>
  decide +kernel

theorem filesOf_smallTree_src :
    filesOf smallTree ⟨"", ["src"]⟩ = .ok [⟨"", ["src", "a", "x.PY"]⟩, ⟨"", ["src", "b.js"]⟩] := by
  have hfiles : smallTree.placesBelow Entry.isFile ["src"] = [["a", "x.PY"], ["b.js"]] := by
    have hfound : ((smallTree.filter fun x => x.2.isFile).map Prod.fst).filterMap
        (FileTree.below? ["src"]) = [["b.js"], ["a", "x.PY"]] := by decide +kernel
    have hlt : ["a", "x.PY"] < ["b.js"] := by decide
    dsimp only [FileTree.placesBelow]
    rw [hfound]
    simp [List.mergeSort, hlt]
  have hdirectories : smallTree.placesBelow (fun e => !e.isFile) ["src"] = [["a"]] := by
    have hfound : ((smallTree.filter fun x => !x.2.isFile).map Prod.fst).filterMap
        (FileTree.below? ["src"]) = [["a"]] := by decide +kernel
    dsimp only [FileTree.placesBelow]
    rw [hfound]
    simp
  change sourcesBelow smallTree ⟨"", ["src"]⟩ ["src"] = _
  dsimp only [sourcesBelow]
  rw [hfiles, hdirectories]
  rfl

/-- Two files, and twice a directory that holds one of them; then a directory before a missing
argument, and before one that is too long. -/
theorem collectFiles_collects_smallTree :
    let src : FilePath := ⟨"", ["src"]⟩
    let paths : List FilePath := [⟨"", ["notes.txt"]⟩, ⟨"", ["src", "b.js"]⟩, src, src]
    let long := String.ofList (List.replicate 300 'a')
    smallTree.IsTree ∧ (∀ arg ∈ paths, Usable smallTree arg) ∧
      Collects smallTree paths
        [⟨"", ["notes.txt"]⟩, ⟨"", ["src", "b.js"]⟩, ⟨"", ["src", "a", "x.PY"]⟩] ∧
      collectFiles smallTree [⟨"", ["notes.txt"]⟩, ⟨"", ["src", "b.js"]⟩, src] =
        collectFiles smallTree paths ∧
      collectFiles smallTree [src, ⟨"", ["gone"]⟩] =
        .error (.command "Path does not exist: gone" 2) ∧
      collectFiles smallTree [src, ⟨"", [long]⟩] = .error (.file .nameTooLong long) := by
  intro src paths long
  have hnotes : filesOf smallTree ⟨"", ["notes.txt"]⟩ = .ok [⟨"", ["notes.txt"]⟩] := rfl
  have hb : filesOf smallTree ⟨"", ["src", "b.js"]⟩ = .ok [⟨"", ["src", "b.js"]⟩] := rfl
  have hsrc := filesOf_smallTree_src
  have husable : Usable smallTree src := usable_of_filesOf isTree_smallTree hsrc
  have hall : ∀ arg ∈ paths, Usable smallTree arg := by
    simp only [paths, List.forall_mem_cons]
    exact ⟨usable_of_filesOf isTree_smallTree hnotes, usable_of_filesOf isTree_smallTree hb,
      husable, husable, fun _ h => nomatch h⟩
  obtain ⟨⟨files, hfiles, hcollects⟩, hskip⟩ :=
    (collectFiles_collects isTree_smallTree paths).1 hall
  have hlist : collectFiles smallTree paths = .ok
      [⟨"", ["notes.txt"]⟩, ⟨"", ["src", "b.js"]⟩, ⟨"", ["src", "a", "x.PY"]⟩] := by
    simp only [collectFiles, paths, collectFrom_cons, hnotes, hb, hsrc, src, Except.bind]
    rfl
  have hmissing := (collectFiles_collects isTree_smallTree [src, ⟨"", ["gone"]⟩]).2
    [src] ⟨"", ["gone"]⟩ [] rfl (by simpa using husable)
  have hlong := (collectFiles_collects isTree_smallTree [src, ⟨"", [long]⟩]).2
    [src] ⟨"", [long]⟩ [] rfl (by simpa using husable)
  refine ⟨isTree_smallTree, hall, ?_, ?_, ?_, ?_⟩
  · cases hlist.symm.trans hfiles
    exact hcollects
  · exact hskip [⟨"", ["notes.txt"]⟩, ⟨"", ["src", "b.js"]⟩, src] src [] rfl
      fun p hp => ⟨src, by simp, hp⟩
  · exact hmissing.2.1 rfl
  · have hlookup : smallTree.lookup ⟨"", [long]⟩ = .error .nameTooLong :=
      FileTree.lookup_of_long rfl (by decide +kernel) (by decide +kernel) (by decide +kernel)
    have hnull : FilePath.hasNull ⟨"", [long]⟩ = false := by decide +kernel
    obtain ⟨p, hp, hfault⟩ := hlong.2.2 ⟨_, .itself hnull hlookup⟩
    rw [hfault]
    cases hp with
    | itself =>
      rw [show FilePath.text ⟨"", [long]⟩ = long by decide +kernel]
    | below hdir => cases hdir.symm.trans (FileTree.entry?_eq_error_iff.mpr ⟨hnull, hlookup, rfl⟩)

end RuleAudit.Selection
