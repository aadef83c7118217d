import Mathlib.Data.List.Basic
import RuleAudit.Proofs.Workload

/-!
# Which files are kept

A file is eligible when no glob excludes it, its size can be read and it is not too large. Globs that
compile leave a filter two ways to end: it gets to a path that cannot even be asked for, or it keeps
the longest part of the eligible files, from the first one on, that stays within the caps
(`Filtered.ofFiles_keeps_longest`). So filtering what was kept removes nothing, and with looser caps
what was kept is kept again, before the files that come in addition.
-/

namespace RuleAudit

/-! ## Eligible files and caps -/

/-- No glob that is a pattern matches a path. -/
def Glob.spares (globs : List String) (p : FilePath) : Bool :=
  globs.all fun glob =>
    !(compile glob).toOption.any fun node => node.matchesStart (target p).toList

/-- The size of a file, zero if it cannot be read. -/
def FileTree.sizeIn (tree : FileTree) (p : FilePath) : Nat :=
  match tree.sizeOf p with
  | .ok size => size
  | .error _ => 0

/-- Whether a file may be kept: no glob excludes it, its size can be read, and the size is at most
the greatest one, if there is one. -/
def eligible (tree : FileTree) (limits : Limits) (p : FilePath) : Bool :=
  Glob.spares limits.excludePatterns p &&
    match tree.sizeOf p with
    | .ok size => limits.maxFileSize ≤ 0 || Int.ofNat size ≤ limits.maxFileSize
    | .error _ => false

/-- The limits with other caps on the files that are kept. -/
def Limits.withCaps (limits : Limits) (maxFiles maxTotalSize : Int) : Limits :=
  { limits with maxFiles := maxFiles, maxTotalSize := maxTotalSize }

/-- A number of files with a total size stays within the caps. A cap that is not positive is none. -/
structure Limits.Allows (limits : Limits) (count total : Nat) : Prop where
  count : 0 < limits.maxFiles → (count : Int) ≤ limits.maxFiles
  total : 0 < limits.maxTotalSize → (total : Int) ≤ limits.maxTotalSize

/-- Files stay within the caps. -/
def WithinCaps (tree : FileTree) (limits : Limits) (files : List FilePath) : Prop :=
  limits.Allows files.length (files.map tree.sizeIn).sum

/-- The longest list with a property that others begin with. -/
structure LongestPrefix {α : Type} (p : List α → Prop) (kept all : List α) : Prop where
  isPrefix : kept <+: all
  holds : p kept
  longest : ∀ other, other <+: all → p other → other.length ≤ kept.length

/-- A cap is loosened: it is lifted, or it is one and not lowered. -/
def Loosens (old new : Int) : Prop :=
  new ≤ 0 ∨ (0 < old ∧ old ≤ new)

/-- Collecting files gets to a path that cannot be asked for: no glob excludes it, and the eligible
files before it stay within the caps. -/
def GetsToNull (tree : FileTree) (limits : Limits) (files : List FilePath) : Prop :=
  ∃ before p after, files = before ++ p :: after ∧ p.hasNull = true ∧
    Glob.spares limits.excludePatterns p = true ∧
    WithinCaps tree limits (before.filter (eligible tree limits))

namespace Limits.Allows

variable {limits : Limits} {count total : Nat}

theorem zero : limits.Allows 0 0 where
  count := Int.le_of_lt
  total := Int.le_of_lt

theorem mono (h : limits.Allows count total) {count' total' : Nat} (hcount : count' ≤ count)
    (htotal : total' ≤ total) : limits.Allows count' total' where
  count := fun hcap => by have := h.count hcap; omega
  total := fun hcap => by have := h.total hcap; omega

/-- One more file fits when the caps allow it with those before it. -/
theorem fits_iff {size : Nat} :
    fits limits count total size = true ↔ limits.Allows (count + 1) (total + size) := by
  unfold fits
  simp only [Bool.and_eq_true, Bool.or_eq_true, decide_eq_true_eq, Int.ofNat_eq_natCast]
  constructor
  · rintro ⟨htotal, hcount⟩
    exact ⟨fun hcap => by omega, fun hcap => by omega⟩
  · rintro ⟨hcount, htotal⟩
    exact ⟨by omega, by omega⟩

/-- What the caps allow, looser ones allow. -/
theorem loosen (h : limits.Allows count total) {maxFiles maxTotalSize : Int}
    (hfiles : Loosens limits.maxFiles maxFiles)
    (hsize : Loosens limits.maxTotalSize maxTotalSize) :
    (limits.withCaps maxFiles maxTotalSize).Allows count total where
  count := fun hcap => by
    obtain hlifted | ⟨hold, hle⟩ := hfiles
    · exact absurd hcap (Int.not_lt.mpr hlifted)
    · exact Int.le_trans (h.count hold) hle
  total := fun hcap => by
    obtain hlifted | ⟨hold, hle⟩ := hsize
    · exact absurd hcap (Int.not_lt.mpr hlifted)
    · exact Int.le_trans (h.total hold) hle

end Limits.Allows

/-! ## One file -/

section File

variable {tree : FileTree} {limits : Limits}

theorem FileTree.sizeOf_of_hasNull {p : FilePath} (h : p.hasNull = true) :
    tree.sizeOf p = .error nullFault := by
  unfold FileTree.sizeOf FileTree.entry
  rw [h]
  rfl

theorem Glob.excludes_eq_ok {globs : List String}
    (hglobs : ∀ glob ∈ globs, ∃ node, compile glob = .ok node) (p : FilePath) :
    excludes (globs.map compile) p = .ok (!spares globs p) := by
  unfold excludes
  induction globs with
  | nil => rfl
  | cons glob rest ih =>
    obtain ⟨node, hnode⟩ := hglobs glob List.mem_cons_self
    have hrest := ih fun other hother => hglobs other (List.mem_cons_of_mem _ hother)
    have hspares : spares (glob :: rest) p =
        (!node.matchesStart (target p).toList && spares rest p) := by
      unfold spares
      rw [List.all_cons, hnode]
      rfl
    rw [List.map_cons, hnode, matchesAny, hrest, hspares]
    cases node.matchesStart (target p).toList <;> rfl

theorem eligible_of_sizeOf_eq_ok {p : FilePath} {size : Nat} (h : tree.sizeOf p = .ok size) :
    eligible tree limits p = (Glob.spares limits.excludePatterns p &&
      !(limits.maxFileSize > 0 && Int.ofNat size > limits.maxFileSize)) := by
  unfold eligible
  rw [h]
  simp only [Bool.not_and, ← decide_not, Int.not_lt, gt_iff_lt]

theorem eligible_of_sizeOf_eq_error {p : FilePath} {f : Fault} (h : tree.sizeOf p = .error f) :
    eligible tree limits p = false := by
  unfold eligible
  rw [h]
  exact Bool.and_false _

/-- The path of an eligible file can be asked for. -/
theorem hasNull_of_eligible {p : FilePath} (h : eligible tree limits p = true) :
    p.hasNull = false := by
  cases hnull : p.hasNull with
  | false => rfl
  | true =>
    rw [eligible_of_sizeOf_eq_error (FileTree.sizeOf_of_hasNull hnull)] at h
    cases h

/-- With globs that compile, a file is eligible with its size or it is left out, unless no glob
excludes its path and this cannot be asked for. -/
theorem eligibleSize?_eq
    (hglobs : ∀ glob ∈ limits.excludePatterns, ∃ node, Glob.compile glob = .ok node)
    (p : FilePath) :
    eligibleSize? tree limits (limits.excludePatterns.map Glob.compile) p =
      if Glob.spares limits.excludePatterns p && p.hasNull then .error FileTree.nullFault
      else .ok (if eligible tree limits p then some (tree.sizeIn p) else none) := by
  unfold eligibleSize? FileTree.sizeIn
  rw [Glob.excludes_eq_ok hglobs]
  cases hsize : tree.sizeOf p with
  | error f =>
    rw [eligible_of_sizeOf_eq_error hsize]
    cases Glob.spares limits.excludePatterns p with
    | false => rfl
    | true =>
      cases hnull : p.hasNull with
      | true =>
        rw [FileTree.sizeOf_of_hasNull hnull] at hsize
        cases hsize
        rfl
      | false =>
        obtain ⟨problem, rfl⟩ := FileTree.sizeOf_eq_error hnull hsize
        rfl
  | ok size =>
    have hnull : p.hasNull = false := by
      cases hnull : p.hasNull with
      | false => rfl
      | true =>
        rw [FileTree.sizeOf_of_hasNull hnull] at hsize
        cases hsize
    rw [eligible_of_sizeOf_eq_ok hsize, hnull]
    cases Glob.spares limits.excludePatterns p with
    | false => rfl
    | true =>
      dsimp only [Bool.not_true]
      cases (limits.maxFileSize > 0 && Int.ofNat size > limits.maxFileSize : Bool) <;> rfl

end File

/-! ## Longest prefixes -/

namespace LongestPrefix

variable {α : Type} {p : List α → Prop} {kept all : List α}

theorem isPrefix_of {other : List α} (h : LongestPrefix p kept all) (hbegins : other <+: all)
    (hother : p other) : other <+: kept :=
  List.prefix_of_prefix_length_le hbegins h.isPrefix (h.longest other hbegins hother)

/-- A list that has the property is its own longest prefix. -/
theorem eq_self (h : LongestPrefix p kept all) (hall : p all) : kept = all :=
  h.isPrefix.eq_of_length_le (h.longest all (List.prefix_refl all) hall)

/-- Nothing is kept where the first item is already too much. -/
theorem nil (hnil : p []) (hfirst : ∀ a rest, a :: rest <+: all → ¬ p (a :: rest)) :
    LongestPrefix p [] all where
  isPrefix := List.nil_prefix
  holds := hnil
  longest
    | [], _, _ => le_rfl
    | a :: rest, hbegins, hholds => absurd hholds (hfirst a rest hbegins)

theorem cons {a : α} (h : LongestPrefix (fun rest => p (a :: rest)) kept all) :
    LongestPrefix p (a :: kept) (a :: all) where
  isPrefix := List.cons_prefix_cons.mpr ⟨rfl, h.isPrefix⟩
  holds := h.holds
  longest
    | [], _, _ => Nat.zero_le _
    | b :: rest, hbegins, hholds => by
      obtain ⟨rfl, hrest⟩ := List.cons_prefix_cons.mp hbegins
      exact Nat.succ_le_succ (h.longest rest hrest hholds)

end LongestPrefix

/-! ## Collecting files -/

section Collect

variable {tree : FileTree} {limits : Limits} {count total : Nat}

/-- Files stay within the caps together with `count` files of `total` octets. -/
def WithinCapsAfter (tree : FileTree) (limits : Limits) (count total : Nat)
    (files : List FilePath) : Prop :=
  limits.Allows (count + files.length) (total + (files.map tree.sizeIn).sum)

theorem withinCapsAfter_cons {p : FilePath} {rest : List FilePath} :
    WithinCapsAfter tree limits count total (p :: rest) ↔
      WithinCapsAfter tree limits (count + 1) (total + tree.sizeIn p) rest := by
  unfold WithinCapsAfter
  rw [List.length_cons, List.map_cons, List.sum_cons, Nat.add_assoc count, Nat.add_assoc total,
    Nat.add_comm 1]

theorem withinCapsAfter_zero {files : List FilePath} :
    WithinCapsAfter tree limits 0 0 files ↔ WithinCaps tree limits files := by
  unfold WithinCapsAfter WithinCaps
  rw [Nat.zero_add, Nat.zero_add]

variable (hglobs : ∀ glob ∈ limits.excludePatterns, ∃ node, Glob.compile glob = .ok node)
include hglobs

/-- What collecting does with the first file: its path cannot be asked for, it is kept if it fits and
ends the collection if it does not, or it is left out. -/
theorem keepFrom_cons (p : FilePath) (rest : List FilePath) :
    keepFrom tree limits (limits.excludePatterns.map Glob.compile) count total (p :: rest) =
      let later := keepFrom tree limits (limits.excludePatterns.map Glob.compile)
      if Glob.spares limits.excludePatterns p && p.hasNull then .error FileTree.nullFault
      else if eligible tree limits p then
        if fits limits count total (tree.sizeIn p) then
          (later (count + 1) (total + tree.sizeIn p) rest).map (p :: ·)
        else .ok []
      else later count total rest := by
  rw [keepFrom, eligibleSize?_eq hglobs]
  cases Glob.spares limits.excludePatterns p && p.hasNull with
  | true => rfl
  | false =>
    cases eligible tree limits p with
    | false => rfl
    | true =>
      simp only [Bool.false_eq_true, if_false, if_true]
      split
      · cases keepFrom tree limits (limits.excludePatterns.map Glob.compile) (count + 1)
          (total + tree.sizeIn p) rest <;> rfl
      · rfl

/-- Collecting files fails exactly when it gets to a path that cannot be asked for. -/
theorem keepFrom_eq_error_iff_null (hallows : limits.Allows count total) {files : List FilePath}
    {f : Fault} :
    keepFrom tree limits (limits.excludePatterns.map Glob.compile) count total files = .error f ↔
      f = FileTree.nullFault ∧ ∃ before p after, files = before ++ p :: after ∧
        p.hasNull = true ∧ Glob.spares limits.excludePatterns p = true ∧
        WithinCapsAfter tree limits count total (before.filter (eligible tree limits)) := by
  induction files generalizing count total with
  | nil => simp [keepFrom]
  | cons p rest ih =>
    rw [keepFrom_cons hglobs]
    dsimp only
    cases hnull : Glob.spares limits.excludePatterns p && p.hasNull with
    | true =>
      obtain ⟨hspared, hasNull⟩ := Bool.and_eq_true_iff.mp hnull
      rw [if_pos rfl, Except.error.injEq]
      exact ⟨fun hf => ⟨hf.symm, [], p, rest, rfl, hasNull, hspared, hallows⟩, fun h => h.1.symm⟩
    | false =>
      rw [if_neg Bool.false_ne_true]
      -- the path in question is not the first one
      have hsplit : (∃ before q after, p :: rest = before ++ q :: after ∧ q.hasNull = true ∧
            Glob.spares limits.excludePatterns q = true ∧
            WithinCapsAfter tree limits count total (before.filter (eligible tree limits))) ↔
          ∃ before q after, rest = before ++ q :: after ∧ q.hasNull = true ∧
            Glob.spares limits.excludePatterns q = true ∧
            WithinCapsAfter tree limits count total
              ((p :: before).filter (eligible tree limits)) := by
        constructor
        · rintro ⟨_ | ⟨first, before⟩, q, after, hfiles, hasNull, hspared, hcaps⟩
          · obtain ⟨rfl, -⟩ := List.cons.inj hfiles
            simp [hasNull, hspared] at hnull
          · obtain ⟨rfl, hrest⟩ := List.cons.inj hfiles
            exact ⟨before, q, after, hrest, hasNull, hspared, hcaps⟩
        · rintro ⟨before, q, after, rfl, hrest⟩
          exact ⟨p :: before, q, after, rfl, hrest⟩
      rw [hsplit]
      cases helig : eligible tree limits p with
      | false =>
        simp only [List.filter_cons_of_neg (Bool.eq_false_iff.mp helig)]
        exact ih hallows
      | true =>
        simp only [List.filter_cons_of_pos helig, withinCapsAfter_cons, if_true]
        cases hfits : fits limits count total (tree.sizeIn p) with
        | true =>
          rw [if_pos rfl, ← ih (Limits.Allows.fits_iff.mp hfits)]
          cases keepFrom tree limits (limits.excludePatterns.map Glob.compile) (count + 1)
            (total + tree.sizeIn p) rest <;> simp [Except.map]
        | false =>
          rw [if_neg Bool.false_ne_true]
          refine iff_of_false (fun h => by cases h) ?_
          rintro ⟨-, before, q, after, -, -, -, hcaps⟩
          have hfull := Limits.Allows.fits_iff.mpr
            (hcaps.mono (Nat.le_add_right _ _) (Nat.le_add_right _ _))
          rw [hfits] at hfull
          cases hfull

/-- What is collected is the longest beginning of the eligible files that stays within the caps. -/
theorem longestPrefix_keepFrom (hallows : limits.Allows count total) {files kept : List FilePath}
    (h : keepFrom tree limits (limits.excludePatterns.map Glob.compile) count total files =
      .ok kept) :
    LongestPrefix (WithinCapsAfter tree limits count total) kept
      (files.filter (eligible tree limits)) := by
  induction files generalizing count total kept with
  | nil =>
    cases h
    exact .nil hallows fun a rest hbegins => absurd hbegins (by simp)
  | cons p rest ih =>
    rw [keepFrom_cons hglobs] at h
    dsimp only at h
    split at h
    · cases h
    · split at h
      · rename_i helig
        rw [List.filter_cons_of_pos helig]
        split at h
        · rename_i hfits
          obtain ⟨later, hlater, rfl⟩ := exists_of_map_eq_ok h
          refine .cons ?_
          simp only [withinCapsAfter_cons]
          exact ih (Limits.Allows.fits_iff.mp hfits) hlater
        · rename_i hfull
          cases h
          refine .nil hallows fun a others hbegins hcaps => hfull ?_
          obtain ⟨rfl, -⟩ := List.cons_prefix_cons.mp hbegins
          exact Limits.Allows.fits_iff.mpr ((withinCapsAfter_cons.mp hcaps).mono
            (Nat.le_add_right _ _) (Nat.le_add_right _ _))
      · rename_i helig
        rw [List.filter_cons_of_neg helig]
        exact ih hallows h

end Collect

namespace Filtered

variable {tree : FileTree} {limits : Limits}

theorem ofFiles_eq_ok_iff {files : List FilePath} {result : Filtered} :
    ofFiles tree limits files = .ok result ↔ filterFiles tree limits files = .ok result.files ∧
      result.removed = Int.ofNat files.length - Int.ofNat result.files.length := by
  unfold ofFiles
  cases filterFiles tree limits files with
  | error f => simp [Except.map]
  | ok kept =>
    obtain ⟨found, removed⟩ := result
    simp only [Except.map, Except.ok.injEq, Filtered.mk.injEq]
    constructor
    · rintro ⟨rfl, rfl⟩
      exact ⟨rfl, rfl⟩
    · rintro ⟨rfl, rfl⟩
      exact ⟨rfl, rfl⟩

theorem ofFiles_eq_error_iff {files : List FilePath} {f : Fault} :
    ofFiles tree limits files = .error f ↔ filterFiles tree limits files = .error f := by
  unfold ofFiles
  cases filterFiles tree limits files <;> simp [Except.map]

section Compiled

variable (hfilter : limits.enableFileFiltering = true)
  (hglobs : ∀ glob ∈ limits.excludePatterns, ∃ node, Glob.compile glob = .ok node)
include hfilter hglobs

theorem ofFiles_eq_error_iff_null {files : List FilePath} {f : Fault} :
    ofFiles tree limits files = .error f ↔
      f = FileTree.nullFault ∧ GetsToNull tree limits files := by
  rw [ofFiles_eq_error_iff, filterFiles, if_pos hfilter,
    keepFrom_eq_error_iff_null hglobs .zero]
  simp only [withinCapsAfter_zero]
  rfl

theorem longestPrefix_of_ofFiles {files : List FilePath} {result : Filtered}
    (h : ofFiles tree limits files = .ok result) :
    LongestPrefix (WithinCaps tree limits) result.files (files.filter (eligible tree limits)) := by
  obtain ⟨hkept, -⟩ := ofFiles_eq_ok_iff.mp h
  rw [filterFiles, if_pos hfilter] at hkept
  have hlongest := longestPrefix_keepFrom hglobs .zero hkept
  rwa [show WithinCapsAfter tree limits 0 0 = WithinCaps tree limits from
    funext fun _ => propext withinCapsAfter_zero] at hlongest

/-- Eligible files within the caps are kept, all of them. -/
theorem ofFiles_of_eligible {files : List FilePath}
    (heligible : ∀ p ∈ files, eligible tree limits p = true)
    (hcaps : WithinCaps tree limits files) :
    ofFiles tree limits files = .ok { files := files, removed := 0 } := by
  cases hresult : ofFiles tree limits files with
  | error f =>
    obtain ⟨-, before, p, after, rfl, hnull, -⟩ :=
      (ofFiles_eq_error_iff_null hfilter hglobs).mp hresult
    have hlegal := hasNull_of_eligible
      (heligible p (List.mem_append_right _ List.mem_cons_self))
    rw [hlegal] at hnull
    cases hnull
  | ok result =>
    have hlongest := longestPrefix_of_ofFiles hfilter hglobs hresult
    rw [List.filter_eq_self.mpr heligible] at hlongest
    obtain ⟨-, hremoved⟩ := ofFiles_eq_ok_iff.mp hresult
    obtain ⟨kept, removed⟩ := result
    obtain rfl : kept = files := hlongest.eq_self hcaps
    obtain rfl : removed = 0 := hremoved.trans (Int.sub_self _)
    rfl

/-- Files that are kept are kept with looser caps too, before the others. -/
theorem isPrefix_of_loosens {maxFiles maxTotalSize : Int}
    (hfiles : Loosens limits.maxFiles maxFiles) (hsize : Loosens limits.maxTotalSize maxTotalSize)
    {files : List FilePath} {result wider : Filtered}
    (h : ofFiles tree limits files = .ok result)
    (hwider : ofFiles tree (limits.withCaps maxFiles maxTotalSize) files = .ok wider) :
    result.files <+: wider.files := by
  have hlongest := longestPrefix_of_ofFiles hfilter hglobs h
  have hmore : LongestPrefix (WithinCaps tree (limits.withCaps maxFiles maxTotalSize)) wider.files
      (files.filter (eligible tree limits)) :=
    @longestPrefix_of_ofFiles tree (limits.withCaps maxFiles maxTotalSize) hfilter hglobs _ _ hwider
  exact hmore.isPrefix_of hlongest.isPrefix (hlongest.holds.loosen hfiles hsize)

end Compiled

/-- Take limits with filtering on and globs that compile. Filtering files fails exactly when it gets
to a path that cannot be asked for. Otherwise it keeps the longest beginning of the eligible files
that stays within the caps, and the number removed is that of the others. Filtering what was kept
removes nothing, and what is kept with looser caps begins with what was kept. -/
theorem ofFiles_keeps_longest (tree : FileTree) {limits : Limits}
    (hfilter : limits.enableFileFiltering = true)
    (hglobs : ∀ glob ∈ limits.excludePatterns, ∃ node, Glob.compile glob = .ok node)
    (files : List FilePath) :
    (∀ f, ofFiles tree limits files = .error f ↔
      f = FileTree.nullFault ∧ GetsToNull tree limits files) ∧
    ∀ result, ofFiles tree limits files = .ok result →
      LongestPrefix (WithinCaps tree limits) result.files (files.filter (eligible tree limits)) ∧
      (0 ≤ result.removed ∧ result.removed + result.files.length = files.length) ∧
      ofFiles tree limits result.files = .ok { files := result.files, removed := 0 } ∧
      ∀ maxFiles maxTotalSize wider, Loosens limits.maxFiles maxFiles →
        Loosens limits.maxTotalSize maxTotalSize →
        ofFiles tree (limits.withCaps maxFiles maxTotalSize) files = .ok wider →
        result.files <+: wider.files := by
  refine ⟨fun f => ofFiles_eq_error_iff_null hfilter hglobs, fun result hresult => ?_⟩
  have hlongest := longestPrefix_of_ofFiles hfilter hglobs hresult
  obtain ⟨hkept, hremoved⟩ := ofFiles_eq_ok_iff.mp hresult
  have hlength := (sublist_of_filterFiles hkept).length_le
  have heligible : ∀ p ∈ result.files, eligible tree limits p = true :=
    fun p hp => (List.mem_filter.mp (hlongest.isPrefix.subset hp)).2
  refine ⟨hlongest, ?_, ofFiles_of_eligible hfilter hglobs heligible hlongest.holds,
    fun maxFiles maxTotalSize wider hfiles hsize hwider =>
      isPrefix_of_loosens hfilter hglobs hfiles hsize hresult hwider⟩
  rw [hremoved]
  simp only [Int.ofNat_eq_natCast]
  omega

/-- Two files are kept, of eleven octets together. The next eligible one is too much, and then a
file of one octet is not kept any more, though it would fit. Without a cap on the total the number
of files ends the collection. -/
theorem ofFiles_keeps_two :
    let tree : FileTree := [(["a.js"], .file (.zeros 5)), (["vendor"], .directory),
      (["vendor", "b.js"], .file (.zeros 1)), (["big.js"], .file (.zeros 11)),
      (["c.js"], .file (.zeros 6)), (["d.js"], .file (.zeros 4)), (["e.js"], .file (.zeros 1))]
    let limits : Limits := { excludePatterns := ["**/vendor/**"], maxFileSize := 10,
                             maxTotalSize := 12, maxFiles := 3 }
    let path (name : String) : FilePath := FilePath.ofText name
    let files := ["a.js", "vendor/b.js", "big.js", "missing.js", "c.js", "d.js", "e.js"].map path
    limits.enableFileFiltering = true ∧
      (∀ glob ∈ limits.excludePatterns, ∃ node, Glob.compile glob = .ok node) ∧
      files.filter (eligible tree limits) = ["a.js", "c.js", "d.js", "e.js"].map path ∧
      ofFiles tree limits files = .ok { files := ["a.js", "c.js"].map path, removed := 5 } ∧
      LongestPrefix (WithinCaps tree limits) (["a.js", "c.js"].map path)
        (files.filter (eligible tree limits)) ∧
      Loosens limits.maxFiles 3 ∧ Loosens limits.maxTotalSize 0 ∧
      ofFiles tree (limits.withCaps 3 0) files =
        .ok { files := ["a.js", "c.js", "d.js"].map path, removed := 4 } ∧
      ["a.js", "c.js"].map path <+: ["a.js", "c.js", "d.js"].map path := by
  intro tree limits path files
  have hglobs : ∀ glob ∈ limits.excludePatterns, ∃ node, Glob.compile glob = .ok node := by
    intro glob hglob
    obtain rfl := List.mem_singleton.mp hglob
    exact exists_eq_ok_of_toBool (by decide +kernel)
  have hkept : ofFiles tree limits files =
      .ok { files := ["a.js", "c.js"].map path, removed := 5 } :=
    eq_ok_of_toOption_eq_some (by decide +kernel)
  have hmore : ofFiles tree (limits.withCaps 3 0) files =
      .ok { files := ["a.js", "c.js", "d.js"].map path, removed := 4 } :=
    eq_ok_of_toOption_eq_some (by decide +kernel)
  have hsame : Loosens limits.maxFiles 3 := .inr (by decide)
  have hlifted : Loosens limits.maxTotalSize 0 := .inl (Int.le_refl 0)
  obtain ⟨hlongest, -, -, hwider⟩ := (ofFiles_keeps_longest tree rfl hglobs files).2 _ hkept
  exact ⟨rfl, hglobs, by decide +kernel, hkept, hlongest, hsame, hlifted, hmore,
    hwider 3 0 _ hsame hlifted hmore⟩

end Filtered

end RuleAudit
