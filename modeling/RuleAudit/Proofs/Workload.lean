import Mathlib.Algebra.Ring.Nat
import RuleAudit.Proofs.Limits
import RuleAudit.Workload

/-!
# Faults of preparing a workload

Files with legal paths are filtered without a fault, unless a glob that is no pattern is tried on
one of them (`filterFiles_eq_error_iff`). Counting batches cannot fail for any number of rules that
a list can have (`exists_batchCount_eq_ok`).
-/

namespace RuleAudit

/-! ## Globs -/

/-- A path runs into a glob that is no pattern: no glob before it excludes the path. -/
def Glob.Trips (globs : List String) (p : FilePath) (e : Pattern.CompileError) : Prop :=
  ∃ earlier glob later, globs = earlier ++ glob :: later ∧ compile glob = .error e ∧
    ∀ other ∈ earlier, ∃ node, compile other = .ok node ∧
      node.matchesStart (target p).toList = false

/-- Excluding a path fails exactly when it runs into a glob that is no pattern. -/
theorem Glob.excludes_eq_error_iff {globs : List String} {p : FilePath}
    {e : Pattern.CompileError} :
    excludes (globs.map compile) p = .error e ↔ Trips globs p e := by
  unfold excludes
  constructor
  · intro h
    induction globs with
    | nil => cases h
    | cons glob rest ih =>
      rw [List.map_cons] at h
      cases hglob : compile glob with
      | error found =>
        rw [hglob] at h
        cases h
        exact ⟨[], glob, rest, rfl, hglob, fun other hother => absurd hother List.not_mem_nil⟩
      | ok node =>
        rw [hglob, matchesAny] at h
        split at h
        · cases h
        · rename_i hmatch
          obtain ⟨earlier, bad, later, hrest, hbad, hearlier⟩ := ih h
          refine ⟨glob :: earlier, bad, later, by rw [hrest, List.cons_append], hbad, ?_⟩
          intro other hother
          rcases List.mem_cons.mp hother with rfl | hother
          · exact ⟨node, hglob, by simpa using hmatch⟩
          · exact hearlier other hother
  · rintro ⟨earlier, glob, later, rfl, hglob, hearlier⟩
    induction earlier with
    | nil => rw [List.nil_append, List.map_cons, hglob, matchesAny]
    | cons first rest ih =>
      obtain ⟨node, hnode, hmatch⟩ := hearlier first List.mem_cons_self
      rw [List.cons_append, List.map_cons, hnode, matchesAny, hmatch]
      exact ih fun other hother => hearlier other (List.mem_cons_of_mem _ hother)

/-! ## Files -/

theorem FileTree.sizeOf_eq_error {tree : FileTree} {p : FilePath} {f : Fault}
    (hlegal : p.hasNull = false) (h : tree.sizeOf p = .error f) :
    ∃ problem, f = .file problem p.text := by
  unfold FileTree.sizeOf FileTree.entry at h
  rw [hlegal] at h
  cases hlookup : tree.lookup p with
  | error problem =>
    rw [hlookup] at h
    cases h
    exact ⟨problem, rfl⟩
  | ok entry =>
    rw [hlookup] at h
    cases entry <;> cases h

section Files

variable {tree : FileTree} {limits : Limits}

theorem eligibleSize?_eq_error_iff {globs : List (Except Pattern.CompileError Pattern.Node)}
    {p : FilePath} {f : Fault} (hlegal : p.hasNull = false) :
    eligibleSize? tree limits globs p = .error f ↔
      ∃ e, f = .pattern e ∧ Glob.excludes globs p = .error e := by
  unfold eligibleSize?
  cases hexcludes : Glob.excludes globs p with
  | error e => simp [eq_comm]
  | ok excluded =>
    cases excluded with
    | true => simp
    | false =>
      -- a path that no glob excludes can only be out of reach, and then it is left out
      refine ⟨fun h => ?_, fun h => by simp at h⟩
      dsimp only at h
      cases hsize : tree.sizeOf p with
      | error fault =>
        obtain ⟨problem, rfl⟩ := FileTree.sizeOf_eq_error hlegal hsize
        rw [hsize] at h
        cases h
      | ok size =>
        rw [hsize] at h
        dsimp only at h
        split at h <;> cases h

/-- The collection gets through files after `count` files of `total` octets: each of them is left
out or still fits. -/
inductive Passes (tree : FileTree) (limits : Limits)
    (globs : List (Except Pattern.CompileError Pattern.Node)) :
    Nat → Nat → List FilePath → Prop where
  | nil {count total : Nat} : Passes tree limits globs count total []
  | leave {count total : Nat} {p : FilePath} {rest : List FilePath}
      (hsize : eligibleSize? tree limits globs p = .ok none)
      (hrest : Passes tree limits globs count total rest) :
      Passes tree limits globs count total (p :: rest)
  | keep {count total size : Nat} {p : FilePath} {rest : List FilePath}
      (hsize : eligibleSize? tree limits globs p = .ok (some size))
      (hfits : fits limits count total size = true)
      (hrest : Passes tree limits globs (count + 1) (total + size) rest) :
      Passes tree limits globs count total (p :: rest)

theorem keepFrom_eq_error_iff {globs : List (Except Pattern.CompileError Pattern.Node)}
    {count total : Nat} {files : List FilePath} {f : Fault} :
    keepFrom tree limits globs count total files = .error f ↔
      ∃ before p after, files = before ++ p :: after ∧
        Passes tree limits globs count total before ∧
        eligibleSize? tree limits globs p = .error f := by
  constructor
  · intro h
    induction files generalizing count total with
    | nil => cases h
    | cons p rest ih =>
      unfold keepFrom at h
      split at h
      · rename_i fault hsize
        cases h
        exact ⟨[], p, rest, rfl, .nil, hsize⟩
      · rename_i hsize
        obtain ⟨before, q, after, rfl, hpasses, hq⟩ := ih h
        exact ⟨p :: before, q, after, rfl, .leave hsize hpasses, hq⟩
      · rename_i size hsize
        split at h
        · rename_i hfits
          split at h
          · cases h
          · rename_i fault hfault
            cases h
            obtain ⟨before, q, after, rfl, hpasses, hq⟩ := ih hfault
            exact ⟨p :: before, q, after, rfl, .keep hsize hfits hpasses, hq⟩
        · cases h
  · rintro ⟨before, p, after, rfl, hpasses, hp⟩
    induction hpasses with
    | nil => rw [List.nil_append, keepFrom, hp]
    | leave hsize hrest ih => rw [List.cons_append, keepFrom, hsize, ih]
    | keep hsize hfits hrest ih =>
      rw [List.cons_append, keepFrom, hsize]
      dsimp only
      rw [if_pos hfits, ih]

/-- The files that take part are among those given, in their order. -/
theorem sublist_of_filterFiles {files kept : List FilePath}
    (h : filterFiles tree limits files = .ok kept) : kept.Sublist files := by
  have hkeep : ∀ globs count total kept, keepFrom tree limits globs count total files = .ok kept →
      kept.Sublist files := by
    clear h kept
    intro globs
    induction files with
    | nil =>
      intro count total kept hkept
      obtain rfl : [] = kept := Except.ok.inj hkept
      exact .slnil
    | cons p rest ih =>
      intro count total kept hkept
      unfold keepFrom at hkept
      split at hkept
      · cases hkept
      · exact (ih _ _ _ hkept).cons p
      · split at hkept
        · split at hkept
          · rename_i later hlater
            cases hkept
            exact (ih _ _ _ hlater).cons_cons p
          · cases hkept
        · obtain rfl : [] = kept := Except.ok.inj hkept
          exact List.nil_sublist _
  unfold filterFiles at h
  split at h
  · exact hkeep _ _ _ _ h
  · obtain rfl : files = kept := Except.ok.inj h
    exact .refl files

/-- Filtering gets to a file that runs into a glob that is no pattern. -/
def TripsOn (tree : FileTree) (limits : Limits) (files : List FilePath)
    (e : Pattern.CompileError) : Prop :=
  limits.enableFileFiltering = true ∧ ∃ before p after, files = before ++ p :: after ∧
    Passes tree limits (limits.excludePatterns.map Glob.compile) 0 0 before ∧
    Glob.Trips limits.excludePatterns p e

/-- Filtering files with legal paths fails exactly when it gets to one that runs into a glob that is
no pattern. -/
theorem filterFiles_eq_error_iff {files : List FilePath} {f : Fault}
    (hlegal : ∀ p ∈ files, p.hasNull = false) :
    filterFiles tree limits files = .error f ↔
      ∃ e, f = .pattern e ∧ TripsOn tree limits files e := by
  unfold filterFiles TripsOn
  split
  · rename_i hfilter
    rw [keepFrom_eq_error_iff]
    constructor
    · rintro ⟨before, p, after, rfl, hpasses, hp⟩
      have hpath : p.hasNull = false :=
        hlegal p (List.mem_append_right _ List.mem_cons_self)
      obtain ⟨e, rfl, he⟩ := (eligibleSize?_eq_error_iff hpath).mp hp
      exact ⟨e, rfl, hfilter, before, p, after, rfl, hpasses, Glob.excludes_eq_error_iff.mp he⟩
    · rintro ⟨e, rfl, -, before, p, after, rfl, hpasses, htrips⟩
      have hpath : p.hasNull = false :=
        hlegal p (List.mem_append_right _ List.mem_cons_self)
      refine ⟨before, p, after, rfl, hpasses, (eligibleSize?_eq_error_iff hpath).mpr ?_⟩
      exact ⟨e, rfl, Glob.excludes_eq_error_iff.mpr htrips⟩
  · rename_i hfilter
    simp [hfilter]

end Files

/-! ## Numbers of batches -/

namespace Binary64

theorem leadingBit_le (num den : Nat) :
    leadingBit num den ≤ (Nat.log2 num : Int) - Nat.log2 den := by
  have hnum : Int.ofNat (Nat.log2 num) = Nat.log2 num := rfl
  have hden : Int.ofNat (Nat.log2 den) = Nat.log2 den := rfl
  unfold leadingBit
  dsimp only
  split <;> split <;> omega

/-- A quotient whose numerator has few bits is finite. -/
theorem exists_toRatio?_ofRatio (negative : Bool) {num : Nat} (den : Nat)
    (h : Nat.log2 num ≤ 1000) : ∃ ratio, (ofRatio negative num den).toRatio? = some ratio := by
  have hlead := leadingBit_le num den
  have hfinite : ∀ m e, ∃ ratio, (finite negative m e).toRatio? = some ratio := by
    intro m e
    unfold toRatio?
    dsimp only
    split
    · exact ⟨_, rfl⟩
    · exact ⟨_, rfl⟩
  -- even after a carry the exponent stays below the greatest one, 971
  have hexponent : max (leadingBit num den - 52) (-1074) ≤ 948 := by omega
  unfold ofRatio
  dsimp only
  generalize max (leadingBit num den - 52) (-1074) = e at hexponent
  generalize (if 0 ≤ e then roundDiv num (den * Nat.pow 2 e.toNat)
    else roundDiv (num * Nat.pow 2 (-e).toNat) den) = m
  split
  · exact hfinite _ _
  · rw [apply_ite Prod.snd, if_neg (by split <;> omega)]
    exact hfinite _ _

end Binary64

/-- The batches of a number of rules below `2^63` can be counted. -/
theorem exists_batchCount_eq_ok (limits : Limits) (rules : Nat) (files : Int)
    (h : rules < 2 ^ 63) : ∃ count, batchCount limits rules files = .ok count := by
  have hlog : Nat.log2 rules ≤ 1000 := by
    by_cases hzero : rules = 0
    · simp [hzero]
    · have hbits : Nat.log2 rules < 63 := (Nat.log2_lt hzero).mpr h
      omega
  have hsign : (if resolveBatchSize limits files < 0 then -(rules : Int) else rules).natAbs =
      rules := by
    split <;> simp
  obtain ⟨ratio, hratio⟩ := Binary64.exists_toRatio?_ofRatio
    ((if resolveBatchSize limits files < 0 then -(rules : Int) else rules) < 0)
    (resolveBatchSize limits files).natAbs hlog
  refine ⟨-Int.fdiv (-ratio.1) (Int.ofNat ratio.2), ?_⟩
  unfold batchCount ceiling Binary64.ofFraction
  dsimp only
  rw [hsign, hratio]
  rfl

end RuleAudit
