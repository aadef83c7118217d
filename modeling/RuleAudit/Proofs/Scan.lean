import RuleAudit.Engine
import RuleAudit.Proofs.Keyed

/-!
# What a scan depends on

A scan keeps compiled patterns by rule identifier, so what a rule compiles to may come from an
earlier scan. Two caches agree on rules when each of the rules compiles to the same with both
(`Scan.AgreeOn`). A scan looks rules up and does nothing else with its cache, so a relation that
lookups keep is kept by scans (`Scan.Simulates`). Hence among rules of which no two share an
identifier but not the patterns, scanning keeps what they compile to, and what it finds depends on
nothing else of the cache (`Scan.scanFiles_agree`); and caches that have the same for the rules of a
scan are as good as each other (`Scan.simulates_get?`). Where the rules compile, the findings are those of every rule on its own,
file by file (`Scan.findings_scanFiles`).
-/

namespace RuleAudit.Scan

/-- Rules of one identifier bring the same patterns. -/
def Coherent (rules : List Rule) : Prop :=
  ∀ r ∈ rules, ∀ r' ∈ rules, r.id = r'.id → r.patterns = r'.patterns

/-- Rules of which no two have one identifier. -/
theorem coherent_of_nodup {rules : List Rule} (h : (rules.map Rule.id).Nodup) : Coherent rules := by
  intro r hr r' hr' hid
  rw [List.inj_on_of_nodup_map h hr hr' hid]

/-- Each of some rules compiles to the same with two caches. -/
def AgreeOn (rules : List Rule) (c c' : Cache) : Prop :=
  ∀ rule ∈ rules, (compileRule c rule).2 = (compileRule c' rule).2

namespace AgreeOn

variable {rules : List Rule} {c c' c'' : Cache}

theorem refl (rules : List Rule) (c : Cache) : AgreeOn rules c c :=
  fun _ _ => rfl

theorem symm (h : AgreeOn rules c c') : AgreeOn rules c' c :=
  fun rule hrule => (h rule hrule).symm

theorem trans (h : AgreeOn rules c c') (h' : AgreeOn rules c' c'') : AgreeOn rules c c'' :=
  fun rule hrule => (h rule hrule).trans (h' rule hrule)

end AgreeOn

/-! ## Compiling -/

/-- What a rule compiles to that the cache has nothing for. -/
theorem compileRule_of_get?_eq_none {c : Cache} {rule : Rule} (h : c.get? rule.id = none) :
    (compileRule c rule).2 = compilePatterns rule.patterns := by
  unfold compileRule
  rw [h]
  cases compilePatterns rule.patterns <;> rfl

theorem compileRule_of_get?_eq_some {c : Cache} {rule : Rule} {nodes : List Pattern.Node}
    (h : c.get? rule.id = some nodes) : (compileRule c rule).2 = .ok nodes := by
  unfold compileRule
  rw [h]

/-- A cache that has the patterns of a rule stays as it is. -/
theorem compileRule_fst_of_get?_eq_some {c : Cache} {rule : Rule} {nodes : List Pattern.Node}
    (h : c.get? rule.id = some nodes) : (compileRule c rule).1 = c := by
  unfold compileRule
  rw [h]

/-- A rule whose patterns compile is compiled, by them or by those that are kept. -/
theorem exists_compileRule_eq_ok (c : Cache) {rule : Rule}
    (h : ∃ nodes, compilePatterns rule.patterns = .ok nodes) :
    ∃ nodes, (compileRule c rule).2 = .ok nodes := by
  cases hget : c.get? rule.id with
  | none =>
    rw [compileRule_of_get?_eq_none hget]
    exact h
  | some nodes => exact ⟨nodes, compileRule_of_get?_eq_some hget⟩

/-- Compiling a rule changes the cache only under its identifier. -/
theorem get?_compileRule_ne (c : Cache) (rule : Rule) {id : String} (h : id ≠ rule.id) :
    (compileRule c rule).1.get? id = c.get? id := by
  unfold compileRule
  split
  · rfl
  · split
    · exact Keyed.get?_put_ne c _ h
    · rfl

/-- Where nothing was kept under the identifier of a rule, what it compiles to is kept. -/
theorem get?_compileRule_self {c : Cache} {rule : Rule} (h : c.get? rule.id = none) :
    (compileRule c rule).1.get? rule.id = (compilePatterns rule.patterns).toOption := by
  unfold compileRule
  rw [h]
  cases compilePatterns rule.patterns with
  | error f => exact h
  | ok nodes => exact Keyed.get?_put_self c _ _

section Compile

variable {rules : List Rule}

/-- Compiling one of coherent rules keeps what they compile to. -/
theorem compileRule_agree (hcoherent : Coherent rules) {first : Rule} (hfirst : first ∈ rules)
    (c : Cache) : AgreeOn rules c (compileRule c first).1 := by
  intro rule hrule
  by_cases hid : rule.id = first.id
  · have hpatterns := hcoherent rule hrule first hfirst hid
    cases hget : c.get? first.id with
    | some nodes => rw [compileRule_fst_of_get?_eq_some hget]
    | none =>
      have hnew := get?_compileRule_self hget
      rw [compileRule_of_get?_eq_none (hid ▸ hget), hpatterns]
      rw [← hid] at hnew
      cases hcompile : compilePatterns first.patterns with
      | error f =>
        rw [hcompile] at hnew
        rw [compileRule_of_get?_eq_none hnew, hpatterns, hcompile]
      | ok nodes =>
        rw [hcompile] at hnew
        rw [compileRule_of_get?_eq_some hnew]
  · have hget := get?_compileRule_ne c first hid
    cases hold : c.get? rule.id with
    | none =>
      rw [compileRule_of_get?_eq_none hold, compileRule_of_get?_eq_none (hget.trans hold)]
    | some nodes =>
      rw [compileRule_of_get?_eq_some hold, compileRule_of_get?_eq_some (hget.trans hold)]

end Compile

/-! ## Scanning with caches that agree -/

section Agree

variable {rules active : List Rule} {c c' : Cache}

/-- The rules of a scan are compiled one after another. -/
theorem scanRules_cons (engine file : String) (lines : List (List Char)) (c : Cache) (rule : Rule)
    (rest : List Rule) :
    scanRules engine file lines c (rule :: rest) =
      match (compileRule c rule).2 with
      | .error f => ((compileRule c rule).1, .error f)
      | .ok nodes =>
        let later := scanRules engine file lines (compileRule c rule).1 rest
        (later.1, later.2.map (scanLines engine file rule nodes 1 lines ++ ·)) := by
  rw [scanRules]
  generalize compileRule c rule = compiled
  obtain ⟨cache, f | nodes⟩ := compiled
  · rfl
  · dsimp only
    generalize scanRules engine file lines cache rest = later
    obtain ⟨cache', f | found⟩ := later <;> rfl

/-- The scan of several files goes on with the cache that the first file leaves. -/
theorem scanFiles_cons (tree : FileTree) (engine : String) (active : List Rule) (token : Token)
    (c : Cache) (path : FilePath) (rest : List FilePath) :
    scanFiles tree engine active token c (path :: rest) =
      match token.check with
      | .error f => { cache := c, findings := .error f }
      | .ok () =>
        let first := scanFile tree engine active c path
        match first.2.2 with
        | .error f => { cache := first.1, notices := first.2.1, taken := 1, findings := .error f }
        | .ok found =>
          let later := scanFiles tree engine active token first.1 rest
          { cache := later.cache
            notices := first.2.1 ++ later.notices
            taken := later.taken + 1
            findings := later.findings.map (found.toList ++ ·) } := by
  rw [scanFiles]
  cases token.check with
  | error f => rfl
  | ok _ =>
    dsimp only
    generalize scanFile tree engine active c path = first
    obtain ⟨cache, notices, f | found⟩ := first <;> rfl

/-- A relation between caches that looking up one of some rules keeps, and under which what it
compiles to is the same. -/
structure Simulates (rules : List Rule) (R : Cache → Cache → Prop) : Prop where
  keeps : ∀ {c c' : Cache}, R c c' → ∀ rule ∈ rules, R (compileRule c rule).1 (compileRule c' rule).1
  finds : ∀ {c c' : Cache}, R c c' → ∀ rule ∈ rules, (compileRule c rule).2 = (compileRule c' rule).2

namespace Simulates

variable {R : Cache → Cache → Prop}

theorem scanRules (hsim : Simulates rules R) (hactive : ∀ rule ∈ active, rule ∈ rules)
    (h : R c c') (engine file : String) (lines : List (List Char)) :
    R (Scan.scanRules engine file lines c active).1 (Scan.scanRules engine file lines c' active).1 ∧
      (Scan.scanRules engine file lines c active).2 =
        (Scan.scanRules engine file lines c' active).2 := by
  induction active generalizing c c' with
  | nil => exact ⟨h, rfl⟩
  | cons rule rest ih =>
    have hrule := hactive rule List.mem_cons_self
    have hkeep := hsim.keeps h rule hrule
    obtain ⟨hlater, hfound⟩ :=
      ih (fun other hother => hactive other (List.mem_cons_of_mem _ hother)) hkeep
    rw [scanRules_cons, scanRules_cons, hsim.finds h rule hrule]
    cases (compileRule c' rule).2 with
    | error f => exact ⟨hkeep, rfl⟩
    | ok nodes =>
      dsimp only
      exact ⟨hlater, by rw [hfound]⟩

theorem scanFile (hsim : Simulates rules R) (hactive : ∀ rule ∈ active, rule ∈ rules)
    (h : R c c') (tree : FileTree) (engine : String) (path : FilePath) :
    R (Scan.scanFile tree engine active c path).1 (Scan.scanFile tree engine active c' path).1 ∧
      (Scan.scanFile tree engine active c path).2 =
        (Scan.scanFile tree engine active c' path).2 := by
  unfold Scan.scanFile
  dsimp only
  split
  · exact ⟨h, rfl⟩
  · split
    · exact ⟨h, rfl⟩
    · exact ⟨h, rfl⟩
    · rename_i content _
      obtain ⟨hkeep, hfound⟩ := hsim.scanRules
        (fun rule hrule => hactive rule (List.mem_filter.mp hrule).1) h engine path.text
        (textLines content)
      generalize Scan.scanRules engine path.text (textLines content) c _ = scanned at hkeep hfound ⊢
      generalize Scan.scanRules engine path.text (textLines content) c' _ = scanned'
        at hkeep hfound ⊢
      obtain ⟨cache, result⟩ := scanned
      obtain ⟨cache', result'⟩ := scanned'
      obtain rfl : result = result' := hfound
      obtain f | _ | ⟨first, others⟩ := result
      · exact ⟨hkeep, rfl⟩
      · exact ⟨hkeep, rfl⟩
      · exact ⟨hkeep, rfl⟩

theorem scanFiles (hsim : Simulates rules R) (hactive : ∀ rule ∈ active, rule ∈ rules)
    (h : R c c') (tree : FileTree) (engine : String) (token : Token) (files : List FilePath) :
    let course := Scan.scanFiles tree engine active token c files
    let course' := Scan.scanFiles tree engine active token c' files
    R course.cache course'.cache ∧ course.notices = course'.notices ∧
      course.taken = course'.taken ∧ course.findings = course'.findings := by
  induction files generalizing c c' with
  | nil => exact ⟨h, rfl, rfl, rfl⟩
  | cons path rest ih =>
    obtain ⟨hkeep, hfirst⟩ := hsim.scanFile hactive h tree engine path
    obtain ⟨hlater, hnotices, htaken, hfindings⟩ := ih hkeep
    intro course course'
    simp only [course, course', scanFiles_cons, hfirst]
    split
    · exact ⟨h, rfl, rfl, rfl⟩
    · split
      · exact ⟨hkeep, rfl, rfl, rfl⟩
      · exact ⟨hlater, by rw [hnotices], by rw [htaken], by rw [hfindings]⟩

end Simulates

/-- Looking up coherent rules never changes what they compile to. -/
theorem simulates_agreeOn (hcoherent : Coherent rules) (start : Cache) :
    Simulates rules fun c c' => AgreeOn rules start c ∧ AgreeOn rules start c' where
  keeps := fun ⟨h, h'⟩ _ hrule =>
    ⟨h.trans (compileRule_agree hcoherent hrule _), h'.trans (compileRule_agree hcoherent hrule _)⟩
  finds := fun ⟨h, h'⟩ => h.symm.trans h'

theorem scanFile_agree (hcoherent : Coherent rules) (hactive : ∀ rule ∈ active, rule ∈ rules)
    (h : AgreeOn rules c c') (tree : FileTree) (engine : String) (path : FilePath) :
    AgreeOn rules c (scanFile tree engine active c path).1 ∧
      (scanFile tree engine active c path).2 = (scanFile tree engine active c' path).2 := by
  obtain ⟨⟨hkeep, -⟩, hfound⟩ :=
    (simulates_agreeOn hcoherent c).scanFile hactive ⟨.refl rules c, h⟩ tree engine path
  exact ⟨hkeep, hfound⟩

/-- A scan for coherent rules keeps what they compile to; with caches that agree it tells and finds
the same and takes up as many files. -/
theorem scanFiles_agree (hcoherent : Coherent rules) (hactive : ∀ rule ∈ active, rule ∈ rules)
    (h : AgreeOn rules c c') (tree : FileTree) (engine : String) (token : Token)
    (files : List FilePath) :
    let course := scanFiles tree engine active token c files
    let course' := scanFiles tree engine active token c' files
    AgreeOn rules c course.cache ∧ course.notices = course'.notices ∧
      course.taken = course'.taken ∧ course.findings = course'.findings := by
  obtain ⟨⟨hkeep, -⟩, hsame⟩ :=
    (simulates_agreeOn hcoherent c).scanFiles hactive ⟨.refl rules c, h⟩ tree engine token files
  exact ⟨hkeep, hsame⟩

/-- Caches that have the same for the rules of a scan are as good as each other. -/
theorem simulates_get? (rules : List Rule) :
    Simulates rules fun c c' => ∀ rule ∈ rules, c.get? rule.id = c'.get? rule.id where
  keeps := by
    intro c c' h first hfirst rule hrule
    by_cases hid : rule.id = first.id
    · rw [hid]
      cases hget : c'.get? first.id with
      | some nodes =>
        rw [compileRule_fst_of_get?_eq_some ((h first hfirst).trans hget),
          compileRule_fst_of_get?_eq_some hget, h first hfirst]
      | none => rw [get?_compileRule_self ((h first hfirst).trans hget), get?_compileRule_self hget]
    · rw [get?_compileRule_ne c first hid, get?_compileRule_ne c' first hid, h rule hrule]
  finds := by
    intro c c' h rule hrule
    cases hget : c'.get? rule.id with
    | some nodes =>
      rw [compileRule_of_get?_eq_some ((h rule hrule).trans hget), compileRule_of_get?_eq_some hget]
    | none =>
      rw [compileRule_of_get?_eq_none ((h rule hrule).trans hget), compileRule_of_get?_eq_none hget]

end Agree

/-! ## What rules find that compile -/

/-- What a rule finds in a file on its own, with its patterns. -/
def violationsIn (tree : FileTree) (engine : String) (nodes : Rule → List Pattern.Node)
    (path : FilePath) (rule : Rule) : List Violation :=
  match tree.readFile path with
  | .ok content =>
    if rule.supportsLanguage (detectLanguage path) then
      scanLines engine path.text rule (nodes rule) 1 (textLines content)
    else []
  | .error _ => []

section Found

variable {active : List Rule} {c : Cache} {nodes : Rule → List Pattern.Node}

/-- What is found on lines is what each rule finds on its own. -/
theorem scanRules_eq_ok (hcoherent : Coherent active)
    (hnodes : ∀ rule ∈ active, (compileRule c rule).2 = .ok (nodes rule)) (engine file : String)
    (lines : List (List Char)) (applicable : List Rule)
    (happlicable : ∀ rule ∈ applicable, rule ∈ active) :
    (scanRules engine file lines c applicable).2 =
      .ok (applicable.flatMap fun rule => scanLines engine file rule (nodes rule) 1 lines) := by
  induction applicable generalizing c with
  | nil => rfl
  | cons rule rest ih =>
    have hrule := happlicable rule List.mem_cons_self
    have hkeep := compileRule_agree hcoherent hrule c
    have hlater := ih (c := (compileRule c rule).1)
      (fun other hother => (hkeep other hother).symm.trans (hnodes other hother))
      fun other hother => happlicable other (List.mem_cons_of_mem _ hother)
    rw [scanRules_cons, hnodes rule hrule]
    dsimp only
    rw [hlater, List.flatMap_cons]
    rfl

/-- Reading a file with a legal path fails only with a problem of the file. -/
theorem exists_of_readFile_eq_error {tree : FileTree} {path : FilePath}
    (hlegal : path.hasNull = false) {f : Fault} (h : tree.readFile path = .error f) :
    ∃ problem p, f = .file problem p := by
  unfold FileTree.readFile FileTree.entry at h
  rw [hlegal] at h
  cases hlookup : tree.lookup path with
  | error problem =>
    rw [hlookup] at h
    cases h
    exact ⟨problem, path.text, rfl⟩
  | ok entry =>
    rw [hlookup] at h
    cases entry with
    | file content => cases h
    | directory =>
      cases h
      exact ⟨.isDirectory, path.text, rfl⟩

theorem flatMap_filter {α β : Type} (p : α → Bool) (f : α → List β) (items : List α) :
    (items.filter p).flatMap f = items.flatMap fun a => if p a then f a else [] := by
  induction items with
  | nil => rfl
  | cons a rest ih =>
    by_cases hp : p a = true
    · rw [List.filter_cons_of_pos hp, List.flatMap_cons, List.flatMap_cons, ih, if_pos hp]
    · rw [List.filter_cons_of_neg hp, List.flatMap_cons, ih, if_neg hp, List.nil_append]

/-- What is found in a file with a legal path. -/
theorem findings_scanFile (hcoherent : Coherent active)
    (hnodes : ∀ rule ∈ active, (compileRule c rule).2 = .ok (nodes rule)) (tree : FileTree)
    (engine : String) {path : FilePath} (hlegal : path.hasNull = false) :
    ∃ found, (scanFile tree engine active c path).2.2 = .ok found ∧
      found.toList.flatMap FileFindings.violations =
        active.flatMap (violationsIn tree engine nodes path) := by
  unfold scanFile violationsIn
  dsimp only
  split
  · -- no rule covers the language of the file
    rename_i hnone
    refine ⟨none, rfl, ?_⟩
    rw [eq_comm, Option.toList_none, List.flatMap_nil, List.flatMap_eq_nil_iff]
    intro rule hrule
    have hother := List.filter_eq_nil_iff.mp (List.isEmpty_iff.mp hnone) rule hrule
    split
    · rw [if_neg hother]
    · rfl
  · cases hread : tree.readFile path with
    | error f =>
      obtain ⟨problem, p, rfl⟩ := exists_of_readFile_eq_error hlegal hread
      refine ⟨none, rfl, ?_⟩
      rw [eq_comm, Option.toList_none, List.flatMap_nil, List.flatMap_eq_nil_iff]
      exact fun rule _ => rfl
    | ok content =>
      have hfound := scanRules_eq_ok hcoherent hnodes engine path.text (textLines content)
        (active.filter fun r => r.supportsLanguage (detectLanguage path))
        fun rule hrule => (List.mem_filter.mp hrule).1
      rw [flatMap_filter] at hfound
      dsimp only
      generalize scanRules engine path.text (textLines content) c _ = scanned at hfound ⊢
      generalize active.flatMap _ = found at hfound ⊢
      obtain ⟨cache, result⟩ := scanned
      obtain rfl : result = .ok found := hfound
      cases found with
      | nil => exact ⟨none, rfl, rfl⟩
      | cons first others => exact ⟨some ⟨path.text, first :: others⟩, rfl, List.append_nil _⟩

/-- What is found in files with legal paths, while nobody has given the batch up: what each rule
finds in each file on its own. Every file is taken up. -/
theorem findings_scanFiles (hcoherent : Coherent active)
    (hnodes : ∀ rule ∈ active, (compileRule c rule).2 = .ok (nodes rule)) (tree : FileTree)
    (engine : String) {token : Token} (htoken : token.check = .ok ()) {files : List FilePath}
    (hlegal : ∀ path ∈ files, path.hasNull = false) :
    (scanFiles tree engine active token c files).taken = files.length ∧
      ∃ found, (scanFiles tree engine active token c files).findings = .ok found ∧
        found.flatMap FileFindings.violations =
          files.flatMap fun path => active.flatMap (violationsIn tree engine nodes path) := by
  induction files generalizing c with
  | nil => exact ⟨rfl, [], rfl, rfl⟩
  | cons path rest ih =>
    obtain ⟨found, hfound, hviolations⟩ := findings_scanFile hcoherent hnodes tree engine
      (hlegal path List.mem_cons_self)
    obtain ⟨hkeep, -⟩ := scanFile_agree hcoherent (fun rule hrule => hrule) (.refl active c) tree
      engine path
    obtain ⟨htaken, later, hlater, hothers⟩ := ih (c := (scanFile tree engine active c path).1)
      (fun rule hrule => (hkeep rule hrule).symm.trans (hnodes rule hrule))
      fun other hother => hlegal other (List.mem_cons_of_mem _ hother)
    rw [scanFiles_cons, htoken]
    dsimp only
    rw [hfound]
    dsimp only
    refine ⟨by rw [htaken, List.length_cons], found.toList ++ later, ?_, ?_⟩
    · rw [hlater]
      rfl
    · rw [List.flatMap_append, hviolations, hothers, List.flatMap_cons]

end Found

end RuleAudit.Scan
