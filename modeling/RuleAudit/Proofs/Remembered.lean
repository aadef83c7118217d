import RuleAudit.Proofs.Restriction

/-!
# What a scanner remembers

The patterns that a scanner keeps are kept by rule identifier, so a rule is matched with the
patterns of its forerunner: the first rule of its identifier, among those that the scanner has come
across since it was empty, whose patterns compile (`Scan.forerunner`). Which rules it comes across
is read off the requests alone (`Engine.metIn`). Every lookup keeps that invariant
(`Scan.Remembers`), hence so does every scan, every request and every history of requests.

What a scan finds then needs no cache to be told (`Engine.analyze_after_requests`): it is what each
rule finds in each file with the patterns of its forerunner. Where these are the rule's own, the
history does not show.
-/

namespace RuleAudit

namespace Scan

/-! ## Forerunners -/

/-- Whether all patterns of a rule compile. -/
def compiles (rule : Rule) : Bool :=
  (compilePatterns rule.patterns).toBool

/-- The compiled patterns of a rule whose patterns compile. -/
def ownNodes (rule : Rule) : List Pattern.Node :=
  (compilePatterns rule.patterns).toOption.getD []

/-- Whether a rule stands for an identifier: it has it, and its patterns compile. -/
def standsFor (id : String) (rule : Rule) : Bool :=
  rule.id == id && compiles rule

/-- The first of some rules that stands for the identifier of a rule, if one does. -/
def forerunner (known : List Rule) (rule : Rule) : Rule :=
  (known.find? (standsFor rule.id)).getD rule

/-- A cache holds what the forerunners among some rules compile to, and nothing else. -/
def Remembers (known : List Rule) (c : Cache) : Prop :=
  ∀ id, c.get? id = (known.find? (standsFor id)).map ownNodes

theorem compilePatterns_of_compiles {rule : Rule} (h : compiles rule = true) :
    compilePatterns rule.patterns = .ok (ownNodes rule) := by
  unfold compiles at h
  unfold ownNodes
  cases hnodes : compilePatterns rule.patterns with
  | error f =>
    rw [hnodes] at h
    cases h
  | ok nodes => rfl

theorem exists_of_compiles_eq_false {rule : Rule} (h : compiles rule = false) :
    ∃ f, compilePatterns rule.patterns = .error f := by
  unfold compiles at h
  cases hnodes : compilePatterns rule.patterns with
  | error f => exact ⟨f, rfl⟩
  | ok nodes =>
    rw [hnodes] at h
    cases h

/-- An empty cache remembers nothing. -/
theorem remembers_nil : Remembers [] [] :=
  fun _ => rfl

/-- Later rules do not change who stands for an identifier. -/
theorem find?_standsFor_append {known : List Rule} {id : String}
    (h : (known.find? (standsFor id)).isSome) (later : List Rule) :
    (known ++ later).find? (standsFor id) = known.find? (standsFor id) := by
  rw [List.find?_append]
  exact Option.or_of_isSome h

theorem forerunner_append {known : List Rule} {rule : Rule}
    (h : (known.find? (standsFor rule.id)).isSome) (later : List Rule) :
    forerunner (known ++ later) rule = forerunner known rule := by
  unfold forerunner
  rw [find?_standsFor_append h]

theorem forerunner_of_id {known : List Rule} {rule rule' : Rule}
    (h : (known.find? (standsFor rule.id)).isSome) (hid : rule'.id = rule.id) :
    forerunner known rule' = forerunner known rule := by
  unfold forerunner
  rw [hid]
  obtain ⟨first, hfirst⟩ := Option.isSome_iff_exists.mp h
  rw [hfirst]
  rfl

/-- Among rules with it, a rule whose patterns compile has a forerunner with its identifier. -/
theorem forerunner_mem {known : List Rule} {rule : Rule} (hrule : rule ∈ known)
    (h : compiles rule = true) :
    forerunner known rule ∈ known ∧ (forerunner known rule).id = rule.id := by
  have hsome : (known.find? (standsFor rule.id)).isSome :=
    List.find?_isSome.mpr ⟨rule, hrule, by simp [standsFor, h]⟩
  obtain ⟨first, hfirst⟩ := Option.isSome_iff_exists.mp hsome
  have hstands := List.find?_some hfirst
  unfold forerunner
  rw [hfirst]
  exact ⟨List.mem_of_find?_eq_some hfirst, beq_iff_eq.mp (Bool.and_eq_true_iff.mp hstands).1⟩

theorem ownNodes_congr {rule rule' : Rule} (h : rule.patterns = rule'.patterns) :
    ownNodes rule = ownNodes rule' := by
  unfold ownNodes
  rw [h]

/-- A lookup compiles a rule to what its forerunner compiles to, be it the rule itself, and
remembers it; without a forerunner it fails. -/
theorem Remembers.compileRule {known : List Rule} {c : Cache} (h : Remembers known c)
    (rule : Rule) :
    Remembers (known ++ [rule]) (compileRule c rule).1 ∧
      (((known ++ [rule]).find? (standsFor rule.id)).isSome = true →
        (compileRule c rule).2 = .ok (ownNodes (forerunner (known ++ [rule]) rule))) ∧
      (((known ++ [rule]).find? (standsFor rule.id)).isSome = false →
        ∃ f, (Scan.compileRule c rule).2 = .error f) := by
  have hother : ∀ id, id ≠ rule.id → (known ++ [rule]).find? (standsFor id) =
      known.find? (standsFor id) := by
    intro id hid
    rw [List.find?_append, List.find?_singleton]
    simp [standsFor, hid.symm]
  cases hknown : known.find? (standsFor rule.id) with
  | some first =>
    have hget : c.get? rule.id = some (ownNodes first) := by rw [h, hknown, Option.map_some]
    have hfind : (known ++ [rule]).find? (standsFor rule.id) = some first := by
      rw [find?_standsFor_append (by rw [hknown]; rfl), hknown]
    refine ⟨fun id => ?_, fun _ => ?_, fun hnone => ?_⟩
    · rw [compileRule_fst_of_get?_eq_some hget, h id]
      by_cases hid : id = rule.id
      · rw [hid, hfind, hknown]
      · rw [hother id hid]
    · rw [compileRule_of_get?_eq_some hget]
      unfold forerunner
      rw [hfind]
      rfl
    · rw [hfind] at hnone
      cases hnone
  | none =>
    have hget : c.get? rule.id = none := by rw [h, hknown, Option.map_none]
    have hfind : (known ++ [rule]).find? (standsFor rule.id) =
        if compiles rule then some rule else none := by
      rw [List.find?_append, hknown, List.find?_singleton, Option.none_or]
      simp [standsFor]
    have hself := get?_compileRule_self hget
    refine ⟨fun id => ?_, fun hsome => ?_, fun hnone => ?_⟩
    · by_cases hid : id = rule.id
      · subst hid
        rw [hself, hfind]
        cases hcompiles : compiles rule with
        | true =>
          rw [compilePatterns_of_compiles hcompiles]
          rfl
        | false =>
          obtain ⟨f, hf⟩ := exists_of_compiles_eq_false hcompiles
          rw [hf]
          rfl
      · rw [get?_compileRule_ne c rule hid, h id, hother id hid]
    · rw [hfind] at hsome
      split at hsome
      · rename_i hcompiles
        rw [compileRule_of_get?_eq_none hget, compilePatterns_of_compiles hcompiles]
        unfold forerunner
        rw [hfind, if_pos hcompiles]
        rfl
      · cases hsome
    · rw [hfind] at hnone
      split at hnone
      · cases hnone
      · rename_i hcompiles
        rw [compileRule_of_get?_eq_none hget]
        exact exists_of_compiles_eq_false (Bool.not_eq_true _ ▸ hcompiles)

/-! ## Rules that are looked up one after another -/

/-- Whether all of some rules can be compiled, one after another, after those that are known. -/
def passes (known : List Rule) : List Rule → Bool
  | [] => true
  | rule :: rest =>
    ((known ++ [rule]).find? (standsFor rule.id)).isSome && passes (known ++ [rule]) rest

/-- Those of some rules that are looked up one after another: the first one that cannot be compiled
is the last. -/
def met (known : List Rule) : List Rule → List Rule
  | [] => []
  | rule :: rest =>
    rule :: if ((known ++ [rule]).find? (standsFor rule.id)).isSome then met (known ++ [rule]) rest
      else []

section Lookups

variable {known : List Rule}

theorem met_of_passes {rules : List Rule} (h : passes known rules = true) :
    met known rules = rules := by
  induction rules generalizing known with
  | nil => rfl
  | cons rule rest ih =>
    obtain ⟨hfirst, hrest⟩ := Bool.and_eq_true_iff.mp h
    rw [met, if_pos hfirst, ih hrest]

/-- Rules whose patterns compile can be compiled after any others. -/
theorem passes_of_compiles {rules : List Rule} (h : ∀ rule ∈ rules, compiles rule = true) :
    passes known rules = true := by
  induction rules generalizing known with
  | nil => rfl
  | cons rule rest ih =>
    have hrule : standsFor rule.id rule = true := by
      simp [standsFor, h rule List.mem_cons_self]
    rw [passes, ih fun other hother => h other (List.mem_cons_of_mem _ hother), Bool.and_true,
      List.find?_isSome]
    exact ⟨rule, by simp, hrule⟩

theorem passes_append (first later : List Rule) :
    passes known (first ++ later) = (passes known first && passes (known ++ first) later) := by
  induction first generalizing known with
  | nil => rw [List.nil_append, List.append_nil, passes, Bool.true_and]
  | cons rule rest ih =>
    rw [List.cons_append, passes, ih, passes, Bool.and_assoc, List.append_assoc,
      List.singleton_append]

theorem met_append (first later : List Rule) :
    met known (first ++ later) =
      if passes known first then first ++ met (known ++ first) later else met known first := by
  induction first generalizing known with
  | nil => rw [List.nil_append, List.append_nil, passes, if_pos rfl, List.nil_append]
  | cons rule rest ih =>
    rw [List.cons_append, met, ih, passes, met, List.append_assoc, List.singleton_append]
    cases ((known ++ [rule]).find? (standsFor rule.id)).isSome with
    | true => cases passes (known ++ [rule]) rest <;> rfl
    | false => rfl

/-- Whoever could be compiled has a forerunner. -/
theorem isSome_of_passes {rules : List Rule} (h : passes known rules = true) {rule : Rule}
    (hrule : rule ∈ rules) : ((known ++ rules).find? (standsFor rule.id)).isSome := by
  induction rules generalizing known with
  | nil => cases hrule
  | cons first rest ih =>
    obtain ⟨hfirst, hrest⟩ := Bool.and_eq_true_iff.mp h
    rw [← List.singleton_append, ← List.append_assoc]
    obtain rfl | hlater := List.mem_cons.mp hrule
    · rwa [find?_standsFor_append hfirst]
    · exact ih hrest hlater

end Lookups

/-! ## Scans -/

/-- The rules that a scan looks up in one file: those for its language, if it can be read. -/
def metInFile (tree : FileTree) (active : List Rule) (path : FilePath) : List Rule :=
  match tree.readFile path with
  | .ok _ => active.filter fun rule => rule.supportsLanguage (detectLanguage path)
  | .error _ => []

/-- The fault that a file brings, if any: its path cannot even be asked for, and some rule covers
its language. -/
def obstacle (active : List Rule) (path : FilePath) : Option Fault :=
  if path.hasNull && active.any fun rule => rule.supportsLanguage (detectLanguage path) then
    some FileTree.nullFault
  else none

/-- The rules that a scan looks up in several files. -/
def metInFiles (tree : FileTree) (active : List Rule) (files : List FilePath) : List Rule :=
  (files.takeWhile fun path => (obstacle active path).isNone).flatMap (metInFile tree active)

/-- The findings in a file, if there are any. -/
def inFile (file : String) : List Violation → Option FileFindings
  | [] => none
  | found => some ⟨file, found⟩

/-- What rules find in a file, each with patterns of its own. -/
def findingsIn (tree : FileTree) (engine : String) (nodes : Rule → List Pattern.Node)
    (active : List Rule) (path : FilePath) : Option FileFindings :=
  inFile path.text (active.flatMap (violationsIn tree engine nodes path))

/-- What a scan comes to that matches each rule with given patterns and keeps none. -/
def plainFindings (tree : FileTree) (engine : String) (nodes : Rule → List Pattern.Node)
    (active : List Rule) (files : List FilePath) : Except Fault (List FileFindings) :=
  match files.findSome? (obstacle active) with
  | some f => .error f
  | none => .ok (files.filterMap (findingsIn tree engine nodes active))

section Scans

variable {known : List Rule} {c : Cache} {tree : FileTree} {active : List Rule}

/-- What is found in a file is found by the rules that are looked up in it. -/
theorem flatMap_violationsIn (engine : String) (nodes : Rule → List Pattern.Node) {path : FilePath}
    {content : Content} (h : tree.readFile path = .ok content) :
    active.flatMap (violationsIn tree engine nodes path) =
      (metInFile tree active path).flatMap fun rule =>
        scanLines engine path.text rule (nodes rule) 1 (textLines content) := by
  unfold violationsIn metInFile
  rw [h]
  exact (flatMap_filter _ _ _).symm

theorem findingsIn_of_metInFile_eq_nil (engine : String) (nodes : Rule → List Pattern.Node)
    {path : FilePath} (h : metInFile tree active path = []) :
    findingsIn tree engine nodes active path = none := by
  unfold findingsIn
  cases hread : tree.readFile path with
  | ok content =>
    rw [flatMap_violationsIn engine nodes hread, h, List.flatMap_nil]
    rfl
  | error f =>
    have hnothing : active.flatMap (violationsIn tree engine nodes path) = [] := by
      unfold violationsIn
      rw [hread, List.flatMap_eq_nil_iff]
      exact fun _ _ => rfl
    rw [hnothing]
    rfl

/-- Only what the rules are matched with that are looked up in a file matters for it. -/
theorem findingsIn_congr (engine : String) {nodes nodes' : Rule → List Pattern.Node}
    {path : FilePath} (h : ∀ rule ∈ metInFile tree active path, nodes rule = nodes' rule) :
    findingsIn tree engine nodes active path = findingsIn tree engine nodes' active path := by
  cases hread : tree.readFile path with
  | error f =>
    have hnone : metInFile tree active path = [] := by
      unfold metInFile
      rw [hread]
    rw [findingsIn_of_metInFile_eq_nil engine nodes hnone,
      findingsIn_of_metInFile_eq_nil engine nodes' hnone]
  | ok content =>
    have hsame := List.flatMap_congr (l := metInFile tree active path)
      (f := fun rule => scanLines engine path.text rule (nodes rule) 1 (textLines content))
      (g := fun rule => scanLines engine path.text rule (nodes' rule) 1 (textLines content))
      fun rule hrule => by rw [h rule hrule]
    unfold findingsIn
    rw [flatMap_violationsIn engine nodes hread, flatMap_violationsIn engine nodes' hread, hsame]

/-- Rules that can be compiled one after another find what each finds with the patterns of its
forerunner, and are remembered. -/
theorem Remembers.scanRules (h : Remembers known c) (engine file : String)
    (lines : List (List Char)) (rules : List Rule) :
    Remembers (known ++ met known rules) (scanRules engine file lines c rules).1 ∧
      (passes known rules = true → (Scan.scanRules engine file lines c rules).2 =
        .ok (rules.flatMap fun rule =>
          scanLines engine file rule (ownNodes (forerunner (known ++ rules) rule)) 1 lines)) ∧
      (passes known rules = false →
        ∃ f, (Scan.scanRules engine file lines c rules).2 = .error f) := by
  induction rules generalizing known c with
  | nil =>
    refine ⟨?_, fun _ => rfl, fun hfails => by cases hfails⟩
    rw [met, List.append_nil]
    exact h
  | cons rule rest ih =>
    obtain ⟨hkeeps, hfinds, hfails⟩ := h.compileRule rule
    obtain ⟨hlater, hpass, hfail⟩ := ih hkeeps
    rw [passes, met, scanRules_cons]
    cases hknown : ((known ++ [rule]).find? (standsFor rule.id)).isSome with
    | false =>
      obtain ⟨f, hf⟩ := hfails hknown
      rw [hf]
      exact ⟨hkeeps, fun hpasses => absurd hpasses Bool.false_ne_true, fun _ => ⟨f, rfl⟩⟩
    | true =>
      rw [hfinds hknown]
      simp only [List.append_assoc, List.singleton_append] at hlater hpass hfail ⊢
      refine ⟨hlater, fun hpasses => ?_, fun hbreaks => ?_⟩
      · have hfirst := forerunner_append hknown rest
        simp only [List.append_assoc, List.singleton_append] at hfirst
        rw [hpass hpasses, List.flatMap_cons, hfirst]
        rfl
      · obtain ⟨f, hf⟩ := hfail hbreaks
        rw [hf]
        exact ⟨f, rfl⟩

theorem scanFile_of_ok (active : List Rule) (c : Cache) (engine : String) {path : FilePath} {content : Content}
    (h : tree.readFile path = .ok content) :
    let scanned := scanRules engine path.text (textLines content) c (metInFile tree active path)
    (scanFile tree engine active c path).1 = scanned.1 ∧
      (scanFile tree engine active c path).2.2 = scanned.2.map (inFile path.text) := by
  have hmet : metInFile tree active path =
      active.filter fun rule => rule.supportsLanguage (detectLanguage path) := by
    unfold metInFile
    rw [h]
  unfold scanFile
  rw [hmet, h]
  dsimp only
  split
  · rename_i hnone
    rw [List.isEmpty_iff.mp hnone]
    exact ⟨rfl, rfl⟩
  · generalize scanRules engine path.text (textLines content) c _ = scanned
    obtain ⟨cache, f | _ | ⟨first, others⟩⟩ := scanned
    · exact ⟨rfl, rfl⟩
    · exact ⟨rfl, rfl⟩
    · exact ⟨rfl, rfl⟩

theorem scanFile_of_error (active : List Rule) (c : Cache) (engine : String) {path : FilePath} {f : Fault}
    (h : tree.readFile path = .error f) :
    (scanFile tree engine active c path).1 = c ∧
      (scanFile tree engine active c path).2.2 =
        match obstacle active path with
        | some fault => .error fault
        | none => .ok none := by
  unfold scanFile obstacle
  rw [h]
  dsimp only
  cases hcovered : active.any fun rule => rule.supportsLanguage (detectLanguage path) with
  | false =>
    have hnone : (active.filter fun rule => rule.supportsLanguage (detectLanguage path)) = [] := by
      rw [List.filter_eq_nil_iff]
      exact fun rule hrule => Bool.not_eq_true _ ▸ List.any_eq_false.mp hcovered rule hrule
    rw [hnone, Bool.and_false]
    exact ⟨rfl, rfl⟩
  | true =>
    have hsome : (active.filter fun rule => rule.supportsLanguage (detectLanguage path)).isEmpty =
        false := by
      obtain ⟨rule, hrule, hcovers⟩ := List.any_eq_true.mp hcovered
      exact List.isEmpty_eq_false_iff.mpr
        (List.ne_nil_of_mem (List.mem_filter.mpr ⟨hrule, hcovers⟩))
    rw [hsome, Bool.and_true]
    cases hnull : path.hasNull with
    | true =>
      obtain rfl : FileTree.nullFault = f := by
        unfold FileTree.readFile FileTree.entry at h
        rw [hnull] at h
        exact Except.error.inj h
      exact ⟨rfl, rfl⟩
    | false =>
      obtain ⟨problem, p, rfl⟩ := exists_of_readFile_eq_error hnull h
      exact ⟨rfl, rfl⟩

theorem obstacle_of_ok {path : FilePath} {content : Content}
    (h : tree.readFile path = .ok content) : obstacle active path = none := by
  unfold obstacle
  cases hnull : path.hasNull with
  | true =>
    unfold FileTree.readFile FileTree.entry at h
    rw [hnull] at h
    cases h
  | false => rfl

/-- The scan of a file remembers the rules that are looked up in it. It ends with a fault if one of
them cannot be compiled or the file is an obstacle; otherwise the rules find what each finds with
the patterns of its forerunner. -/
theorem Remembers.scanFile (h : Remembers known c) (tree : FileTree) (active : List Rule)
    (engine : String) (path : FilePath) :
    let rules := metInFile tree active path
    let scanned := Scan.scanFile tree engine active c path
    Remembers (known ++ met known rules) scanned.1 ∧
      (passes known rules = true → scanned.2.2 =
        match obstacle active path with
        | some f => .error f
        | none => .ok
          (findingsIn tree engine (fun rule => ownNodes (forerunner (known ++ rules) rule)) active
            path)) ∧
      (passes known rules = false → ∃ f, scanned.2.2 = .error f) := by
  intro rules scanned
  cases hread : tree.readFile path with
  | error f =>
    have hrules : rules = [] := by
      simp only [rules, metInFile, hread]
    obtain ⟨hcache, hresult⟩ := scanFile_of_error active c engine hread
    simp only [scanned]
    rw [hcache, hresult, findingsIn_of_metInFile_eq_nil engine _ hrules, hrules, met,
      List.append_nil]
    exact ⟨h, fun _ => rfl, fun hfails => by cases hfails⟩
  | ok content =>
    obtain ⟨hcache, hresult⟩ := scanFile_of_ok active c engine hread
    obtain ⟨hkeeps, hfinds, hfails⟩ := h.scanRules engine path.text (textLines content) rules
    simp only [scanned]
    rw [hcache, hresult, obstacle_of_ok hread]
    refine ⟨hkeeps, fun hpasses => ?_, fun hbreaks => ?_⟩
    · rw [hfinds hpasses]
      unfold findingsIn
      rw [flatMap_violationsIn engine _ hread]
      rfl
    · obtain ⟨f, hf⟩ := hfails hbreaks
      rw [hf]
      exact ⟨f, rfl⟩

/-- No rule is looked up in an obstacle. -/
theorem metInFile_of_obstacle {path : FilePath} {f : Fault} (h : obstacle active path = some f) :
    metInFile tree active path = [] := by
  cases hread : tree.readFile path with
  | ok content =>
    rw [obstacle_of_ok hread] at h
    cases h
  | error fault => rw [metInFile, hread]

theorem metInFiles_cons (path : FilePath) (rest : List FilePath) :
    metInFiles tree active (path :: rest) =
      metInFile tree active path ++
        if (obstacle active path).isNone then metInFiles tree active rest else [] := by
  unfold metInFiles
  rw [List.takeWhile_cons]
  cases hobstacle : obstacle active path with
  | none => rw [Option.isNone_none, if_pos rfl, if_pos rfl, List.flatMap_cons]
  | some f =>
    rw [metInFile_of_obstacle hobstacle]
    rfl

theorem plainFindings_cons (engine : String) (nodes : Rule → List Pattern.Node) (path : FilePath)
    (rest : List FilePath) :
    plainFindings tree engine nodes active (path :: rest) =
      match obstacle active path with
      | some f => .error f
      | none => (plainFindings tree engine nodes active rest).map
          ((findingsIn tree engine nodes active path).toList ++ ·) := by
  unfold plainFindings
  rw [List.findSome?_cons, List.filterMap_cons]
  cases obstacle active path with
  | some f => rfl
  | none =>
    dsimp only
    cases rest.findSome? (obstacle active) with
    | some f => rfl
    | none => cases findingsIn tree engine nodes active path <;> rfl

/-- Only what the rules are matched with that are looked up matters for a scan. -/
theorem plainFindings_congr (engine : String) {nodes nodes' : Rule → List Pattern.Node}
    {files : List FilePath} (h : ∀ rule ∈ metInFiles tree active files, nodes rule = nodes' rule) :
    plainFindings tree engine nodes active files =
      plainFindings tree engine nodes' active files := by
  induction files with
  | nil => simp only [plainFindings, List.findSome?_nil, List.filterMap_nil]
  | cons path rest ih =>
    rw [metInFiles_cons] at h
    rw [plainFindings_cons, plainFindings_cons,
      findingsIn_congr engine fun rule hrule => h rule (List.mem_append_left _ hrule)]
    cases hobstacle : obstacle active path with
    | some f => rfl
    | none =>
      rw [hobstacle] at h
      dsimp only
      rw [ih fun rule hrule => h rule (List.mem_append_right _ hrule)]

/-- The scan of several files remembers the rules that are looked up in them, unless the call has
been given up. If they can be compiled one after another, it comes to what a scan does that matches
each rule with the patterns of its forerunner. -/
theorem Remembers.scanFiles (h : Remembers known c) (tree : FileTree) (active : List Rule)
    {token : Token} (htoken : token.check = .ok ()) (engine : String) (files : List FilePath) :
    let rules := metInFiles tree active files
    let course := Scan.scanFiles tree engine active token c files
    Remembers (known ++ met known rules) course.cache ∧
      (passes known rules = true → course.findings =
        plainFindings tree engine (fun rule => ownNodes (forerunner (known ++ rules) rule)) active
          files) := by
  induction files generalizing known c with
  | nil =>
    refine ⟨?_, fun _ => rfl⟩
    show Remembers (known ++ []) c
    rwa [List.append_nil]
  | cons path rest ih =>
    intro rules course
    obtain ⟨hkeeps, hfinds, hfails⟩ := h.scanFile tree active engine path
    have hrules : rules = _ := metInFiles_cons path rest
    have hcourse : course = _ := scanFiles_cons tree engine active token c path rest
    rw [htoken] at hcourse
    rw [hrules, met_append, passes_append, plainFindings_cons, hcourse]
    dsimp only
    cases hpasses : passes known (metInFile tree active path) with
    | false =>
      obtain ⟨f, hf⟩ := hfails hpasses
      rw [hf]
      exact ⟨hkeeps, fun hall => absurd hall Bool.false_ne_true⟩
    | true =>
      rw [hfinds hpasses]
      rw [met_of_passes hpasses] at hkeeps
      cases hobstacle : obstacle active path with
      | some f =>
        refine ⟨?_, fun _ => rfl⟩
        show Remembers (known ++ (metInFile tree active path ++ [])) _
        rwa [List.append_nil]
      | none =>
        obtain ⟨hlater, hfound⟩ := ih hkeeps
        rw [List.append_assoc] at hlater
        refine ⟨hlater, fun hall => ?_⟩
        -- the rules of this file have got forerunners, so they keep them
        let nodes (rules : List Rule) (rule : Rule) := ownNodes (forerunner rules rule)
        have hsame : findingsIn tree engine (nodes (known ++ metInFile tree active path)) active path =
            findingsIn tree engine
              (nodes (known ++ metInFile tree active path ++ metInFiles tree active rest)) active path :=
          findingsIn_congr engine fun rule hrule =>
            congrArg ownNodes (forerunner_append (isSome_of_passes hpasses hrule) _).symm
        dsimp only
        rw [hfound hall, hsame, List.append_assoc]
        rfl

/-- A scan without rules looks up none and finds nothing. -/
theorem metInFiles_nil (tree : FileTree) (files : List FilePath) :
    metInFiles tree [] files = [] := by
  unfold metInFiles
  rw [List.flatMap_eq_nil_iff]
  intro path _
  unfold metInFile
  cases tree.readFile path <;> rfl

theorem plainFindings_nil (tree : FileTree) (engine : String) (nodes : Rule → List Pattern.Node)
    (files : List FilePath) : plainFindings tree engine nodes [] files = .ok [] := by
  have hobstacle : ∀ path, obstacle [] path = none := fun path => by simp [obstacle]
  have hfindings : ∀ path, findingsIn tree engine nodes [] path = none := fun path => rfl
  induction files with
  | nil => rfl
  | cons path rest ih =>
    rw [plainFindings_cons, hobstacle, hfindings, ih]
    rfl

end Scans

end Scan

/-! ## Histories of requests -/

namespace Engine

open Scan (Remembers met forerunner ownNodes)

/-- What is asked of an engine between two shut-downs. -/
inductive Request where
  | setUp (tree : FileTree) (catalog : Catalog) (settings : Keyed Value)
  | analyze (tree : FileTree) (call : Call)
  | support (ruleId : String)
  | withdraw (ruleId : String)

/-- The engine after a request. -/
def serve (e : Engine) : Request → Engine
  | .setUp tree catalog settings => (e.setUp tree catalog settings).2.1
  | .analyze tree call => (e.analyze tree call).1
  | .support ruleId => e.support ruleId
  | .withdraw ruleId => e.withdraw ruleId

/-- The rules of a call that a scanner works with. -/
def activeRules (e : Engine) (call : Call) : List Rule :=
  call.rules.filter fun rule => !rule.patterns.isEmpty && e.supports rule.id

instance (listed : List String) (rule : Rule) : Decidable (Adopts listed rule) :=
  inferInstanceAs (Decidable (_ ∧ _))

/-- The rules that a scanner has to look up for a request, if all of them can be compiled. -/
def lookups (e : Engine) : Request → List Rule
  | .setUp tree catalog settings =>
    match e.kind, listedRules settings, catalog.load tree with
    | .scanner true _, .ok listed, .ok loaded =>
      loaded.rules.filter fun rule => Adopts (listed.map Text.upper) rule
    | _, _, _ => []
  | .analyze tree call =>
    match call.token.check with
    | .ok () => Scan.metInFiles tree (e.activeRules call) call.files
    | .error _ => []
  | .support _ => []
  | .withdraw _ => []

/-- The rules that a scanner has come across after some requests. -/
def metIn (e : Engine) (known : List Rule) : List Request → List Rule
  | [] => known
  | request :: rest => metIn (e.serve request) (known ++ met known (e.lookups request)) rest

section Scanner

variable {e : Engine} {bound : Bool} {known : List Rule} {c : Scan.Cache}

theorem remembers_adoptRules (h : Remembers known c) (listed : List String) (e : Engine)
    (rules : List Rule) :
    Remembers (known ++ met known (rules.filter fun rule => Adopts listed rule))
      (adoptRules listed e c rules).2.1 := by
  induction rules generalizing known c e with
  | nil =>
    show Remembers (known ++ []) c
    rwa [List.append_nil]
  | cons rule rest ih =>
    unfold adoptRules
    split
    · rename_i hleft
      rw [List.filter_cons_of_neg (by simpa using not_adopts_iff.mpr hleft)]
      exact ih h e
    · rename_i htaken
      have hadopts : Adopts listed rule := not_not.mp fun hnot => htaken (not_adopts_iff.mp hnot)
      obtain ⟨hkeeps, hfinds, hfails⟩ := h.compileRule rule
      rw [List.filter_cons_of_pos (by simpa using hadopts), met]
      cases hknown : ((known ++ [rule]).find? (Scan.standsFor rule.id)).isSome with
      | false =>
        obtain ⟨f, hf⟩ := hfails hknown
        generalize Scan.compileRule c rule = compiled at hkeeps hf
        obtain ⟨cache, result⟩ := compiled
        obtain rfl : result = .error f := hf
        exact hkeeps
      | true =>
        have hok := hfinds hknown
        generalize Scan.compileRule c rule = compiled at hkeeps hok
        obtain ⟨cache, result⟩ := compiled
        obtain rfl := hok
        have hlater := ih hkeeps (e.support rule.id)
        rw [List.append_assoc, List.singleton_append] at hlater
        exact hlater

theorem remembers_scanCourse (h : Remembers known c) (e : Engine) (tree : FileTree) {call : Call}
    (htoken : call.token.check = .ok ()) :
    let rules := Scan.metInFiles tree (e.activeRules call) call.files
    (e.scanCourse tree c call).1 = e.activeRules call ∧
      Remembers (known ++ met known rules) (e.scanCourse tree c call).2.cache ∧
      (Scan.passes known rules = true → (e.scanCourse tree c call).2.findings =
        Scan.plainFindings tree e.id (fun rule => ownNodes (forerunner (known ++ rules) rule))
          (e.activeRules call) call.files) := by
  intro rules
  unfold scanCourse
  dsimp only
  split
  · rename_i hnone
    have hactive : e.activeRules call = [] := List.isEmpty_iff.mp hnone
    have hrules : rules = [] := by
      simp only [rules, hactive, Scan.metInFiles_nil]
    rw [hactive, hrules, Scan.plainFindings_nil, met, List.append_nil]
    exact ⟨rfl, h, fun _ => rfl⟩
  · obtain ⟨hkeeps, hfinds⟩ := h.scanFiles tree (e.activeRules call) htoken e.id call.files
    exact ⟨rfl, hkeeps, hfinds⟩

theorem remembers_setUp (hkind : e.kind = .scanner bound c) (h : Remembers known c)
    (tree : FileTree) (catalog : Catalog) (settings : Keyed Value) :
    ∃ c', (e.setUp tree catalog settings).2.1.kind = .scanner bound c' ∧
      Remembers (known ++ met known (e.lookups (.setUp tree catalog settings))) c' := by
  have hprepared := prepare_id_kind e settings
  have hnothing : Remembers (known ++ met known []) c := by
    rw [met, List.append_nil]
    exact h
  unfold setUp lookups
  rw [hkind] at hprepared ⊢
  dsimp only
  unfold prepare at hprepared ⊢
  cases hlisted : listedRules settings with
  | error f =>
    refine ⟨c, ?_, ?_⟩
    · cases bound <;> exact hkind
    · cases bound <;> exact hnothing
  | ok listed =>
    rw [hlisted] at hprepared
    cases bound with
    | false => exact ⟨c, hprepared.2, hnothing⟩
    | true =>
      dsimp only at hprepared ⊢
      cases catalog.load tree with
      | error f => exact ⟨c, hprepared.2, hnothing⟩
      | ok loaded => exact ⟨_, rfl, remembers_adoptRules h _ _ _⟩

theorem remembers_analyze (hkind : e.kind = .scanner bound c) (h : Remembers known c)
    (tree : FileTree) (call : Call) :
    ∃ c', (e.analyze tree call).1.kind = .scanner bound c' ∧
      Remembers (known ++ met known (e.lookups (.analyze tree call))) c' := by
  rw [analyze_of_scanner tree hkind]
  refine ⟨_, rfl, ?_⟩
  unfold lookups
  dsimp only
  cases htoken : call.token.check with
  | ok _ => exact (remembers_scanCourse h e tree htoken).2.1
  | error f =>
    have hcache : (e.scanCourse tree c call).2.cache = c := by
      unfold scanCourse
      dsimp only
      split
      · rfl
      · cases call.files with
        | nil => rfl
        | cons path rest => rw [Scan.scanFiles_cons, htoken]
    rw [hcache, met, List.append_nil]
    exact h

/-- A scanner stays a scanner whatever it is asked, and remembers the rules that it looks up. -/
theorem remembers_serve (hkind : e.kind = .scanner bound c) (h : Remembers known c)
    (request : Request) :
    ∃ c', (e.serve request).kind = .scanner bound c' ∧
      Remembers (known ++ met known (e.lookups request)) c' := by
  cases request with
  | setUp tree catalog settings => exact remembers_setUp hkind h tree catalog settings
  | analyze tree call => exact remembers_analyze hkind h tree call
  | support ruleId =>
    refine ⟨c, (supportAll_id_kind e [ruleId]).2.trans hkind, ?_⟩
    show Remembers (known ++ []) c
    rwa [List.append_nil]
  | withdraw ruleId =>
    refine ⟨c, hkind, ?_⟩
    show Remembers (known ++ []) c
    rwa [List.append_nil]

theorem remembers_requests (hkind : e.kind = .scanner bound c) (h : Remembers known c)
    (requests : List Request) :
    ∃ c', (requests.foldl serve e).kind = .scanner bound c' ∧
      Remembers (e.metIn known requests) c' := by
  induction requests generalizing e known c with
  | nil => exact ⟨c, hkind, h⟩
  | cons request rest ih =>
    obtain ⟨c', hkind', hkeeps⟩ := remembers_serve hkind h request
    exact ih hkind' hkeeps

/-- What is reported for a call if each rule is matched with given patterns. -/
def matched (e : Engine) (tree : FileTree) (call : Call) (nodes : Rule → List Pattern.Node) :
    Except Fault Findings :=
  (Scan.plainFindings tree e.id nodes (e.activeRules call) call.files).map fun results =>
    .report
      { results := results
        metadata := [("engine", .text e.id),
          ("rules", .texts ((e.activeRules call).map Rule.id))] }

theorem matched_congr (tree : FileTree) {call : Call} {nodes nodes' : Rule → List Pattern.Node}
    (h : ∀ rule ∈ Scan.metInFiles tree (e.activeRules call) call.files, nodes rule = nodes' rule) :
    e.matched tree call nodes = e.matched tree call nodes' := by
  unfold matched
  rw [Scan.plainFindings_congr e.id h]

/-- A scanner that remembers some rules matches each one with the patterns of its forerunner. -/
theorem answer_of_remembers (hkind : e.kind = .scanner bound c) (h : Remembers known c)
    (tree : FileTree) {call : Call} (htoken : call.token.check = .ok ())
    (hpasses : Scan.passes known (Scan.metInFiles tree (e.activeRules call) call.files) = true) :
    (e.analyze tree call).2.2.answer = e.matched tree call fun rule =>
      ownNodes (forerunner
        (known ++ Scan.metInFiles tree (e.activeRules call) call.files) rule) := by
  obtain ⟨hactive, -, hfinds⟩ := remembers_scanCourse h e tree htoken
  rw [analyze_of_scanner tree hkind]
  dsimp only
  rw [hfinds hpasses, hactive]
  rfl

end Scanner

theorem mem_activeRules_of_mem_metInFiles {tree : FileTree} {active : List Rule}
    {files : List FilePath} {rule : Rule} (h : rule ∈ Scan.metInFiles tree active files) :
    rule ∈ active := by
  obtain ⟨path, -, hrule⟩ := List.mem_flatMap.mp h
  unfold Scan.metInFile at hrule
  split at hrule
  · exact (List.mem_filter.mp hrule).1
  · cases hrule

/-- Take a scanner that keeps no patterns, any history of requests, and a call that nobody has given
up for rules whose patterns compile. The scanner matches each rule with the patterns of its
forerunner among the rules that it came across in the history and those that it comes across now.
Where these are the rule's own patterns, it reports what it would report with nothing kept, that is
what a scan reports that matches each rule with its own. -/
theorem analyze_after_requests {e : Engine} {bound : Bool} (hempty : e.kind = .scanner bound [])
    (requests : List Request) (tree : FileTree) {call : Call} (htoken : call.token.reason = none)
    (hcompiles : ∀ rule ∈ call.rules, ∃ nodes, Scan.compilePatterns rule.patterns = .ok nodes) :
    let now := requests.foldl serve e
    let emptied : Engine := { now with kind := .scanner bound [] }
    let lookups := Scan.metInFiles tree (now.activeRules call) call.files
    let known := e.metIn [] requests ++ lookups
    (now.analyze tree call).2.2.answer =
        now.matched tree call (fun rule => ownNodes (forerunner known rule)) ∧
      ((∀ rule ∈ lookups, (forerunner known rule).patterns = rule.patterns) →
        (now.analyze tree call).2.2.answer = now.matched tree call ownNodes ∧
          (emptied.analyze tree call).2.2.answer = now.matched tree call ownNodes) := by
  intro now emptied lookups known
  obtain ⟨c, hkind, hkeeps⟩ := remembers_requests hempty Scan.remembers_nil requests
  have hcheck : call.token.check = .ok () := by
    unfold Token.check
    rw [htoken]
  have hown : ∀ rule ∈ lookups, Scan.compiles rule = true := by
    intro rule hrule
    obtain ⟨nodes, hnodes⟩ := hcompiles rule
      (List.mem_filter.mp (mem_activeRules_of_mem_metInFiles hrule)).1
    unfold Scan.compiles
    rw [hnodes]
    rfl
  have hanswer := answer_of_remembers hkind hkeeps tree hcheck (Scan.passes_of_compiles hown)
  have hafresh : (emptied.analyze tree call).2.2.answer =
      now.matched tree call fun rule => ownNodes (forerunner lookups rule) :=
    answer_of_remembers (e := emptied) rfl Scan.remembers_nil tree hcheck
      (Scan.passes_of_compiles hown)
  refine ⟨hanswer, fun hsame => ⟨?_, ?_⟩⟩
  · rw [hanswer]
    exact matched_congr tree fun rule hrule => Scan.ownNodes_congr (hsame rule hrule)
  · rw [hafresh]
    refine matched_congr tree fun rule hrule => Scan.ownNodes_congr ?_
    -- the forerunner among the rules of this call has the patterns of the one in all
    obtain ⟨hfore, hid⟩ := Scan.forerunner_mem hrule (hown rule hrule)
    rw [← hsame _ hfore, ← hsame rule hrule]
    exact congrArg Rule.patterns (Scan.forerunner_of_id
      (Scan.isSome_of_passes (Scan.passes_of_compiles hown) hrule) hid)

/-- Set up with one pattern for a rule and called with another, the scanner looks for the first. -/
theorem analyze_after_setUp_other_pattern :
    let catalog := Catalog.ofRules [{ id := "A", patterns := ["a"] }]
    let rule : Rule := { id := "A", patterns := ["b"] }
    let tree : FileTree := [(["x.js"], .file (.text "a\nb\nb"))]
    let call : Call := { files := [FilePath.ofText "x.js"], rules := [rule] }
    let requests := [Request.setUp [] catalog []]
    let now := requests.foldl serve (scanner true)
    let known := (scanner true).metIn [] requests ++
      Scan.metInFiles tree (now.activeRules call) call.files
    let lines (answer : Except Fault Findings) : List (Option Int) :=
      match answer with
      | .ok (.report r) => r.results.flatMap fun f => f.violations.map fun v => v.line
      | _ => []
    (scanner true).kind = .scanner true [] ∧ call.token.reason = none ∧
      (∀ r ∈ call.rules, ∃ nodes, Scan.compilePatterns r.patterns = .ok nodes) ∧
      (forerunner known rule).patterns = ["a"] ∧
      (now.analyze tree call).2.2.answer =
        now.matched tree call (fun r => ownNodes (forerunner known r)) ∧
      lines (now.analyze tree call).2.2.answer = [some 1] ∧
      lines (now.matched tree call ownNodes) = [some 2, some 3] := by
  intro catalog rule tree call requests now known lines
  have hcompiles : ∀ r ∈ call.rules, ∃ nodes, Scan.compilePatterns r.patterns = .ok nodes := by
    have hall : ∀ r ∈ call.rules, Scan.compiles r = true := by decide +kernel
    exact fun r hr => ⟨_, Scan.compilePatterns_of_compiles (hall r hr)⟩
  have htoken : call.token.reason = none := rfl
  obtain ⟨hmatched, -⟩ :=
    analyze_after_requests (e := scanner true) rfl requests tree htoken hcompiles
  refine ⟨rfl, rfl, hcompiles, by decide +kernel, ?_, by decide +kernel, by decide +kernel⟩
  simp only [now, known]
  exact hmatched

end Engine

end RuleAudit
