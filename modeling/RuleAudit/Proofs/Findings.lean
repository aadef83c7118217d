import Mathlib.Data.List.Induction
import Mathlib.Data.List.TakeWhile
import RuleAudit.Proofs.Remembered

/-!
# What a scan reports

The reference for a scan has no cache (`Engine.reported`). Every file with a violation is listed, in
the order of the files. Its violations come rule by rule and line by line, lines numbered from one.
A line on which one of the patterns of a rule matches is one violation, at the start of the match
of the first pattern that has one (`Scan.startOn`).

A scanner whose cache holds nothing for the rules of a call but what they compile to comes up to
that reference (`Engine.analyze_reports_first_matches`), with two reservations. A path with a null
character ends the scan, where any other file that cannot be read is left out. And of rules that
share an identifier all are matched with the patterns of the one that is looked up first.
-/

namespace RuleAudit

/-- What a violation of a rule says; an empty message is none. -/
def Rule.caption (rule : Rule) : String :=
  match rule.message with
  | some message => if message.isEmpty then rule.name else message
  | none => rule.name

namespace Scan

/-- Where a line matches the first of some patterns, in the order in which they stand, that it
matches at all. -/
def startOn (patterns : List String) (line : List Char) : Option Nat :=
  patterns.findSome? fun p => (Pattern.compile p).toOption.bind fun node => node.search line

/-- The violation of a rule on a numbered line, if one of its patterns matches it. -/
def violationOn (engine file : String) (patterns : Rule → List String) (rule : Rule)
    (numbered : List Char × Nat) : Option Violation :=
  (startOn (patterns rule) numbered.1).map fun start : Nat =>
    { ruleId := rule.id
      file := some file
      line := some numbered.2
      column := some (start + 1 : Nat)
      message := rule.caption
      severity := rule.severity
      engine := some engine
      category := some rule.category }

/-- The violations in a file, none in one that cannot be read. -/
def reportedIn (tree : FileTree) (engine : String) (patterns : Rule → List String)
    (active : List Rule) (path : FilePath) : List Violation :=
  match tree.readFile path with
  | .ok content =>
    (active.filter fun rule => rule.supportsLanguage (detectLanguage path)).flatMap fun rule =>
      ((textLines content).zipIdx 1).filterMap (violationOn engine path.text patterns rule)
  | .error _ => []

/-- The first of some rules with the identifier of a rule. -/
def firstOf (rules : List Rule) (rule : Rule) : Rule :=
  (rules.find? (·.id == rule.id)).getD rule

/-! ## Patterns and lines -/

theorem firstMatch_eq_startOn {patterns : List String} {nodes : List Pattern.Node}
    (h : compilePatterns patterns = .ok nodes) (line : List Char) :
    firstMatch nodes line = startOn patterns line := by
  induction patterns generalizing nodes with
  | nil =>
    cases h
    rfl
  | cons p rest ih =>
    rw [compilePatterns] at h
    unfold startOn firstMatch at ih ⊢
    rw [List.findSome?_cons]
    cases hp : Pattern.compile p with
    | error e =>
      rw [hp] at h
      cases h
    | ok node =>
      rw [hp] at h
      obtain ⟨later, hlater, rfl⟩ := exists_of_map_eq_ok h
      rw [List.findSome?_cons, ih hlater]
      rfl

/-- The lines on which a rule is violated are those that its patterns match, one violation each. -/
theorem scanLines_eq_filterMap (engine file : String) {patterns : Rule → List String} {rule : Rule}
    {nodes : List Pattern.Node} (h : compilePatterns (patterns rule) = .ok nodes) (number : Nat)
    (lines : List (List Char)) :
    scanLines engine file rule nodes number lines =
      (lines.zipIdx number).filterMap (violationOn engine file patterns rule) := by
  induction lines generalizing number with
  | nil => rfl
  | cons line rest ih =>
    rw [scanLines, List.zipIdx_cons, List.filterMap_cons, violationOn, firstMatch_eq_startOn h, ih]
    cases startOn (patterns rule) line <;> rfl

/-- Rules that are matched with what some patterns compile to violate the lines that these match. -/
theorem findingsIn_eq_reportedIn {tree : FileTree} (engine : String) {active : List Rule}
    {patterns : Rule → List String} {nodes : Rule → List Pattern.Node} {path : FilePath}
    (h : ∀ rule ∈ metInFile tree active path, compilePatterns (patterns rule) = .ok (nodes rule)) :
    findingsIn tree engine nodes active path =
      inFile path.text (reportedIn tree engine patterns active path) := by
  unfold reportedIn
  cases hread : tree.readFile path with
  | error f =>
    have hnone : metInFile tree active path = [] := by rw [metInFile, hread]
    exact findingsIn_of_metInFile_eq_nil engine nodes hnone
  | ok content =>
    have hmet : metInFile tree active path =
        active.filter fun rule => rule.supportsLanguage (detectLanguage path) := by
      rw [metInFile, hread]
    unfold findingsIn
    rw [flatMap_violationsIn engine nodes hread, ← hmet]
    exact congrArg _ (List.flatMap_congr fun rule hrule =>
      scanLines_eq_filterMap engine path.text (h rule hrule) 1 _)

/-! ## The first of an identifier -/

section First

variable {rules : List Rule} {rule : Rule}

theorem firstOf_mem (h : rule ∈ rules) :
    firstOf rules rule ∈ rules ∧ (firstOf rules rule).id = rule.id := by
  obtain ⟨first, hfirst⟩ := Option.isSome_iff_exists.mp
    (List.find?_isSome (p := (·.id == rule.id)).mpr ⟨rule, h, beq_self_eq_true rule.id⟩)
  unfold firstOf
  rw [hfirst]
  exact ⟨List.mem_of_find?_eq_some hfirst, beq_iff_eq.mp (List.find?_some hfirst :)⟩

/-- Among rules whose patterns compile, the forerunner is the first of the identifier. -/
theorem forerunner_eq_firstOf (h : ∀ r ∈ rules, compiles r = true) :
    forerunner rules rule = firstOf rules rule := by
  have hsame : rules.find? (standsFor rule.id) = rules.find? (·.id == rule.id) :=
    List.find?_congr fun r hr => by rw [standsFor, h r hr, Bool.and_true]
  unfold forerunner firstOf
  rw [hsame]

end First

/-! ## Caches that hold what rules compile to -/

/-- Whatever the rules, a scanner may have come across them. -/
theorem exists_remembers (known : List Rule) : ∃ c, Remembers known c := by
  induction known using List.reverseRecOn with
  | nil => exact ⟨[], remembers_nil⟩
  | append_singleton earlier rule ih =>
    obtain ⟨c, hc⟩ := ih
    exact ⟨_, (hc.compileRule rule).1⟩

/-- A cache that holds nothing for some rules but what they compile to is, for these rules, that of
a scanner that has come across some of them. -/
theorem exists_remembers_of_own {rules : List Rule} {cache : Cache}
    (hown : ∀ rule ∈ rules, ∀ nodes, cache.get? rule.id = some nodes →
      compilePatterns rule.patterns = .ok nodes) :
    ∃ known c, Remembers known c ∧ ∀ rule ∈ rules, cache.get? rule.id = c.get? rule.id := by
  obtain ⟨c, hc⟩ := exists_remembers (rules.filter fun rule => (cache.get? rule.id).isSome)
  refine ⟨_, c, hc, fun rule hrule => ?_⟩
  rw [hc]
  cases hfind : (rules.filter _).find? (standsFor rule.id) with
  | some first =>
    obtain ⟨hfirst, hheld⟩ := List.mem_filter.mp (List.mem_of_find?_eq_some hfind)
    have hstands : standsFor rule.id first = true := List.find?_some hfind
    have hid : first.id = rule.id := beq_iff_eq.mp (Bool.and_eq_true_iff.mp hstands).1
    obtain ⟨nodes, hnodes⟩ := Option.isSome_iff_exists.mp hheld
    rw [Option.map_some, ← hid, hnodes, ownNodes, hown first hfirst nodes hnodes]
    rfl
  | none =>
    cases hget : cache.get? rule.id with
    | none => rfl
    | some nodes =>
      -- the rule itself would be found
      have hmem : rule ∈ rules.filter fun r => (cache.get? r.id).isSome :=
        List.mem_filter.mpr ⟨hrule, by rw [hget]; rfl⟩
      refine absurd (?_ : standsFor rule.id rule = true) (List.find?_eq_none.mp hfind rule hmem)
      simp [standsFor, compiles, hown rule hrule nodes hget, Except.toBool]

/-! ## Files that end a scan -/

theorem obstacle_eq_none_iff {active : List Rule} {path : FilePath} :
    obstacle active path = none ↔ path.hasNull = true →
      ∀ rule ∈ active, ¬ rule.supportsLanguage (detectLanguage path) = true := by
  unfold obstacle
  split
  · rename_i h
    simp_all
  · rename_i h
    simpa using h

theorem plainFindings_of_obstacle (tree : FileTree) (engine : String)
    (nodes : Rule → List Pattern.Node) {active : List Rule} {files : List FilePath}
    (h : ∃ path ∈ files, obstacle active path ≠ none) :
    plainFindings tree engine nodes active files = .error FileTree.nullFault := by
  obtain ⟨path, hpath, hobstacle⟩ := h
  unfold plainFindings
  cases hfirst : files.findSome? (obstacle active) with
  | none => exact absurd (List.findSome?_eq_none_iff.mp hfirst path hpath) hobstacle
  | some f =>
    obtain ⟨other, -, hother⟩ := List.exists_of_findSome?_eq_some hfirst
    unfold obstacle at hother
    split at hother
    · cases hother
      rfl
    · cases hother

end Scan

/-! ## Reports -/

namespace Engine

open Scan (firstOf forerunner ownNodes Remembers)

/-- The report on a call, if each of its rules is matched with given patterns. -/
def reported (e : Engine) (tree : FileTree) (call : Call) (patterns : Rule → List String) :
    Findings :=
  .report
    { results := call.files.filterMap fun path =>
        Scan.inFile path.text (Scan.reportedIn tree e.id patterns (e.activeRules call) path)
      metadata := [("engine", .text e.id),
        ("rules", .texts ((e.activeRules call).map Rule.id))] }

section Scanner

variable {e : Engine} {bound : Bool} {cache c : Scan.Cache} {known : List Rule} {tree : FileTree}
  {call : Call}

/-- What a scanner answers depends on nothing of its cache but what it has for the rules. -/
theorem analyze_answer_of_get? (hkind : e.kind = .scanner bound cache)
    (h : ∀ rule ∈ call.rules, cache.get? rule.id = c.get? rule.id) (tree : FileTree) :
    (e.analyze tree call).2.2.answer =
      (({ e with kind := .scanner bound c } : Engine).analyze tree call).2.2.answer := by
  have hscan : (e.scanCourse tree cache call).1 = (e.scanCourse tree c call).1 ∧
      (e.scanCourse tree cache call).2.findings = (e.scanCourse tree c call).2.findings := by
    unfold scanCourse
    dsimp only
    split
    · exact ⟨rfl, rfl⟩
    · exact ⟨rfl, ((Scan.simulates_get? call.rules).scanFiles
        (fun rule hrule => (List.mem_filter.mp hrule).1) h tree e.id call.token call.files).2.2.2⟩
  rw [analyze_of_scanner tree hkind, analyze_of_scanner tree rfl]
  dsimp only
  rw [hscan.1, hscan.2]
  rfl

/-- With patterns that compile, what is reported is what the compiled patterns find. -/
theorem matched_eq_reported {patterns : Rule → List String} {nodes : Rule → List Pattern.Node}
    (hclear : ∀ path ∈ call.files, Scan.obstacle (e.activeRules call) path = none)
    (h : ∀ path ∈ call.files, ∀ rule ∈ Scan.metInFile tree (e.activeRules call) path,
      Scan.compilePatterns (patterns rule) = .ok (nodes rule)) :
    e.matched tree call nodes = .ok (e.reported tree call patterns) := by
  have hfound := List.filterMap_congr fun path hpath =>
    Scan.findingsIn_eq_reportedIn e.id (h path hpath)
  unfold matched Scan.plainFindings reported
  rw [List.findSome?_eq_none_iff.mpr hclear, hfound]
  rfl

/-- A rule is matched with what the first rule of its identifier compiles to, whether the scanner
has come across one or not. -/
theorem ownNodes_forerunner (hremembers : Remembers known c) {rules : List Rule}
    (hcompiles : ∀ rule ∈ rules, Scan.compiles rule = true)
    (hown : ∀ rule ∈ rules, ∀ nodes, c.get? rule.id = some nodes →
      Scan.compilePatterns rule.patterns = .ok nodes) {rule : Rule} (hrule : rule ∈ rules) :
    ownNodes (forerunner (known ++ rules) rule) = ownNodes (firstOf rules rule) := by
  obtain ⟨hfirst, hid⟩ := Scan.firstOf_mem hrule
  have hget := hremembers rule.id
  cases hfind : known.find? (Scan.standsFor rule.id) with
  | some earlier =>
    rw [hfind, Option.map_some, ← hid] at hget
    rw [Scan.forerunner_append (by rw [hfind]; rfl), forerunner, hfind, Option.getD_some]
    conv_rhs => rw [ownNodes, hown _ hfirst _ hget]
    rfl
  | none =>
    rw [forerunner, List.find?_append, hfind, Option.none_or]
    exact congrArg ownNodes (Scan.forerunner_eq_firstOf hcompiles)

/-- A scanner whose cache holds nothing for the rules of a call but what they compile to matches each
rule with what the first rule of its identifier compiles to that is looked up. -/
theorem answer_of_own (hkind : e.kind = .scanner bound cache) (tree : FileTree)
    (htoken : call.token.check = .ok ())
    (hcompiles : ∀ rule ∈ call.rules, Scan.compiles rule = true)
    (hown : ∀ rule ∈ call.rules, ∀ nodes, cache.get? rule.id = some nodes →
      Scan.compilePatterns rule.patterns = .ok nodes) :
    (e.analyze tree call).2.2.answer = e.matched tree call fun rule =>
      ownNodes (firstOf (Scan.metInFiles tree (e.activeRules call) call.files) rule) := by
  have hlisted : ∀ rule ∈ Scan.metInFiles tree (e.activeRules call) call.files,
      rule ∈ call.rules :=
    fun rule hrule => (List.mem_filter.mp (mem_activeRules_of_mem_metInFiles hrule)).1
  have hcompile : ∀ rule ∈ Scan.metInFiles tree (e.activeRules call) call.files,
      Scan.compiles rule = true :=
    fun rule hrule => hcompiles rule (hlisted rule hrule)
  -- the answer is that of a scanner that has come across what the cache holds
  obtain ⟨known, c, hremembers, hsame⟩ := Scan.exists_remembers_of_own hown
  have hmatched := answer_of_remembers (e := { e with kind := .scanner bound c }) rfl hremembers
    tree htoken (Scan.passes_of_compiles hcompile)
  rw [analyze_answer_of_get? hkind hsame tree]
  refine hmatched.trans (matched_congr tree fun rule hrule => ?_)
  refine ownNodes_forerunner hremembers hcompile (fun r hr nodes hget => ?_) hrule
  exact hown r (hlisted r hr) nodes ((hsame r (hlisted r hr)).trans hget)

end Scanner

/-- Take a scanner whose cache holds nothing for the rules of a call but what they compile to, and
all of them do, and a call that nobody has given up. If a path with a null character is among the
files, and its language is covered, the scan ends with a fault. Otherwise it reports file by file
what each rule finds with the patterns of the first rule of its identifier that is looked up, which
are its own unless two rules of one identifier bring different patterns. -/
theorem analyze_reports_first_matches {e : Engine} {bound : Bool} {cache : Scan.Cache}
    (hkind : e.kind = .scanner bound cache) (tree : FileTree) {call : Call}
    (htoken : call.token.reason = none)
    (hcompiles : ∀ rule ∈ call.rules, ∃ nodes, Scan.compilePatterns rule.patterns = .ok nodes)
    (hown : ∀ rule ∈ call.rules, ∀ nodes, cache.get? rule.id = some nodes →
      Scan.compilePatterns rule.patterns = .ok nodes) :
    let active := e.activeRules call
    let lookups := call.files.flatMap (Scan.metInFile tree active)
    let fatal (path : FilePath) : Prop := path.hasNull = true ∧
      ∃ rule ∈ active, rule.supportsLanguage (detectLanguage path) = true
    let answer := (e.analyze tree call).2.2.answer
    ((∃ path ∈ call.files, fatal path) → answer = .error FileTree.nullFault) ∧
      ((∀ path ∈ call.files, ¬ fatal path) →
        answer = .ok (e.reported tree call fun rule => (firstOf lookups rule).patterns) ∧
          (Scan.Coherent lookups → answer = .ok (e.reported tree call Rule.patterns))) := by
  intro active lookups fatal answer
  have hcheck : call.token.check = .ok () := by rw [Token.check, htoken]
  have hcompile : ∀ rule ∈ call.rules, Scan.compiles rule = true := by
    intro rule hrule
    obtain ⟨nodes, hnodes⟩ := hcompiles rule hrule
    rw [Scan.compiles, hnodes]
    rfl
  have hobstacle : ∀ path, Scan.obstacle active path = none ↔ ¬ fatal path := by
    intro path
    rw [Scan.obstacle_eq_none_iff, not_and, not_exists]
    simp only [not_and]
  have hanswer : answer = e.matched tree call fun rule =>
      ownNodes (firstOf (Scan.metInFiles tree active call.files) rule) :=
    answer_of_own hkind tree hcheck hcompile hown
  refine ⟨fun hexists => ?_, fun hclear => ?_⟩
  · obtain ⟨path, hpath, hfatal⟩ := hexists
    rw [hanswer, matched, Scan.plainFindings_of_obstacle tree e.id _
      ⟨path, hpath, fun hnone => (hobstacle path).mp hnone hfatal⟩]
    rfl
  · have hnone : ∀ path ∈ call.files, Scan.obstacle active path = none :=
      fun path hpath => (hobstacle path).mpr (hclear path hpath)
    have hlookups : Scan.metInFiles tree active call.files = lookups := by
      rw [Scan.metInFiles,
        List.takeWhile_eq_self_iff.mpr fun path hpath => by rw [hnone path hpath, Option.isNone_none]]
    have hmem : ∀ rule ∈ lookups, rule ∈ call.rules := fun rule hrule =>
      (List.mem_filter.mp (mem_activeRules_of_mem_metInFiles (hlookups ▸ hrule))).1
    have hreport : ∀ patterns : Rule → List String,
        (∀ rule ∈ lookups, patterns rule = (firstOf lookups rule).patterns) →
          answer = .ok (e.reported tree call patterns) := by
      intro patterns hpatterns
      rw [hanswer, hlookups]
      refine matched_eq_reported hnone fun path hpath rule hrule => ?_
      have hlooked : rule ∈ lookups := List.mem_flatMap.mpr ⟨path, hpath, hrule⟩
      rw [hpatterns rule hlooked]
      exact Scan.compilePatterns_of_compiles (hcompile _ (hmem _ (Scan.firstOf_mem hlooked).1))
    refine ⟨hreport _ fun _ _ => rfl, fun hcoherent => hreport _ fun rule hrule => ?_⟩
    obtain ⟨hfirst, hid⟩ := Scan.firstOf_mem hrule
    exact hcoherent rule hrule _ hfirst hid.symm

/-- Two rules of one identifier, a third whose patterns are kept already, and a file that is not
there: both of the first two are matched with the first one's pattern. -/
theorem analyze_reports_first_matches_shared_id :
    let first : Rule := { id := "A", patterns := ["b"] }
    let second : Rule := { id := "A", patterns := ["c"] }
    let third : Rule := { id := "B", patterns := ["x", "c+$"] }
    let cache : Scan.Cache := [("B", ownNodes third)]
    let e : Engine := { scanner true with kind := .scanner true cache, supported := ["A", "B"] }
    let tree : FileTree := [(["x.js"], .file (.text "ab\ncc"))]
    let call : Call :=
      { files := [FilePath.ofText "gone.js", FilePath.ofText "x.js"], rules := [first, second, third] }
    let lookups := call.files.flatMap (Scan.metInFile tree (e.activeRules call))
    let places (findings : Findings) : List (String × String × Option Int × Option Int) :=
      match findings with
      | .report r => r.results.flatMap fun f =>
          f.violations.map fun v => (f.file, v.ruleId, v.line, v.column)
      | .raw _ => []
    e.kind = .scanner true cache ∧ call.token.reason = none ∧
      (∀ rule ∈ call.rules, ∃ nodes, Scan.compilePatterns rule.patterns = .ok nodes) ∧
      (∀ rule ∈ call.rules, ∀ nodes, cache.get? rule.id = some nodes →
        Scan.compilePatterns rule.patterns = .ok nodes) ∧
      (e.analyze tree call).2.2.answer =
        .ok (e.reported tree call fun rule => (firstOf lookups rule).patterns) ∧
      places (e.reported tree call fun rule => (firstOf lookups rule).patterns) =
        [("x.js", "A", some 1, some 2), ("x.js", "A", some 1, some 2), ("x.js", "B", some 2, some 1)] ∧
      places (e.reported tree call Rule.patterns) =
        [("x.js", "A", some 1, some 2), ("x.js", "A", some 2, some 1),
          ("x.js", "B", some 2, some 1)] := by
  intro first second third cache e tree call lookups places
  have hall : ∀ rule ∈ call.rules, Scan.compiles rule = true := by decide +kernel
  have hcompiles : ∀ rule ∈ call.rules, ∃ nodes, Scan.compilePatterns rule.patterns = .ok nodes :=
    fun rule hrule => ⟨_, Scan.compilePatterns_of_compiles (hall rule hrule)⟩
  have hown : ∀ rule ∈ call.rules, ∀ nodes, cache.get? rule.id = some nodes →
      Scan.compilePatterns rule.patterns = .ok nodes := by
    intro rule hrule nodes hget
    simp only [call, List.mem_cons, List.not_mem_nil, or_false] at hrule
    obtain rfl | rfl | rfl := hrule
    · cases hget
    · cases hget
    · cases hget
      exact Scan.compilePatterns_of_compiles (hall third (by simp [call]))
  have htoken : call.token.reason = none := rfl
  obtain ⟨-, hreported⟩ := analyze_reports_first_matches (e := e) rfl tree htoken hcompiles hown
  have hlegal : ∀ path ∈ call.files, path.hasNull = false := by decide +kernel
  refine ⟨rfl, htoken, hcompiles, hown, ?_, by decide +kernel, by decide +kernel⟩
  exact (hreported fun path hpath hfatal =>
    absurd hfatal.1 (by rw [hlegal path hpath]; exact Bool.false_ne_true)).1

end Engine

end RuleAudit
