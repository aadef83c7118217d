import RuleAudit.FileTree
import RuleAudit.Notice
import RuleAudit.Pattern.Reader

/-!
# Pattern scans

The built-in way to find violations: each rule brings patterns, and a line on which one of them
matches is a violation. Compiled patterns are kept by rule identifier, so a rule is compiled once.
-/

namespace RuleAudit.Scan

/-- Compiled patterns by rule identifier. -/
abbrev Cache := Keyed (List Pattern.Node)

/-- The compiled patterns of a rule, in order. -/
def compilePatterns : List String → Except Fault (List Pattern.Node)
  | [] => .ok []
  | p :: rest =>
    match Pattern.compile p with
    | .error e => .error (.pattern e)
    | .ok node => (compilePatterns rest).map (node :: ·)

/-- The patterns of a rule, compiled now or before; a failure keeps nothing. -/
def compileRule (cache : Cache) (rule : Rule) : Cache × Except Fault (List Pattern.Node) :=
  match cache.get? rule.id with
  | some nodes => (cache, .ok nodes)
  | none =>
    match compilePatterns rule.patterns with
    | .ok nodes => (cache.put rule.id nodes, .ok nodes)
    | .error f => (cache, .error f)

/-- Where the first pattern that matches a line does so. -/
def firstMatch (nodes : List Pattern.Node) (line : List Char) : Option Nat :=
  nodes.findSome? fun node => node.search line

/-- The violation of a rule at a place. -/
def violationAt (engine file : String) (rule : Rule) (line column : Nat) : Violation :=
  let message := match rule.message with
    | some m => if m.isEmpty then rule.name else m
    | none => rule.name
  { ruleId := rule.id
    file := some file
    line := some line
    column := some column
    message := message
    severity := rule.severity
    engine := some engine
    category := some rule.category }

/-- The violations of a rule on lines numbered from `number`. -/
def scanLines (engine file : String) (rule : Rule) (nodes : List Pattern.Node) :
    Nat → List (List Char) → List Violation
  | _, [] => []
  | number, line :: rest =>
    let later := scanLines engine file rule nodes (number + 1) rest
    match firstMatch nodes line with
    | some start => violationAt engine file rule number (start + 1) :: later
    | none => later

/-- The violations of rules in a file, rule by rule. -/
def scanRules (engine file : String) (lines : List (List Char)) :
    Cache → List Rule → Cache × Except Fault (List Violation)
  | cache, [] => (cache, .ok [])
  | cache, rule :: rest =>
    match compileRule cache rule with
    | (cache, .error f) => (cache, .error f)
    | (cache, .ok nodes) =>
      match scanRules engine file lines cache rest with
      | (cache, .error f) => (cache, .error f)
      | (cache, .ok later) => (cache, .ok (scanLines engine file rule nodes 1 lines ++ later))

/-- The lines of a file's text. -/
def textLines (content : Content) : List (List Char) :=
  Text.lines (Text.unifyLineEnds content.decodeReplacing)

/-- The findings in one file; a file that cannot be read is only mentioned in the log. -/
def scanFile (tree : FileTree) (engine : String) (active : List Rule) (cache : Cache)
    (path : FilePath) : Cache × List Notice × Except Fault (Option FileFindings) :=
  let applicable := active.filter fun r => r.supportsLanguage (detectLanguage path)
  if applicable.isEmpty then (cache, [], .ok none)
  else match tree.readFile path with
    | .error (.file problem p) =>
      let fault : Fault := .file problem p
      (cache, [.log .scanner ("Cannot read " ++ path.text ++ ": " ++ fault.message)], .ok none)
    | .error f => (cache, [], .error f)
    | .ok content =>
      match scanRules engine path.text (textLines content) cache applicable with
      | (cache, .error f) => (cache, [], .error f)
      | (cache, .ok []) => (cache, [], .ok none)
      | (cache, .ok found) => (cache, [], .ok (some ⟨path.text, found⟩))

/-- The course of a scan over several files. -/
structure Course where
  cache : Cache
  notices : List Notice := []
  /-- The files that were taken up. -/
  taken : Nat := 0
  findings : Except Fault (List FileFindings)

/-- The findings in files, file by file; the first fault ends the scan. -/
def scanFiles (tree : FileTree) (engine : String) (active : List Rule) (token : Token) :
    Cache → List FilePath → Course
  | cache, [] => { cache := cache, findings := .ok [] }
  | cache, path :: rest =>
    match token.check with
    | .error f => { cache := cache, findings := .error f }
    | .ok () =>
      match scanFile tree engine active cache path with
      | (cache, notices, .error f) =>
        { cache := cache, notices := notices, taken := 1, findings := .error f }
      | (cache, notices, .ok found) =>
        let later := scanFiles tree engine active token cache rest
        { cache := later.cache
          notices := notices ++ later.notices
          taken := later.taken + 1
          findings := later.findings.map (found.toList ++ ·) }

end RuleAudit.Scan
