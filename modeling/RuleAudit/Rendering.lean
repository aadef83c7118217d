import RuleAudit.Console.Table
import RuleAudit.RunResult

/-!
# Rendering

The tables and lines that show rules, engines, and the result of a run.
-/

namespace RuleAudit.Rendering

open Console

/-- The table of rules. -/
def rules (rs : List Rule) : Except Fault (List String) :=
  let analyzer (r : Rule) : String :=
    match r.analyzer with
    | some a => if a.isEmpty then "-" else a
    | none => "-"
  Table.render
    { title := "Rules"
      columns := [⟨"Id", false⟩, ⟨"Category", false⟩, ⟨"Severity", false⟩, ⟨"Analyzer", false⟩,
        ⟨"Name", false⟩]
      rows := rs.map fun r => [r.id, r.category, r.severity.word, analyzer r, r.name] }

/-- The languages in what is shown of an engine. -/
def languageCell (info : Keyed Value) : String :=
  match info.get? "languages" with
  | some (.list items) => ", ".intercalate (items.map Value.display)
  | some v => if v.isTruthy then v.display else ""
  | none => ""

/-- The table of engines. -/
def engines (infos : Keyed (Keyed Value)) : Except Fault (List String) :=
  let cell (info : Keyed Value) (name : String) : String :=
    ((info.get? name).map Value.display).getD ""
  Table.render
    { title := "Engines"
      columns := [⟨"Engine", false⟩, ⟨"Version", false⟩, ⟨"Rules", true⟩, ⟨"Languages", false⟩]
      rows := infos.map fun (id, info) =>
        [id, cell info "version", cell info "rules", languageCell info] }

/-- The lines of a text printed without markup. -/
def plainLines (s : String) : List String :=
  let lines := linesOf (glyphs 0 (replaceEmoji s.toList))
  (lines.flatMap (wrap true consoleWidth)).map glyphText

/-- One violation. -/
def violation (v : Violation) : String :=
  let file := match v.file with
    | some f => if f.isEmpty then "<project>" else f
    | none => "<project>"
  let place := match v.line with
    | some n => s!"{file}:{n}"
    | none => file
  s!"{place} {v.ruleId} [{v.severity.word}] {v.message}"

/-- The first items of a list; a negative limit leaves out that many at the end. -/
def upTo {α : Type} (limit : Int) (items : List α) : List α :=
  if 0 ≤ limit then items.take limit.toNat else items.take (items.length - limit.natAbs)

/-- The violations of a run, up to a limit. -/
def violations (r : RunResult) (limit : Int) : List String :=
  let shown := (upTo limit r.violations).flatMap fun v => plainLines (violation v)
  let remaining := Int.ofNat r.violations.length - limit
  if remaining > 0 then shown ++ [s!"... {remaining} more"] else shown

/-- The statistics of each engine and the totals of a run. -/
def summary (r : RunResult) : Except Fault (List String) := do
  let table ← Table.render
    { title := "Analysis Summary"
      columns := [⟨"Engine", false⟩, ⟨"Rules", true⟩, ⟨"Batches", true⟩, ⟨"Failed", true⟩,
        ⟨"Files", true⟩, ⟨"Violations", true⟩]
      rows := r.summary.engines.map fun (id, t) =>
        [id, toString t.rules.length, toString t.batches, toString t.failedBatches,
          toString t.files, toString t.violations] }
  let m := r.performance
  return table ++
    [s!"files {m.optimizedFiles}/{m.givenFiles} analysed, " ++
      s!"{r.summary.totalViolations} violations, {r.summary.failedBatches} failed batches"]

end RuleAudit.Rendering
