import RuleAudit.Text.Casing
import RuleAudit.Text.Lines

/-!
# File paths

A path is a root and a list of components. Reading drops empty components and single dots; `..`
stays. A root of exactly two slashes is kept apart from that of one.
-/

namespace RuleAudit

/-- A path: `""`, `"/"` or `"//"` as root, and components. -/
structure FilePath where
  root : String := ""
  parts : List String
  deriving Repr, DecidableEq

namespace FilePath

/-- The path a text stands for. -/
def ofText (s : String) : FilePath :=
  let cs := s.toList
  let slashes := (cs.takeWhile (· == '/')).length
  let root := if slashes == 0 then "" else if slashes == 2 then "//" else "/"
  let parts := (Text.splitOnChar '/' cs).filter fun p => !p.isEmpty && p != ['.']
  ⟨root, parts.map String.ofList⟩

/-- The text of a path; the path without root and components is `.`. -/
def text (p : FilePath) : String :=
  if p.root.isEmpty && p.parts.isEmpty then "."
  else p.root ++ "/".intercalate p.parts

/-- The path one or more components further down. -/
def join (p : FilePath) (more : List String) : FilePath :=
  { p with parts := p.parts ++ more }

/-- The last component. -/
def name (p : FilePath) : String :=
  p.parts.getLast?.getD ""

/-- The part of the last component from its last dot on. A dot at the start or at the end of the
component does not count. -/
def extension (p : FilePath) : String :=
  let cs := p.name.toList
  let tail := (cs.reverse.takeWhile (· != '.')).reverse
  let stem := cs.length - tail.length - 1
  if !cs.contains '.' || tail.isEmpty || stem == 0 then "" else String.ofList ('.' :: tail)

/-- Whether a path holds a null character, which no file name can. -/
def hasNull (p : FilePath) : Bool :=
  p.parts.any fun part => part.toList.contains (Char.ofNat 0)

end FilePath

/-! ## Languages -/

/-- Source file extensions and their languages. -/
def languageExtensions : List (String × String) :=
  [(".ts", "typescript"), (".tsx", "typescript"), (".js", "javascript"), (".jsx", "javascript"),
   (".mjs", "javascript"), (".dart", "dart"), (".swift", "swift"), (".kt", "kotlin"),
   (".kts", "kotlin"), (".java", "java"), (".py", "python"), (".go", "go"), (".rs", "rust"),
   (".php", "php"), (".rb", "ruby")]

/-- The language an extension stands for. -/
def languageOf? (p : FilePath) : Option String :=
  (languageExtensions.find? (·.1 == Text.lower p.extension)).map Prod.snd

/-- The language of a file, `unknown` for other extensions. -/
def detectLanguage (p : FilePath) : String :=
  (languageOf? p).getD "unknown"

end RuleAudit
