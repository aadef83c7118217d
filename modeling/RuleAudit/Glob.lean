import RuleAudit.FilePath
import RuleAudit.Pattern.Reader
import RuleAudit.Text.Replace

/-!
# Exclusion globs

In a glob `**` stands for any text, `*` for any text within one path component and `?` for one
character of a component. A glob may match anywhere in a path, and letters are compared without
regard to case. Globs are carried over into patterns, so the other marks of patterns keep their
meaning.
-/

namespace RuleAudit.Glob

/-- What stands for `**` while single stars are replaced. -/
def doubleStar : String := "\x00DOUBLE_STAR\x00"

/-- The pattern text of a glob without what lies around it. -/
def core (glob : String) : String :=
  glob
  |> Text.replaceAll "." "\\."
  |> Text.replaceAll "**" doubleStar
  |> Text.replaceAll "*" "[^/]*"
  |> Text.replaceAll doubleStar ".*"
  |> Text.replaceAll "?" "[^/]"

/-- The pattern text of a glob. -/
def patternText (glob : String) : String :=
  let inner := core glob
  let opened := if inner.startsWith ".*" then inner else ".*" ++ inner
  if opened.endsWith ".*" then opened else opened ++ ".*"

/-- The pattern of a glob. -/
def compile (glob : String) : Except Pattern.CompileError Pattern.Node :=
  Pattern.compile (patternText glob)

/-- The text of a path that globs are matched against: rooted, so that `**/dir/**` also covers a
directory at the top. -/
def target (p : FilePath) : String :=
  let s := p.text
  if s.startsWith "/" then s else "/" ++ s

/-- Whether one of the globs matches a text; a glob after the first match is not looked at. -/
def matchesAny (target : List Char) : List (Except Pattern.CompileError Pattern.Node) →
    Except Pattern.CompileError Bool
  | [] => .ok false
  | .error e :: _ => .error e
  | .ok node :: rest => if node.matchesStart target then .ok true else matchesAny target rest

/-- Whether one of the globs excludes a path. -/
def excludes (globs : List (Except Pattern.CompileError Pattern.Node)) (p : FilePath) :
    Except Pattern.CompileError Bool :=
  matchesAny (target p).toList globs

end RuleAudit.Glob
