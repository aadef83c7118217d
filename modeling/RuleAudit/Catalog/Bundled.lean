import RuleAudit.Rule

/-!
# The bundled rules

The rules that a catalog holds when no registry is named.
-/

namespace RuleAudit

/-- The rules that come with the auditor. -/
def bundledRules : List Rule :=
  [{ id := "C006"
     name := "Function names should be verb-noun"
     description := "Function and method names should start with a verb describing the action."
     category := "quality"
     severity := .warning
     languages := ["javascript", "typescript", "java", "kotlin", "dart", "swift"]
     principles := ["CODE_QUALITY"]
     analyzer := some "syntax" },
   { id := "C010"
     name := "Limit block nesting"
     description := "Blocks should not nest more than three levels deep."
     category := "maintainability"
     severity := .warning
     languages := ["javascript", "typescript", "java", "kotlin"]
     principles := ["MAINTAINABILITY"]
     analyzer := some "syntax" },
   { id := "C018"
     name := "Do not throw generic errors"
     description := "Throw a specific error type instead of a bare Error or Exception."
     category := "reliability"
     severity := .warning
     languages := ["javascript", "typescript", "python", "java"]
     principles := ["RELIABILITY"]
     analyzer := some "heuristic"
     patterns := ["throw\\s+new\\s+Error\\(", "raise\\s+Exception\\("]
     message := some "Generic error raised; use a specific error type" },
   { id := "C043"
     name := "No console or print statements"
     description := "Use the project logger instead of console output calls."
     category := "quality"
     severity := .warning
     languages := ["javascript", "typescript", "python"]
     principles := ["CODE_QUALITY"]
     analyzer := some "heuristic"
     patterns := ["\\bconsole\\.(log|debug|info)\\(", "^\\s*print\\("]
     message := some "Console output call found; use a logger" },
   { id := "C047"
     name := "No duplicate retry logic"
     description := "Retry loops should be centralised in a shared helper."
     category := "design"
     severity := .warning
     languages := ["javascript", "typescript"]
     principles := ["DESIGN_PATTERNS"]
     analyzer := some "semantic"
     engines := ["heuristic", "ai"]
     patterns := ["for\\s*\\(\\s*let\\s+(retry|attempt)\\w*\\s*="]
     message := some "Hand-rolled retry loop; use the shared retry helper" },
   { id := "S009"
     name := "No insecure encryption"
     description := "Avoid broken hash and cipher algorithms."
     category := "security"
     severity := .error
     languages := ["javascript", "typescript", "java", "python", "kotlin"]
     principles := ["SECURITY"]
     analyzer := some "heuristic"
     patterns := ["\\b(md5|sha1|des|rc4)\\b"]
     message := some "Insecure hash or cipher algorithm" },
   { id := "S017"
     name := "Use parameterized queries"
     description := "Never build SQL by string interpolation."
     category := "security"
     severity := .error
     languages := ["javascript", "typescript", "python", "java"]
     principles := ["SECURITY"]
     analyzer := some "heuristic"
     patterns := ["execute\\(\\s*f[\"']", "query\\(\\s*`[^`]*\\$\\\x7b"]
     message := some "SQL statement built from interpolated input" },
   { id := "S027"
     name := "No hardcoded secrets"
     description := "Credentials must come from configuration or a secret store."
     category := "security"
     severity := .error
     languages := ["all"]
     principles := ["SECURITY"]
     analyzer := some "heuristic"
     patterns := ["(password|passwd|secret|api[_-]?key|token)\\s*[:=]\\s*[\"'][^\"']\x7b4,\x7d[\"']"]
     message := some "Hardcoded secret literal" },
   { id := "S058"
     name := "No server-side request forgery"
     description := "Outbound requests must not use unvalidated user-supplied URLs."
     category := "security"
     severity := .error
     languages := ["javascript", "typescript"]
     principles := ["SECURITY"]
     analyzer := some "eslint" }]

end RuleAudit
