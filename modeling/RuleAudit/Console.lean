import RuleAudit.Console.Glyph
import RuleAudit.Notice

/-!
# Console lines

What is printed for a message: its lines as they are, however long, and on a terminal each of them
in the colour of its level. Trace lines are broken at the width of the console, and their keys and
values have styles of their own.
-/

namespace RuleAudit

/-- The two output streams. -/
inductive Stream where
  | stdout
  | stderr
  deriving Repr, DecidableEq

/-- A line printed to a stream. -/
structure Printed where
  stream : Stream
  line : String
  deriving Repr, DecidableEq

namespace Console

/-- The columns of the console. -/
def consoleWidth : Nat := 1000

/-- A piece of a line in a terminal style, given by its codes. -/
def paint (codes : String) (cs : List Char) : String :=
  if cs.isEmpty then "" else "\x1b[" ++ codes ++ "m" ++ String.ofList cs ++ "\x1b[0m"

/-- A symbol when symbols are wanted. -/
def symbol (s : String) (wanted : Bool) : String :=
  if wanted then s else ""

/-- The lowest rank of the records that reach the log: warnings, or everything when verbose. -/
def logThreshold (verbose : Bool) : Nat :=
  if verbose then 10 else 30

end Console

namespace Level

/-- The mark in front of a message. -/
def mark : Level → String
  | .info => "ℹ️ "
  | .ok => "✅ "
  | .warn => "⚠️ "
  | .fail => "❌ "

/-- The colour of a message on a terminal. -/
def codes : Level → String
  | .info => "36"
  | .ok => "32"
  | .warn => "33"
  | .fail => "31"

/-- Where messages of a level go. -/
def stream : Level → Stream
  | .info | .ok => .stdout
  | .warn | .fail => .stderr

end Level

namespace Console

/-- The lines of a message. Without a colour preference, colour follows the terminal. -/
def message (level : Level) (text : String) (emoji : Bool) (color : Option Bool)
    (terminal : Bool) : List Printed :=
  let marked := (if emoji then level.mark else "") ++ text
  (linesOf (glyphs 0 marked.toList)).map fun line =>
    ⟨level.stream,
      if terminal && color.getD terminal then paint level.codes (line.map Glyph.char)
      else glyphText line⟩

/-! ## Trace lines -/

/-- A piece of a trace line. -/
inductive TracePiece where
  | plain (cs : List Char)
  | key (cs : List Char)
  | value (cs : List Char)

/-- Characters of a key in a `key=value` pair. -/
def isKeyChar (c : Char) : Bool :=
  Text.isWord c || c == '-'

/-- The value after a `key=`: a quoted text, else everything up to a blank. -/
def valueAt (cs : List Char) : List Char :=
  let quotedEnd? : Option Nat :=
    match cs with
    | '"' :: rest =>
      let inner := rest.takeWhile fun c => c != '"' && c != '\n'
      if (rest.drop inner.length).head? == some '"' then some (inner.length + 2) else none
    | _ => none
  match quotedEnd? with
  | some n => cs.take n
  | none => cs.takeWhile fun c => !Text.isBlank c

/-- The pair that starts here, if one does. -/
def pairAt (cs : List Char) : Option (List Char × List Char) :=
  let key := cs.takeWhile isKeyChar
  match cs.drop key.length with
  | '=' :: rest =>
    let value := valueAt rest
    if key.isEmpty || value.isEmpty then none else some (key, value)
  | _ => none

/-- Cut a text into pairs and what lies between them; `skip` characters belong to the pair before,
and `text` holds the plain characters since then, latest first. -/
def tracePiecesFrom : Nat → List Char → List Char → List TracePiece
  | _, text, [] => if text.isEmpty then [] else [.plain text.reverse]
  | skip + 1, text, _ :: rest => tracePiecesFrom skip text rest
  | 0, text, c :: rest =>
    match pairAt (c :: rest) with
    | none => tracePiecesFrom 0 (c :: text) rest
    | some (key, value) =>
      let before := if text.isEmpty then [] else [TracePiece.plain text.reverse]
      before ++ .key key :: .plain ['='] :: .value value ::
        tracePiecesFrom (key.length + value.length) [] rest

/-- The styles of a trace line. -/
structure TraceStyle where
  label : String
  plain : String
  key : String
  value : String

/-- The styles with and without colour. -/
def traceStyle (color : Bool) : TraceStyle :=
  if color then ⟨"1;36", "1;2;36", "1;35", "1;32"⟩ else ⟨"1", "1;2", "1", "1"⟩

/-- The codes and the characters of a piece. -/
def TracePiece.styled (style : TraceStyle) : TracePiece → String × List Char
  | .plain cs => (style.plain, cs)
  | .key cs => (style.key, cs)
  | .value cs => (style.value, cs)

/-- The glyphs of pieces numbered from `first`. -/
def numberPieces : Nat → List (String × List Char) → List Glyph
  | _, [] => []
  | first, (_, cs) :: rest => glyphs first cs ++ numberPieces (first + 1) rest

/-- A line with each piece in its style. -/
def paintLine (pieces : List (String × List Char)) (line : List Glyph) : String :=
  String.join ((line.splitBy fun a b => a.piece == b.piece).map fun run =>
    match run with
    | [] => ""
    | g :: _ => paint ((pieces[g.piece]?.map Prod.fst).getD "") (run.map Glyph.char))

/-- The lines of a trace message. -/
def trace (text : String) (color terminal : Bool) : List Printed :=
  let style := traceStyle color
  let pieces := (style.label, "[debug] ".toList) ::
    (tracePiecesFrom 0 [] text.toList).map (TracePiece.styled style)
  ((linesOf (numberPieces 0 pieces)).flatMap (wrap true consoleWidth)).map fun line =>
    ⟨.stderr, if terminal then paintLine pieces line else glyphText line⟩

end Console

end RuleAudit
