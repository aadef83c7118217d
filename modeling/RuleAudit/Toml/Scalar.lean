import RuleAudit.Value.JsonReader

/-!
# Scalars of a TOML document

Strings in their four forms, numbers, dates and times. Each reader takes the characters from where
the scalar starts and gives the scalar with what follows it; `none` refuses the document.
-/

namespace RuleAudit.Toml

/-- A reader: what was read and the rest, or a refusal. -/
abbrev Reader (α : Type) := List Char → Option (α × List Char)

/-- Blanks within a line. -/
def isSpace (c : Char) : Bool :=
  c == ' ' || c == '\t'

/-- Blanks and line ends. -/
def isSpaceOrEnd (c : Char) : Bool :=
  isSpace c || c == '\n'

/-- The rest after blanks within a line. -/
def skipSpace (cs : List Char) : List Char :=
  cs.dropWhile isSpace

/-- Control characters, which no comment or string may hold; the tab is allowed. -/
def isControl (c : Char) : Bool :=
  (c.toNat < 32 && c != '\t') || c.toNat == 127

/-- Control characters other than tab and line end. -/
def isControlInLines (c : Char) : Bool :=
  isControl c && c != '\n'

/-- Whether characters begin with a text. -/
def startsWith (text : String) (cs : List Char) : Bool :=
  text.toList.isPrefixOf cs

/-! ## Strings -/

/-- A code point written with a fixed number of hexadecimal digits. -/
def codePoint (digits : Nat) : Reader Char := fun cs =>
  let hex := cs.take digits
  match hex.mapM Json.hexValue? with
  | none => none
  | some values =>
    let code := values.foldl (fun n v => n * 16 + v) 0
    if hex.length != digits || (0xD800 ≤ code && code ≤ 0xDFFF) || code > 0x10FFFF then none
    else some (Char.ofNat code, cs.drop digits)

/-- An escape after its backslash; a line-ending backslash stands for nothing. -/
def escape (multiline : Bool) : Reader (Option Char) := fun cs =>
  match cs with
  | [] => none
  | c :: rest =>
    if multiline && c == '\n' then some (none, rest.dropWhile isSpaceOrEnd)
    else if multiline && isSpace c then
      match skipSpace rest with
      | [] => some (none, [])
      | '\n' :: more => some (none, more.dropWhile isSpaceOrEnd)
      | _ => none
    else match c with
      | 'b' => some (some (Char.ofNat 8), rest)
      | 't' => some (some '\t', rest)
      | 'n' => some (some '\n', rest)
      | 'f' => some (some (Char.ofNat 12), rest)
      | 'r' => some (some '\r', rest)
      | '"' => some (some '"', rest)
      | '\\' => some (some '\\', rest)
      | 'u' => (codePoint 4 rest).map fun (c, r) => (some c, r)
      | 'U' => (codePoint 8 rest).map fun (c, r) => (some c, r)
      | _ => none

/-- The body of a quoted string with escapes, up to and with its closing quotes; what was read is
held last first. -/
def basicBody (multiline : Bool) : Nat → List Char → Reader (List Char)
  | 0, _, _ => none
  | _ + 1, _, [] => none
  | fuel + 1, read, c :: rest =>
    if c == '"' then
      if !multiline then some (read, rest)
      else if startsWith "\"\"" rest then some (read, rest.drop 2)
      else basicBody multiline fuel (c :: read) rest
    else if c == '\\' then
      match escape multiline rest with
      | none => none
      | some (some e, more) => basicBody multiline fuel (e :: read) more
      | some (none, more) => basicBody multiline fuel read more
    else if (if multiline then isControlInLines c else isControl c) then none
    else basicBody multiline fuel (c :: read) rest

/-- A one-line string with escapes, after its opening quote. -/
def basicString : Reader String := fun cs =>
  (basicBody false (cs.length + 1) [] cs).map fun (read, rest) =>
    (String.ofList read.reverse, rest)

/-- A one-line string without escapes, after its opening quote. -/
def literalString : Reader String := fun cs =>
  let body := cs.takeWhile (· != '\'')
  match cs.drop body.length with
  | [] => none
  | _ :: rest => if body.any isControl then none else some (String.ofList body, rest)

/-- Up to two quotes more, right after the three that close a string over several lines. -/
def extraQuotes (quote : Char) (cs : List Char) : List Char × List Char :=
  match cs with
  | a :: b :: rest =>
    if a == quote && b == quote then ([quote, quote], rest)
    else if a == quote then ([quote], b :: rest) else ([], cs)
  | [a] => if a == quote then ([quote], []) else ([], cs)
  | [] => ([], [])

/-- The body of a string over several lines without escapes, up to its closing quotes. -/
def literalBody : List Char → List Char → Option (List Char × List Char)
  | _, [] => none
  | read, c :: rest =>
    if c == '\'' && startsWith "''" rest then some (read, rest.drop 2)
    else if isControlInLines c then none
    else literalBody (c :: read) rest

/-- A string over several lines, after its three opening quotes; a line end right after them does
not count. -/
def multilineString (literal : Bool) : Reader String := fun cs =>
  let cs := match cs with
    | '\n' :: rest => rest
    | _ => cs
  let quote := if literal then '\'' else '"'
  let body := if literal then literalBody [] cs else basicBody true (cs.length + 1) [] cs
  body.map fun (read, rest) =>
    let (extra, rest) := extraQuotes quote rest
    (String.ofList (read.reverse ++ extra), rest)

/-! ## Numbers -/

/-- Digits with single underscores between them, without the underscores, and what follows. -/
def digitRun (isDigit : Char → Bool) : List Char → List Char × List Char
  | [] => ([], [])
  | [c] => if isDigit c then ([c], []) else ([], [c])
  | c :: d :: rest =>
    if isDigit c then
      let (more, tail) := if d == '_' && rest.head?.any isDigit then digitRun isDigit rest
        else digitRun isDigit (d :: rest)
      (c :: more, tail)
    else ([], c :: d :: rest)

/-- An integer with a base mark. -/
def basedInteger : Reader Value := fun cs =>
  let run (base : Nat) (isDigit : Char → Bool) (rest : List Char) : Option (Value × List Char) :=
    match digitRun isDigit rest with
    | ([], _) => none
    | (digits, tail) =>
      let value := digits.foldl (fun n c => n * base + (Json.hexValue? c).getD 0) 0
      some (.int value, tail)
  match cs with
  | '0' :: 'x' :: rest => run 16 (fun c => (Json.hexValue? c).isSome) rest
  | '0' :: 'b' :: rest => run 2 (fun c => c == '0' || c == '1') rest
  | '0' :: 'o' :: rest => run 8 (fun c => '0' ≤ c && c ≤ '7') rest
  | _ => none

/-- The whole part of a decimal number: zero alone, or digits that do not start with zero. -/
def wholePart (cs : List Char) : Option (List Char × List Char) :=
  match cs with
  | '0' :: rest => some (['0'], rest)
  | c :: _ => if c.isDigit then some (digitRun Char.isDigit cs) else none
  | [] => none

/-- A fraction, if there is one. -/
def fractionPart (cs : List Char) : List Char × List Char :=
  match cs with
  | '.' :: rest =>
    match digitRun Char.isDigit rest with
    | ([], _) => ([], cs)
    | found => found
  | _ => ([], cs)

/-- An exponent, if there is one. -/
def exponentPart (cs : List Char) : Option Int × List Char :=
  match cs with
  | e :: rest =>
    if e == 'e' || e == 'E' then
      let (negative, body) := match rest with
        | '-' :: r => (true, r)
        | '+' :: r => (false, r)
        | r => (false, r)
      match digitRun Char.isDigit body with
      | ([], _) => (none, cs)
      | (digits, tail) =>
        let n := Int.ofNat (Json.digitsValue digits)
        (some (if negative then -n else n), tail)
    else (none, cs)
  | [] => (none, [])

/-- A decimal integer or float. -/
def decimalNumber : Reader Value := fun cs =>
  let (negative, body) := match cs with
    | '-' :: r => (true, r)
    | '+' :: r => (false, r)
    | r => (false, r)
  (wholePart body).map fun (whole, rest) =>
    let (fraction, rest) := fractionPart rest
    let (exponent, rest) := exponentPart rest
    if fraction.isEmpty && exponent.isNone then
      let n := Int.ofNat (Json.digitsValue whole)
      (.int (if negative then -n else n), rest)
    else
      let digits := Json.digitsValue (whole ++ fraction)
      (.float (Binary64.ofDecimal negative digits
        (exponent.getD 0 - Int.ofNat fraction.length)), rest)

/-- The infinities and the undefined number. -/
def specialNumber : Reader Value := fun cs =>
  let (sign, body) := match cs with
    | '-' :: r => (true, r)
    | '+' :: r => (false, r)
    | r => (false, r)
  if startsWith "inf" body then some (.float (.infinite sign), body.drop 3)
  else if startsWith "nan" body then some (.float .nan, body.drop 3)
  else none

/-! ## Dates and times -/

/-- A number of exactly `count` digits within bounds. -/
def field (count low high : Nat) : Reader Nat := fun cs =>
  let digits := cs.take count
  let n := Json.digitsValue digits
  if digits.length == count && digits.all Char.isDigit && low ≤ n && n ≤ high then
    some (n, cs.drop count)
  else none

/-- A character, dropped. -/
def mark (c : Char) : Reader Unit := fun cs =>
  match cs with
  | d :: rest => if d == c then some ((), rest) else none
  | [] => none

/-- A day, without a look at the calendar. -/
def day : Reader Day := fun cs => do
  let (year, cs) ← field 4 0 9999 cs
  let ((), cs) ← mark '-' cs
  let (month, cs) ← field 2 1 12 cs
  let ((), cs) ← mark '-' cs
  let (day, cs) ← field 2 1 31 cs
  return (⟨year, month, day⟩, cs)

/-- The decimals of a second; digits after the sixth are dropped. -/
def decimals (cs : List Char) : Nat × List Char :=
  match cs with
  | '.' :: rest =>
    let digits := rest.takeWhile Char.isDigit
    if digits.isEmpty then (0, cs)
    else
      let six := digits.take 6
      (Json.digitsValue (six ++ List.replicate (6 - six.length) '0'), rest.drop digits.length)
  | _ => (0, cs)

/-- A time of day. -/
def clock : Reader Clock := fun cs => do
  let (hour, cs) ← field 2 0 23 cs
  let ((), cs) ← mark ':' cs
  let (minute, cs) ← field 2 0 59 cs
  let ((), cs) ← mark ':' cs
  let (second, cs) ← field 2 0 59 cs
  let (micro, cs) := decimals cs
  return (⟨hour, minute, second, micro⟩, cs)

/-- An offset from universal time in minutes, if there is one. -/
def offset (cs : List Char) : Option Int × List Char :=
  match cs with
  | c :: rest =>
    if c == 'Z' || c == 'z' then (some 0, rest)
    else if c == '+' || c == '-' then
      let read : Option (Int × List Char) := do
        let (hours, cs) ← field 2 0 23 rest
        let ((), cs) ← mark ':' cs
        let (minutes, cs) ← field 2 0 59 cs
        let total := Int.ofNat (hours * 60 + minutes)
        return (if c == '-' then -total else total, cs)
      match read with
      | some (n, tail) => (some n, tail)
      | none => (none, cs)
    else (none, cs)
  | [] => (none, [])

/-- A date, perhaps with a time. The outer option tells whether a date starts here at all; the inner
one whether the calendar has it. -/
def dateTime (cs : List Char) : Option (Option (Value × List Char)) :=
  match day cs with
  | none => none
  | some (d, rest) =>
    let timed : Option (Value × List Char) :=
      match rest with
      | sep :: more =>
        if sep == 'T' || sep == 't' || sep == ' ' then
          (clock more).map fun (c, tail) =>
            let (zone, tail) := offset tail
            (.moment (.instant d c zone), tail)
        else none
      | [] => none
    let (value, tail) := timed.getD (.moment (.date d), rest)
    some (if Moment.validDay d then some (value, tail) else none)

end RuleAudit.Toml
