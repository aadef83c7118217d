import RuleAudit.Value

/-!
# Writing JSON

`write` gives one line; `pretty` puts every member and item on a line of its own, two blanks deeper
than its container.
-/

namespace RuleAudit.Json

/-- One character of a string. -/
def escapeChar (c : Char) : List Char :=
  if c == '"' then ['\\', '"']
  else if c == '\\' then ['\\', '\\']
  else if c == '\n' then ['\\', 'n']
  else if c == '\r' then ['\\', 'r']
  else if c == '\t' then ['\\', 't']
  else if c.toNat == 8 then ['\\', 'b']
  else if c.toNat == 12 then ['\\', 'f']
  else
    let n := c.toNat
    if n < 0x20 || n == 0x7F || n == 0x85 || n == 0x2028 || n == 0x2029 then
      '\\' :: 'u' :: Text.hexDigits 4 n
    else [c]

/-- A string in quotes. -/
def string (s : String) : String :=
  String.ofList ('"' :: s.toList.flatMap escapeChar ++ ['"'])

/-- A double. -/
def number : Binary64 → String
  | .nan => "NaN"
  | .infinite negative => if negative then "-Infinity" else "Infinity"
  | x => x.text

/-- A value without members or items. -/
def scalar : Value → String
  | .null => "null"
  | .bool b => if b then "true" else "false"
  | .int n => toString n
  | .float x => number x
  | .text s => string s
  | .moment m => string m.interchange
  | .list _ => "[]"
  | .table _ => "\x7b\x7d"

mutual

/-- A value on one line, after `out`. -/
def writeTo (out : String) : Value → String
  | .list items => writeItems (out ++ "[") items ++ "]"
  | .table fields => writeFields (out ++ "\x7b") fields ++ "\x7d"
  | v => out ++ scalar v

/-- Items separated by commas, after `out`. -/
def writeItems (out : String) : List Value → String
  | [] => out
  | [v] => writeTo out v
  | v :: rest => writeItems (writeTo out v ++ ",") rest

/-- Members separated by commas, after `out`. -/
def writeFields (out : String) : List (String × Value) → String
  | [] => out
  | [(k, v)] => writeTo (out ++ string k ++ ":") v
  | (k, v) :: rest => writeFields (writeTo (out ++ string k ++ ":") v ++ ",") rest

end

/-- A value as one line of JSON. -/
def write (v : Value) : String :=
  writeTo "" v

/-- A new line at a depth. -/
def newline (depth : Nat) : String :=
  "\n" ++ String.ofList (List.replicate (2 * depth) ' ')

mutual

/-- A value over several lines, after `out`, inside `depth` containers. -/
def prettyTo (depth : Nat) (out : String) : Value → String
  | .list (v :: rest) => prettyItems (depth + 1) (out ++ "[") (v :: rest) ++ newline depth ++ "]"
  | .table (m :: rest) =>
    prettyFields (depth + 1) (out ++ "\x7b") (m :: rest) ++ newline depth ++ "\x7d"
  | v => out ++ scalar v

/-- Items on lines of their own. -/
def prettyItems (depth : Nat) (out : String) : List Value → String
  | [] => out
  | [v] => prettyTo depth (out ++ newline depth) v
  | v :: rest => prettyItems depth (prettyTo depth (out ++ newline depth) v ++ ",") rest

/-- Members on lines of their own. -/
def prettyFields (depth : Nat) (out : String) : List (String × Value) → String
  | [] => out
  | [(k, v)] => prettyTo depth (out ++ newline depth ++ string k ++ ": ") v
  | (k, v) :: rest =>
    prettyFields depth (prettyTo depth (out ++ newline depth ++ string k ++ ": ") v ++ ",") rest

end

/-- A value as indented JSON. -/
def pretty (v : Value) : String :=
  prettyTo 0 "" v

end RuleAudit.Json
