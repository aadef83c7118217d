import RuleAudit.Value

/-!
# Tokens of a JSON text

A text is cut into punctuation, strings and bare words by one pass over its characters.
-/

namespace RuleAudit.Json

/-- Why a text is no JSON document. -/
inductive ReadError where
  /-- The text breaks the grammar. -/
  | malformed
  /-- An integer has more digits than a reader accepts. -/
  | tooManyDigits (digits : Nat)
  deriving Repr, DecidableEq

/-- A token: one punctuation mark, a string, or a bare word such as a number or `true`. -/
inductive Token where
  | mark (c : Char)
  | string (s : String)
  | word (cs : List Char)
  deriving Repr, DecidableEq

/-- Where the tokenizer stands. Texts under way are held last character first. -/
inductive Mode where
  | between
  | inWord (chars : List Char)
  | inString (chars : List Char)
  | inEscape (chars : List Char)
  | inCode (chars : List Char) (owed value : Nat)

/-- The tokenizer between characters: the tokens, last first, and the mode; a surrogate that waits
for its second half is kept beside the string. -/
structure Scan where
  tokens : List Token := []
  mode : Mode := .between
  half : Option Nat := none

/-- The value of a hexadecimal digit. -/
def hexValue? (c : Char) : Option Nat :=
  let n := c.toNat
  if '0'.toNat ≤ n && n ≤ '9'.toNat then some (n - '0'.toNat)
  else if 'a'.toNat ≤ n && n ≤ 'f'.toNat then some (n - 'a'.toNat + 10)
  else if 'A'.toNat ≤ n && n ≤ 'F'.toNat then some (n - 'A'.toNat + 10)
  else none

/-- A character that belongs to a bare word. -/
def isWordPart (c : Char) : Bool :=
  c.isAlphanum || c == '-' || c == '+' || c == '.'

/-- A code unit written as an escape, added to the characters read so far. -/
def addCode (chars : List Char) (half : Option Nat) (code : Nat) : List Char × Option Nat :=
  let lone := Char.ofNat 0xFFFD
  if 0xD800 ≤ code && code < 0xDC00 then
    (if half.isSome then lone :: chars else chars, some code)
  else if 0xDC00 ≤ code && code < 0xE000 then
    match half with
    | some high => (Char.ofNat (0x10000 + (high - 0xD800) * 1024 + (code - 0xDC00)) :: chars, none)
    | none => (lone :: chars, none)
  else
    ((Char.ofNat code) :: (if half.isSome then lone :: chars else chars), none)

/-- The characters of a string after a waiting half is given up. -/
def settle (chars : List Char) (half : Option Nat) : List Char :=
  if half.isSome then Char.ofNat 0xFFFD :: chars else chars

/-- A character outside of words and strings. -/
def Scan.plain (tokens : List Token) (c : Char) : Option Scan :=
  if c == ' ' || c == '\t' || c == '\n' || c == '\r' then some ⟨tokens, .between, none⟩
  else if c == '"' then some ⟨tokens, .inString [], none⟩
  else if "[]\x7b\x7d,:".toList.contains c then some ⟨.mark c :: tokens, .between, none⟩
  else if isWordPart c then some ⟨tokens, .inWord [c], none⟩
  else none

/-- The character that a one-letter escape stands for. -/
def shortEscape? (c : Char) : Option Char :=
  match c with
  | '"' => some '"'
  | '\\' => some '\\'
  | '/' => some '/'
  | 'b' => some (Char.ofNat 8)
  | 'f' => some (Char.ofNat 12)
  | 'n' => some '\n'
  | 'r' => some '\r'
  | 't' => some '\t'
  | _ => none

/-- One character of the text. -/
def Scan.step (s : Scan) (c : Char) : Option Scan :=
  match s.mode with
  | .between => plain s.tokens c
  | .inWord chars =>
    if isWordPart c then some { s with mode := .inWord (c :: chars) }
    else plain (.word chars.reverse :: s.tokens) c
  | .inString chars =>
    if c == '"' then
      some ⟨.string (String.ofList (settle chars s.half).reverse) :: s.tokens, .between, none⟩
    else if c == '\\' then some { s with mode := .inEscape chars }
    else if c.toNat < 0x20 then none
    else some { s with mode := .inString (c :: settle chars s.half), half := none }
  | .inEscape chars =>
    if c == 'u' then some { s with mode := .inCode chars 4 0 }
    else (shortEscape? c).map fun e =>
      { s with mode := .inString (e :: settle chars s.half), half := none }
  | .inCode chars owed value =>
    (hexValue? c).map fun digit =>
      let value := value * 16 + digit
      if owed ≤ 1 then
        let (chars, half) := addCode chars s.half value
        { s with mode := .inString chars, half := half }
      else { s with mode := .inCode chars (owed - 1) value }

/-- The tokens at the end of the text. -/
def Scan.finish (s : Scan) : Option (List Token) :=
  match s.mode with
  | .between => some s.tokens.reverse
  | .inWord chars => some (.word chars.reverse :: s.tokens).reverse
  | _ => none

/-- The tokens of a text. -/
def tokens? (cs : List Char) : Option (List Token) :=
  (cs.foldl (fun s c => s.bind (·.step c)) (some {})).bind Scan.finish

end RuleAudit.Json
