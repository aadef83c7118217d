import RuleAudit.Value
import RuleAudit.Verdict
import RuleAudit.Text.Casing

/-!
# Checking values

Readers for the types that models are made of. They are lenient in fixed ways: an integer may come
as a whole double, a truth value or a decimal text, and a truth value as `0`, `1` or a word.
-/

namespace RuleAudit.Check

/-- The white space that may surround a number in a text. -/
def isPadding (c : Char) : Bool :=
  let n := c.toNat
  (9 ≤ n && n ≤ 13) || n == 32 || n == 0x85 || n == 0xA0 || n == 0x1680 ||
    (0x2000 ≤ n && n ≤ 0x200A) || n == 0x2028 || n == 0x2029 || n == 0x202F || n == 0x205F ||
    n == 0x3000

/-- Characters without the padding at both ends. -/
def unpad (cs : List Char) : List Char :=
  ((cs.dropWhile isPadding).reverse.dropWhile isPadding).reverse

/-- Digits with single underscores between them; the state is the number so far and whether the
last character was a digit. -/
def digitStep (s : Option (Nat × Bool)) (c : Char) : Option (Nat × Bool) :=
  match s with
  | none => none
  | some (n, digit) =>
    if c.isDigit then some (n * 10 + (c.toNat - '0'.toNat), true)
    else if c == '_' && digit then some (n, false)
    else none

/-- The number spelled by digits with single underscores between them. -/
def digits? (cs : List Char) : Option Nat :=
  match cs.foldl digitStep (some (0, false)) with
  | some (n, true) => some n
  | _ => none

/-- A sign in front, and the rest. -/
def splitSign : List Char → Bool × List Char
  | '-' :: rest => (true, rest)
  | '+' :: rest => (false, rest)
  | cs => (false, cs)

/-- The integer a text spells: a sign, digits, and perhaps a fraction of zeros. -/
def decimal? (cs : List Char) : Option Int :=
  let (negative, body) := splitSign (unpad cs)
  let whole := body.takeWhile (· != '.')
  let fractionOk := match body.dropWhile (· != '.') with
    | [] => true
    | _ :: zeros => !zeros.isEmpty && zeros.all (· == '0')
  if fractionOk then
    (digits? whole).map fun n => if negative then -Int.ofNat n else Int.ofNat n
  else none

/-- An integer. -/
def int : Value → Verdict Int
  | .int n => .valid n
  | .bool b => .valid (if b then 1 else 0)
  | .float x =>
    match x with
    | .finite .. =>
      match x.toInt? with
      | none => .issue .fractional
      | some n => if n.natAbs < Nat.pow 2 63 then .valid n else .issue .integerTooLarge
    | _ => .issue .notFinite
  | .text s =>
    if s.length > 4300 then .issue .integerTooLarge
    else match decimal? s.toList with
      | some n => .valid n
      | none => .issue .badInteger
  | _ => .issue .notInteger

/-- An integer of at least `least`. -/
def intFrom (least : Int) (v : Value) : Verdict Int :=
  (int v).andThen fun n => if n < least then .issue .belowMinimum else .valid n

/-- Words that stand for true. -/
def trueWords : List String := ["1", "true", "t", "yes", "y", "on"]

/-- Words that stand for false. -/
def falseWords : List String := ["0", "false", "f", "no", "n", "off"]

/-- A truth value. -/
def bool : Value → Verdict Bool
  | .bool b => .valid b
  | .int n => if n == 0 then .valid false else if n == 1 then .valid true else .issue .badBoolean
  | .float x =>
    if x.isZero then .valid false
    else if x.toInt? == some 1 then .valid true
    else .issue .notBoolean
  | .text s =>
    let word := String.ofList (s.toList.map Char.toLower)
    if trueWords.contains word then .valid true
    else if falseWords.contains word then .valid false
    else .issue .badBoolean
  | _ => .issue .notBoolean

/-- A text. -/
def text : Value → Verdict String
  | .text s => .valid s
  | _ => .issue .notString

/-- The special numbers a text may spell. -/
def isSpecialNumber (cs : List Char) : Bool :=
  let word := String.ofList (cs.map Char.toLower)
  ["inf", "infinity", "nan"].contains word

/-- Whether a text spells a number: digits with a point and an exponent, or a special number. -/
def spellsNumber (cs : List Char) : Bool :=
  let (_, body) := splitSign (unpad cs)
  if isSpecialNumber body then true
  else
    let mantissa := body.takeWhile fun c => c != 'e' && c != 'E'
    let exponent := body.dropWhile fun c => c != 'e' && c != 'E'
    let whole := mantissa.takeWhile (· != '.')
    let fraction := (mantissa.dropWhile (· != '.')).drop 1
    let wholeOk := whole.isEmpty || (digits? whole).isSome
    let fractionOk := fraction.isEmpty || (digits? fraction).isSome
    let exponentOk := match exponent with
      | [] => true
      | _ :: rest => (digits? (splitSign rest).2).isSome
    wholeOk && fractionOk && exponentOk && !(whole.isEmpty && fraction.isEmpty)

/-- A number; only whether there is one matters. -/
def number : Value → Verdict Unit
  | .int _ | .bool _ | .float _ => .valid ()
  | .text s => if spellsNumber s.toList then .valid () else .issue .badNumber
  | _ => .issue .notNumber

/-- Null, or something else. -/
def nullable {α : Type} (check : Value → Verdict α) : Value → Verdict (Option α)
  | .null => .valid none
  | v => some <$> check v

/-- A list. -/
def list {α : Type} (check : Value → Verdict α) : Value → Verdict (List α)
  | .list items => .items check items
  | _ => .issue .notList

/-- A sequence that may not change. -/
def sequence {α : Type} (check : Value → Verdict α) : Value → Verdict (List α)
  | .list items => .items check items
  | _ => .issue .notSequence

/-- A table of any values. -/
def mapping : Value → Verdict (Keyed Value)
  | .table fields => .valid fields
  | _ => .issue .notMapping

/-- The fields of a model. -/
def model {α : Type} (check : Keyed Value → Verdict α) : Value → Verdict α
  | .table fields => check fields
  | _ => .issue .notModel

/-- A member of a closed list of words. -/
def member {α : Type} (ofWord? : String → Option α) : Value → Verdict α
  | .text s => match ofWord? s with
    | some a => .valid a
    | none => .issue .notMember
  | _ => .issue .notMember

/-- A field that must be present. -/
def required {α : Type} (fields : Keyed Value) (name : String) (check : Value → Verdict α) :
    Verdict α :=
  match fields.get? name with
  | some v => (check v).under (.key name)
  | none => (Verdict.issue .missing).under (.key name)

/-- A field with a default. -/
def optional {α : Type} (fields : Keyed Value) (name : String) (initial : α)
    (check : Value → Verdict α) : Verdict α :=
  match fields.get? name with
  | some v => (check v).under (.key name)
  | none => .valid initial

end RuleAudit.Check
