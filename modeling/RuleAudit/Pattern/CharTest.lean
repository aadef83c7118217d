import RuleAudit.Text.Blank
import RuleAudit.Text.Casing
import RuleAudit.Text.Classes

/-!
# Tests on one character

A test is a list of code points, ranges and classes, perhaps negated. When letters are compared
without regard to case, a test that names a letter with another case looks at the lower-case form
of the character, and its own letters are lowered with the few extra letters that share their
upper case.
-/

namespace RuleAudit.Pattern

/-- How letters are compared. -/
inductive Folding where
  /-- As they are. -/
  | exact
  /-- Letters `A` to `Z` like `a` to `z`. -/
  | ascii
  /-- Every letter like its lower-case form. -/
  | full
  deriving Repr, DecidableEq

/-- Classes of characters. -/
inductive CharClass where
  | digit
  | space
  | word
  deriving Repr, DecidableEq

/-- Lower-case letters that differ although their upper case is the same. -/
def caseSiblings : List (List Nat) :=
  [[0x0069, 0x0131], [0x0073, 0x017F], [0x00B5, 0x03BC], [0x0345, 0x03B9, 0x1FBE],
   [0x0390, 0x1FD3], [0x03B0, 0x1FE3], [0x03B2, 0x03D0], [0x03B5, 0x03F5], [0x03B8, 0x03D1],
   [0x03BA, 0x03F0], [0x03C0, 0x03D6], [0x03C1, 0x03F1], [0x03C2, 0x03C3], [0x03C6, 0x03D5],
   [0x0432, 0x1C80], [0x0434, 0x1C81], [0x043E, 0x1C82], [0x0441, 0x1C83],
   [0x0442, 0x1C84, 0x1C85], [0x044A, 0x1C86], [0x0463, 0x1C87], [0x1C88, 0xA64B],
   [0x1E61, 0x1E9B], [0xFB05, 0xFB06]]

/-- A lower-case letter together with its siblings. -/
def withSiblings (code : Nat) : List Nat :=
  match caseSiblings.find? (·.contains code) with
  | some family => code :: family.filter (· != code)
  | none => [code]

/-- Lower case of the letters `A` to `Z` only. -/
def asciiLower (code : Nat) : Nat :=
  if 65 ≤ code && code ≤ 90 then code + 32 else code

/-- The form of a code point that is compared. -/
def Folding.apply : Folding → Nat → Nat
  | .exact, code => code
  | .ascii, code => asciiLower code
  | .full, code => Text.lowerCode code

/-- One item of a test. -/
inductive SetItem where
  | code (n : Nat)
  | range (first last : Nat)
  /-- The lower-case forms of a range. -/
  | lowered (folding : Folding) (first last : Nat)
  | class (kind : CharClass) (negated ascii : Bool)
  deriving Repr, DecidableEq

/-- Whether a character belongs to a class, for ASCII characters only or for all. -/
def CharClass.holds (kind : CharClass) (ascii : Bool) (code : Nat) : Bool :=
  let c := Char.ofNat code
  match kind, ascii with
  | .digit, false => Text.isDigit c
  | .digit, true => c.isDigit
  | .space, false => Text.isBlank c
  | .space, true => (9 ≤ code && code ≤ 13) || code == 32
  | .word, false => Text.isWord c
  | .word, true => c.isAlphanum || c == '_'

/-- Whether some code point of a range has `code` as its lower-case form. -/
def inLowerImage (first last code : Nat) : Bool :=
  (first ≤ code && code ≤ last && Text.lowerCode code == code) ||
    (Text.preimages Text.lowerRuns code).any fun source => first ≤ source && source ≤ last

/-- Whether an item holds a code point. -/
def SetItem.holds (item : SetItem) (code : Nat) : Bool :=
  match item with
  | .code n => code == n
  | .range first last => first ≤ code && code ≤ last
  | .lowered .full first last =>
    (withSiblings code).any (inLowerImage first (min last 0xFFFF)) ||
      (0xFFFF < last && ((first ≤ code && code ≤ last) ||
        (first ≤ Text.moveCode Text.upperRuns code && Text.moveCode Text.upperRuns code ≤ last)))
  | .lowered _ first last =>
    (first ≤ code && code ≤ last && asciiLower code == code) ||
      (97 ≤ code && code ≤ 122 && first ≤ code - 32 && code - 32 ≤ last)
  | .class kind negated ascii => kind.holds ascii code != negated

/-- A test on one character. -/
structure CharTest where
  negated : Bool := false
  folding : Folding := .exact
  items : List SetItem
  deriving Repr, DecidableEq

/-- Whether a character passes. -/
def CharTest.passes (t : CharTest) (c : Char) : Bool :=
  let code := t.folding.apply c.toNat
  (t.items.any fun item => item.holds code) != t.negated

/-! ## Building tests -/

/-- An item as it is written. -/
inductive WrittenItem where
  | code (n : Nat)
  | range (first last : Nat)
  | class (kind : CharClass) (negated : Bool)
  deriving Repr, DecidableEq

/-- Whether a code point has another case. -/
def Folding.isCased : Folding → Nat → Bool
  | .exact, _ => false
  | .ascii, n => (65 ≤ n && n ≤ 90) || (97 ≤ n && n ≤ 122)
  | .full, n => Text.isCasedCode n

/-- Whether a written item names something with another case; beyond the first plane it always
counts as such. -/
def WrittenItem.isCased (folding : Folding) : WrittenItem → Bool
  | .code n => folding.isCased n || (folding == .full && Text.lowerCode n > 0xFFFF)
  | .range first last =>
    match folding with
    | .exact => false
    | .ascii => (first ≤ 90 && 65 ≤ last) || (first ≤ 122 && 97 ≤ last)
    | .full => last > 0xFFFF || Text.rangeHasCase first last
  | .class .. => false

/-- A written item among lowered ones. A letter beyond the first plane is kept as written. -/
def WrittenItem.lower (folding : Folding) (asciiClasses : Bool) : WrittenItem → List SetItem
  | .code n =>
    match folding with
    | .full =>
      let low := Text.lowerCode n
      if low > 0xFFFF then [.code n] else (withSiblings low).map .code
    | _ => [.code (asciiLower n)]
  | .range first last => [.lowered folding first last]
  | .class kind negated => [.class kind negated asciiClasses]

/-- A written item taken as it is. -/
def WrittenItem.keep (asciiClasses : Bool) : WrittenItem → SetItem
  | .code n => .code n
  | .range first last => .range first last
  | .class kind negated => .class kind negated asciiClasses

/-- The test of a bracketed set. -/
def CharTest.ofSet (folding : Folding) (asciiClasses negated : Bool) (items : List WrittenItem) :
    CharTest :=
  if items.any (·.isCased folding) then
    ⟨negated, folding, items.flatMap (·.lower folding asciiClasses)⟩
  else ⟨negated, .exact, items.map (·.keep asciiClasses)⟩

/-- The test of a single character. -/
def CharTest.ofCode (folding : Folding) (negated : Bool) (n : Nat) : CharTest :=
  if folding.isCased n then
    match folding with
    | .full => ⟨negated, .full, (withSiblings (Text.lowerCode n)).map .code⟩
    | _ => ⟨negated, .ascii, [.code (asciiLower n)]⟩
  else ⟨negated, .exact, [.code n]⟩

end RuleAudit.Pattern
