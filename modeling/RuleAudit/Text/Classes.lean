import RuleAudit.Text.ClassTable
import RuleAudit.Text.WidthTable

/-!
# Character classes

Word characters, decimal digits, printable characters and the columns a character takes.
-/

namespace RuleAudit.Text

/-- A letter, a number or the underscore. -/
def isWord (c : Char) : Bool :=
  inRanges wordRanges c.toNat

/-- A decimal digit of any script. -/
def isDigit (c : Char) : Bool :=
  inRanges digitRanges c.toNat

/-- A character that a quoted text shows as it is. -/
def isPrintable (c : Char) : Bool :=
  inRanges printableRanges c.toNat

/-- A name: a letter or underscore, then word characters. -/
def isName (cs : List Char) : Bool :=
  match cs with
  | [] => false
  | c :: rest => isWord c && !isDigit c && rest.all isWord

/-- Terminal columns of one character. -/
def charColumns (c : Char) : Nat :=
  if inRanges zeroWidthRanges c.toNat then 0
  else if inRanges wideRanges c.toNat then 2
  else 1

/-- Terminal columns of a text. -/
def columns (s : String) : Nat :=
  s.toList.foldl (fun n c => n + charColumns c) 0

end RuleAudit.Text
