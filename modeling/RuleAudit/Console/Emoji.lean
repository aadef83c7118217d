import RuleAudit.Console.EmojiTable
import RuleAudit.Text.Blank
import RuleAudit.Text.Casing
import RuleAudit.Text.Lines

/-!
# Emoji in texts

A name between colons, with no blank inside, is printed as its emoji; `-emoji` or `-text` after the
name asks for one of its two forms. A name that is not known is printed as it is.
-/

namespace RuleAudit.Console

/-- The value of hexadecimal digits. -/
def hexValue (cs : List Char) : Nat :=
  cs.foldl (fun n c =>
    n * 16 + if c.isDigit then c.toNat - '0'.toNat else c.toNat - 'a'.toNat + 10) 0

/-- The emoji of an entry `name=code.code` when it has the name. -/
def emojiFrom? (name entry : List Char) : Option (List Char) :=
  match Text.splitOnChar '=' entry with
  | [n, codes] =>
    if n == name then
      some ((Text.splitOnChar '.' codes).map fun code => Char.ofNat (hexValue code))
    else none
  | _ => none

/-- The emoji of a name in any case. -/
def emojiOf? (name : String) : Option (List Char) :=
  let name := (Text.lower name).toList
  emojiRows.findSome? fun row =>
    (Text.splitOnChar ' ' row.toList).findSome? (emojiFrom? name)

/-- A name without the form asked for, and the mark of that form. -/
def splitForm (cs : List Char) : List Char × List Char :=
  let ending (s : String) : Bool := s.toList.isSuffixOf cs
  if ending "-emoji" then (cs.take (cs.length - 6), [Char.ofNat 0xFE0F])
  else if ending "-text" then (cs.take (cs.length - 5), [Char.ofNat 0xFE0E])
  else (cs, [])

/-- The emoji between colons that a text starts with, and the length of what stands for it. -/
def emojiAt (cs : List Char) : Option (List Char × Nat) :=
  match cs with
  | ':' :: rest =>
    let inner := rest.takeWhile fun c => c != ':' && !Text.isBlank c
    match rest.drop inner.length with
    | ':' :: _ =>
      let (name, form) := splitForm inner
      match emojiOf? (String.ofList name) with
      | some emoji => some (emoji ++ form, inner.length + 2)
      | none => some (':' :: inner ++ [':'], inner.length + 2)
    | _ => none
  | _ => none

/-- Replace emoji names, after passing over `skip` characters. -/
def replaceEmojiFrom : Nat → List Char → List Char
  | _, [] => []
  | skip + 1, _ :: rest => replaceEmojiFrom skip rest
  | 0, c :: rest =>
    match emojiAt (c :: rest) with
    | some (shown, length) => shown ++ replaceEmojiFrom (length - 1) rest
    | none => c :: replaceEmojiFrom 0 rest

/-- A text with emoji names replaced. -/
def replaceEmoji (cs : List Char) : List Char :=
  if cs.contains ':' then replaceEmojiFrom 0 cs else cs

end RuleAudit.Console
