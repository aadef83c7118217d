import RuleAudit.Console.Emoji
import RuleAudit.Console.StyleName
import RuleAudit.Console
import RuleAudit.Text.Replace

/-!
# Console markup

In a text with markup, `[name]` opens a style and `[/name]` or `[/]` closes one. A backslash in
front keeps a bracket. What is printed is the text without its tags; a closing tag with nothing to
close is a fault.
-/

namespace RuleAudit.Console

/-- A part of a text with markup. A tag has its position and what stands between its brackets. -/
inductive MarkupPart where
  | text (cs : List Char)
  | tag (position : Nat) (inner : List Char)

/-- Characters a tag may start with. -/
def opensTag (c : Char) : Bool :=
  ('a' ≤ c && c ≤ 'z') || c == '#' || c == '/' || c == '@'

/-- What stands between the brackets of the tag that a text starts with. -/
def tagAt (cs : List Char) : Option (List Char) :=
  match cs with
  | '[' :: c :: rest =>
    if opensTag c then
      let inner := rest.takeWhile fun d => d != '[' && d != ']'
      if (rest.drop inner.length).head? == some ']' then some (c :: inner) else none
    else none
  | _ => none

/-- The parts for a tag after backslashes: half of them are kept, and an odd one keeps the tag from
being one. -/
def tagParts (position slashes : Nat) (inner : List Char) : List MarkupPart :=
  let kept := slashes / 2
  let front := if kept == 0 then [] else [MarkupPart.text (List.replicate kept '\\')]
  if slashes % 2 == 1 then front ++ [.text ('[' :: inner ++ [']'])]
  else front ++ [.tag (position + 2 * kept) inner]

/-- Cut a text into parts; `skip` characters belong to the tag before, and `text` holds the plain
characters since then, latest first. -/
def markupPartsFrom : Nat → Nat → List Char → List Char → List MarkupPart
  | _, _, text, [] => if text.isEmpty then [] else [.text text.reverse]
  | position, skip + 1, text, _ :: rest => markupPartsFrom (position + 1) skip text rest
  | position, 0, text, c :: rest =>
    let slashes := ((c :: rest).takeWhile (· == '\\')).length
    match tagAt ((c :: rest).drop slashes) with
    | none => markupPartsFrom (position + 1) 0 (c :: text) rest
    | some inner =>
      let before := if text.isEmpty then [] else [MarkupPart.text text.reverse]
      before ++ tagParts position slashes inner ++
        markupPartsFrom (position + 1) (slashes + inner.length + 1) [] rest

/-- The name of a tag, and what follows the equals sign in it. -/
def splitTag (inner : List Char) : String × Option String :=
  let name := inner.takeWhile (· != '=')
  match inner.drop name.length with
  | [] => (String.ofList name, none)
  | _ :: parameters => (String.ofList name, some (String.ofList parameters))

/-- The open styles after closing one by name. -/
def closeStyle (name : String) : List String → Option (List String)
  | [] => none
  | top :: rest => if top == name then some rest else (closeStyle name rest).map (top :: ·)

/-- The printed characters of parts, with the open styles, latest first. -/
def renderParts : List String → List MarkupPart → Except Fault (List Char)
  | _, [] => .ok []
  | opened, .text cs :: rest => do
    let shown := replaceEmoji (Text.replaceChars ['\\', '['] ['['] cs)
    return shown ++ (← renderParts opened rest)
  | opened, .tag position inner :: rest =>
    let (name, parameters) := splitTag inner
    match name.toList with
    | '/' :: closing =>
      let style := Text.trim (String.ofList closing)
      if style.isEmpty then
        match opened with
        | [] =>
          .error (.markup s!"closing tag '[/]' at position {position} has nothing to close")
        | _ :: opened => renderParts opened rest
      else
        match closeStyle (normalStyle style) opened with
        | some opened => renderParts opened rest
        | none =>
          let tag := "[" ++ name ++ (parameters.map ("=" ++ ·)).getD "" ++ "]"
          .error (.markup
            (s!"closing tag '{tag}' at position {position} " ++ "doesn't match any open tag"))
    | _ => renderParts (normalStyle name :: opened) rest

/-- The printed characters of a text with markup. -/
def renderMarkup (s : String) : Except Fault (List Char) :=
  let cs := s.toList
  if cs.contains '[' then renderParts [] (markupPartsFrom 0 0 [] cs) else .ok (replaceEmoji cs)

end RuleAudit.Console
