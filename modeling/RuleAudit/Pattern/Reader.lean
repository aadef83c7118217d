import RuleAudit.Pattern.Source
import RuleAudit.Pattern.Match

/-!
# Reading patterns

Escapes, sets, quantifiers, groups and flags, read into a tree. Every refusal names the place where
reading stopped.
-/

namespace RuleAudit.Pattern

/-- What a repetition may not follow. -/
inductive Role where
  | plain
  | anchor
  | repetition
  deriving DecidableEq

/-- A node with what matters to a quantifier after it. -/
structure Item where
  node : Node
  role : Role := .plain

/-- Nodes one after another. -/
def sequence : List Node → Node
  | [] => .empty
  | [n] => n
  | n :: rest => .seq n (sequence rest)

/-- Alternatives, the first preferred. -/
def alternatives : List Node → Node
  | [] => .empty
  | [n] => n
  | n :: rest => .alt n (alternatives rest)

/-! ## Escapes -/

/-- A hexadecimal digit. -/
def isHex (c : Char) : Bool :=
  c.isDigit || ('a' ≤ c && c ≤ 'f') || ('A' ≤ c && c ≤ 'F')

/-- An octal digit. -/
def isOctal (c : Char) : Bool :=
  '0' ≤ c && c ≤ '7'

/-- The value of a digit in any base up to sixteen. -/
def digitValue (c : Char) : Nat :=
  if c.isDigit then c.toNat - '0'.toNat else c.toLower.toNat - 'a'.toNat + 10

/-- The value of digits in a base. -/
def valueIn (base : Nat) (cs : List Char) : Nat :=
  cs.foldl (fun n c => n * base + digitValue c) 0

/-- The control character that a letter escape stands for. -/
def controlEscape? : Char → Option Nat
  | 'a' => some 7
  | 'b' => some 8
  | 'f' => some 12
  | 'n' => some 10
  | 'r' => some 13
  | 't' => some 9
  | 'v' => some 11
  | '\\' => some 92
  | _ => none

/-- The class that a letter escape stands for. -/
def classEscape? : Char → Option (CharClass × Bool)
  | 'd' => some (.digit, false)
  | 'D' => some (.digit, true)
  | 's' => some (.space, false)
  | 'S' => some (.space, true)
  | 'w' => some (.word, false)
  | 'W' => some (.word, true)
  | _ => none

/-- An escape with exactly `count` hexadecimal digits. -/
def hexEscape (letter : Char) (count : Nat) : Read Nat := do
  let digits ← takeWhile isHex count
  let escape := '\\' :: letter :: digits
  if digits.length != count then
    refuse (.incompleteEscape (String.ofList escape)) escape.length
  else
    let code := valueIn 16 digits
    if code > 0x10FFFF then refuse (.badEscape (String.ofList escape)) escape.length
    else return code

/-- An escape by character name; no name is known. -/
def namedEscape : Read Nat := do
  if !(← takeIf '\x7b') then refuse .missingBrace
  else
    let name ← takeName '\x7d' "character name"
    refuse (.unknownCharacterName (String.ofList name)) (name.length + 4)

/-- The escapes that are read alike everywhere: hexadecimal, named, and characters standing for
themselves. -/
def commonEscape (letter : Char) : Read Nat := do
  if letter == 'x' then hexEscape 'x' 2
  else if letter == 'u' then hexEscape 'u' 4
  else if letter == 'U' then hexEscape 'U' 8
  else if letter == 'N' then namedEscape
  else if letter.isAlphanum then refuse (.badEscape (String.ofList ['\\', letter])) 2
  else return letter.toNat

/-- An octal escape that must not exceed one octet. -/
def octalEscape (digits : List Char) : Read Nat := do
  let code := valueIn 8 digits
  let escape := '\\' :: digits
  if code > 255 then refuse (.octalTooLarge (String.ofList escape)) escape.length
  else return code

/-- An escape inside a set. -/
def setEscape (letter : Char) : Read WrittenItem := do
  match controlEscape? letter, classEscape? letter with
  | some code, _ => return .code code
  | none, some (kind, negated) => return .class kind negated
  | none, none =>
    if isOctal letter then
      let more ← takeWhile isOctal 2
      return .code (← octalEscape (letter :: more))
    else return .code (← commonEscape letter)

/-- A reference to a group by number. -/
def groupReference (flags : Flags) (digits : List Char) : Read Item := do
  let number := valueIn 10 digits
  if number < (← groupCount) then
    match ← closedWidth? number with
    | none => refuse .openGroup (digits.length + 1)
    | some (shortest, longest) =>
      checkLookBehind number
      return ⟨.again number flags.folding shortest longest, .plain⟩
  else refuse (.noSuchGroup number) digits.length

/-- One literal character. -/
def literalItem (flags : Flags) (code : Nat) : Item :=
  ⟨.one (.ofCode flags.folding false code), .plain⟩

/-- An escape outside of sets. -/
def escapeItem (flags : Flags) (letter : Char) : Read Item := do
  match letter with
  | 'A' => return ⟨.anchor .textStart, .anchor⟩
  | 'Z' => return ⟨.anchor .textEnd, .anchor⟩
  | 'b' => return ⟨.anchor (.boundary false flags.ascii), .anchor⟩
  | 'B' => return ⟨.anchor (.boundary true flags.ascii), .anchor⟩
  | _ =>
    match classEscape? letter, controlEscape? letter with
    | some (kind, negated), _ =>
      return ⟨.one (.ofSet flags.folding flags.ascii false [.class kind negated]), .plain⟩
    | none, some code => return literalItem flags code
    | none, none =>
      if letter == '0' then
        let more ← takeWhile isOctal 2
        return literalItem flags (valueIn 8 (letter :: more))
      else if letter.isDigit then
        let second ← takeWhile Char.isDigit 1
        let third ← if second.length == 1 && isOctal letter && second.all isOctal then
            takeWhile isOctal 1
          else pure []
        let digits := letter :: second ++ third
        if third.isEmpty then groupReference flags digits
        else return literalItem flags (← octalEscape digits)
      else return literalItem flags (← commonEscape letter)

/-! ## Sets -/

/-- A token inside a set as an item. -/
def setItem (token : List Char) : Read WrittenItem :=
  match token with
  | ['\\', letter] => setEscape letter
  | c :: _ => return .code c.toNat
  | [] => return .code 0

/-- The items of a set that starts at `start`, after those read so far. -/
def setItems (start : Nat) : Nat → List WrittenItem → Read (List WrittenItem)
  | 0, items => return items
  | fuel + 1, items => do
    match ← take with
    | none => refuseAt .unterminatedSet start
    | some token =>
      if token == [']'] && !items.isEmpty then return items
      let first ← setItem token
      if ← takeIf '-' then
        match ← take with
        | none => refuseAt .unterminatedSet start
        | some token' =>
          if token' == [']'] then return items ++ [first, .code '-'.toNat]
          let last ← setItem token'
          let bad : Read (List WrittenItem) :=
            refuse (.badRange (String.ofList token) (String.ofList token'))
              (token.length + 1 + token'.length)
          match first, last with
          | .code low, .code high =>
            if high < low then bad
            else setItems start fuel (items ++ [.range low high])
          | _, _ => bad
      else setItems start fuel (items ++ [first])

/-- A set, after its opening bracket. -/
def setNode (flags : Flags) : Read Item := do
  let start := (← get).pos - 1
  let negated ← takeIf '^'
  let items ← setItems start ((← get).left.length + 1) []
  match items.eraseDups with
  | [.code code] => return ⟨.one (.ofCode flags.folding negated code), .plain⟩
  | items => return ⟨.one (.ofSet flags.folding flags.ascii negated items), .plain⟩

/-! ## Quantifiers -/

/-- The least count too large to be handled. -/
def countLimit : Nat := 4294967295

/-- The bounds in braces, after the opening one; `none` when the brace is a plain character. -/
def braceBounds : Read (Option (Nat × Option Nat)) := do
  let saved ← get
  if (← peek) == some ['\x7d'] then return none
  let fuel := saved.left.length
  let low ← takeWhile Char.isDigit fuel
  let high ← if ← takeIf ',' then takeWhile Char.isDigit fuel else pure low
  if !(← takeIf '\x7d') then
    set saved
    return none
  let least := valueIn 10 low
  if !low.isEmpty && least ≥ countLimit then throw .countTooLarge
  if high.isEmpty then return some (least, none)
  let most := valueIn 10 high
  if most ≥ countLimit then throw .countTooLarge
  if most < least then refuseAt .minAboveMax saved.pos
  return some (least, some most)

/-- How greedy a quantifier is, by the mark after it. -/
def takeGreed : Read Greed := do
  match ← peek with
  | some ['?'] => let _ ← take; return .lazy
  | some ['+'] => let _ ← take; return .possessive
  | _ => return .greedy

/-- The items with the last one repeated, at the place of the quantifier. -/
def repeatLast (place : Nat) (least : Nat) (most : Option Nat) (items : List Item) :
    Read (List Item) := do
  match items with
  | [] => refuseAt .nothingToRepeat place
  | item :: rest =>
    match item.role with
    | .anchor => refuseAt .nothingToRepeat place
    | .repetition => refuseAt .multipleRepeat place
    | .plain =>
      return ⟨.loop (← takeGreed) least most item.node, .repetition⟩ :: rest

/-! ## Flags -/

/-- A single-character token. -/
def singleOf : Option (List Char) → Option Char
  | some [c] => some c
  | _ => none

/-- Refuse a token that is no flag: a letter is an unknown flag, anything else is out of place. -/
def refuseFlag {α : Type} (token : List Char) (otherwise : Problem) : Read α :=
  let isLetter := match token with
    | [c] => Text.isWord c && !Text.isDigit c && c != '_'
    | _ => false
  refuse (if isLetter then .unknownFlag else otherwise) token.length

/-- The flags to turn on, from the letter at hand; gives them with the character that ends them. -/
def flagsOn : Nat → Flags → Char → Read (Flags × Char)
  | 0, on, c => return (on, c)
  | fuel + 1, on, c => do
    if c == 'L' then refuse .localeFlag
    let flag := (Flags.ofLetter? c).getD {}
    let on := on.union flag
    if (flag.ascii || flag.unicode) && on.ascii && on.unicode then refuse .incompatibleFlags
    match ← take with
    | none => refuse .missingFlagEnd
    | some token =>
      match token with
      | [d] =>
        if d == ')' || d == '-' || d == ':' then return (on, d)
        else if (Flags.ofLetter? d).isSome then flagsOn fuel on d
        else refuseFlag token .missingFlagEnd
      | _ => refuseFlag token .missingFlagEnd

/-- The flags to turn off, from the letter at hand, up to the colon. -/
def flagsOff : Nat → Flags → Char → Read Flags
  | 0, off, _ => return off
  | fuel + 1, off, c => do
    if c == 'L' || c == 'a' || c == 'u' then refuse .typeFlagOff
    let off := off.union ((Flags.ofLetter? c).getD {})
    match ← take with
    | none => refuse .missingColon
    | some token =>
      match token with
      | [d] =>
        if d == ':' then return off
        else if (Flags.ofLetter? d).isSome then flagsOff fuel off d
        else refuseFlag token .missingColon
      | _ => refuseFlag token .missingColon

/-- The flags to turn off, after the dash. -/
def flagsAfterDash (fuel : Nat) : Read Flags := do
  match ← take with
  | none => refuse .missingFlag
  | some [d] =>
    if (Flags.ofLetter? d).isSome then flagsOff fuel {} d else refuseFlag [d] .missingFlag
  | some token => refuseFlag token .missingFlag

/-- The flags of a group from their first character; `none` when they are for the whole pattern and
have been set. -/
def groupFlags (c : Char) : Read (Option (Flags × Flags)) := do
  let fuel := (← get).left.length + 1
  let (on, stop) ← if c == '-' then pure ({}, '-') else flagsOn fuel {} c
  if stop == ')' then
    modify fun s => { s with flags := s.flags.union on }
    return none
  if on.template then refuse .globalFlagOn 1
  let off ← if stop == '-' then flagsAfterDash fuel else pure {}
  if off.template then refuse .globalFlagOff 1
  if on.meets off then refuse .flagOnAndOff 1
  return some (on, off)

/-! ## Groups -/

/-- How a group begins. -/
inductive Opening where
  | capture (name : Option (List Char))
  | plain
  | atomic
  | flagged (on off : Flags)
  | look (behind negated : Bool)
  | condition (number : Nat)
  /-- Nothing to group: a comment, a named back-reference, or flags for the whole pattern. -/
  | done (item : Option Item) (global : Bool)

/-- Pass over a comment that started at `start`. -/
def skipComment (start : Nat) : Nat → Read Unit
  | 0 => return ()
  | fuel + 1 => do
    match ← peek with
    | none => refuseAt .unterminatedComment start
    | some token =>
      let _ ← take
      if token == [')'] then return () else skipComment start fuel

/-- A group name must be a name. -/
def checkGroupName (name : List Char) : Read Unit := do
  if !Text.isName name then refuse (.badGroupName (String.ofList name)) (name.length + 1)

/-- A back-reference by name. -/
def namedReference (flags : Flags) : Read Item := do
  let name ← takeName ')' "group name"
  checkGroupName name
  match (← get).names.get? (String.ofList name) with
  | none => refuse (.unknownGroupName (String.ofList name)) (name.length + 1)
  | some number =>
    match ← closedWidth? number with
    | none => refuse .openGroup (name.length + 1)
    | some (shortest, longest) =>
      checkLookBehind number
      return ⟨.again number flags.folding shortest longest, .plain⟩

/-- The group that a condition asks about. -/
def conditionGroup : Read Nat := do
  let name ← takeName ')' "group name"
  let back := name.length + 1
  if Text.isName name then
    match (← get).names.get? (String.ofList name) with
    | none => refuse (.unknownGroupName (String.ofList name)) back
    | some number => return number
  else if !name.all Char.isDigit then refuse (.badGroupName (String.ofList name)) back
  else
    let number := valueIn 10 name
    if number == 0 then refuse .badGroupNumber back
    else if number ≥ 1073741823 then refuse (.noSuchGroup number) back
    else
      modify fun s =>
        if s.conditions.any (·.1 == number) then s
        else { s with conditions := s.conditions ++ [(number, s.pos - back)] }
      return number

/-- An opening that starts with `P`. -/
def namedOpening (flags : Flags) : Read Opening := do
  match ← take with
  | none => refuse .unexpectedEnd
  | some ['<'] =>
    let name ← takeName '>' "group name"
    checkGroupName name
    return .capture (some name)
  | some ['='] => return .done (some (← namedReference flags)) false
  | some token => refuse (.unknownExtension ("?P" ++ String.ofList token)) (token.length + 2)

/-- The opening of a group whose parenthesis stands at `start`. -/
def groupOpening (flags : Flags) (start : Nat) : Read Opening := do
  if !(← takeIf '?') then return .capture none
  match ← take with
  | none => refuse .unexpectedEnd
  | some token =>
    let unknown : Read Opening :=
      refuse (.unknownExtension ("?" ++ String.ofList token)) (token.length + 1)
    match token with
    | ['P'] => namedOpening flags
    | [':'] => return .plain
    | ['#'] =>
      skipComment start ((← get).left.length + 1)
      return .done none false
    | ['='] => return .look false false
    | ['!'] => return .look false true
    | ['<'] =>
      match ← take with
      | none => refuse .unexpectedEnd
      | some ['='] => return .look true false
      | some ['!'] => return .look true true
      | some other =>
        refuse (.unknownExtension ("?<" ++ String.ofList other)) (other.length + 2)
    | ['('] => return .condition (← conditionGroup)
    | ['>'] => return .atomic
    | [c] =>
      if c == '-' || (Flags.ofLetter? c).isSome then
        match ← groupFlags c with
        | none => return .done none true
        | some (on, off) => return .flagged on off
      else unknown
    | _ => unknown

/-- Pass over the rest of a line, in a pattern that may hold comments. -/
def skipLine : Nat → Read Unit
  | 0 => return ()
  | fuel + 1 => do
    match ← take with
    | none => return ()
    | some token => if token == ['\n'] then return () else skipLine fuel

/-- The closing parenthesis of a group that started at `start`. -/
def closeAt (start : Nat) : Read Unit := do
  if !(← takeIf ')') then refuseAt .unterminatedGroup start

mutual

/-- Alternatives up to a closing parenthesis or the end; at the top, flags for the whole pattern may
come first. -/
def readAlternatives : Nat → Bool → Flags → Read Node
  | 0, _, _ => return .empty
  | fuel + 1, top, flags => do
    let first ← readItems fuel top flags []
    let rest ← readFurther fuel top flags
    return alternatives (first :: rest)

/-- The alternatives after the first. -/
def readFurther : Nat → Bool → Flags → Read (List Node)
  | 0, _, _ => return []
  | fuel + 1, top, flags => do
    if ← takeIf '|' then
      let s ← get
      let flags := if top then s.flags else flags
      let node ← readItems fuel false flags []
      return node :: (← readFurther fuel top flags)
    return []

/-- Items up to a bar, a closing parenthesis or the end, after those read so far, last first.
`first` tells that flags for the whole pattern may still come. -/
def readItems : Nat → Bool → Flags → List Item → Read Node
  | 0, _, _, items => return sequence (items.reverse.map Item.node)
  | fuel + 1, first, flags, items => do
    let finished := sequence (items.reverse.map Item.node)
    match ← peek with
    | none => return finished
    | some token =>
      if token == ['|'] || token == [')'] then return finished
      let place := (← get).pos
      let _ ← take
      match token with
      | [c] =>
        if flags.verbose && [' ', '\t', '\n', '\r', '\x0b', '\x0c'].contains c then
          readItems fuel first flags items
        else if flags.verbose && c == '#' then
          let s ← get
          skipLine (s.left.length + 1)
          readItems fuel first flags items
        else match c with
          | '[' => readItems fuel first flags ((← setNode flags) :: items)
          | '*' => readItems fuel first flags (← repeatLast place 0 none items)
          | '+' => readItems fuel first flags (← repeatLast place 1 none items)
          | '?' => readItems fuel first flags (← repeatLast place 0 (some 1) items)
          | '\x7b' =>
            match ← braceBounds with
            | none => readItems fuel first flags (literalItem flags c.toNat :: items)
            | some (least, most) =>
              readItems fuel first flags (← repeatLast place least most items)
          | '.' =>
            let test : CharTest := if flags.dotAll then ⟨true, .exact, []⟩
              else ⟨true, .exact, [.code 10]⟩
            readItems fuel first flags (⟨.one test, .plain⟩ :: items)
          | '^' =>
            let anchor := if flags.multiline then Anchor.lineStart else .textStart
            readItems fuel first flags (⟨.anchor anchor, .anchor⟩ :: items)
          | '$' =>
            let anchor := if flags.multiline then Anchor.lineEnd else .lastLineEnd
            readItems fuel first flags (⟨.anchor anchor, .anchor⟩ :: items)
          | '(' =>
            match ← groupOpening flags place with
            | .done (some item) _ => readItems fuel first flags (item :: items)
            | .done none false => readItems fuel first flags items
            | .done none true =>
              if !first || !items.isEmpty then refuseAt .flagsNotAtStart place
              let s ← get
              readItems fuel first s.flags items
            | .capture name =>
              let number ← openGroup name
              let body ← readAlternatives fuel false flags
              closeAt place
              closeGroup number body.width
              readItems fuel first flags (⟨.group number body, .plain⟩ :: items)
            | .plain =>
              let body ← readAlternatives fuel false flags
              closeAt place
              readItems fuel first flags (⟨body, .plain⟩ :: items)
            | .atomic =>
              let body ← readAlternatives fuel false flags
              closeAt place
              readItems fuel first flags (⟨.atomic body, .plain⟩ :: items)
            | .flagged on off =>
              let body ← readAlternatives fuel false (flags.inside on off)
              closeAt place
              readItems fuel first flags (⟨body, .plain⟩ :: items)
            | .look behind negated =>
              let outer := (← get).lookBehind
              if behind && outer.isNone then
                modify fun s => { s with lookBehind := some s.widths.length }
              let body ← readAlternatives fuel false flags
              if behind then modify fun s => { s with lookBehind := outer }
              closeAt place
              let (shortest, longest) := body.width
              readItems fuel first flags
                (⟨.look behind negated shortest longest body, .plain⟩ :: items)
            | .condition number =>
              checkLookBehind number
              let present ← readItems fuel false flags []
              let absent ← if ← takeIf '|' then
                  let node ← readItems fuel false flags []
                  if (← peek) == some ['|'] then refuse .conditionalBranches
                  pure node
                else pure .empty
              closeAt place
              readItems fuel first flags (⟨.given number present absent, .plain⟩ :: items)
          | _ => readItems fuel first flags (literalItem flags c.toNat :: items)
      -- the only other tokens are a backslash with its letter
      | [_, letter] => readItems fuel first flags ((← escapeItem flags letter) :: items)
      | _ => return finished

end

/-- A whole pattern. -/
def readPattern : Read Node := do
  checkAhead
  let s ← get
  let node ← readAlternatives (2 * s.pattern.length + 2) true s.flags
  let s ← get
  if s.flags.ascii && s.flags.unicode then throw .clashingClasses
  if (← peek).isSome then refuse .unbalanced
  for (number, position) in s.conditions do
    if s.widths.length ≤ number then refuseAt (.noSuchGroup number) position
  return node

/-- The tree of a pattern in which letters are compared without regard to case. -/
def compile (pattern : String) : Except CompileError Node := do
  let chars := pattern.toList
  let (node, _) ← readPattern.run
    { pattern := chars, left := chars, flags := { ignoreCase := true } }
  node.checkLooks
  return node

end RuleAudit.Pattern
