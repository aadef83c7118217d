import RuleAudit.Pattern.Node

/-!
# Matching

A backtracking matcher: each node is tried at a cursor and hands every way it can match, in order of
preference, to the rest of the pattern. The first way that lets the rest succeed wins. Repetitions
of one character are counted first and given back one by one; other repetitions stop as soon as a
round begins where the round before began.
-/

namespace RuleAudit.Pattern

/-- A place in a text: what lies before it, nearest first, and what follows. -/
structure Cursor where
  before : List Char
  after : List Char
  index : Nat
  deriving Repr, DecidableEq

namespace Cursor

/-- The start of a text. -/
def start (cs : List Char) : Cursor :=
  ⟨[], cs, 0⟩

/-- One character further. -/
def next? (c : Cursor) : Option (Char × Cursor) :=
  match c.after with
  | [] => none
  | a :: rest => some (a, ⟨a :: c.before, rest, c.index + 1⟩)

/-- One character back. -/
def back? (c : Cursor) : Option Cursor :=
  match c.before with
  | [] => none
  | b :: rest => some ⟨rest, b :: c.after, c.index - 1⟩

/-- Several characters back. -/
def backBy? : Nat → Cursor → Option Cursor
  | 0, c => some c
  | n + 1, c => c.back?.bind (backBy? n)

end Cursor

/-- The text of a group: where it starts and its length. -/
structure Span where
  source : List Char
  length : Nat
  deriving Repr, DecidableEq

/-- The groups matched so far, the latest first. -/
abbrev Groups := List (Nat × Span)

/-- The characters of the latest match of a group. -/
def Groups.text? (g : Groups) (index : Nat) : Option (List Char) :=
  (g.find? (·.1 == index)).map fun entry => entry.2.source.take entry.2.length

/-- Where a match ends, with its groups. -/
abbrev End := Cursor × Groups

/-- The rest of a pattern, waiting for a place to start. -/
abbrev Rest := Cursor → Groups → Option End

/-- A way to match at a cursor before some rest. -/
abbrev Matcher := Cursor → Groups → Rest → Option End

/-- Whether a word character stands right before or right after a cursor. -/
def wordAt (ascii : Bool) : List Char → Bool
  | [] => false
  | c :: _ => CharClass.word.holds ascii c.toNat

/-- Whether an anchor holds at a cursor. In an empty text no boundary test holds. -/
def Anchor.holds (a : Anchor) (c : Cursor) : Bool :=
  match a with
  | .textStart => c.before.isEmpty
  | .lineStart => c.before.isEmpty || c.before.head? == some '\n'
  | .textEnd => c.after.isEmpty
  | .lastLineEnd => c.after.isEmpty || c.after == ['\n']
  | .lineEnd => c.after.isEmpty || c.after.head? == some '\n'
  | .boundary negated ascii =>
    if c.before.isEmpty && c.after.isEmpty then false
    else (wordAt ascii c.before != wordAt ascii c.after) != negated

/-- Whether a count is below a bound, if there is one. -/
def below : Option Nat → Nat → Bool
  | none, _ => true
  | some bound, count => count < bound

/-! ## Repetitions of one character -/

/-- Pass over characters that meet a test, at most `most` of them; gives the cursor and the number
passed, added to `count`. -/
def passOver (t : CharTest) (most : Option Nat) (before : List Char) (index : Nat) (count : Nat) :
    List Char → Cursor × Nat
  | [] => (⟨before, [], index⟩, count)
  | c :: rest =>
    if below most count && t.passes c then
      passOver t most (c :: before) (index + 1) (count + 1) rest
    else (⟨before, c :: rest, index⟩, count)

/-- Try the rest here and, going back one character at a time, down to `least` characters. -/
def giveBack (least : Nat) (g : Groups) (k : Rest) : Nat → Cursor → Option End
  | 0, c => if least = 0 then k c g else none
  | n + 1, c =>
    if n + 1 < least then none
    else match k c g with
      | some e => some e
      | none => match c.back? with
        | some c => giveBack least g k n c
        | none => none

/-- Try the rest after `count` characters and, taking one more at a time, up to `most`. -/
def takeMore (t : CharTest) (most : Option Nat) (g : Groups) (k : Rest) (before : List Char)
    (index count : Nat) : List Char → Option End
  | [] => k ⟨before, [], index⟩ g
  | c :: rest =>
    match k ⟨before, c :: rest, index⟩ g with
    | some e => some e
    | none =>
      if below most count && t.passes c then
        takeMore t most g k (c :: before) (index + 1) (count + 1) rest
      else none

/-- A repetition of one character. -/
def loopOne (greed : Greed) (t : CharTest) (least : Nat) (most : Option Nat) : Matcher :=
  fun c g k =>
    match greed with
    | .greedy =>
      let (stop, count) := passOver t most c.before c.index 0 c.after
      giveBack least g k count stop
    | .possessive =>
      let (stop, count) := passOver t most c.before c.index 0 c.after
      if count < least then none else k stop g
    | .lazy =>
      let (stop, count) := passOver t (some least) c.before c.index 0 c.after
      if count < least then none
      else takeMore t most g k stop.before stop.index count stop.after

/-! ## Other repetitions -/

/-- Whether a further round may begin: below the greatest count, and not where the last began. -/
def mayRepeat (most : Option Nat) (count : Nat) (last : Option Nat) (c : Cursor) : Bool :=
  below most count && last != some c.index

/-- Rounds of `body`, as many as possible first. -/
def loopGreedy (body : Matcher) (least : Nat) (most : Option Nat) (k : Rest) :
    Nat → Nat → Option Nat → Cursor → Groups → Option End
  | 0, _, _, c, g => k c g
  | fuel + 1, count, last, c, g =>
    if count < least then
      body c g fun c' g' => loopGreedy body least most k fuel (count + 1) last c' g'
    else
      let more := if mayRepeat most count last c then
          body c g fun c' g' => loopGreedy body least most k fuel (count + 1) (some c.index) c' g'
        else none
      match more with
      | some e => some e
      | none => k c g

/-- Rounds of `body`, as few as possible first. -/
def loopLazy (body : Matcher) (least : Nat) (most : Option Nat) (k : Rest) :
    Nat → Nat → Option Nat → Cursor → Groups → Option End
  | 0, _, _, c, g => k c g
  | fuel + 1, count, last, c, g =>
    if count < least then
      body c g fun c' g' => loopLazy body least most k fuel (count + 1) last c' g'
    else
      match k c g with
      | some e => some e
      | none =>
        if mayRepeat most count last c then
          body c g fun c' g' => loopLazy body least most k fuel (count + 1) (some c.index) c' g'
        else none

/-- Rounds of `body`, each taken for good, as many as possible. -/
def loopPossessive (body : Matcher) (least : Nat) (most : Option Nat) :
    Nat → Nat → Option Nat → Cursor → Groups → Option End
  | 0, _, _, c, g => some (c, g)
  | fuel + 1, count, last, c, g =>
    if count < least then
      match body c g fun c' g' => some (c', g') with
      | some (c', g') => loopPossessive body least most fuel (count + 1) last c' g'
      | none => none
    else if mayRepeat most count last c then
      match body c g fun c' g' => some (c', g') with
      | some (c', g') => loopPossessive body least most fuel (count + 1) (some c.index) c' g'
      | none => some (c, g)
    else some (c, g)

/-- Rounds that can be needed at a cursor: the least number, one per character, and two to stop. -/
def roundsAt (least : Nat) (c : Cursor) : Nat :=
  least + c.after.length + 2

/-! ## Whole patterns -/

/-- The text of a group again, at a cursor. -/
def sameText (folding : Folding) (k : Rest) (g : Groups) : List Char → Cursor → Option End
  | [], c => k c g
  | a :: text, c =>
    match c.next? with
    | some (b, c') =>
      if folding.apply a.toNat == folding.apply b.toNat then sameText folding k g text c' else none
    | none => none

/-- The ways a pattern matches at a cursor, handed to the rest. -/
def Node.run : Node → Matcher
  | .empty => fun c g k => k c g
  | .one t => fun c g k =>
    match c.next? with
    | some (a, c') => if t.passes a then k c' g else none
    | none => none
  | .anchor a => fun c g k => if a.holds c then k c g else none
  | .seq a b => fun c g k => a.run c g fun c' g' => b.run c' g' k
  | .alt a b => fun c g k =>
    match a.run c g k with
    | some e => some e
    | none => b.run c g k
  | .group index body => fun c g k =>
    body.run c g fun c' g' => k c' ((index, ⟨c.after, c'.index - c.index⟩) :: g')
  | .loop greed least most (.one t) => loopOne greed t least most
  | .loop .greedy least most body => fun c g k =>
    loopGreedy body.run least most k (roundsAt least c) 0 none c g
  | .loop .lazy least most body => fun c g k =>
    loopLazy body.run least most k (roundsAt least c) 0 none c g
  | .loop .possessive least most body => fun c g k =>
    match loopPossessive body.run least most (roundsAt least c) 0 none c g with
    | some (c', g') => k c' g'
    | none => none
  | .again index folding _ _ => fun c g k =>
    match Groups.text? g index with
    | some text => sameText folding k g text c
    | none => none
  | .look behind negated shortest _ body => fun c g k =>
    let here := if behind then c.backBy? shortest else some c
    let found := here.bind fun h => body.run h g fun c' g' => some (c', g')
    match found, negated with
    | some (_, g'), false => k c g'
    | none, true => k c g
    | _, _ => none
  | .atomic body => fun c g k =>
    match body.run c g fun c' g' => some (c', g') with
    | some (c', g') => k c' g'
    | none => none
  | .given index present absent => fun c g k =>
    if (Groups.text? g index).isSome then present.run c g k else absent.run c g k

/-- Whether a pattern matches at the start of a text. -/
def Node.matchesStart (n : Node) (cs : List Char) : Bool :=
  (n.run (.start cs) [] fun c g => some (c, g)).isSome

/-- The first place at or after a cursor where a pattern matches. -/
def Node.searchFrom (n : Node) (before : List Char) (index : Nat) : List Char → Option Nat
  | [] => if (n.run ⟨before, [], index⟩ [] fun c g => some (c, g)).isSome then some index else none
  | c :: rest =>
    if (n.run ⟨before, c :: rest, index⟩ [] fun c g => some (c, g)).isSome then some index
    else n.searchFrom (c :: before) (index + 1) rest

/-- The first place in a text where a pattern matches. -/
def Node.search (n : Node) (cs : List Char) : Option Nat :=
  n.searchFrom [] 0 cs

end RuleAudit.Pattern
