import RuleAudit.Pattern.Node
import RuleAudit.Keyed

/-!
# Reading a pattern token by token

A token is one character, or a backslash with the character it escapes. The reader always looks one
token ahead, so a lone backslash at the end is found as soon as the token before it is taken.
-/

namespace RuleAudit.Pattern

/-- The flags a pattern is read under. -/
structure Flags where
  ignoreCase : Bool := false
  ascii : Bool := false
  unicode : Bool := false
  multiline : Bool := false
  dotAll : Bool := false
  verbose : Bool := false
  template : Bool := false
  deriving Repr, DecidableEq

namespace Flags

/-- How letters are compared under the flags. -/
def folding (f : Flags) : Folding :=
  if !f.ignoreCase then .exact else if f.ascii then .ascii else .full

/-- Flags joined. -/
def union (f g : Flags) : Flags :=
  ⟨f.ignoreCase || g.ignoreCase, f.ascii || g.ascii, f.unicode || g.unicode,
    f.multiline || g.multiline, f.dotAll || g.dotAll, f.verbose || g.verbose,
    f.template || g.template⟩

/-- Flags without others. -/
def without (f g : Flags) : Flags :=
  ⟨f.ignoreCase && !g.ignoreCase, f.ascii && !g.ascii, f.unicode && !g.unicode,
    f.multiline && !g.multiline, f.dotAll && !g.dotAll, f.verbose && !g.verbose,
    f.template && !g.template⟩

/-- Whether two sets of flags share one. -/
def meets (f g : Flags) : Bool :=
  f.without (f.without g) != {}

/-- The flags inside a group that turns some on and some off. -/
def inside (f on off : Flags) : Flags :=
  let base := if on.ascii || on.unicode then { f with ascii := false, unicode := false } else f
  (base.union on).without off

/-- The flag of a letter; `L` is known but never allowed. -/
def ofLetter? : Char → Option Flags
  | 'i' => some { ignoreCase := true }
  | 'a' => some { ascii := true }
  | 'u' => some { unicode := true }
  | 'm' => some { multiline := true }
  | 's' => some { dotAll := true }
  | 'x' => some { verbose := true }
  | 't' => some { template := true }
  | 'L' => some {}
  | _ => none

end Flags

/-- The reader of a pattern: the place of the next token, what is left from there, the flags for the
whole pattern, and what is known about groups. -/
structure ReadState where
  pattern : List Char
  pos : Nat := 0
  left : List Char
  flags : Flags
  names : Keyed Nat := []
  /-- The bounds of each group's length by number, `none` while it is open; group 0 stays open. -/
  widths : List (Option (Nat × Nat)) := [none]
  /-- The number of groups when the outermost look behind was entered. -/
  lookBehind : Option Nat := none
  /-- Group numbers that conditions refer to, with the place of the first reference. -/
  conditions : List (Nat × Nat) := []

/-- Reading that may refuse the pattern. -/
abbrev Read := StateT ReadState (Except CompileError)

/-- Refuse the pattern at a position. -/
def refuseAt {α : Type} (problem : Problem) (position : Int) : Read α := do
  let s ← get
  throw (.refused problem (some (.of s.pattern position)))

/-- Refuse the pattern `back` characters before the next token. -/
def refuse {α : Type} (problem : Problem) (back : Nat := 0) : Read α := do
  let s ← get
  refuseAt problem (Int.ofNat s.pos - Int.ofNat back)

/-- The token at the front of a text. -/
def tokenOf : List Char → Option (List Char)
  | [] => none
  | '\\' :: c :: _ => some ['\\', c]
  | c :: _ => some [c]

/-- The next token, left in place. -/
def peek : Read (Option (List Char)) := do
  return tokenOf (← get).left

/-- The look ahead meets a backslash that escapes nothing. -/
def checkAhead : Read Unit := do
  let s ← get
  if s.left == ['\\'] then refuseAt .escapeAtEnd (Int.ofNat s.pattern.length - 1)

/-- Take the next token. -/
def take : Read (Option (List Char)) := do
  let s ← get
  match tokenOf s.left with
  | none => return none
  | some token =>
    set { s with pos := s.pos + token.length, left := s.left.drop token.length }
    checkAhead
    return some token

/-- Take the next token if it is a given character. -/
def takeIf (c : Char) : Read Bool := do
  if (← peek) == some [c] then
    let _ ← take
    return true
  return false

/-- Take at most `n` characters that meet a test. -/
def takeWhile (p : Char → Bool) : Nat → Read (List Char)
  | 0 => return []
  | n + 1 => do
    match ← peek with
    | some [c] =>
      if p c then
        let _ ← take
        return c :: (← takeWhile p n)
      return []
    | _ => return []

/-- Take a name up to its terminator, with at most `fuel` tokens. -/
def takeUntil (terminator : Char) (what : String) : Nat → List Char → Read (List Char)
  | 0, name => return name
  | fuel + 1, name => do
    match ← take with
    | none =>
      if name.isEmpty then refuse (.missingName what)
      else refuse (.unterminatedName (String.singleton terminator)) name.length
    | some token =>
      if token == [terminator] then
        if name.isEmpty then refuse (.missingName what) 1 else return name
      else takeUntil terminator what fuel (name ++ token)

/-- A name up to its terminator. -/
def takeName (terminator : Char) (what : String) : Read (List Char) := do
  takeUntil terminator what ((← get).left.length + 1) []

/-! ## Groups -/

/-- The number of groups, the whole pattern included. -/
def groupCount : Read Nat := do
  return (← get).widths.length

/-- The bounds of a closed group. -/
def closedWidth? (number : Nat) : Read (Option (Nat × Nat)) := do
  return ((← get).widths[number]?).join

/-- Inside a look behind, only groups closed before it may be referred to. -/
def checkLookBehind (number : Nat) : Read Unit := do
  match (← get).lookBehind with
  | none => return ()
  | some bound =>
    if (← closedWidth? number).isNone then refuse .openGroup
    else if bound ≤ number then refuse .groupOfSameLookBehind

/-- Open a group. -/
def openGroup (name : Option (List Char)) : Read Nat := do
  let s ← get
  let number := s.widths.length
  match name with
  | none => set { s with widths := s.widths ++ [none] }
  | some chars =>
    let key := String.ofList chars
    match s.names.get? key with
    | some earlier => refuse (.redefinedGroup key number earlier) (chars.length + 1)
    | none =>
      set { s with widths := s.widths ++ [none], names := s.names.put key number }
  return number

/-- Close a group. -/
def closeGroup (number : Nat) (width : Nat × Nat) : Read Unit :=
  modify fun s => { s with widths := s.widths.set number (some width) }

end RuleAudit.Pattern
