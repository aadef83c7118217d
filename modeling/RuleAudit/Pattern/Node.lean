import RuleAudit.Pattern.CharTest
import RuleAudit.Pattern.Problem

/-!
# Patterns as trees

A pattern is a tree of character tests, anchors, sequences, alternatives, groups, repetitions,
back-references, look-arounds and conditions. Flags are resolved while a pattern is read, so that
every node stands on its own.
-/

namespace RuleAudit.Pattern

/-- Places that match without consuming a character. -/
inductive Anchor where
  | textStart
  | lineStart
  | textEnd
  | lastLineEnd
  | lineEnd
  | boundary (negated ascii : Bool)
  deriving Repr, DecidableEq

/-- The order in which the counts of a repetition are tried. -/
inductive Greed where
  | greedy
  | lazy
  /-- As many as possible, and never fewer afterwards. -/
  | possessive
  deriving Repr, DecidableEq

/-- A pattern. -/
inductive Node where
  | empty
  | one (test : CharTest)
  | anchor (place : Anchor)
  | seq (first second : Node)
  | alt (first second : Node)
  | group (index : Nat) (body : Node)
  | loop (greed : Greed) (least : Nat) (most : Option Nat) (body : Node)
  /-- The text of a group again; the bounds of its length are kept beside it. -/
  | again (index : Nat) (folding : Folding) (shortest longest : Nat)
  /-- A look ahead, or a look behind over a text whose length lies in the bounds. -/
  | look (behind negated : Bool) (shortest longest : Nat) (body : Node)
  | atomic (body : Node)
  /-- One pattern when a group has matched, another when not. -/
  | given (index : Nat) (present absent : Node)
  deriving Repr, DecidableEq

namespace Node

/-- The greatest length that is told apart. -/
def widthCap : Nat := Nat.pow 2 64

/-- The shortest and the longest text a pattern can match. -/
def width : Node → Nat × Nat
  | .empty => (0, 0)
  | .one _ => (1, 1)
  | .anchor _ => (0, 0)
  | .seq a b =>
    let (la, ha) := a.width
    let (lb, hb) := b.width
    (min (la + lb) widthCap, min (ha + hb) widthCap)
  | .alt a b =>
    let (la, ha) := a.width
    let (lb, hb) := b.width
    (min la lb, max ha hb)
  | .group _ body => body.width
  | .loop _ least most body =>
    let (l, h) := body.width
    let longest := match most with
      | some n => h * n
      | none => if h == 0 then 0 else widthCap
    (min (l * least) widthCap, min longest widthCap)
  | .again _ _ shortest longest => (shortest, longest)
  | .look .. => (0, 0)
  | .atomic body => body.width
  | .given _ present absent =>
    let (l, h) := present.width
    let (l', h') := absent.width
    (min l l', max h h')

/-- Every look behind has one length, and not an excessive one. -/
def checkLooks : Node → Except CompileError Unit
  | .empty | .one _ | .anchor _ | .again .. => .ok ()
  | .seq a b | .alt a b | .given _ a b =>
    match a.checkLooks with
    | .ok () => b.checkLooks
    | .error e => .error e
  | .group _ body | .loop _ _ _ body | .atomic body => body.checkLooks
  | .look behind _ shortest longest body =>
    if behind && shortest > Nat.pow 2 32 - 1 then .error (.refused .farLookBehind none)
    else if behind && shortest != longest then .error (.refused .variableLookBehind none)
    else body.checkLooks

end Node

end RuleAudit.Pattern
