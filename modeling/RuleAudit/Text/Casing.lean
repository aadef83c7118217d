import RuleAudit.Text.CaseTable

/-!
# Upper and lower case

`upper` and `lower` are the full Unicode mappings: a letter may become several (`ß` is `SS`), and a
capital sigma at the end of a word becomes `ς`. `lowerCode` is the one-to-one mapping that
case-blind matching uses.
-/

namespace RuleAudit.Text

/-- Whether a run holds a code point. -/
def CaseRun.holds (run : CaseRun) (code : Nat) : Bool :=
  run.first ≤ code && code ≤ run.last && (code - run.first) % run.step == 0

/-- The code point a run moves `code` to. -/
def CaseRun.move (run : CaseRun) (code : Nat) : Nat :=
  (Int.ofNat code + run.shift).toNat

/-- The image of a code point under ascending runs; code points outside all runs stay. -/
def moveCode : List CaseRun → Nat → Nat
  | [], code => code
  | run :: rest, code =>
    if code < run.first then code
    else if run.holds code then run.move code
    else moveCode rest code

/-- The code points that the runs move to `code`. -/
def preimages (runs : List CaseRun) (code : Nat) : List Nat :=
  runs.filterMap fun run =>
    let source := (Int.ofNat code - run.shift).toNat
    if run.holds source && run.move source == code then some source else none

/-- One-to-one lower case of a code point. -/
def lowerCode (code : Nat) : Nat :=
  moveCode lowerRuns code

/-- The upper-case form of one character. -/
def upperChar (c : Char) : List Char :=
  match upperExpansions.find? (·.1 == c.toNat) with
  | some (_, codes) => codes.map Char.ofNat
  | none => [Char.ofNat (moveCode upperRuns c.toNat)]

/-- The upper-case form of a text. -/
def upper (s : String) : String :=
  String.ofList (s.toList.flatMap upperChar)

/-- Whether a letter has another case, seen through the one-to-one mappings. -/
def isCasedCode (code : Nat) : Bool :=
  lowerCode code != code || moveCode upperRuns code != code ||
    upperExpansions.any (·.1 == code)

/-- Whether some code point from `first` to `last` has another case. -/
def rangeHasCase (first last : Nat) : Bool :=
  let meets (run : CaseRun) : Bool :=
    let low := max first run.first
    let start := low + (run.step - (low - run.first) % run.step) % run.step
    start ≤ last && start ≤ run.last
  lowerRuns.any meets || upperRuns.any meets ||
    upperExpansions.any fun entry => first ≤ entry.1 && entry.1 ≤ last

/-! ## The final sigma -/

/-- Whether the first character that counts, skipping the ignorable ones, is cased. -/
def startsCased (cs : List Char) : Bool :=
  match cs.dropWhile (fun c => inRanges caseIgnorableRanges c.toNat) with
  | [] => false
  | c :: _ => inRanges casedRanges c.toNat

/-- The lower-case form of one character between `before` (nearest first) and `after`. -/
def lowerCharIn (before : List Char) (c : Char) (after : List Char) : List Char :=
  if c.toNat = 0x3A3 then
    [Char.ofNat (if startsCased before && !startsCased after then 0x3C2 else 0x3C3)]
  else if c.toNat = 0x130 then ['i', Char.ofNat 0x307]
  else [Char.ofNat (lowerCode c.toNat)]

/-- Lower case of the characters that follow `before` (nearest first). -/
def lowerAfter : List Char → List Char → List Char
  | _, [] => []
  | before, c :: after => lowerCharIn before c after ++ lowerAfter (c :: before) after

/-- The lower-case form of a text. -/
def lower (s : String) : String :=
  String.ofList (lowerAfter [] s.toList)

end RuleAudit.Text
