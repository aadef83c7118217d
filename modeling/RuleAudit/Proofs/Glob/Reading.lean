import RuleAudit.Proofs.Glob.Translation

/-!
# How the pattern of a glob is read

The text of a glob's pattern is read mark by mark. Each mark gives one item (`Mark.item`), whatever
follows it, because what follows never starts with a quantifier and no backslash stands alone
(`ahead_written`). So reading succeeds, with the items of the padded marks one after another
(`compile_eq`).
-/

namespace RuleAudit

namespace Pattern

/-! ## Taking tokens -/

/-- The state after some characters have been taken. -/
def ReadState.passed (s : ReadState) (n : Nat) : ReadState :=
  { s with pos := s.pos + n, left := s.left.drop n }

@[simp] theorem ReadState.passed_left (s : ReadState) (n : Nat) :
    (s.passed n).left = s.left.drop n := rfl

@[simp] theorem ReadState.passed_zero (s : ReadState) : s.passed 0 = s := rfl

theorem ReadState.passed_passed (s : ReadState) (n m : Nat) :
    (s.passed n).passed m = s.passed (n + m) := by
  simp [passed, Nat.add_assoc]

theorem Read.run_bind_eq {α β : Type} {m : Read α} {f : α → Read β} {s s' : ReadState} {a : α}
    (h : m.run s = .ok (a, s')) : (m >>= f).run s = (f a).run s' := by
  rw [StateT.run_bind, h]
  rfl

theorem run_get (s : ReadState) : (get : Read ReadState).run s = .ok (s, s) := rfl

theorem run_peek (s : ReadState) : peek.run s = .ok (tokenOf s.left, s) := rfl

theorem run_checkAhead {s : ReadState} (h : s.left ≠ ['\\']) : checkAhead.run s = .ok ((), s) := by
  rw [checkAhead, Read.run_bind_eq (run_get s), if_neg (by simpa using h)]
  rfl

theorem run_take {s : ReadState} {token : List Char} (h : tokenOf s.left = some token)
    (hrest : s.left.drop token.length ≠ ['\\']) :
    take.run s = .ok (some token, s.passed token.length) := by
  have hset : (set (s.passed token.length) : Read PUnit).run s = .ok ((), s.passed token.length) :=
    rfl
  rw [take, Read.run_bind_eq (run_get s), h]
  exact (Read.run_bind_eq hset).trans (Read.run_bind_eq (run_checkAhead hrest))

theorem run_takeIf_of_ne {s : ReadState} {c : Char} (h : tokenOf s.left ≠ some [c]) :
    (takeIf c).run s = .ok (false, s) := by
  rw [takeIf, Read.run_bind_eq (run_peek s), if_neg (by simpa using h)]
  rfl

theorem run_takeIf_self {s : ReadState} {c : Char} (h : tokenOf s.left = some [c])
    (hrest : s.left.drop 1 ≠ ['\\']) : (takeIf c).run s = .ok (true, s.passed 1) := by
  rw [takeIf, Read.run_bind_eq (run_peek s), if_pos (by simp [h])]
  exact Read.run_bind_eq (run_take h hrest)

theorem run_takeGreed_of_ne {s : ReadState} (hlazy : tokenOf s.left ≠ some ['?'])
    (hpossessive : tokenOf s.left ≠ some ['+']) : takeGreed.run s = .ok (.greedy, s) := by
  rw [takeGreed, Read.run_bind_eq (run_peek s)]
  split
  · exact absurd ‹_› hlazy
  · exact absurd ‹_› hpossessive
  · rfl

/-! ## Reading one item -/

section Items

variable {s : ReadState} {rest : List Char} (fuel : Nat) (first : Bool) (flags : Flags)
  (items : List Item)

/-- A token that ends nothing is taken before it is looked into. -/
theorem run_token {α : Type} {token : List Char} {finished : Read α}
    {step : Option (List Char) → Read α} {go : ReadState → Read α}
    (h : tokenOf s.left = some token) (hrest : s.left.drop token.length ≠ ['\\'])
    (hbar : token ≠ ['|']) (hclose : token ≠ [')'])
    (hstep : step (some token) = if (token == ['|'] || token == [')']) = true then finished
      else do
        let s ← get
        let _ ← take
        go s) :
    (peek >>= step).run s = (go s).run (s.passed token.length) := by
  rw [Read.run_bind_eq (run_peek s), h, hstep, if_neg (by simp [hbar, hclose]),
    Read.run_bind_eq (run_get s)]
  exact Read.run_bind_eq (run_take h hrest)

theorem run_readItems_nil (h : s.left = []) :
    (readItems fuel first flags items).run s =
      .ok (sequence (items.reverse.map Item.node), s) := by
  cases fuel with
  | zero => rfl
  | succ fuel =>
    refine (Read.run_bind_eq (run_peek s)).trans ?_
    rw [h]
    rfl

/-- The flags a glob's pattern is read under. -/
abbrev caseless : Flags := { ignoreCase := true }

theorem run_readItems_dot (h : s.left = '.' :: rest) (hrest : rest ≠ ['\\']) :
    (readItems (fuel + 1) first caseless items).run s =
      (readItems fuel first caseless (⟨.one ⟨true, .exact, [.code 10]⟩, .plain⟩ :: items)).run
        (s.passed 1) := by
  have htoken : tokenOf s.left = some ['.'] := by
    rw [h]
    rfl
  refine (run_token htoken (by rwa [h]) (by decide) (by decide) rfl).trans ?_
  rfl

theorem run_readItems_escapedDot (h : s.left = '\\' :: '.' :: rest) (hrest : rest ≠ ['\\']) :
    (readItems (fuel + 1) first caseless items).run s =
      (readItems fuel first caseless (literalItem caseless '.'.toNat :: items)).run
        (s.passed 2) := by
  have htoken : tokenOf s.left = some ['\\', '.'] := by
    rw [h]
    rfl
  refine (run_token htoken (by rwa [h]) (by decide) (by decide) rfl).trans ?_
  rfl

theorem run_readItems_star (h : s.left = '*' :: rest) (hrest : rest ≠ ['\\'])
    (hlazy : tokenOf rest ≠ some ['?']) (hpossessive : tokenOf rest ≠ some ['+']) (node : Node) :
    (readItems (fuel + 1) first caseless (⟨node, .plain⟩ :: items)).run s =
      (readItems fuel first caseless (⟨.loop .greedy 0 none node, .repetition⟩ :: items)).run
        (s.passed 1) := by
  have htoken : tokenOf s.left = some ['*'] := by
    rw [h]
    rfl
  have hgreed : takeGreed.run (s.passed 1) = .ok (.greedy, s.passed 1) :=
    run_takeGreed_of_ne (by rwa [ReadState.passed_left, h]) (by rwa [ReadState.passed_left, h])
  refine (run_token htoken (by rwa [h]) (by decide) (by decide) rfl).trans ?_
  exact Read.run_bind_eq (Read.run_bind_eq hgreed)

/-- A character that has no meaning of its own in a pattern. -/
theorem run_readItems_letter {c : Char} (h : s.left = c :: rest) (hrest : rest ≠ ['\\'])
    (hc : c ∉ ['\\', '^', '$', '+', '(', ')', '[', '\x7b', '|', '*', '?', '.']) :
    (readItems (fuel + 1) first caseless items).run s =
      (readItems fuel first caseless (literalItem caseless c.toNat :: items)).run (s.passed 1) := by
  simp only [List.mem_cons, List.not_mem_nil, or_false, not_or] at hc
  have htoken : tokenOf s.left = some [c] := by
    rw [h, tokenOf]
    rintro - - heq -
    exact hc.1 heq
  refine (run_token htoken (by rwa [h]) (by simp [hc]) (by simp [hc]) rfl).trans ?_
  -- no layout is skipped, and the character is none of those with a meaning
  simp only [Bool.false_and, Bool.false_eq_true, if_false]
  split
  all_goals first | rfl | (exfalso; simp_all only [not_true_eq_false, and_false, false_and])

/-- The set of all characters but the slash, after its opening bracket. -/
theorem run_setNode_slash (h : s.left = '^' :: '/' :: ']' :: rest) (hrest : rest ≠ ['\\']) :
    (setNode flags).run s =
      .ok (⟨.one (.ofCode flags.folding true '/'.toNat), .plain⟩, s.passed 3) := by
  have hslashAhead : tokenOf (s.passed 1).left = some ['/'] := by simp [h, tokenOf]
  have hbracketAhead : tokenOf (s.passed 2).left = some [']'] := by simp [h, tokenOf]
  have hcaret : (takeIf '^').run s = .ok (true, s.passed 1) :=
    run_takeIf_self (by rw [h]; rfl) (by simp [h])
  have hslash : take.run (s.passed 1) = .ok (some ['/'], s.passed 2) := by
    rw [run_take hslashAhead (by simp [h]), ReadState.passed_passed]
    rfl
  have hdash : (takeIf '-').run (s.passed 2) = .ok (false, s.passed 2) :=
    run_takeIf_of_ne (by rw [hbracketAhead]; decide)
  have hbracket : take.run (s.passed 2) = .ok (some [']'], s.passed 3) := by
    rw [run_take hbracketAhead (by simpa [h] using hrest), ReadState.passed_passed]
    rfl
  have hitems : ∀ start fuel, (setItems start (fuel + 2) []).run (s.passed 1) =
      .ok ([.code '/'.toNat], s.passed 3) := by
    intro start fuel
    rw [setItems, Read.run_bind_eq hslash]
    refine (Read.run_bind_eq (show (setItem ['/']).run (s.passed 2) = .ok _ from rfl)).trans ?_
    refine (Read.run_bind_eq hdash).trans ?_
    rw [if_neg Bool.false_ne_true, setItems, Read.run_bind_eq hbracket]
    rfl
  have hfuel : (s.passed 1).left.length + 1 = rest.length + 1 + 2 := by simp [h]
  rw [setNode, Read.run_bind_eq (run_get s), Read.run_bind_eq hcaret,
    Read.run_bind_eq (run_get (s.passed 1)), hfuel, Read.run_bind_eq (hitems _ _)]
  rfl

/-- The set of all characters but the slash. -/
theorem run_readItems_slash (h : s.left = '[' :: '^' :: '/' :: ']' :: rest)
    (hrest : rest ≠ ['\\']) :
    (readItems (fuel + 1) first caseless items).run s =
      (readItems fuel first caseless (⟨.one (.ofCode .full true '/'.toNat), .plain⟩ :: items)).run
        (s.passed 4) := by
  have htoken : tokenOf s.left = some ['['] := by
    rw [h]
    rfl
  have hset := run_setNode_slash (s := s.passed 1) caseless
    (by rw [ReadState.passed_left, h]; rfl) hrest
  refine (run_token htoken (by rw [h]; simp) (by decide) (by decide) rfl).trans ?_
  refine (Read.run_bind_eq hset).trans ?_
  rw [ReadState.passed_passed]
  rfl

end Items

end Pattern

namespace Glob

open Pattern

/-! ## The items of marks -/

/-- The characters that stand for something else in a pattern than in a glob, and the null character
that the stand-in for a pair of stars is made with. -/
def foreign : List Char :=
  ['\x00', '\\', '^', '$', '+', '(', ')', '[', ']', '\x7b', '\x7d', '|']

/-- A glob in which no character is foreign. -/
def Plain (glob : String) : Prop :=
  ∀ c ∈ glob.toList, c ∉ foreign

instance (glob : String) : Decidable (Plain glob) :=
  List.decidableBAll (· ∉ foreign) glob.toList

/-- A test that any character passes, except the one that ends a line. -/
def inLine : CharTest :=
  ⟨true, .exact, [.code '\n'.toNat]⟩

/-- A test that any character passes, except a slash. -/
def inComponent : CharTest :=
  .ofCode .full true '/'.toNat

/-- The item that a mark is read as. -/
def Mark.item : Mark → Item
  | .anyText => ⟨.loop .greedy 0 none (.one inLine), .repetition⟩
  | .component => ⟨.loop .greedy 0 none (.one inComponent), .repetition⟩
  | .oneChar => ⟨.one inComponent, .plain⟩
  | .letter c => ⟨.one (.ofCode .full false c.toNat), .plain⟩

/-- The pattern that marks are read as. -/
def nodeOf (ms : List Mark) : Node :=
  sequence (ms.map fun m => m.item.node)

/-- Letters that stand for themselves in a pattern, apart from the dot, which is escaped. -/
def Legal (ms : List Mark) : Prop :=
  ∀ c, .letter c ∈ ms → c ∉ foreign ∧ c ≠ '*' ∧ c ≠ '?'

theorem Legal.of_cons {m : Mark} {ms : List Mark} (h : Legal (m :: ms)) : Legal ms :=
  fun c hc => h c (by simp [hc])

/-- What is written does not start with a quantifier and is no lone backslash. -/
theorem ahead_written {ms : List Mark} (h : Legal ms) :
    ms.flatMap Mark.written ≠ ['\\'] ∧ tokenOf (ms.flatMap Mark.written) ≠ some ['?'] ∧
      tokenOf (ms.flatMap Mark.written) ≠ some ['+'] := by
  cases ms with
  | nil => simp [tokenOf]
  | cons m ms =>
    rw [List.flatMap_cons]
    cases m with
    | anyText => simp [Mark.spelled, tokenOf]
    | component => simp [Mark.spelled, tokenOf]
    | oneChar => simp [Mark.spelled, tokenOf]
    | letter c =>
      rw [Mark.written, Mark.spelled, escapeDot]
      split
      · simp [tokenOf]
      · obtain ⟨hforeign, -, hquestion⟩ := h c (by simp)
        simp only [foreign, List.mem_cons, not_or] at hforeign
        have htoken : tokenOf (c :: ms.flatMap Mark.written) = some [c] := by
          rw [tokenOf]
          rintro - - heq -
          exact hforeign.2.1 heq
        rw [List.singleton_append, htoken]
        simp [hforeign, hquestion]

/-- The number of times an item is read for a mark. -/
def Mark.rounds : Mark → Nat
  | .anyText | .component => 2
  | .oneChar | .letter _ => 1

theorem Mark.rounds_le (m : Mark) : m.rounds ≤ m.written.length := by
  cases m with
  | anyText => decide
  | component => decide
  | oneChar => decide
  | letter c =>
    rw [written, spelled, escapeDot, rounds]
    split <;> simp

/-- A mark is read as its item. -/
theorem run_readItems_mark {s : ReadState} {m : Mark} {ms : List Mark} (h : Legal (m :: ms))
    (hleft : s.left = (m :: ms).flatMap Mark.written) (fuel : Nat) (first : Bool)
    (items : List Item) :
    (readItems (fuel + m.rounds) first caseless items).run s =
      (readItems fuel first caseless (m.item :: items)).run (s.passed m.written.length) := by
  obtain ⟨hrest, hlazy, hpossessive⟩ := ahead_written h.of_cons
  rw [List.flatMap_cons] at hleft
  cases m with
  | anyText =>
    have hleft : s.left = '.' :: '*' :: ms.flatMap Mark.written := hleft
    refine (run_readItems_dot (fuel + 1) first items hleft (by simp)).trans ?_
    have hstar := run_readItems_star fuel first items (s := s.passed 1)
      (by rw [ReadState.passed_left, hleft]; rfl) hrest hlazy hpossessive (.one inLine)
    rw [ReadState.passed_passed] at hstar
    exact hstar
  | component =>
    have hleft : s.left = '[' :: '^' :: '/' :: ']' :: '*' :: ms.flatMap Mark.written := hleft
    refine (run_readItems_slash (fuel + 1) first items hleft (by simp)).trans ?_
    have hstar := run_readItems_star fuel first items (s := s.passed 4)
      (by rw [ReadState.passed_left, hleft]; rfl) hrest hlazy hpossessive (.one inComponent)
    rw [ReadState.passed_passed] at hstar
    exact hstar
  | oneChar => exact run_readItems_slash _ _ _ hleft hrest
  | letter c =>
    rw [Mark.rounds]
    rw [Mark.written, Mark.spelled, escapeDot] at hleft ⊢
    split at hleft
    · rename_i hdot
      subst hdot
      exact run_readItems_escapedDot _ _ _ hleft hrest
    · rename_i hdot
      obtain ⟨hforeign, hstar, hquestion⟩ := h c (by simp)
      simp only [foreign, List.mem_cons, List.not_mem_nil, or_false, not_or] at hforeign
      rw [if_neg hdot]
      refine run_readItems_letter _ _ _ hleft hrest ?_
      simp [hforeign, hstar, hquestion, hdot]

/-- Marks are read as their items, one after another. -/
theorem run_readItems_marks {s : ReadState} {ms : List Mark} (h : Legal ms)
    (hleft : s.left = ms.flatMap Mark.written) {fuel : Nat} (hfuel : s.left.length ≤ fuel)
    (first : Bool) (items : List Item) :
    (readItems fuel first caseless items).run s =
      .ok (sequence (items.reverse.map Item.node ++ ms.map fun m => m.item.node),
        s.passed s.left.length) := by
  induction ms generalizing s fuel items with
  | nil =>
    have hnil : s.left = [] := hleft
    rw [run_readItems_nil _ _ _ _ hnil, hnil]
    simp
  | cons m ms ih =>
    have hrounds := m.rounds_le
    have hlen : s.left.length = m.written.length + (ms.flatMap Mark.written).length := by
      rw [hleft, List.flatMap_cons, List.length_append]
    obtain ⟨fewer, rfl⟩ : ∃ n, fuel = n + m.rounds := ⟨fuel - m.rounds, by omega⟩
    have hpassed : (s.passed m.written.length).left = ms.flatMap Mark.written := by
      rw [ReadState.passed_left, hleft, List.flatMap_cons, List.drop_left]
    rw [run_readItems_mark h hleft, ih h.of_cons hpassed (by rw [hpassed]; omega),
      ReadState.passed_passed, hpassed, ← hlen]
    simp

/-! ## The whole pattern -/

theorem checkLooks_sequence {nodes : List Node} (h : ∀ n ∈ nodes, n.checkLooks = .ok ()) :
    (sequence nodes).checkLooks = .ok () := by
  induction nodes with
  | nil => rfl
  | cons n rest ih =>
    have hrest := ih fun other hother => h other (by simp [hother])
    cases rest with
    | nil => exact h n (by simp)
    | cons next rest =>
      rw [Pattern.sequence, Node.checkLooks, h n (by simp)]
      · exact hrest
      · simp

/-- Without a further alternative, the items are the whole pattern. -/
theorem run_readAlternatives {s : ReadState} {ms : List Mark} (h : Legal ms)
    (hleft : s.left = ms.flatMap Mark.written) {fuel : Nat} (hfuel : s.left.length ≤ fuel)
    (top : Bool) :
    (readAlternatives (fuel + 2) top caseless).run s = .ok (nodeOf ms, s.passed s.left.length) := by
  have hbar : (takeIf '|').run (s.passed s.left.length) = .ok (false, s.passed s.left.length) :=
    run_takeIf_of_ne (by simp [tokenOf])
  have hfurther : (readFurther (fuel + 1) top caseless).run (s.passed s.left.length) =
      .ok ([], s.passed s.left.length) := by
    exact Read.run_bind_eq hbar
  have hitems := run_readItems_marks h hleft (show s.left.length ≤ fuel + 1 by omega) top []
  exact (Read.run_bind_eq hitems).trans (Read.run_bind_eq hfurther)

/-- A pattern that spells marks is read as their items. -/
theorem compile_of_written {pattern : String} {ms : List Mark} (h : Legal ms)
    (hpattern : pattern.toList = ms.flatMap Mark.written) :
    Pattern.compile pattern = .ok (nodeOf ms) := by
  obtain ⟨s, hs⟩ : ∃ s : ReadState,
      s = { pattern := pattern.toList, left := pattern.toList, flags := caseless } := ⟨_, rfl⟩
  have hleft : s.left = ms.flatMap Mark.written := by rw [hs, ← hpattern]
  have halternatives := run_readAlternatives h hleft
    (show s.left.length ≤ 2 * s.pattern.length by rw [hs]; dsimp only; omega) true
  have hread : readPattern.run s = .ok (nodeOf ms, s.passed s.left.length) := by
    rw [readPattern, Read.run_bind_eq (run_checkAhead (by rw [hleft]; exact (ahead_written h).1)),
      Read.run_bind_eq (run_get s), show s.flags = caseless by rw [hs],
      Read.run_bind_eq halternatives, Read.run_bind_eq (run_get _)]
    have hend : s.passed s.left.length =
        { pattern := pattern.toList, pos := s.left.length, left := [], flags := caseless } := by
      rw [ReadState.passed, List.drop_length, hs, Nat.zero_add]
    rw [hend]
    rfl
  have hlooks : (nodeOf ms).checkLooks = .ok () := by
    refine checkLooks_sequence fun node hnode => ?_
    obtain ⟨m, -, rfl⟩ := List.mem_map.mp hnode
    cases m <;> rfl
  rw [Pattern.compile]
  dsimp only
  rw [← hs, hread]
  show (do (nodeOf ms).checkLooks; return nodeOf ms) = _
  rw [hlooks]
  rfl

end Glob

end RuleAudit
