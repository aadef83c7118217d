import Mathlib.Data.List.Induction
import Mathlib.Data.List.TakeWhile
import RuleAudit.Proofs.Glob.Reading

/-!
# Globs exclude what they cover

A repetition of one character takes as many as it can and gives back one after the other, so the
rest of a pattern is tried after each run of characters that pass (`isSome_loopOne_greedy`). A mark
is therefore matched by the texts it stands for, in front of a place where the rest matches
(`Mark.isSome_run`), and marks by what they are read as (`isSome_run_nodeOf`).

With the translation and the reading of its text, a glob without foreign characters compiles, and it
excludes the paths whose texts it covers (`excludes_iff_covers`).
-/

namespace RuleAudit

namespace Pattern

/-! ## Repetitions of one character -/

/-- The cursor after some text. -/
def Cursor.past (c : Cursor) (part rest : List Char) : Cursor :=
  ⟨part.reverse ++ c.before, rest, c.index + part.length⟩

theorem Cursor.past_past (c : Cursor) (part more rest : List Char) :
    (c.past part (more ++ rest)).past more rest = c.past (part ++ more) rest := by
  simp [past, Nat.add_assoc]

theorem passOver_none (t : CharTest) (before : List Char) (index count : Nat) (cs : List Char) :
    passOver t none before index count cs =
      (⟨(cs.takeWhile t.passes).reverse ++ before, cs.dropWhile t.passes,
        index + (cs.takeWhile t.passes).length⟩, count + (cs.takeWhile t.passes).length) := by
  induction cs generalizing before index count with
  | nil => rfl
  | cons a cs ih =>
    rw [passOver, below, Bool.true_and]
    cases ha : t.passes a with
    | true =>
      rw [if_pos rfl, ih, List.takeWhile_cons_of_pos ha, List.dropWhile_cons_of_pos ha]
      simp [Nat.add_assoc, Nat.add_comm]
    | false =>
      rw [if_neg Bool.false_ne_true, List.takeWhile_cons_of_neg (by simp [ha]),
        List.dropWhile_cons_of_neg (by simp [ha])]
      rfl

/-- Giving back tries the rest after each front of what was passed over. -/
theorem isSome_giveBack (g : Groups) (k : Rest) (c : Cursor) (part rest : List Char) :
    (giveBack 0 g k part.length (c.past part rest)).isSome ↔
      ∃ front back, part = front ++ back ∧ (k (c.past front (back ++ rest)) g).isSome := by
  induction part using List.reverseRecOn generalizing rest with
  | nil => simp [giveBack]
  | append_singleton part a ih =>
    have hback : (c.past (part ++ [a]) rest).back? = some (c.past part (a :: rest)) := by
      simp [Cursor.past, Cursor.back?, ← Nat.add_assoc]
    have hstep : (giveBack 0 g k (part ++ [a]).length (c.past (part ++ [a]) rest)).isSome ↔
        (k (c.past (part ++ [a]) rest) g).isSome ∨
          (giveBack 0 g k part.length (c.past part (a :: rest))).isSome := by
      rw [List.length_append, List.length_singleton, giveBack, if_neg (by omega), hback]
      cases k (c.past (part ++ [a]) rest) g <;> simp
    rw [hstep, ih]
    constructor
    · rintro (hk | ⟨front, back, rfl, hk⟩)
      · exact ⟨part ++ [a], [], by simp, hk⟩
      · exact ⟨front, back ++ [a], by simp, by simpa using hk⟩
    · rintro ⟨front, back, hsplit, hk⟩
      rcases List.eq_nil_or_concat back with rfl | ⟨back, last, rfl⟩
      · rw [List.append_nil] at hsplit
        exact .inl (hsplit ▸ hk)
      · rw [List.concat_eq_append, ← List.append_assoc] at hsplit
        obtain ⟨rfl, hlast⟩ := List.append_inj' hsplit rfl
        cases hlast
        exact .inr ⟨front, back, rfl, by simpa using hk⟩

/-- A greedy repetition lets the rest be tried after every run of characters that pass. -/
theorem isSome_loopOne_greedy (t : CharTest) (c : Cursor) (g : Groups) (k : Rest) :
    (loopOne .greedy t 0 none c g k).isSome ↔ ∃ part rest, c.after = part ++ rest ∧
      (∀ a ∈ part, t.passes a = true) ∧ (k (c.past part rest) g).isSome := by
  have hloop : loopOne .greedy t 0 none c g k =
      giveBack 0 g k (c.after.takeWhile t.passes).length
        (c.past (c.after.takeWhile t.passes) (c.after.dropWhile t.passes)) := by
    rw [loopOne, passOver_none]
    dsimp only
    rw [Nat.zero_add]
    rfl
  rw [hloop, isSome_giveBack]
  constructor
  · rintro ⟨front, back, hsplit, hk⟩
    refine ⟨front, back ++ c.after.dropWhile t.passes, ?_, fun a ha => ?_, hk⟩
    · rw [← List.append_assoc, ← hsplit, List.takeWhile_append_dropWhile]
    · exact List.mem_takeWhile_imp (hsplit ▸ List.mem_append_left back ha)
  · rintro ⟨part, rest, hafter, hpasses, hk⟩
    refine ⟨part, rest.takeWhile t.passes, ?_, ?_⟩
    · rw [hafter, List.takeWhile_append_of_pos hpasses]
    · rwa [hafter, List.dropWhile_append_of_pos hpasses, List.takeWhile_append_dropWhile]

/-- A sequence runs its first part in front of the others. -/
theorem run_sequence_cons (n : Node) (rest : List Node) (c : Cursor) (g : Groups) (k : Rest) :
    (sequence (n :: rest)).run c g k =
      n.run c g fun c' g' => (sequence rest).run c' g' k := by
  cases rest with
  | nil => rfl
  | cons next rest => rfl

end Pattern

namespace Glob

open Pattern

/-! ## Marks -/

theorem passes_inLine (a : Char) : inLine.passes a = true ↔ a ≠ '\n' := by
  simp [inLine, CharTest.passes, SetItem.holds, Folding.apply, ← Char.toNat_inj]

theorem passes_inComponent (a : Char) : inComponent.passes a = true ↔ a ≠ '/' := by
  have htest : inComponent = ⟨true, .exact, [.code '/'.toNat]⟩ := by decide +kernel
  rw [htest]
  simp [CharTest.passes, SetItem.holds, Folding.apply, ← Char.toNat_inj]

/-- A test of one character lets the rest be tried after a character that passes. -/
theorem isSome_run_one (t : CharTest) (c : Cursor) (g : Groups) (k : Rest) :
    ((Node.one t).run c g k).isSome ↔ ∃ part rest, c.after = part ++ rest ∧
      (∃ a, part = [a] ∧ t.passes a = true) ∧ (k (c.past part rest) g).isSome := by
  unfold Node.run Cursor.next?
  cases hafter : c.after with
  | nil =>
    refine iff_of_false (by simp) ?_
    rintro ⟨_, rest, hsplit, ⟨a, rfl, -⟩, -⟩
    cases hsplit
  | cons a after =>
    dsimp only
    constructor
    · intro h
      split at h
      · exact ⟨[a], after, rfl, ⟨a, rfl, ‹_›⟩, h⟩
      · cases h
    · rintro ⟨_, rest, hsplit, ⟨b, rfl, hpasses⟩, hk⟩
      cases hsplit
      rwa [if_pos hpasses]

/-- A mark lets the rest be tried after every text it stands for. -/
theorem Mark.isSome_run (m : Mark) {c : Cursor} (hline : '\n' ∉ c.after) (g : Groups) (k : Rest) :
    (m.item.node.run c g k).isSome ↔ ∃ part rest, c.after = part ++ rest ∧ m.Reads part ∧
      (k (c.past part rest) g).isSome := by
  cases m with
  | anyText =>
    refine (isSome_loopOne_greedy inLine c g k).trans
      (exists₂_congr fun part rest => and_congr_right fun hafter => and_congr_left fun _ => ?_)
    refine iff_of_true (fun a ha => (passes_inLine a).mpr ?_) trivial
    rintro rfl
    exact hline (hafter ▸ List.mem_append_left rest ha)
  | component =>
    refine (isSome_loopOne_greedy inComponent c g k).trans
      (exists₂_congr fun part rest => and_congr_right fun _ => and_congr_left fun _ => ?_)
    simp only [passes_inComponent, Mark.Reads]
    exact ⟨fun h hmem => h '/' hmem rfl, fun h a ha heq => h (heq ▸ ha)⟩
  | oneChar =>
    refine (isSome_run_one inComponent c g k).trans ?_
    simp only [Mark.Reads, passes_inComponent]
  | letter a =>
    refine (isSome_run_one _ c g k).trans ?_
    simp only [Mark.Reads, CharTest.passes_ofCode_full]

/-- Marks let the rest be tried after every text they stand for. -/
theorem isSome_run_nodeOf (ms : List Mark) {c : Cursor} (hline : '\n' ∉ c.after) (g : Groups)
    (k : Rest) :
    ((nodeOf ms).run c g k).isSome ↔ ∃ part rest, c.after = part ++ rest ∧ Reads ms part ∧
      (k (c.past part rest) g).isSome := by
  induction ms generalizing c g with
  | nil => simp [nodeOf, Pattern.sequence, Node.run, Cursor.past]
  | cons m ms ih =>
    rw [nodeOf, List.map_cons, run_sequence_cons, m.isSome_run hline]
    constructor
    · rintro ⟨first, after, hafter, hfirst, hrest⟩
      have hline' : '\n' ∉ (c.past first after).after := fun hmem =>
        hline (hafter ▸ List.mem_append_right first hmem)
      obtain ⟨part, rest, rfl, hpart, hk⟩ := (ih hline' g).mp hrest
      rw [Cursor.past_past] at hk
      exact ⟨first ++ part, rest, by simp [hafter], ⟨first, part, rfl, hfirst, hpart⟩, hk⟩
    · rintro ⟨_, rest, hafter, ⟨first, part, rfl, hfirst, hpart⟩, hk⟩
      rw [List.append_assoc] at hafter
      have hline' : '\n' ∉ (c.past first (part ++ rest)).after := fun hmem =>
        hline (hafter ▸ List.mem_append_right first hmem)
      refine ⟨first, part ++ rest, hafter, hfirst, (ih hline' g).mpr ⟨part, rest, rfl, hpart, ?_⟩⟩
      rwa [Cursor.past_past]

theorem matchesStart_nodeOf (ms : List Mark) {text : List Char} (hline : '\n' ∉ text) :
    (nodeOf ms).matchesStart text = true ↔ ∃ part rest, text = part ++ rest ∧ Reads ms part := by
  have hrun := isSome_run_nodeOf ms (c := .start text) hline [] fun c g => some (c, g)
  unfold Node.matchesStart
  simpa [Cursor.start] using hrun

/-! ## Globs -/

theorem legal_marks {glob : String} (h : Plain glob) :
    Legal (padded (marks glob.toList)) := by
  intro c hc
  have hmarks : .letter c ∈ marks glob.toList := by
    have hopened : .letter c ∈ opened (marks glob.toList) := by
      rw [padded, closed] at hc
      split at hc
      · exact hc
      · simpa using hc
    rw [opened] at hopened
    split at hopened
    · exact hopened
    · simpa using hopened
  obtain ⟨hmem, hne⟩ := letter_of_mem_marks hmarks
  exact ⟨h c hmem, hne⟩

/-- A plain glob compiles to a pattern that matches what the glob covers. -/
theorem exists_compile {glob : String} (h : Plain glob) :
    ∃ node, compile glob = .ok node ∧
      ∀ text, '\n' ∉ text → (node.matchesStart text = true ↔ Covers glob text) := by
  have hnull : '\x00' ∉ glob.toList := fun hmem => h _ hmem (by decide)
  refine ⟨_, compile_of_written (legal_marks h) (toList_patternText hnull), fun text hline => ?_⟩
  rw [matchesStart_nodeOf _ hline, reads_padded_iff, Covers]

theorem newline_not_mem_target {p : FilePath} (h : '\n' ∉ p.text.toList) :
    '\n' ∉ (target p).toList := by
  unfold target
  dsimp only
  split
  · exact h
  · simpa using h

/-- Of several plain globs, the pattern of any may match. -/
theorem matchesAny_iff {globs : List String} (h : ∀ glob ∈ globs, Plain glob) {text : List Char}
    (hline : '\n' ∉ text) :
    ∃ answer, matchesAny text (globs.map compile) = .ok answer ∧
      (answer = true ↔ ∃ glob ∈ globs, Covers glob text) := by
  induction globs with
  | nil => exact ⟨false, rfl, by simp⟩
  | cons glob rest ih =>
    obtain ⟨node, hcompile, hmatches⟩ := exists_compile (h glob (by simp))
    obtain ⟨answer, hanswer, hiff⟩ := ih fun other hother => h other (by simp [hother])
    rw [List.map_cons, hcompile, matchesAny]
    cases hnode : node.matchesStart text with
    | true => exact ⟨true, rfl, by simp [(hmatches text hline).mp hnode]⟩
    | false =>
      have hnot : ¬ Covers glob text := fun hcovers => by
        rw [(hmatches text hline).mpr hcovers] at hnode
        cases hnode
      exact ⟨answer, hanswer, by simp [hiff, hnot]⟩

/-- A plain glob excludes the paths that it covers. -/
theorem excludes_iff_covers (glob : String) (p : FilePath) (hplain : Plain glob)
    (hline : '\n' ∉ p.text.toList) :
    (∃ node, compile glob = .ok node) ∧ ∃ answer, excludes [compile glob] p = .ok answer ∧
      (answer = true ↔ Covers glob (target p).toList) := by
  obtain ⟨node, hcompile, -⟩ := exists_compile hplain
  obtain ⟨answer, hanswer, hiff⟩ :=
    matchesAny_iff (List.forall_mem_singleton.mpr hplain) (newline_not_mem_target hline)
  exact ⟨⟨node, hcompile⟩, answer, hanswer, by simpa using hiff⟩

/-- Of three stars the first two are the pair, a dot is only a dot, and case does not count. -/
theorem excludes_build_scripts :
    let glob := "**/build***.?s"
    let paths := [("src/Build/a/b.TS", true), ("build.js", true), ("src/built.js", false),
      ("build/a-js", false)]
    Plain glob ∧ ∀ entry ∈ paths,
      '\n' ∉ (FilePath.ofText entry.1).text.toList ∧
        excludes [compile glob] (FilePath.ofText entry.1) = .ok entry.2 := by
  intro glob paths
  have hplain : Plain glob := by decide
  have hcovers : ∀ entry ∈ paths, '\n' ∉ (FilePath.ofText entry.1).text.toList ∧
      (Covers glob (target (FilePath.ofText entry.1)).toList ↔ entry.2 = true) := by
    decide +kernel
  refine ⟨hplain, fun entry hentry => ?_⟩
  obtain ⟨hline, hcovered⟩ := hcovers entry hentry
  obtain ⟨-, answer, hanswer, hiff⟩ :=
    excludes_iff_covers glob (FilePath.ofText entry.1) hplain hline
  refine ⟨hline, ?_⟩
  rw [hanswer, Bool.eq_iff_iff.mpr (hiff.trans hcovered)]

end Glob

end RuleAudit
