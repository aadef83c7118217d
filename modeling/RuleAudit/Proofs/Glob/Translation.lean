import RuleAudit.Proofs.Glob.Marks

/-!
# How globs are written as patterns

Five replacements, one after the other, turn a glob into the text of a pattern. Seen through the
marks of the glob, each of them respells one kind of mark and leaves the others as they are
(`toList_core`). The stand-in for a pair of stars is told from the letters around it by its null
characters, so for a glob without any it comes out again where it was put in.

The text is then opened and closed with any text, unless it starts and ends so already. That is seen
on the first and on the last mark (`toList_patternText`), and marks padded like this are read where
the glob covers (`reads_padded_iff`).
-/

namespace RuleAudit

namespace Text

/-! ## Replacing -/

theorem replaceFrom_append (needle by_ skipped rest : List Char) :
    replaceFrom needle by_ skipped.length (skipped ++ rest) = replaceFrom needle by_ 0 rest := by
  induction skipped with
  | nil => rfl
  | cons c skipped ih => exact ih

theorem replaceChars_append_needle {needle : List Char} (h : needle ≠ []) (by_ rest : List Char) :
    replaceChars needle by_ (needle ++ rest) = by_ ++ replaceChars needle by_ rest := by
  obtain ⟨c, skipped, rfl⟩ := List.exists_cons_of_ne_nil h
  have hprefix : (c :: skipped).isPrefixOf (c :: (skipped ++ rest)) = true :=
    List.isPrefixOf_iff_prefix.mpr ⟨rest, rfl⟩
  rw [replaceChars, List.cons_append, replaceFrom, if_pos hprefix]
  exact congrArg (by_ ++ ·) (replaceFrom_append (c :: skipped) by_ skipped rest)

theorem replaceChars_cons_of_not_prefix {needle : List Char} {c : Char} {rest : List Char}
    (h : ¬ needle <+: c :: rest) (by_ : List Char) :
    replaceChars needle by_ (c :: rest) = c :: replaceChars needle by_ rest := by
  rw [replaceChars, replaceFrom, if_neg (by rwa [List.isPrefixOf_iff_prefix]), replaceChars]

/-- Characters that the needle does not start with stay. -/
theorem replaceChars_append_of_not_mem {first : Char} {front : List Char} (h : first ∉ front)
    (more by_ rest : List Char) :
    replaceChars (first :: more) by_ (front ++ rest) =
      front ++ replaceChars (first :: more) by_ rest := by
  induction front with
  | nil => rfl
  | cons c front ih =>
    have hnot : ¬ first :: more <+: c :: (front ++ rest) := by
      rw [List.cons_prefix_cons]
      rintro ⟨rfl, -⟩
      exact h (by simp)
    rw [List.cons_append, replaceChars_cons_of_not_prefix hnot,
      ih fun hmem => h (List.mem_cons_of_mem c hmem), List.cons_append]

theorem replaceChars_singleton (c : Char) (by_ cs : List Char) :
    replaceChars [c] by_ cs = cs.flatMap fun other => if other = c then by_ else [other] := by
  induction cs with
  | nil => rfl
  | cons other cs ih =>
    rw [List.flatMap_cons, ← ih]
    by_cases h : other = c
    · subst h
      rw [if_pos rfl]
      exact replaceChars_append_needle (by simp) by_ cs
    · rw [if_neg h]
      have hnot : c ∉ [other] := by simpa using Ne.symm h
      exact replaceChars_append_of_not_mem hnot [] by_ cs

/-- A character is replaced in each part of a text. -/
theorem replaceChars_flatMap {α : Type} {c : Char} {by_ : List Char} {parts : List α}
    {before after : α → List Char}
    (h : ∀ part ∈ parts, replaceChars [c] by_ (before part) = after part) :
    replaceChars [c] by_ (parts.flatMap before) = parts.flatMap after := by
  rw [replaceChars_singleton, List.flatMap_assoc]
  refine List.flatMap_congr fun part hpart => ?_
  rw [← h part hpart, replaceChars_singleton]

end Text

namespace Glob

/-! ## Spelling marks -/

/-- A character as it stands in a pattern once dots are escaped. -/
def escapeDot (c : Char) : List Char :=
  if c = '.' then ['\\', '.'] else [c]

theorem not_mem_escapeDot {c d : Char} (hescape : c ∉ ['\\', '.']) (hne : d ≠ c) :
    c ∉ escapeDot d := by
  rw [escapeDot]
  split
  · exact hescape
  · rwa [List.mem_singleton, eq_comm]

/-- A mark spelled with texts for the special ones. -/
def Mark.spelled (pair star question : String) : Mark → List Char
  | .anyText => pair.toList
  | .component => star.toList
  | .oneChar => question.toList
  | .letter c => escapeDot c

/-- A mark as it is written in a pattern. -/
abbrev Mark.written : Mark → List Char :=
  Mark.spelled ".*" "[^/]*" "[^/]"

/-- The letters of a glob stand in it, and are no stars or question marks. -/
theorem letter_of_mem_marks {cs : List Char} {c : Char} (h : .letter c ∈ marks cs) :
    c ∈ cs ∧ c ≠ '*' ∧ c ≠ '?' := by
  fun_induction marks cs with
  | case1 => cases h
  | case2 rest ih =>
    obtain ⟨hmem, hne⟩ := ih (by simpa using h)
    exact ⟨by simp [hmem], hne⟩
  | case3 rest _ ih =>
    obtain ⟨hmem, hne⟩ := ih (by simpa using h)
    exact ⟨by simp [hmem], hne⟩
  | case4 rest ih =>
    obtain ⟨hmem, hne⟩ := ih (by simpa using h)
    exact ⟨by simp [hmem], hne⟩
  | case5 other rest hpair hstar hquestion ih =>
    rcases List.mem_cons.mp h with heq | h
    · cases heq
      exact ⟨by simp, fun heq => hstar heq, fun heq => hquestion heq⟩
    · obtain ⟨hmem, hne⟩ := ih h
      exact ⟨by simp [hmem], hne⟩

/-- With dots escaped and a stand-in for pairs of stars. -/
theorem replaceChars_pair (standIn : String) (cs : List Char) :
    Text.replaceChars ['*', '*'] standIn.toList (Text.replaceChars ['.'] ['\\', '.'] cs) =
      (marks cs).flatMap (Mark.spelled standIn "*" "?") := by
  rw [Text.replaceChars_singleton]
  change Text.replaceChars ['*', '*'] standIn.toList (cs.flatMap escapeDot) = _
  fun_induction marks cs with
  | case1 => rfl
  | case2 rest ih =>
    show _ = standIn.toList ++ (marks rest).flatMap (Mark.spelled standIn "*" "?")
    rw [← ih]
    exact Text.replaceChars_append_needle (by simp) _ (rest.flatMap escapeDot)
  | case3 rest hpair ih =>
    show _ = ['*'] ++ (marks rest).flatMap (Mark.spelled standIn "*" "?")
    rw [← ih]
    refine Text.replaceChars_cons_of_not_prefix
      (?_ : ¬ ['*', '*'] <+: '*' :: rest.flatMap escapeDot) _
    -- what follows a star left over does not start with a star
    cases rest with
    | nil => decide
    | cons c rest =>
      have hc : c ≠ '*' := fun heq => hpair rest (by rw [heq])
      rw [List.flatMap_cons, escapeDot]
      split <;> simp [hc.symm]
  | case4 rest ih =>
    show _ = ['?'] ++ (marks rest).flatMap (Mark.spelled standIn "*" "?")
    rw [← ih]
    exact Text.replaceChars_append_of_not_mem (by decide) _ _ (rest.flatMap escapeDot)
  | case5 c rest hpair hstar hquestion ih =>
    show _ = escapeDot c ++ (marks rest).flatMap (Mark.spelled standIn "*" "?")
    rw [← ih]
    exact Text.replaceChars_append_of_not_mem (not_mem_escapeDot (by decide) hstar) _ _ _

/-- A null character starts the stand-in and nothing else. -/
theorem replaceChars_standIn {ms : List Mark} (h : ∀ c, .letter c ∈ ms → c ≠ '\x00')
    (pair : String) :
    Text.replaceChars doubleStar.toList pair.toList
        (ms.flatMap (Mark.spelled doubleStar "[^/]*" "?")) =
      ms.flatMap (Mark.spelled pair "[^/]*" "?") := by
  obtain ⟨more, hstandIn⟩ : ∃ more, doubleStar.toList = '\x00' :: more := ⟨_, rfl⟩
  induction ms with
  | nil => rfl
  | cons m ms ih =>
    rw [List.flatMap_cons, List.flatMap_cons, ← ih fun c hc => h c (by simp [hc])]
    by_cases hm : m = .anyText
    · subst hm
      exact Text.replaceChars_append_needle (by simp [hstandIn]) _ _
    · have hnull : '\x00' ∉ m.spelled doubleStar "[^/]*" "?" := by
        cases m with
        | anyText => exact absurd rfl hm
        | component => decide
        | oneChar => decide
        | letter c => exact not_mem_escapeDot (by decide) (h c (by simp))
      have hsame : m.spelled pair "[^/]*" "?" = m.spelled doubleStar "[^/]*" "?" := by
        cases m <;> first | rfl | exact absurd rfl hm
      rw [hsame, hstandIn]
      exact Text.replaceChars_append_of_not_mem hnull _ _ _

/-- A character that is no letter is replaced in what special marks are spelled with. -/
theorem replaceChars_spelled {c : Char} {by_ : List Char} {ms : List Mark}
    {pair star question pair' star' question' : String} (hescape : c ∉ ['\\', '.'])
    (hletter : ∀ d, .letter d ∈ ms → d ≠ c)
    (hpair : Text.replaceChars [c] by_ pair.toList = pair'.toList)
    (hstar : Text.replaceChars [c] by_ star.toList = star'.toList)
    (hquestion : Text.replaceChars [c] by_ question.toList = question'.toList) :
    Text.replaceChars [c] by_ (ms.flatMap (Mark.spelled pair star question)) =
      ms.flatMap (Mark.spelled pair' star' question') := by
  refine Text.replaceChars_flatMap fun m hm => ?_
  cases m with
  | anyText => exact hpair
  | component => exact hstar
  | oneChar => exact hquestion
  | letter d =>
    have hkept := Text.replaceChars_append_of_not_mem
      (not_mem_escapeDot hescape (hletter d hm)) [] by_ []
    rw [List.append_nil] at hkept
    exact hkept.trans (List.append_nil _)

/-- The text of a pattern without its padding spells the marks of the glob. -/
theorem toList_core {glob : String} (hnull : '\x00' ∉ glob.toList) :
    (core glob).toList = (marks glob.toList).flatMap Mark.written := by
  have hletter : ∀ c, .letter c ∈ marks glob.toList → c ≠ '\x00' ∧ c ≠ '*' ∧ c ≠ '?' := by
    intro c hc
    obtain ⟨hmem, hne⟩ := letter_of_mem_marks hc
    exact ⟨fun heq => hnull (heq ▸ hmem), hne⟩
  have hstar : Text.replaceChars ['*'] "[^/]*".toList
      ((marks glob.toList).flatMap (Mark.spelled doubleStar "*" "?")) =
        (marks glob.toList).flatMap (Mark.spelled doubleStar "[^/]*" "?") :=
    replaceChars_spelled (by decide) (fun c hc => (hletter c hc).2.1) (by decide) (by decide)
      (by decide)
  have hquestion : Text.replaceChars ['?'] "[^/]".toList
      ((marks glob.toList).flatMap (Mark.spelled ".*" "[^/]*" "?")) =
        (marks glob.toList).flatMap Mark.written :=
    replaceChars_spelled (by decide) (fun c hc => (hletter c hc).2.2) (by decide) (by decide)
      (by decide)
  unfold core Text.replaceAll
  simp only [String.toList_ofList]
  rw [show "**".toList = ['*', '*'] from rfl, show ".".toList = ['.'] from rfl,
    show "\\.".toList = ['\\', '.'] from rfl, replaceChars_pair, show "*".toList = ['*'] from rfl,
    hstar, replaceChars_standIn fun c hc => (hletter c hc).1, show "?".toList = ['?'] from rfl,
    hquestion]

/-! ## Padding -/

/-- Marks that start with any text. -/
def opened (ms : List Mark) : List Mark :=
  if ms.head? = some .anyText then ms else .anyText :: ms

/-- Marks that end with any text. -/
def closed (ms : List Mark) : List Mark :=
  if ms.getLast? = some .anyText then ms else ms ++ [.anyText]

/-- Marks with any text around them. -/
def padded (ms : List Mark) : List Mark :=
  closed (opened ms)

/-- What is written starts with a dot and a star only for any text. -/
theorem prefix_written_iff (ms : List Mark) :
    ['.', '*'] <+: ms.flatMap Mark.written ↔ ms.head? = some .anyText := by
  cases ms with
  | nil => simp
  | cons m ms =>
    rw [List.flatMap_cons, List.head?_cons, Option.some_inj]
    cases m with
    | anyText => simp [Mark.spelled]
    | component => simp [Mark.spelled]
    | oneChar => simp [Mark.spelled]
    | letter c =>
      rw [Mark.written, Mark.spelled, escapeDot]
      split
      · simp
      · rename_i hc
        simp [Ne.symm hc]

/-- What is written ends with a dot and a star only for any text. -/
theorem suffix_written_iff {ms : List Mark} (h : .letter '*' ∉ ms) :
    ['.', '*'] <:+ ms.flatMap Mark.written ↔ ms.getLast? = some .anyText := by
  rcases List.eq_nil_or_concat ms with rfl | ⟨init, m, rfl⟩
  · simp
  · rw [List.concat_eq_append, List.getLast?_concat, List.flatMap_append, List.flatMap_singleton,
      Option.some_inj]
    -- a short end of what is written lies within the last mark
    have hwithin : ∀ short : List Char, short.length ≤ m.written.length →
        short <:+ init.flatMap Mark.written ++ m.written → short <:+ m.written :=
      fun short hlen hsuffix =>
        List.suffix_of_suffix_length_le hsuffix (List.suffix_append _ _) hlen
    cases m with
    | anyText => simp [Mark.spelled]
    | component =>
      refine iff_of_false (fun hsuffix => ?_) (by simp)
      exact absurd (hwithin _ (by decide) hsuffix) (by decide)
    | oneChar =>
      refine iff_of_false (fun hsuffix => ?_) (by simp)
      exact absurd (hwithin _ (by decide) hsuffix) (by decide)
    | letter c =>
      refine iff_of_false (fun hsuffix => ?_) (by simp)
      have hstar : ['*'] <:+ escapeDot c :=
        hwithin _ (by rw [Mark.written, Mark.spelled, escapeDot]; split <;> simp)
          (List.IsSuffix.trans ⟨['.'], rfl⟩ hsuffix)
      rw [escapeDot] at hstar
      split at hstar
      · exact absurd hstar (by decide)
      · have hc : ['*'] = [c] := hstar.eq_of_length rfl
        cases hc
        simp at h

/-- The text of a glob's pattern spells the marks of the glob between any two texts. -/
theorem toList_patternText {glob : String} (hnull : '\x00' ∉ glob.toList) :
    (patternText glob).toList = (padded (marks glob.toList)).flatMap Mark.written := by
  have hcore := toList_core hnull
  have hstarts : (core glob).startsWith ".*" = true ↔
      (marks glob.toList).head? = some .anyText := by
    rw [String.startsWith_string_iff, hcore]
    exact prefix_written_iff _
  obtain ⟨front, hfront⟩ : ∃ front : String,
      front = if (core glob).startsWith ".*" then core glob else ".*" ++ core glob := ⟨_, rfl⟩
  have hpattern : patternText glob = if front.endsWith ".*" then front else front ++ ".*" := by
    rw [hfront, patternText]
  have hopened : front.toList = (opened (marks glob.toList)).flatMap Mark.written := by
    rw [hfront, opened]
    split
    · rename_i hstart
      rw [if_pos (hstarts.mp hstart), hcore]
    · rename_i hstart
      rw [if_neg fun hhead => hstart (hstarts.mpr hhead), String.toList_append, hcore]
      rfl
  have hletter : .letter '*' ∉ opened (marks glob.toList) := by
    have hmarks : .letter '*' ∉ marks glob.toList := fun hmem =>
      (letter_of_mem_marks hmem).2.1 rfl
    rw [opened]
    split
    · exact hmarks
    · simpa using hmarks
  have hends : front.endsWith ".*" = true ↔
      (opened (marks glob.toList)).getLast? = some .anyText := by
    rw [String.endsWith, String.Slice.endsWith_string_iff, String.copy_toSlice, hopened]
    exact suffix_written_iff hletter
  rw [hpattern, padded, closed]
  split
  · rename_i hend
    rw [if_pos (hends.mp hend), hopened]
  · rename_i hend
    rw [if_neg fun hlast => hend (hends.mpr hlast), String.toList_append, hopened,
      List.flatMap_append]
    rfl

/-! ## Reading padded marks -/

theorem reads_opened_iff (ms : List Mark) (part : List Char) :
    Reads (opened ms) part ↔ ∃ before rest, part = before ++ rest ∧ Reads ms rest := by
  rw [opened]
  split
  · rename_i hhead
    obtain ⟨ms, rfl⟩ := List.head?_eq_some_iff.mp hhead
    refine ⟨fun h => ⟨[], part, rfl, h⟩, ?_⟩
    rintro ⟨before, rest, rfl, hrest⟩
    obtain ⟨more, last, rfl, hlast⟩ := (reads_anyText_cons _ _).mp hrest
    exact (reads_anyText_cons _ _).mpr ⟨before ++ more, last, by simp, hlast⟩
  · exact reads_anyText_cons ms part

theorem reads_closed_iff (ms : List Mark) (part : List Char) :
    Reads (closed ms) part ↔ ∃ front after, part = front ++ after ∧ Reads ms front := by
  rw [closed]
  split
  · rename_i hlast
    obtain ⟨ms, rfl⟩ := List.getLast?_eq_some_iff.mp hlast
    refine ⟨fun h => ⟨part, [], by simp, h⟩, ?_⟩
    rintro ⟨front, after, rfl, hfront⟩
    obtain ⟨first, more, rfl, hfirst, -⟩ := (reads_append _ _ _).mp hfront
    exact (reads_append _ _ _).mpr ⟨first, more ++ after, by simp, hfirst, reads_anyText _⟩
  · simp [reads_append]

/-- Padded marks are read at the start of a text that the marks stand for a part of. -/
theorem reads_padded_iff (ms : List Mark) (text : List Char) :
    (∃ part rest, text = part ++ rest ∧ Reads (padded ms) part) ↔
      ∃ before part after, text = before ++ (part ++ after) ∧ Reads ms part := by
  constructor
  · rintro ⟨_, rest, rfl, hpadded⟩
    obtain ⟨front, after, rfl, hfront⟩ := (reads_closed_iff _ _).mp hpadded
    obtain ⟨before, part, rfl, hpart⟩ := (reads_opened_iff _ _).mp hfront
    exact ⟨before, part, after ++ rest, by simp, hpart⟩
  · rintro ⟨before, part, after, rfl, hpart⟩
    refine ⟨before ++ part ++ after, [], by simp, (reads_closed_iff _ _).mpr ?_⟩
    exact ⟨before ++ part, after, rfl, (reads_opened_iff _ _).mpr ⟨before, part, rfl, hpart⟩⟩

end Glob

end RuleAudit
