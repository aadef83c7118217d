import Mathlib.Data.List.Basic
import RuleAudit.Proofs.Verdict
import RuleAudit.Rule

/-!
# Identifiers in normal form

An identifier without surrounding blanks and in upper case stays as it is when it is normalised
again (`Rule.normalizeId_normalizeId`). This rests on the case tables: what upper case gives is in
upper case and holds no blank (`clear_of_mem_upperRuns`, `clear_of_mem_upperExpansions`), and a
character that upper case leaves alone stays what it is. A rule is read field by field
(`Rule.ReadFrom`), and it has the identifier of its entry in normal form (`Rule.id_of_read`,
`Rule.normalizeId_id_of_read`).
-/

namespace RuleAudit

namespace Text

/-! ## Code points that upper case leaves alone -/

/-- A code point of a character that upper case leaves alone and that is no blank. -/
structure Settled (code : Nat) : Prop where
  valid : code.isValidChar
  moved : moveCode upperRuns code = code
  expanded : upperExpansions.find? (·.1 == code) = none
  blank : inRanges blankRanges code = false

/-- Whether ascending runs leave alone the code points `low, low + step, …, high`. -/
def missed (low high step : Nat) : List CaseRun → Bool
  | [] => true
  | run :: rest =>
    Nat.blt high run.first ||
      (Nat.blt run.last low ||
        ((Nat.beq step 2 || Nat.beq low high) && Nat.beq run.step 2 &&
          Nat.beq ((low + run.first) % 2) 1)) && missed low high step rest

/-- Whether the code points `low, low + step, …, high` are settled, found out by comparing ends. -/
def clear (low high step : Nat) : Bool :=
  missed low high step upperRuns &&
    (Nat.blt high 0xD800 || Nat.blt 0xDFFF low && Nat.blt high 0x110000) &&
    upperExpansions.all (fun entry => Nat.blt entry.1 low || Nat.blt high entry.1) &&
    blankRanges.all fun range => Nat.blt range.2 low || Nat.blt high range.1

theorem moveCode_eq_of_missed {low high step : Nat} {runs : List CaseRun}
    (h : missed low high step runs = true) {code : Nat} (hlow : low ≤ code) (hhigh : code ≤ high)
    (hstep : (code - low) % step = 0) : moveCode runs code = code := by
  induction runs with
  | nil => rfl
  | cons run rest ih =>
    unfold moveCode
    by_cases hbelow : code < run.first
    · rw [if_pos hbelow]
    · rw [if_neg hbelow]
      simp only [missed, Bool.or_eq_true, Bool.and_eq_true, Nat.blt_eq, Nat.beq_eq] at h
      obtain habove | ⟨hrun, hrest⟩ := h
      · omega
      · have hholds : run.holds code = false := by
          simp only [CaseRun.holds, Bool.and_eq_false_iff, decide_eq_false_iff_not,
            beq_eq_false_iff_ne]
          rcases hrun with hlast | ⟨⟨heven, hrunStep⟩, hparity⟩
          · exact .inl (.inr (by omega))
          · -- every second code point, and the run holds the others
            refine .inr ?_
            rw [hrunStep]
            rcases heven with rfl | rfl <;> omega
        rw [hholds]
        exact ih hrest

theorem settled_of_clear {low high step : Nat} (h : clear low high step = true) {code : Nat}
    (hlow : low ≤ code) (hhigh : code ≤ high) (hstep : (code - low) % step = 0) :
    Settled code := by
  simp only [clear, Bool.and_eq_true, List.all_eq_true, Bool.or_eq_true, Nat.blt_eq] at h
  obtain ⟨⟨⟨hmissed, hvalid⟩, hexpanded⟩, hblank⟩ := h
  refine ⟨?_, moveCode_eq_of_missed hmissed hlow hhigh hstep, ?_, ?_⟩
  · unfold Nat.isValidChar
    omega
  · rw [List.find?_eq_none]
    intro entry hentry heq
    have hends := hexpanded entry hentry
    rw [beq_iff_eq] at heq
    omega
  · cases hin : inRanges blankRanges code with
    | false => rfl
    | true =>
      obtain ⟨range, hrange, hfirst, hlast⟩ := exists_range_of_inRanges hin
      have hends := hblank range hrange
      omega

/-! ## The case tables -/

theorem clear_of_mem_upperRuns : ∀ run ∈ upperRuns,
    (decide (0 ≤ (run.first : Int) + run.shift) &&
      clear (run.move run.first) (run.move run.last) run.step) = true := by
  decide +kernel

theorem clear_of_mem_upperExpansions : ∀ entry ∈ upperExpansions,
    (!entry.2.isEmpty && entry.2.all fun code => clear code code 1) = true := by
  decide +kernel

theorem moveCode_eq_or_exists (runs : List CaseRun) (code : Nat) :
    moveCode runs code = code ∨
      ∃ run ∈ runs, run.holds code = true ∧ moveCode runs code = run.move code := by
  induction runs with
  | nil => exact .inl rfl
  | cons run rest ih =>
    unfold moveCode
    split
    · exact .inl rfl
    · split
      · rename_i hholds
        exact .inr ⟨run, by simp, hholds, rfl⟩
      · obtain hsame | ⟨other, hother, hholds, heq⟩ := ih
        · exact .inl hsame
        · exact .inr ⟨other, by simp [hother], hholds, heq⟩

/-- A run moves its code points to the ones between the images of its ends, in its own steps. -/
theorem CaseRun.move_between {run : CaseRun} (hshift : 0 ≤ (run.first : Int) + run.shift)
    {code : Nat} (hholds : run.holds code = true) :
    run.move run.first ≤ run.move code ∧ run.move code ≤ run.move run.last ∧
      (run.move code - run.move run.first) % run.step = 0 := by
  simp only [CaseRun.holds, Bool.and_eq_true, decide_eq_true_eq, beq_iff_eq] at hholds
  have hfirst : (run.move run.first : Int) = run.first + run.shift := Int.toNat_of_nonneg hshift
  have hcode : (run.move code : Int) = code + run.shift :=
    Int.toNat_of_nonneg (show 0 ≤ (code : Int) + run.shift by omega)
  have hlast : (run.move run.last : Int) = run.last + run.shift :=
    Int.toNat_of_nonneg (show 0 ≤ (run.last : Int) + run.shift by omega)
  refine ⟨by omega, by omega, ?_⟩
  rw [show run.move code - run.move run.first = code - run.first by omega]
  exact hholds.2

/-- A run moves its code points to settled ones. -/
theorem settled_move {run : CaseRun} (hrun : run ∈ upperRuns) {code : Nat}
    (hholds : run.holds code = true) : Settled (run.move code) := by
  have hclear := clear_of_mem_upperRuns run hrun
  rw [Bool.and_eq_true, decide_eq_true_iff] at hclear
  obtain ⟨hlow, hhigh, hstep⟩ := CaseRun.move_between hclear.1 hholds
  exact settled_of_clear hclear.2 hlow hhigh hstep

/-! ## Characters -/

theorem toNat_ofNat_of_settled {code : Nat} (h : Settled code) :
    (Char.ofNat code).toNat = code := by
  unfold Char.ofNat
  rw [dif_pos h.valid]
  rfl

theorem upperChar_of_settled {c : Char} (h : Settled c.toNat) : upperChar c = [c] := by
  rw [upperChar, h.expanded]
  dsimp only
  rw [h.moved, Char.ofNat_toNat]

/-- Upper case leaves a character alone or gives settled ones. -/
theorem upperChar_eq_or_settled (c : Char) :
    upperChar c = [c] ∨ (upperChar c ≠ [] ∧ ∀ d ∈ upperChar c, Settled d.toNat) := by
  unfold upperChar
  split
  · rename_i key codes hfind
    have hclear := clear_of_mem_upperExpansions _ (List.mem_of_find?_eq_some hfind)
    simp only [Bool.and_eq_true, Bool.not_eq_true', List.isEmpty_eq_false_iff,
      List.all_eq_true] at hclear
    refine .inr ⟨by simpa using hclear.1, ?_⟩
    intro d hd
    obtain ⟨code, hcode, rfl⟩ := List.mem_map.mp hd
    have hsettled : Settled code :=
      settled_of_clear (hclear.2 code hcode) (Nat.le_refl _) (Nat.le_refl _) (Nat.mod_one _)
    rwa [toNat_ofNat_of_settled hsettled]
  · obtain hsame | ⟨run, hrun, hholds, heq⟩ := moveCode_eq_or_exists upperRuns c.toNat
    · rw [hsame, Char.ofNat_toNat]
      exact .inl rfl
    · refine .inr ⟨by simp, ?_⟩
      intro d hd
      obtain rfl := List.mem_singleton.mp hd
      have hsettled := settled_move hrun hholds
      rw [heq, toNat_ofNat_of_settled hsettled]
      exact hsettled

theorem upperChar_ne_nil (c : Char) : upperChar c ≠ [] := by
  obtain h | ⟨h, -⟩ := upperChar_eq_or_settled c
  · rw [h]
    exact List.cons_ne_nil c []
  · exact h

theorem upperChar_flatMap (c : Char) : (upperChar c).flatMap upperChar = upperChar c := by
  obtain h | ⟨-, h⟩ := upperChar_eq_or_settled c
  · rw [h, List.flatMap_singleton, h]
  · have hself : ∀ cs : List Char, (∀ d ∈ cs, Settled d.toNat) → cs.flatMap upperChar = cs := by
      intro cs
      induction cs with
      | nil => exact fun _ => rfl
      | cons d rest ih =>
        intro hcs
        rw [List.flatMap_cons, upperChar_of_settled (hcs d (by simp)),
          ih fun other hother => hcs other (by simp [hother])]
        rfl
    exact hself _ h

/-- Upper case makes no blanks. -/
theorem not_isBlank_of_mem_upperChar {c d : Char} (hc : isBlank c = false) (hd : d ∈ upperChar c) :
    isBlank d = false := by
  obtain h | ⟨-, h⟩ := upperChar_eq_or_settled c
  · rw [h] at hd
    obtain rfl := List.mem_singleton.mp hd
    exact hc
  · exact (h d hd).blank

/-! ## Trimmed texts -/

/-- No blank at either end. -/
def Trimmed (cs : List Char) : Prop :=
  (∀ c, cs.head? = some c → isBlank c = false) ∧ ∀ c, cs.getLast? = some c → isBlank c = false

theorem dropWhile_eq_self {cs : List Char} (h : ∀ c, cs.head? = some c → isBlank c = false) :
    cs.dropWhile isBlank = cs := by
  cases cs with
  | nil => rfl
  | cons c rest => rw [List.dropWhile_cons_of_neg (by simp [h c rfl])]

theorem head?_dropWhile (cs : List Char) :
    ∀ c, (cs.dropWhile isBlank).head? = some c → isBlank c = false := by
  intro c hc
  have hnot := List.head?_dropWhile_not isBlank cs
  rw [hc] at hnot
  simpa using hnot

theorem trimChars_eq_self {cs : List Char} (h : Trimmed cs) : trimChars cs = cs := by
  rw [trimChars, dropWhile_eq_self h.1, dropTrailingBlanks, dropWhile_eq_self, List.reverse_reverse]
  intro c hc
  exact h.2 c (by rw [← List.head?_reverse, hc])

theorem trimmed_trimChars (cs : List Char) : Trimmed (trimChars cs) := by
  refine ⟨?_, ?_⟩
  · intro c hc
    -- what is left starts where the blanks in front end
    have hprefix : trimChars cs <+: cs.dropWhile isBlank := by
      rw [← List.reverse_suffix, trimChars, dropTrailingBlanks, List.reverse_reverse]
      exact List.dropWhile_suffix isBlank
    refine head?_dropWhile cs c ?_
    cases hcs : trimChars cs with
    | nil =>
      rw [hcs] at hc
      cases hc
    | cons d rest =>
      rw [hcs] at hc hprefix
      obtain ⟨more, hmore⟩ := hprefix
      rw [← hmore]
      exact hc
  · intro c hc
    rw [trimChars, dropTrailingBlanks, List.getLast?_reverse] at hc
    exact head?_dropWhile _ c hc

/-- Upper case leaves a trimmed text trimmed. -/
theorem trimmed_upper {cs : List Char} (h : Trimmed cs) : Trimmed (cs.flatMap upperChar) := by
  refine ⟨?_, ?_⟩
  · intro c hc
    cases cs with
    | nil => cases hc
    | cons d rest =>
      rw [List.flatMap_cons, List.head?_append_of_ne_nil _ (upperChar_ne_nil d)] at hc
      exact not_isBlank_of_mem_upperChar (h.1 d rfl) (List.mem_of_head? hc)
  · intro c hc
    rcases List.eq_nil_or_concat cs with rfl | ⟨rest, d, rfl⟩
    · cases hc
    · rw [List.concat_eq_append] at h hc
      rw [List.flatMap_append, List.flatMap_singleton,
        List.getLast?_append_of_ne_nil _ (upperChar_ne_nil d)] at hc
      exact not_isBlank_of_mem_upperChar (h.2 d (by simp)) (List.mem_of_getLast? hc)

theorem upper_upper (s : String) : upper (upper s) = upper s := by
  simp only [upper, String.toList_ofList, List.flatMap_assoc, upperChar_flatMap]

end Text

/-- An identifier in normal form stays as it is. -/
@[simp] theorem Rule.normalizeId_normalizeId (s : String) :
    Rule.normalizeId (Rule.normalizeId s) = Rule.normalizeId s := by
  have htrim : Text.trim (Rule.normalizeId s) = Rule.normalizeId s := by
    have htrimmed := Text.trimmed_upper (Text.trimmed_trimChars s.toList)
    simp only [Text.trim, Rule.normalizeId, Text.upper, String.toList_ofList,
      Text.trimChars_eq_self htrimmed]
  have hunfold : Rule.normalizeId (Rule.normalizeId s) =
      Text.upper (Text.trim (Rule.normalizeId s)) := rfl
  rw [hunfold, htrim]
  exact Text.upper_upper _

/-! ## Rules that are read -/

namespace Rule

/-- What each field of a rule is read from. -/
structure ReadFrom (fields : Keyed Value) (r : Rule) : Prop where
  id : Check.required fields "id" (fun v => .valid (normalizeId v.display)) = .valid r.id
  name : Check.optional fields "name" "" Check.text = .valid r.name
  description : Check.optional fields "description" "" Check.text = .valid r.description
  category : Check.optional fields "category" "quality" (fun v => .valid (categoryOf v)) =
    .valid r.category
  severity : Check.optional fields "severity" .warning checkSeverity = .valid r.severity
  languages : Check.optional fields "languages" ["javascript", "typescript"]
    (Check.sequence Check.text) = .valid r.languages
  principles : Check.optional fields "principles" [] (Check.sequence Check.text) =
    .valid r.principles
  analyzer : Check.optional fields "analyzer" none (Check.nullable Check.text) = .valid r.analyzer
  engines : Check.optional fields "engines" [] (Check.sequence Check.text) = .valid r.engines
  patterns : Check.optional fields "patterns" [] (Check.sequence Check.text) = .valid r.patterns
  message : Check.optional fields "message" none (Check.nullable Check.text) = .valid r.message
  version : Check.optional fields "version" "1.0.0" Check.text = .valid r.version
  status : Check.optional fields "status" "activated" Check.text = .valid r.status
  tags : Check.optional fields "tags" [] (Check.sequence Check.text) = .valid r.tags

theorem ofFields_eq_valid_iff {fields : Keyed Value} {r : Rule} :
    ofFields fields = .valid r ↔ ReadFrom fields r := by
  constructor
  · have hread : (ofFields fields).Ensures (ReadFrom fields) := by
      unfold ofFields
      dsimp only
      iterate 13 refine Verdict.Ensures.seq_valid ?_
      refine Verdict.Ensures.map ?_
      intro id hid name hname description hdescription category hcategory severity hseverity
        languages hlanguages principles hprinciples analyzer hanalyzer engines hengines patterns
        hpatterns message hmessage version hversion status hstatus tags htags
      exact ⟨hid, hname, hdescription, hcategory, hseverity, hlanguages, hprinciples, hanalyzer,
        hengines, hpatterns, hmessage, hversion, hstatus, htags⟩
    exact hread r
  · intro h
    simp only [ofFields, h.id, h.name, h.description, h.category, h.severity, h.languages,
      h.principles, h.analyzer, h.engines, h.patterns, h.message, h.version, h.status, h.tags]
    rfl

/-- The identifier of a rule is read from the field for it. -/
theorem ReadFrom.exists_id {fields : Keyed Value} {r : Rule} (h : ReadFrom fields r) :
    ∃ v, fields.get? "id" = some v ∧ r.id = normalizeId v.display := by
  have hid := h.id
  unfold Check.required at hid
  split at hid
  · rename_i v hv
    exact ⟨v, hv, (Verdict.valid.inj (Verdict.under_eq_valid_iff.mp hid)).symm⟩
  · cases hid

theorem get?_id_withName (fields : Keyed Value) :
    (withName fields).get? "id" = fields.get? "id" := by
  unfold withName
  dsimp only
  split
  · rfl
  · split <;> exact Keyed.get?_put_ne _ _ (by decide)

theorem ensures_withPrinciples (fields : Keyed Value) :
    (withPrinciples fields).Ensures fun completed => completed.get? "id" = fields.get? "id" := by
  unfold withPrinciples
  dsimp only
  split
  · exact Verdict.ensures_valid rfl
  · split
    · split
      · exact Verdict.ensures_valid (Keyed.get?_put_ne _ _ (by decide))
      · intro completed hcompleted
        cases hcompleted
    · exact Verdict.ensures_valid (Keyed.get?_put_ne _ _ (by decide))

/-- The identifier of a rule is that of its entry in normal form. -/
theorem id_of_read {fields : Keyed Value} {r : Rule} (h : read (.table fields) = .ok r) :
    ∃ v, fields.get? "id" = some v ∧ r.id = normalizeId v.display := by
  have hcheck : (check (.table fields)).Ensures fun r =>
      ∃ v, fields.get? "id" = some v ∧ r.id = normalizeId v.display := by
    refine (ensures_withPrinciples (withName fields)).andThen_of fun completed hcompleted r hr => ?_
    obtain ⟨v, hv, hid⟩ := (ofFields_eq_valid_iff.mp hr).exists_id
    exact ⟨v, (get?_id_withName fields) ▸ hcompleted ▸ hv, hid⟩
  unfold read at h
  exact hcheck.of_toExcept h

/-- The identifier of a rule that has been read is in normal form. -/
theorem normalizeId_id_of_read {v : Value} {r : Rule} (h : read v = .ok r) :
    normalizeId r.id = r.id := by
  have hcheck : (check v).Ensures fun r => normalizeId r.id = r.id := by
    refine Verdict.Ensures.model (fun _ => Verdict.Ensures.andThen _ fun completed r hr => ?_) v
    obtain ⟨given, -, hid⟩ := (ofFields_eq_valid_iff.mp hr).exists_id
    rw [hid, normalizeId_normalizeId]
  unfold read at h
  exact hcheck.of_toExcept h

end Rule

end RuleAudit
