import RuleAudit.Glob
import RuleAudit.Proofs.Glob.Letters

/-!
# What globs mean

A glob is read from left to right as marks: a pair of stars is any text, a star left over any text
without a slash, a question mark one character that is no slash, and every other character a letter
(`marks`). `Reads` says which texts marks stand for, one mark after another, and a glob covers a
text if it stands for some part of it (`Covers`). Both can be decided.
-/

namespace RuleAudit.Glob

/-- What stands in a glob. -/
inductive Mark where
  | anyText
  | component
  | oneChar
  | letter (c : Char)
  deriving Repr, DecidableEq

/-- The marks of a glob; of several stars, the first two are a pair. -/
def marks : List Char → List Mark
  | [] => []
  | '*' :: '*' :: rest => .anyText :: marks rest
  | '*' :: rest => .component :: marks rest
  | '?' :: rest => .oneChar :: marks rest
  | c :: rest => .letter c :: marks rest

/-- The texts a mark stands for. -/
def Mark.Reads : Mark → List Char → Prop
  | .anyText, _ => True
  | .component, part => '/' ∉ part
  | .oneChar, part => ∃ c, part = [c] ∧ c ≠ '/'
  | .letter a, part => ∃ b, part = [b] ∧ Pattern.SameLetter a b

/-- The texts that marks stand for, one after another. -/
def Reads : List Mark → List Char → Prop
  | [], part => part = []
  | m :: ms, part => ∃ first rest, part = first ++ rest ∧ m.Reads first ∧ Reads ms rest

/-- A glob stands for some part of a text. -/
def Covers (glob : String) (text : List Char) : Prop :=
  ∃ before part after, text = before ++ (part ++ after) ∧ Reads (marks glob.toList) part

/-! ## Reading -/

@[simp] theorem reads_nil (part : List Char) : Reads [] part ↔ part = [] := Iff.rfl

theorem reads_cons (m : Mark) (ms : List Mark) (part : List Char) :
    Reads (m :: ms) part ↔ ∃ first rest, part = first ++ rest ∧ m.Reads first ∧ Reads ms rest :=
  Iff.rfl

theorem reads_append (ms ms' : List Mark) (part : List Char) :
    Reads (ms ++ ms') part ↔
      ∃ first rest, part = first ++ rest ∧ Reads ms first ∧ Reads ms' rest := by
  induction ms generalizing part with
  | nil => simp
  | cons m ms ih =>
    rw [List.cons_append, reads_cons]
    constructor
    · rintro ⟨head, tail, rfl, hhead, htail⟩
      obtain ⟨middle, rest, rfl, hmiddle, hrest⟩ := (ih tail).mp htail
      exact ⟨head ++ middle, rest, by simp, ⟨head, middle, rfl, hhead, hmiddle⟩, hrest⟩
    · rintro ⟨first, rest, rfl, ⟨head, middle, rfl, hhead, hmiddle⟩, hrest⟩
      have htail := (ih _).mpr ⟨middle, rest, rfl, hmiddle, hrest⟩
      exact ⟨head, middle ++ rest, by simp, hhead, htail⟩

@[simp] theorem reads_anyText (part : List Char) : Reads [.anyText] part :=
  ⟨part, [], by simp, trivial, rfl⟩

/-- Any text takes up what stands before the rest. -/
theorem reads_anyText_cons (ms : List Mark) (part : List Char) :
    Reads (.anyText :: ms) part ↔ ∃ before rest, part = before ++ rest ∧ Reads ms rest := by
  simp [reads_cons, Mark.Reads]

/-- A glob covers a text that its marks stand for between any two texts. -/
theorem covers_iff (glob : String) (text : List Char) :
    Covers glob text ↔ Reads (.anyText :: (marks glob.toList ++ [.anyText])) text := by
  rw [reads_anyText_cons]
  constructor
  · rintro ⟨before, part, after, rfl, hpart⟩
    exact ⟨before, part ++ after, rfl,
      (reads_append _ _ _).mpr ⟨part, after, rfl, hpart, reads_anyText after⟩⟩
  · rintro ⟨before, rest, rfl, hrest⟩
    obtain ⟨part, after, rfl, hpart, -⟩ := (reads_append _ _ _).mp hrest
    exact ⟨before, part, after, rfl, hpart⟩

/-! ## Deciding -/

instance : (m : Mark) → (part : List Char) → Decidable (m.Reads part)
  | .anyText, _ => .isTrue trivial
  | .component, part => inferInstanceAs (Decidable ('/' ∉ part))
  | .oneChar, [] => .isFalse (by rintro ⟨c, h, -⟩; cases h)
  | .oneChar, [c] => decidable_of_iff (c ≠ '/') (by simp [Mark.Reads])
  | .oneChar, _ :: _ :: _ => .isFalse (by rintro ⟨c, h, -⟩; cases h)
  | .letter _, [] => .isFalse (by rintro ⟨b, h, -⟩; cases h)
  | .letter a, [b] => decidable_of_iff (Pattern.SameLetter a b) (by simp [Mark.Reads])
  | .letter _, _ :: _ :: _ => .isFalse (by rintro ⟨b, h, -⟩; cases h)

theorem reads_cons_iff_exists_le (m : Mark) (ms : List Mark) (part : List Char) :
    Reads (m :: ms) part ↔ ∃ n ≤ part.length, m.Reads (part.take n) ∧ Reads ms (part.drop n) := by
  rw [reads_cons]
  constructor
  · rintro ⟨first, rest, rfl, hfirst, hrest⟩
    exact ⟨first.length, by simp, by simpa using hfirst, by simpa using hrest⟩
  · rintro ⟨n, -, hfirst, hrest⟩
    exact ⟨part.take n, part.drop n, (List.take_append_drop n part).symm, hfirst, hrest⟩

instance decidableReads : (ms : List Mark) → (part : List Char) → Decidable (Reads ms part)
  | [], part => inferInstanceAs (Decidable (part = []))
  | m :: ms, part =>
    have := fun rest => decidableReads ms rest
    decidable_of_iff _ (reads_cons_iff_exists_le m ms part).symm

instance (glob : String) (text : List Char) : Decidable (Covers glob text) :=
  decidable_of_iff _ (covers_iff glob text).symm

/-- Of three stars the first two are the pair: the third stays within a component. -/
example : Covers "a***.ts" "/src/A/b/c.TS".toList ∧ ¬ Covers "/*.ts" "/src/c.js".toList := by
  decide +kernel

end RuleAudit.Glob
