import RuleAudit.Proofs.Overlay
import RuleAudit.Value.JsonReader
import RuleAudit.Value.JsonWriter

/-!
# JSON that is read back

A value of words, texts, lists and tables is read back from the line of JSON that it is written as
(`Json.read_write`). The line spells the tokens of the value (`Spells`), whatever stands before it,
and these tokens take the reader from a place where a value may stand to the one behind that value
(`Reads`). Both are shown item by item and member by member, by induction on the value
(`exists_written`).
-/

namespace RuleAudit.Json

/-- Values without numbers and moments, in which no table has a key twice. -/
inductive Wordy : Value → Prop where
  | null : Wordy .null
  | bool (b : Bool) : Wordy (.bool b)
  | text (s : String) : Wordy (.text s)
  | list {items : List Value} (each : ∀ v ∈ items, Wordy v) : Wordy (.list items)
  | table {fields : Keyed Value} (keys : fields.keys.Nodup) (each : ∀ e ∈ fields, Wordy e.2) :
    Wordy (.table fields)

/-! ## Scanning -/

theorem tokens?_eq (cs : List Char) :
    tokens? cs = (cs.foldlM Scan.step {}).bind Scan.finish := by
  have hfold : ∀ (cs : List Char) (s : Option Scan),
      cs.foldl (fun s c => s.bind (·.step c)) s = s.bind fun s => cs.foldlM Scan.step s := by
    intro cs
    induction cs with
    | nil => exact fun s => by cases s <;> rfl
    | cons c rest ih =>
      intro s
      rw [List.foldl_cons, ih, Option.bind_assoc]
      rfl
  rw [tokens?, hfold]
  rfl

/-- A punctuation mark. -/
def IsMark (c : Char) : Prop :=
  c = '[' ∨ c = ']' ∨ c = '\x7b' ∨ c = '\x7d' ∨ c = ',' ∨ c = ':'

instance (c : Char) : Decidable (IsMark c) :=
  inferInstanceAs (Decidable (_ ∨ _))

/-- Some tokens have been scanned, last first, or will have been once the word at the end is over. -/
def Scan.Holds (tokens : List Token) (s : Scan) : Prop :=
  s = ⟨tokens, .between, none⟩ ∨
    ∃ chars before, s = ⟨before, .inWord chars, none⟩ ∧ tokens = .word chars.reverse :: before

theorem Scan.Holds.step_mark {tokens : List Token} {s : Scan} (h : s.Holds tokens) {c : Char}
    (hc : IsMark c) : s.step c = some ⟨.mark c :: tokens, .between, none⟩ := by
  have hplain : plain tokens c = some ⟨.mark c :: tokens, .between, none⟩ := by
    rcases hc with rfl | rfl | rfl | rfl | rfl | rfl <;> rfl
  have hword : isWordPart c = false := by
    rcases hc with rfl | rfl | rfl | rfl | rfl | rfl <;> rfl
  obtain rfl | ⟨chars, before, rfl, rfl⟩ := h
  · exact hplain
  · simp [Scan.step, hword, hplain]

theorem Scan.Holds.finish_eq {tokens : List Token} {s : Scan} (h : s.Holds tokens) :
    s.finish = some tokens.reverse := by
  obtain rfl | ⟨chars, before, rfl, rfl⟩ := h <;> rfl

/-- Characters that give some tokens wherever a token may begin. -/
def Spells (cs : List Char) (ts : List Token) : Prop :=
  ∀ before, ∃ s, cs.foldlM Scan.step ⟨before, .between, none⟩ = some s ∧
    s.Holds (ts.reverse ++ before)

theorem Spells.nil : Spells [] [] :=
  fun _ => ⟨_, rfl, .inl rfl⟩

theorem Spells.append_mark {cs cs' : List Char} {ts ts' : List Token} {c : Char} (h : Spells cs ts)
    (hc : IsMark c) (h' : Spells cs' ts') : Spells (cs ++ c :: cs') (ts ++ .mark c :: ts') := by
  intro before
  obtain ⟨s, hs, hholds⟩ := h before
  obtain ⟨s', hs', hholds'⟩ := h' (.mark c :: (ts.reverse ++ before))
  refine ⟨s', ?_, by simpa using hholds'⟩
  rw [List.foldlM_append, hs]
  show (s.step c).bind (fun s => cs'.foldlM Scan.step s) = some s'
  rw [hholds.step_mark hc]
  exact hs'

theorem Spells.mark_cons {cs : List Char} {ts : List Token} {c : Char} (hc : IsMark c)
    (h : Spells cs ts) : Spells (c :: cs) (.mark c :: ts) :=
  Spells.nil.append_mark hc h

theorem Spells.enclosed {cs : List Char} {ts : List Token} {c d : Char} (h : Spells cs ts)
    (hc : IsMark c) (hd : IsMark d) : Spells (c :: cs ++ [d]) (.mark c :: ts ++ [.mark d]) :=
  (h.mark_cons hc).append_mark hd .nil

/-! ## Strings -/

/-- The number that hexadecimal digits add to one in front of them. -/
def codeAfter? (value : Nat) (cs : List Char) : Option Nat :=
  cs.foldlM (fun value c => (hexValue? c).map (value * 16 + ·)) value

theorem foldlM_code {cs : List Char} {value code : Nat} (hcode : codeAfter? value cs = some code)
    (hne : cs ≠ []) (hlow : code < 0xD800) (before : List Token) (chars : List Char) :
    cs.foldlM Scan.step ⟨before, .inCode chars cs.length value, none⟩ =
      some ⟨before, .inString (Char.ofNat code :: chars), none⟩ := by
  induction cs generalizing value with
  | nil => exact absurd rfl hne
  | cons c rest ih =>
    unfold codeAfter? at hcode
    rw [List.foldlM_cons] at hcode
    obtain ⟨next, hnext, hrest⟩ := Option.bind_eq_some_iff.mp hcode
    obtain ⟨digit, hdigit, rfl⟩ := Option.map_eq_some_iff.mp hnext
    rw [List.foldlM_cons]
    cases rest with
    | nil =>
      obtain rfl : value * 16 + digit = code := Option.some.inj hrest
      have hsurrogate : ¬ 0xD800 ≤ value * 16 + digit := by omega
      have hlater : ¬ 0xDC00 ≤ value * 16 + digit := by omega
      simp [Scan.step, hdigit, addCode, hsurrogate, hlater]
    | cons d more =>
      simp only [Scan.step, hdigit, Option.map_some, List.length_cons]
      exact ih hrest (List.cons_ne_nil _ _)

/-- The codes that are written with four digits. -/
def longCodes : List Nat :=
  [0x7F, 0x85, 0x2028, 0x2029] ++ List.range 0x20

theorem codeAfter?_hexDigits : ∀ code ∈ longCodes,
    codeAfter? 0 (Text.hexDigits 4 code) = some code ∧ (Text.hexDigits 4 code).length = 4 ∧
      code < 0xD800 := by
  decide +kernel

/-- A character is written as an escape of one letter, as one of four digits, or as itself. -/
theorem escapeChar_cases (c : Char) :
    (∃ e, escapeChar c = ['\\', e] ∧ e ≠ 'u' ∧ shortEscape? e = some c) ∨
      (c.toNat ∈ longCodes ∧ escapeChar c = '\\' :: 'u' :: Text.hexDigits 4 c.toNat) ∨
      (escapeChar c = [c] ∧ c ≠ '"' ∧ c ≠ '\\' ∧ ¬ c.toNat < 0x20) := by
  by_cases hshort : c ∈ ['"', '\\', '\n', '\r', '\t', Char.ofNat 8, Char.ofNat 12]
  · left
    simp only [List.mem_cons, List.not_mem_nil, or_false] at hshort
    rcases hshort with rfl | rfl | rfl | rfl | rfl | rfl | rfl
    exacts [⟨'"', rfl, by decide, rfl⟩, ⟨'\\', rfl, by decide, rfl⟩, ⟨'n', rfl, by decide, rfl⟩,
      ⟨'r', rfl, by decide, rfl⟩, ⟨'t', rfl, by decide, rfl⟩, ⟨'b', rfl, by decide, rfl⟩,
      ⟨'f', rfl, by decide, rfl⟩]
  · right
    simp only [List.mem_cons, List.not_mem_nil, or_false, not_or] at hshort
    obtain ⟨hquote, hslash, hline, hreturn, htab, hback, hfeed⟩ := hshort
    have hchar : ∀ {d : Char}, c ≠ d → (c == d) = false := fun h => beq_eq_false_iff_ne.mpr h
    have hcode : ∀ {code : Nat}, c ≠ Char.ofNat code → (c.toNat == code) = false := by
      intro code h
      exact beq_eq_false_iff_ne.mpr fun heq => h (by rw [← heq, Char.ofNat_toNat])
    simp only [escapeChar, hchar hquote, hchar hslash, hchar hline, hchar hreturn, hchar htab,
      hcode hback, hcode hfeed, Bool.false_eq_true, if_false]
    split
    · rename_i hlong
      refine .inl ⟨?_, rfl⟩
      simp only [Bool.or_eq_true, decide_eq_true_eq, beq_iff_eq] at hlong
      simp only [longCodes, List.mem_append, List.mem_cons, List.not_mem_nil, List.mem_range]
      omega
    · rename_i hlong
      simp only [Bool.or_eq_true, decide_eq_true_eq, beq_iff_eq] at hlong
      exact .inr ⟨rfl, hquote, hslash, by omega⟩

/-- A character is scanned as itself. -/
theorem foldlM_escapeChar (c : Char) (before : List Token) (chars : List Char) :
    (escapeChar c).foldlM Scan.step ⟨before, .inString chars, none⟩ =
      some ⟨before, .inString (c :: chars), none⟩ := by
  obtain ⟨e, hescape, hlong, hshort⟩ | ⟨hcode, hescape⟩ | ⟨hself, hquote, hslash, hlow⟩ :=
    escapeChar_cases c
  · rw [hescape]
    simp [Scan.step, hlong, hshort, settle]
  · obtain ⟨hdigits, hlength, hlow⟩ := codeAfter?_hexDigits _ hcode
    have hne : Text.hexDigits 4 c.toNat ≠ [] := fun hnil => by
      rw [hnil] at hlength
      cases hlength
    have hfold := foldlM_code hdigits hne hlow before chars
    rw [hlength, Char.ofNat_toNat] at hfold
    rw [hescape]
    exact hfold
  · rw [hself]
    simp [Scan.step, hquote, hslash, hlow, settle]

theorem foldlM_flatMap_escapeChar (cs : List Char) (before : List Token) (chars : List Char) :
    (cs.flatMap escapeChar).foldlM Scan.step ⟨before, .inString chars, none⟩ =
      some ⟨before, .inString (cs.reverse ++ chars), none⟩ := by
  induction cs generalizing chars with
  | nil => rfl
  | cons c rest ih =>
    rw [List.flatMap_cons, List.foldlM_append, foldlM_escapeChar]
    exact (ih (c :: chars)).trans (by simp)

theorem spells_string (s : String) : Spells (string s).toList [.string s] := by
  intro before
  refine ⟨_, ?_, .inl rfl⟩
  rw [string, String.toList_ofList, List.cons_append, List.foldlM_cons]
  show ((s.toList.flatMap escapeChar ++ ['"']).foldlM Scan.step ⟨before, .inString [], none⟩) = _
  rw [List.foldlM_append, foldlM_flatMap_escapeChar]
  simp [Scan.step, settle]

/-! ## Reading tokens -/

theorem foldlM_joined {s s₁ s₂ s₃ : ReadState} {ts ts' : List Token} {t : Token}
    (h : ts.foldlM ReadState.step s = .ok s₁) (hstep : s₁.step t = .ok s₂)
    (h' : ts'.foldlM ReadState.step s₂ = .ok s₃) :
    (ts ++ t :: ts').foldlM ReadState.step s = .ok s₃ := by
  rw [List.foldlM_append, h]
  show (s₁.step t >>= fun s => ts'.foldlM ReadState.step s) = .ok s₃
  rw [hstep]
  exact h'

theorem foldlM_enclosed {s s₁ s₂ s₃ : ReadState} {ts : List Token} {t u : Token}
    (hopen : s.step t = .ok s₁) (h : ts.foldlM ReadState.step s₁ = .ok s₂)
    (hclose : s₂.step u = .ok s₃) : (t :: ts ++ [u]).foldlM ReadState.step s = .ok s₃ := by
  have hnil : ([] : List Token).foldlM ReadState.step s = .ok s := rfl
  exact foldlM_joined (foldlM_joined hnil hopen h) hclose rfl

/-- Tokens that take the reader from a place where a value may stand to the one behind the value. -/
def Reads (ts : List Token) (v : Value) : Prop :=
  ∀ frames expect, expect = .value ∨ expect = .valueOrEnd →
    ts.foldlM ReadState.step ⟨frames, expect, none⟩ = .ok (.deliver v frames)

/-! ## Words and texts -/

/-- A value is written as characters that spell tokens that are read as the value. -/
structure Written (v : Value) (cs : List Char) (ts : List Token) : Prop where
  writes : ∀ out, (writeTo out v).toList = out.toList ++ cs
  spells : Spells cs ts
  reads : Reads ts v

theorem written_null : Written .null "null".toList [.word "null".toList] where
  writes out := by simp [writeTo, scalar]
  spells before := ⟨_, rfl, .inr ⟨_, _, rfl, rfl⟩⟩
  reads := by
    rintro frames _ (rfl | rfl) <;> rfl

theorem written_bool (b : Bool) :
    Written (.bool b) (if b then "true" else "false").toList
      [.word (if b then "true" else "false").toList] where
  writes out := by simp [writeTo, scalar]
  spells before := by
    cases b <;> exact ⟨_, rfl, .inr ⟨_, _, rfl, rfl⟩⟩
  reads := by
    cases b <;> rintro frames _ (rfl | rfl) <;> rfl

theorem written_text (s : String) : Written (.text s) (string s).toList [.string s] where
  writes out := by simp [writeTo, scalar]
  spells := spells_string s
  reads := by
    rintro frames _ (rfl | rfl) <;> rfl

/-! ## Lists -/

/-- Items are written so that the reader of a list has them behind those it has read. -/
structure WrittenItems (items : List Value) (cs : List Char) (ts : List Token) : Prop where
  writes : ∀ out, (writeItems out items).toList = out.toList ++ cs
  spells : Spells cs ts
  reads : ∀ before frames expect, expect = .value ∨ expect = .valueOrEnd →
    ts.foldlM ReadState.step ⟨.list before :: frames, expect, none⟩ =
      .ok ⟨.list (items.reverse ++ before) :: frames, .next, none⟩

theorem exists_writtenItems {items : List Value} (hne : items ≠ [])
    (h : ∀ v ∈ items, ∃ cs ts, Written v cs ts) : ∃ cs ts, WrittenItems items cs ts := by
  induction items with
  | nil => exact absurd rfl hne
  | cons v rest ih =>
    obtain ⟨hv, hrest⟩ := List.forall_mem_cons.mp h
    obtain ⟨cs, ts, hwritten⟩ := hv
    cases rest with
    | nil =>
      refine ⟨cs, ts, hwritten.writes, hwritten.spells, ?_⟩
      intro before frames expect hexpect
      exact hwritten.reads (.list before :: frames) expect hexpect
    | cons next more =>
      obtain ⟨cs', ts', hmore⟩ := ih (List.cons_ne_nil _ _) hrest
      refine ⟨cs ++ ',' :: cs', ts ++ .mark ',' :: ts', fun out => ?_,
        hwritten.spells.append_mark (by decide) hmore.spells, ?_⟩
      · show (writeItems (writeTo out v ++ ",") (next :: more)).toList = _
        rw [hmore.writes, String.toList_append, hwritten.writes]
        simp
      · intro before frames expect hexpect
        rw [List.reverse_cons, List.append_assoc]
        exact foldlM_joined (hwritten.reads _ expect hexpect) rfl
          (hmore.reads (v :: before) frames .value (.inl rfl))

theorem exists_written_list {items : List Value} (h : ∀ v ∈ items, ∃ cs ts, Written v cs ts) :
    ∃ cs ts, Written (.list items) cs ts := by
  cases items with
  | nil =>
    refine ⟨_, _, fun out => by simp [writeTo, writeItems],
      Spells.nil.enclosed (c := '[') (d := ']') (by decide) (by decide), ?_⟩
    rintro frames _ (rfl | rfl) <;> rfl
  | cons first rest =>
    obtain ⟨cs, ts, hitems⟩ := exists_writtenItems (List.cons_ne_nil first rest) h
    refine ⟨_, _, fun out => ?_,
      hitems.spells.enclosed (c := '[') (d := ']') (by decide) (by decide), ?_⟩
    · rw [writeTo, String.toList_append, hitems.writes]
      simp
    · intro frames expect hexpect
      have hread := hitems.reads [] frames .valueOrEnd (.inr rfl)
      rw [List.append_nil] at hread
      have hclose : (Frame.list (first :: rest).reverse).close = .list (first :: rest) :=
        congrArg Value.list (List.reverse_reverse _)
      refine foldlM_enclosed ?_ hread ?_
      · obtain rfl | rfl := hexpect <;> rfl
      · rw [← hclose]
        rfl

/-! ## Tables -/

/-- Members are written so that the reader of a table puts them behind those it has read. -/
structure WrittenFields (fields : Keyed Value) (cs : List Char) (ts : List Token) : Prop where
  writes : ∀ out, (writeFields out fields).toList = out.toList ++ cs
  spells : Spells cs ts
  reads : ∀ before pending frames expect, expect = .key ∨ expect = .keyOrEnd →
    ts.foldlM ReadState.step ⟨.table before pending :: frames, expect, none⟩ =
      .ok ⟨.table (fields.foldl (fun m e => m.put e.1 e.2) before) "" :: frames, .next, none⟩

/-- A member is read into the table whose reader waits for a key. -/
theorem Written.member_reads {v : Value} {cs : List Char} {ts : List Token} (h : Written v cs ts)
    (k : String) (before : Keyed Value) (pending : String) (frames : List Frame) {expect : Expect}
    (hexpect : expect = .key ∨ expect = .keyOrEnd) :
    ([Token.string k] ++ .mark ':' :: ts).foldlM ReadState.step
        ⟨.table before pending :: frames, expect, none⟩ =
      .ok ⟨.table (before.put k v) "" :: frames, .next, none⟩ := by
  have hkey : [Token.string k].foldlM ReadState.step
      ⟨.table before pending :: frames, expect, none⟩ =
        .ok ⟨.table before k :: frames, .colon, none⟩ := by
    obtain rfl | rfl := hexpect <;> rfl
  exact foldlM_joined hkey rfl (h.reads (.table before k :: frames) .value (.inl rfl))

theorem exists_writtenFields {fields : Keyed Value} (hne : fields ≠ [])
    (h : ∀ e ∈ fields, ∃ cs ts, Written e.2 cs ts) : ∃ cs ts, WrittenFields fields cs ts := by
  induction fields with
  | nil => exact absurd rfl hne
  | cons e rest ih =>
    obtain ⟨hv, hrest⟩ := List.forall_mem_cons.mp h
    obtain ⟨k, v⟩ := e
    obtain ⟨cs, ts, hwritten⟩ := hv
    have hspells := (spells_string k).append_mark (c := ':') (by decide) hwritten.spells
    cases rest with
    | nil =>
      refine ⟨_, _, fun out => ?_, hspells, ?_⟩
      · rw [writeFields, hwritten.writes]
        simp
      · intro before pending frames expect hexpect
        exact hwritten.member_reads k before pending frames hexpect
    | cons next more =>
      obtain ⟨cs', ts', hmore⟩ := ih (List.cons_ne_nil _ _) hrest
      refine ⟨_, _, fun out => ?_, hspells.append_mark (c := ',') (by decide) hmore.spells, ?_⟩
      · show (writeFields (writeTo (out ++ string k ++ ":") v ++ ",") (next :: more)).toList = _
        rw [hmore.writes, String.toList_append, hwritten.writes]
        simp
      · intro before pending frames expect hexpect
        exact foldlM_joined (hwritten.member_reads k before pending frames hexpect) rfl
          (hmore.reads (before.put k v) "" frames .key (.inl rfl))

theorem exists_written_table {fields : Keyed Value} (keys : fields.keys.Nodup)
    (h : ∀ e ∈ fields, ∃ cs ts, Written e.2 cs ts) : ∃ cs ts, Written (.table fields) cs ts := by
  cases fields with
  | nil =>
    refine ⟨_, _, fun out => by simp [writeTo, writeFields],
      Spells.nil.enclosed (c := '\x7b') (d := '\x7d') (by decide) (by decide), ?_⟩
    rintro frames _ (rfl | rfl) <;> rfl
  | cons first rest =>
    obtain ⟨cs, ts, hfields⟩ := exists_writtenFields (List.cons_ne_nil first rest) h
    refine ⟨_, _, fun out => ?_,
      hfields.spells.enclosed (c := '\x7b') (d := '\x7d') (by decide) (by decide), ?_⟩
    · rw [writeTo, String.toList_append, hfields.writes]
      simp
    · intro frames expect hexpect
      have hmembers := hfields.reads [] "" frames .keyOrEnd (.inr rfl)
      rw [← Keyed.ofEntries, Keyed.ofEntries_of_nodup keys] at hmembers
      refine foldlM_enclosed ?_ hmembers rfl
      obtain rfl | rfl := hexpect <;> rfl

/-! ## Values -/

theorem exists_written {v : Value} (h : Wordy v) : ∃ cs ts, Written v cs ts := by
  induction h with
  | null => exact ⟨_, _, written_null⟩
  | bool b => exact ⟨_, _, written_bool b⟩
  | text s => exact ⟨_, _, written_text s⟩
  | list _ ih => exact exists_written_list ih
  | table keys _ ih => exact exists_written_table keys ih

/-- What is written is read back. -/
theorem read_write {v : Value} (h : Wordy v) : read (write v) = .ok v := by
  obtain ⟨cs, ts, hwritten⟩ := exists_written h
  obtain ⟨s, hs, hholds⟩ := hwritten.spells []
  have hchars : (write v).toList = cs := hwritten.writes ""
  have htokens : tokens? (write v).toList = some ts := by
    rw [tokens?_eq, hchars]
    show (cs.foldlM Scan.step ⟨[], .between, none⟩).bind Scan.finish = some ts
    rw [hs, Option.bind_some, hholds.finish_eq]
    simp
  have hread : ts.foldlM ReadState.step {} = .ok ⟨[], .next, some v⟩ :=
    hwritten.reads [] .value (.inl rfl)
  unfold read
  rw [htokens]
  dsimp only
  rw [hread]

end RuleAudit.Json
