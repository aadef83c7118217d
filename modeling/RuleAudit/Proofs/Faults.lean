import RuleAudit.Auditor
import RuleAudit.Proofs.Decision
import RuleAudit.Proofs.Run.Agreement

/-!
# Common faults

A fault is common when it can be handled where it arises and does not say that no engine is ready.
Whatever a catalog cannot be loaded for is a common fault (`Catalog.isCommon_of_load`), and so is
whatever a run fails with once the engines are set up (`Auditor.isCommon_of_runReady`).
-/

namespace RuleAudit

/-- Faults that can be handled where they arise, but for the one that no engine is ready. -/
def Fault.IsCommon : Fault → Prop
  | .plain .withdrawn _ | .noEngines _ => False
  | _ => True

theorem Fault.IsCommon.isOrdinary {f : Fault} (h : f.IsCommon) : f.isOrdinary = true := by
  unfold Fault.isOrdinary
  split
  · exact h.elim
  · rfl

theorem Fault.IsCommon.ne_noEngines {f : Fault} (h : f.IsCommon) (attempted : List String) :
    f ≠ .noEngines attempted := by
  rintro rfl
  exact h

theorem exists_of_map_eq_error {ε α β : Type} {x : Except ε α} {f : α → β} {e : ε}
    (h : x.map f = .error e) : x = .error e := by
  cases x with
  | error e' =>
    cases h
    rfl
  | ok a => cases h

/-- Two steps fail with the fault of the first, or of the second after the first. -/
theorem cases_of_bind_eq_error {ε α β : Type} {x : Except ε α} {f : α → Except ε β} {e : ε}
    (h : x >>= f = .error e) : x = .error e ∨ ∃ a, x = .ok a ∧ f a = .error e := by
  cases x with
  | error e' =>
    cases h
    exact .inl rfl
  | ok a => exact .inr ⟨a, rfl, h⟩

/-! ## Checks -/

namespace Verdict

variable {α β : Type}

/-- A check is broken off with common faults at most. -/
def BreaksCommon (v : Verdict α) : Prop :=
  ∀ f, v = .broken f → f.IsCommon

theorem breaksCommon_valid (a : α) : (valid a).BreaksCommon :=
  fun _ h => by cases h

theorem breaksCommon_issue (kind : IssueKind) : (issue (α := α) kind).BreaksCommon :=
  fun _ h => by cases h

theorem BreaksCommon.map {v : Verdict α} (h : v.BreaksCommon) (f : α → β) :
    (f <$> v).BreaksCommon := by
  intro fault hfault
  cases v with
  | valid a => cases hfault
  | flawed issues => cases hfault
  | broken other =>
    cases hfault
    exact h _ rfl

theorem BreaksCommon.seq {f : Verdict (α → β)} {v : Verdict α} (hf : f.BreaksCommon)
    (hv : v.BreaksCommon) : (f <*> v).BreaksCommon := by
  intro fault hfault
  cases f with
  | broken other =>
    cases hfault
    exact hf _ rfl
  | valid g =>
    cases v with
    | broken other =>
      cases hfault
      exact hv _ rfl
    | valid a => cases hfault
    | flawed issues => cases hfault
  | flawed issues =>
    cases v with
    | broken other =>
      cases hfault
      exact hv _ rfl
    | valid a => cases hfault
    | flawed more => cases hfault

theorem BreaksCommon.andThen {v : Verdict α} {f : α → Verdict β} (hv : v.BreaksCommon)
    (hf : ∀ a, (f a).BreaksCommon) : (v.andThen f).BreaksCommon := by
  cases v with
  | valid a => exact hf a
  | flawed issues => exact fun _ h => by cases h
  | broken fault =>
    intro other hother
    cases hother
    exact hv _ rfl

theorem BreaksCommon.under {v : Verdict α} (h : v.BreaksCommon) (step : Step) :
    (v.under step).BreaksCommon := by
  cases v with
  | valid a => exact h
  | flawed issues => exact fun _ hf => by cases hf
  | broken fault => exact h

theorem BreaksCommon.itemsFrom {check : α → Verdict β} (h : ∀ a, (check a).BreaksCommon) (i : Nat)
    (items : List α) : (itemsFrom check i items).BreaksCommon := by
  induction items generalizing i with
  | nil => exact breaksCommon_valid []
  | cons a rest ih => exact .seq (.map ((h a).under _) _) (ih (i + 1))

end Verdict

namespace Check

variable {α : Type} {check : Value → Verdict α}

theorem breaksCommon_required (fields : Keyed Value) (name : String)
    (h : ∀ v, (check v).BreaksCommon) : (required fields name check).BreaksCommon := by
  unfold required
  split
  · exact (h _).under _
  · exact (Verdict.breaksCommon_issue _).under _

theorem breaksCommon_optional (fields : Keyed Value) (name : String) (initial : α)
    (h : ∀ v, (check v).BreaksCommon) : (optional fields name initial check).BreaksCommon := by
  unfold optional
  split
  · exact (h _).under _
  · exact Verdict.breaksCommon_valid _

theorem breaksCommon_text (v : Value) : (text v).BreaksCommon := by
  unfold text
  split
  · exact Verdict.breaksCommon_valid _
  · exact Verdict.breaksCommon_issue _

theorem breaksCommon_sequence (h : ∀ v, (check v).BreaksCommon) (v : Value) :
    (sequence check v).BreaksCommon := by
  unfold sequence
  split
  · exact .itemsFrom h 0 _
  · exact Verdict.breaksCommon_issue _

theorem breaksCommon_nullable (h : ∀ v, (check v).BreaksCommon) (v : Value) :
    (nullable check v).BreaksCommon := by
  unfold nullable
  split
  · exact Verdict.breaksCommon_valid _
  · exact (h _).map _

theorem breaksCommon_member (ofWord? : String → Option α) (v : Value) :
    (member ofWord? v).BreaksCommon := by
  unfold member
  split
  · split
    · exact Verdict.breaksCommon_valid _
    · exact Verdict.breaksCommon_issue _
  · exact Verdict.breaksCommon_issue _

end Check

/-! ## Catalogs -/

namespace Rule

theorem breaksCommon_checkSeverity (v : Value) : (checkSeverity v).BreaksCommon := by
  unfold checkSeverity
  split
  · exact Verdict.breaksCommon_valid _
  · split
    · exact Verdict.breaksCommon_valid _
    · exact Verdict.breaksCommon_valid _
    · exact Check.breaksCommon_member _ _
  · exact Verdict.breaksCommon_issue _

theorem breaksCommon_ofFields (fields : Keyed Value) : (ofFields fields).BreaksCommon := by
  have htext (name initial : String) :=
    Check.breaksCommon_optional fields name initial Check.breaksCommon_text
  have htexts (name : String) (initial : List String) := Check.breaksCommon_optional fields name
    initial (Check.breaksCommon_sequence Check.breaksCommon_text)
  have hnullable (name : String) := Check.breaksCommon_optional fields name none
    (Check.breaksCommon_nullable Check.breaksCommon_text)
  have hid := Check.breaksCommon_required fields "id"
    fun v => Verdict.breaksCommon_valid (normalizeId v.display)
  have hcategory := Check.breaksCommon_optional fields "category" "quality"
    fun v => Verdict.breaksCommon_valid (categoryOf v)
  have hseverity := Check.breaksCommon_optional fields "severity" .warning
    breaksCommon_checkSeverity
  unfold ofFields
  exact .seq (.seq (.seq (.seq (.seq (.seq (.seq (.seq (.seq (.seq (.seq (.seq (.seq
    (.map hid _) (htext _ _)) (htext _ _)) hcategory) hseverity) (htexts _ _)) (htexts _ _))
    (hnullable _)) (htexts _ _)) (htexts _ _)) (hnullable _)) (htext _ _)) (htext _ _))
    (htexts _ _)

theorem breaksCommon_check (v : Value) : (check v).BreaksCommon := by
  unfold check Check.model
  split
  · refine .andThen ?_ breaksCommon_ofFields
    unfold withPrinciples
    dsimp only
    split
    · exact Verdict.breaksCommon_valid _
    · split
      · -- a category that is no text is the one thing that breaks the check off
        unfold Category.principlesOf
        split
        · exact Verdict.breaksCommon_valid _
        · rename_i fault hfault
          intro f hf
          cases hf
          split at hfault
          · split at hfault
            · cases hfault
            · cases hfault
              exact trivial
          · cases hfault
      · exact Verdict.breaksCommon_valid _
  · exact Verdict.breaksCommon_issue _

theorem isCommon_of_read {v : Value} {f : Fault} (h : read v = .error f) : f.IsCommon := by
  have hcheck := breaksCommon_check v
  unfold read at h
  cases hv : check v with
  | valid r =>
    rw [hv] at h
    cases h
  | flawed issues =>
    rw [hv] at h
    cases h
    exact trivial
  | broken fault =>
    rw [hv] at h
    cases h
    exact hcheck _ hv

end Rule

theorem RegistryEntry.isCommon_of_rule {source : String} {entry : RegistryEntry} {f : Fault}
    (h : entry.rule source = .error f) : f.IsCommon := by
  rcases cases_of_bind_eq_error h with hfields | ⟨fields, -, hread⟩
  · unfold RegistryEntry.fields at hfields
    split at hfields
    · cases hfields
    · cases hfields
      exact trivial
    · split at hfields
      · cases hfields
      · cases hfields
        exact trivial
    · cases hfields
      exact trivial
  · split at hread
    · cases hread
      exact trivial
    · exact Rule.isCommon_of_read hread

theorem isCommon_of_loadEntries {source : String} {loaded : Keyed Rule}
    {entries : List RegistryEntry} {f : Fault} (h : loadEntries source loaded entries = .error f) :
    f.IsCommon := by
  induction entries generalizing loaded with
  | nil => cases h
  | cons entry rest ih =>
    unfold loadEntries at h
    split at h
    · rename_i hentry
      cases h
      exact entry.isCommon_of_rule hentry
    · exact ih h

theorem isCommon_of_loadDocument {source : String} {document : Value} {f : Fault}
    (h : loadDocument source document = .error f) : f.IsCommon := by
  unfold loadDocument at h
  split at h
  · rename_i hentries
    cases h
    unfold registryEntries at hentries
    dsimp only at hentries
    split at hentries
    · cases hentries
    · cases hentries
    · cases hentries
      exact trivial
  · exact isCommon_of_loadEntries h

theorem FileTree.isCommon_of_entry {tree : FileTree} {p : FilePath} {f : Fault}
    (h : tree.entry p = .error f) : f.IsCommon := by
  unfold FileTree.entry at h
  split at h
  · cases h
    exact trivial
  · split at h
    · cases h
    · cases h
      exact trivial

theorem isCommon_of_readRegistry {tree : FileTree} {path : FilePath} {f : Fault}
    (h : readRegistry tree path = .error f) : f.IsCommon := by
  unfold readRegistry at h
  split at h
  · cases h
    exact trivial
  · cases h
    exact trivial
  · rename_i hfile
    cases h
    rcases cases_of_bind_eq_error hfile with hentry | ⟨entry, -, hcontent⟩
    · exact FileTree.isCommon_of_entry hentry
    · cases entry with
      | file content => cases hcontent
      | directory =>
        cases hcontent
        exact trivial
  · split at h
    · cases h
      exact trivial
    · split at h
      · cases h
      · cases h
        exact trivial
      · cases h
        exact trivial

/-- A catalog that cannot be loaded fails with a common fault. -/
theorem Catalog.isCommon_of_load {tree : FileTree} {c : Catalog} {f : Fault}
    (h : c.load tree = .error f) : f.IsCommon := by
  unfold Catalog.load at h
  split at h
  · cases h
  · have hread := exists_of_map_eq_error h
    unfold readSource at hread
    split at hread
    · cases hread
    · split at hread
      · rename_i hregistry
        cases hread
        exact isCommon_of_readRegistry hregistry
      · exact isCommon_of_loadDocument hread

/-! ## Runs -/

theorem isCommon_of_eligibleSize? {tree : FileTree} {limits : Limits}
    {globs : List (Except Pattern.CompileError Pattern.Node)} {p : FilePath} {f : Fault}
    (h : eligibleSize? tree limits globs p = .error f) : f.IsCommon := by
  unfold eligibleSize? at h
  split at h
  · cases h
    exact trivial
  · cases h
  · split at h
    · cases h
    · rename_i hsize
      cases h
      rcases cases_of_bind_eq_error hsize with hentry | ⟨entry, -, hcontent⟩
      · exact FileTree.isCommon_of_entry hentry
      · cases entry <;> cases hcontent
    · split at h <;> cases h

theorem isCommon_of_keepFrom {tree : FileTree} {limits : Limits}
    {globs : List (Except Pattern.CompileError Pattern.Node)} {count total : Nat}
    {files : List FilePath} {f : Fault}
    (h : keepFrom tree limits globs count total files = .error f) : f.IsCommon := by
  induction files generalizing count total with
  | nil => cases h
  | cons p rest ih =>
    unfold keepFrom at h
    split at h
    · rename_i hsize
      cases h
      exact isCommon_of_eligibleSize? hsize
    · exact ih h
    · split at h
      · split at h
        · cases h
        · rename_i hrest
          cases h
          exact ih hrest
      · cases h

theorem isCommon_of_batchesOf {setup : RunSetup} {groups : Keyed (List Rule)} {f : Fault}
    (h : batchesOf setup groups = .error f) : f.IsCommon := by
  induction groups with
  | nil => cases h
  | cons group rest ih =>
    rcases cases_of_bind_eq_error h with hcreate | ⟨first, -, hlater⟩
    · have hpartition := exists_of_map_eq_error hcreate
      unfold partition at hpartition
      split at hpartition
      · cases hpartition
        exact trivial
      · cases hpartition
    · rcases cases_of_bind_eq_error hlater with hrest | ⟨later, -, hdone⟩
      · exact ih hrest
      · cases hdone

theorem isCommon_of_execute {setup : RunSetup} {registry : Registry} {groups : Keyed (List Rule)}
    {f : Fault} (h : execute setup registry groups = .error f) : f.IsCommon := by
  cases hbatches : batchesOf setup groups with
  | error g =>
    rw [execute_of_error registry hbatches] at h
    cases h
    exact isCommon_of_batchesOf hbatches
  | ok batches =>
    obtain ⟨course, hcourse, -⟩ := unfolds_execute registry hbatches
    rw [hcourse] at h
    cases h

namespace Auditor

theorem isCommon_of_prepareWorkload {tree : FileTree} {limits : Limits} {files : List FilePath}
    {rules : Nat} {f : Fault} (h : prepareWorkload tree limits files rules = .error f) :
    f.IsCommon := by
  rcases cases_of_bind_eq_error h with hkept | ⟨kept, -, hrest⟩
  · unfold filterFiles at hkept
    split at hkept
    · exact isCommon_of_keepFrom hkept
    · cases hkept
  · rcases cases_of_bind_eq_error hrest with hmetrics | ⟨metrics, -, hdone⟩
    · have hcount := exists_of_map_eq_error hmetrics
      unfold batchCount at hcount
      dsimp only at hcount
      split at hcount
      · cases hcount
      · cases hcount
        exact trivial
    · cases hdone

/-- Once its engines are set up, an auditor fails with common faults only. -/
theorem isCommon_of_runReady {tree : FileTree} {a : Auditor} {files : List FilePath}
    {inputs : List RuleInput} {engine : Option String} {f : Fault}
    (h : (a.runReady tree files inputs engine).result = .error f) : f.IsCommon := by
  unfold runReady at h
  dsimp only at h
  split at h
  · rename_i hwork
    cases h
    exact isCommon_of_prepareWorkload hwork
  · split at h
    · rename_i hroute
      cases h
      obtain ⟨rfl, -⟩ := Routing.routeFrom_eq_error_iff.mp (congrArg Prod.snd hroute)
      exact trivial
    · unfold runPlan at h
      dsimp only at h
      split at h
      · rename_i hcourse
        cases h
        exact isCommon_of_execute hcourse
      · cases h

end Auditor

end RuleAudit
