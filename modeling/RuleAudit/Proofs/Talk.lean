import RuleAudit.Auditor

/-!
# What is told while an auditor is set up

Setting up tells of loaded and of failed engines, in lines of the trace, of the console and of the
log. Nothing is routed, called or finished in it (`Auditor.isTalk_of_setUp`).
-/

namespace RuleAudit

/-- A notice that neither tells of routing nor of a run. -/
def Notice.IsTalk : Notice → Prop
  | .trace _ | .console .. | .log .. => True
  | _ => False

theorem Registry.isTalk_of_register (r : Registry) (e : Engine) :
    ∀ n ∈ (r.register e).2, n.IsTalk := by
  unfold Registry.register
  dsimp only
  split
  · exact fun n hn => List.mem_singleton.mp hn ▸ trivial
  · exact fun n hn => absurd hn List.not_mem_nil

theorem Extension.isTalk_of_factoriesFrom (found : Factories) (extensions : List Extension) :
    ∀ n ∈ (factoriesFrom found extensions).1, n.IsTalk := by
  induction extensions generalizing found with
  | nil => exact fun n hn => absurd hn List.not_mem_nil
  | cons ext rest ih =>
    unfold factoriesFrom
    split
    · split
      · exact List.forall_mem_cons.mpr ⟨trivial, ih found⟩
      · exact fun n hn => absurd hn List.not_mem_nil
    · exact List.forall_mem_cons.mpr ⟨trivial, ih found⟩
    · exact ih _

theorem Factories.isTalk_of_load (factories : Factories) (r : Registry) (ids : List String) :
    ∀ n ∈ (factories.load r ids).2.1, n.IsTalk := by
  induction ids generalizing r with
  | nil => exact fun n hn => absurd hn List.not_mem_nil
  | cons id rest ih =>
    unfold Factories.load
    split
    · exact List.forall_mem_cons.mpr ⟨trivial, ih r⟩
    · split
      · split
        · exact List.forall_mem_cons.mpr ⟨trivial, ih r⟩
        · exact fun n hn => absurd hn List.not_mem_nil
      · exact fun n hn => absurd hn List.not_mem_nil
      · rename_i e _
        exact List.forall_mem_append.mpr ⟨r.isTalk_of_register e, ih _⟩

theorem Routing.isTalk_of_route (r : Registry) (settings : Settings) (rules : List Rule) :
    ∀ n ∈ (route r settings rules).1, n.IsTalk := by
  unfold route
  generalize ({} : Plan) = plan
  induction rules generalizing plan with
  | nil => exact fun n hn => absurd hn List.not_mem_nil
  | cons rule rest ih =>
    unfold routeFrom
    split
    · exact fun n hn => absurd hn List.not_mem_nil
    · exact List.forall_mem_cons.mpr ⟨trivial, ih _⟩

theorem AuditStep.isTalk_of_andThen {α β : Type} {s : AuditStep α}
    {f : Auditor → α → AuditStep β} (h : ∀ n ∈ s.notices, n.IsTalk)
    (hnext : ∀ a x, ∀ n ∈ (f a x).notices, n.IsTalk) : ∀ n ∈ (s.andThen f).notices, n.IsTalk := by
  unfold AuditStep.andThen
  split
  · exact h
  · exact List.forall_mem_append.mpr ⟨h, hnext _ _⟩

namespace Auditor

theorem isTalk_of_warning (a : Auditor) (text : String) : ∀ n ∈ a.warning text, n.IsTalk := by
  unfold warning
  dsimp only
  split
  · exact fun n hn => absurd hn List.not_mem_nil
  · exact fun n hn => List.mem_singleton.mp hn ▸ trivial

theorem isTalk_of_reportSkipped (a : Auditor) (plan : Plan) (res : Resolution)
    (requested : Option String) : ∀ n ∈ a.reportSkipped plan res requested, n.IsTalk := by
  have hnone : ∀ n ∈ ([] : List Notice), n.IsTalk := fun n hn => absurd hn List.not_mem_nil
  unfold reportSkipped
  refine List.forall_mem_append.mpr ⟨List.forall_mem_append.mpr ⟨?_, ?_⟩, ?_⟩
  all_goals
    split
    · exact hnone
    · exact isTalk_of_warning a _

theorem isTalk_of_loadCatalog (tree : FileTree) (a : Auditor) :
    ∀ n ∈ (a.loadCatalog tree).notices, n.IsTalk := by
  unfold loadCatalog
  split
  · exact fun n hn => absurd hn List.not_mem_nil
  · split
    · exact a.isTalk_of_warning _
    · exact fun n hn => absurd hn List.not_mem_nil

theorem isTalk_of_factoriesInUse (a : Auditor) : ∀ n ∈ a.factoriesInUse.1, n.IsTalk := by
  unfold factoriesInUse
  split
  · exact Extension.isTalk_of_factoriesFrom [] a.extensions
  · exact fun n hn => absurd hn List.not_mem_nil

theorem isTalk_of_loadEngines (a : Auditor) : ∀ n ∈ a.loadEngines.notices, n.IsTalk := by
  have huse := a.isTalk_of_factoriesInUse
  unfold loadEngines
  split
  · exact fun n hn => absurd hn List.not_mem_nil
  · split
    · rename_i heq
      rwa [heq] at huse
    · rename_i factories heq
      rw [heq] at huse
      have hload := factories.isTalk_of_load a.registry a.settings.engines.enabled
      dsimp only
      split
      · exact List.forall_mem_append.mpr ⟨huse, hload⟩
      · refine List.forall_mem_append.mpr ⟨List.forall_mem_append.mpr ⟨huse, hload⟩, ?_⟩
        exact fun n hn => List.mem_singleton.mp hn ▸ trivial

theorem isTalk_of_setUpEngines (tree : FileTree) (a : Auditor) :
    ∀ n ∈ (a.setUpEngines tree).notices, n.IsTalk := by
  have hwarned : ∀ failures : List Fault,
      ∀ n ∈ failures.flatMap fun f => a.warning f.message, n.IsTalk := by
    intro failures n hn
    obtain ⟨f, -, hf⟩ := List.mem_flatMap.mp hn
    exact a.isTalk_of_warning _ n hf
  unfold setUpEngines
  dsimp only
  split
  · exact fun n hn => absurd hn List.not_mem_nil
  · split
    · exact hwarned _
    · refine List.forall_mem_append.mpr ⟨hwarned _, ?_⟩
      exact fun n hn => List.mem_singleton.mp hn ▸ trivial

/-- What is told while an auditor is set up is talk. -/
theorem isTalk_of_setUp (tree : FileTree) (a : Auditor) :
    ∀ n ∈ (a.setUp tree).notices, n.IsTalk := by
  unfold setUp
  split
  · exact fun n hn => absurd hn List.not_mem_nil
  · refine AuditStep.isTalk_of_andThen ?_ fun a _ => a.isTalk_of_setUpEngines tree
    exact AuditStep.isTalk_of_andThen (isTalk_of_loadCatalog tree _) fun a _ =>
      a.isTalk_of_loadEngines

end Auditor

end RuleAudit
