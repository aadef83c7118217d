import RuleAudit.Proofs.Run.Service
import RuleAudit.Proofs.SetUp

/-!
# Engines stay under their own identifiers

Engines are put into a registry under their own identifiers only: when they are registered, when a
factory has built them, and when a set-up has changed them. So a registry that has every engine under
its own identifier before a set-up has it after the set-up (`Auditor.setUp_wellKeyed`).
-/

namespace RuleAudit

/-! ## Registries -/

namespace Registry

variable {r : Registry}

@[simp] theorem get?_remove_self (r : Registry) (id : String) : (r.remove id).get? id = none :=
  Keyed.get?_erase_self r.entries id

theorem get?_remove_ne (r : Registry) {id other : String} (h : other ≠ id) :
    (r.remove id).get? other = r.get? other :=
  Keyed.get?_erase_ne r.entries h

theorem ids_remove (r : Registry) (id : String) :
    (r.remove id).ids = r.ids.filter fun other => !(other == id) := by
  unfold remove Registry.ids Keyed.erase Keyed.keys
  rw [List.filter_map]
  rfl

theorem WellKeyed.remove (h : r.WellKeyed) (id : String) : (r.remove id).WellKeyed := by
  intro other e he
  by_cases hother : other = id
  · subst hother
    rw [get?_remove_self] at he
    cases he
  · rw [get?_remove_ne r hother] at he
    exact h other e he

theorem WellKeyed.setUp (h : r.WellKeyed) (tree : FileTree) (catalog : Catalog) (id : String)
    (settings : Keyed Value) : (r.setUp tree catalog id settings).2.1.WellKeyed := by
  unfold Registry.setUp
  split
  · exact h
  · split
    · exact h.update _
    · split
      · exact h.remove id
      · exact h.update _

theorem WellKeyed.setUpAll (tree : FileTree) (settings : Keyed (Keyed Value)) (h : r.WellKeyed)
    (catalog : Catalog) (ids : List String) :
    (Registry.setUpAll tree settings catalog r ids).2.1.WellKeyed := by
  induction ids generalizing catalog r with
  | nil => exact h
  | cons id rest ih =>
    have hfirst := h.setUp tree catalog id ((settings.get? id).getD [])
    unfold Registry.setUpAll
    split
    · rename_i heq
      rw [heq] at hfirst
      exact ih hfirst _
    · rename_i c r' f heq
      rw [heq] at hfirst
      have hrest := ih hfirst c
      split
      · split
        · rename_i heq'
          rwa [heq'] at hrest
        · exact hrest
      · exact hfirst

end Registry

end RuleAudit
