import OwnerKeys.Proofs.Machine.Frame
import OwnerKeys.Request.Query

/-!
# Queries only look

Whether a key is eligible is found out by reading key lists, whatever the reads find. Nothing is
written or deleted, and the operator is asked nothing.
-/

namespace OwnerKeys.Query

/-- The variables that are looked at in order to find out whether a key is eligible, in the order in
which they are read. -/
def consulted : RequestKind → List Variable
  | .enroll => trustedLists
  | .delete => [.enrolledKeys, .pendingDeletion]

variable {Store : Type}

theorem looks_note (notice : Notice) :
    (Action.note notice : Action Store Unit).Keeps Machine.Looks := by
  intro machine
  exact ⟨Machine.Adds.advance machine (by simp [Event.IsLook]), rfl⟩

variable [VariableStore Store]

theorem looks_readVariable (var : Variable) :
    (Action.readVariable var : Action Store _).Keeps Machine.Looks := by
  intro machine
  exact ⟨Machine.Adds.advance machine (by simp [Event.IsLook]), rfl⟩

theorem looks_readList (var : Variable) :
    (readList var : Action Store Bytes).Keeps Machine.Looks := by
  refine (looks_readVariable var).bind fun found => ?_
  split
  · exact Action.keeps_pure _
  · exact Action.keeps_pure _
  · exact (looks_note (.listUnreadable var)).bind fun _ => Action.keeps_pure _

theorem looks_listContains (var : Variable) (key : Bytes) :
    (listContains var key : Action Store Bool).Keeps Machine.Looks :=
  (looks_readList var).bind fun _ => Action.keeps_pure _

theorem looks_anyListContains (key : Bytes) (lists : List Variable) :
    (anyListContains key lists : Action Store Bool).Keeps Machine.Looks := by
  induction lists with
  | nil => exact Action.keeps_pure _
  | cons var later ih =>
      refine (looks_listContains var key).bind fun found => ?_
      split
      · exact Action.keeps_pure _
      · exact ih

/-- Finding out whether a key is eligible only looks at the store. -/
theorem looks_isEligible (kind : RequestKind) (key : Bytes) :
    (isEligible kind key : Action Store Bool).Keeps Machine.Looks := by
  cases kind with
  | enroll => exact (looks_anyListContains key trustedLists).bind fun _ => Action.keeps_pure _
  | delete =>
      refine (looks_listContains .enrolledKeys key).bind fun enrolled => ?_
      split
      · exact (looks_listContains .pendingDeletion key).bind fun _ => Action.keeps_pure _
      · exact Action.keeps_pure _

end OwnerKeys.Query
