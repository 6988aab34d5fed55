import OwnerKeys.AuthTag
import OwnerKeys.Machine
import OwnerKeys.SignatureList.Writing

/-!
# Requests

Keys are not enrolled or deleted at once. A request is staged: the keys are written to a pending
list beside an authentication tag, and the boot loader asks the operator to confirm the request with
the same password. This file holds the kinds of requests and the ways in which staging can fail.
-/

namespace OwnerKeys

/-- The kinds of requests. -/
inductive RequestKind where
  /-- Keys shall be enrolled. -/
  | enroll
  /-- Enrolled keys shall be deleted. -/
  | delete
deriving DecidableEq, Repr

namespace RequestKind

/-- The variable with the pending list. -/
def pendingVariable : RequestKind → Variable
  | enroll => .pendingEnrollment
  | delete => .pendingDeletion

/-- The variable with the tag of the pending list. -/
def tagVariable : RequestKind → Variable
  | enroll => .enrollmentTag
  | delete => .deletionTag

/-- Requests of different kinds have different pending lists. -/
@[simp]
theorem pendingVariable_inj {kind other : RequestKind} :
    kind.pendingVariable = other.pendingVariable ↔ kind = other := by
  cases kind with
  | enroll => cases other <;> decide
  | delete => cases other <;> decide

/-- Requests of different kinds have different tags. -/
@[simp]
theorem tagVariable_inj {kind other : RequestKind} :
    kind.tagVariable = other.tagVariable ↔ kind = other := by
  cases kind with
  | enroll => cases other <;> decide
  | delete => cases other <;> decide

/-- No variable holds both a list and a tag. -/
@[simp]
theorem pendingVariable_ne_tagVariable (kind other : RequestKind) :
    kind.pendingVariable ≠ other.tagVariable := by
  cases kind with
  | enroll => cases other <;> decide
  | delete => cases other <;> decide

end RequestKind

/-- The failure of a request. -/
inductive RequestError where
  /-- A variable that is needed does not exist. -/
  | notFound (var : Variable)
  /-- A variable could not be read. -/
  | read (var : Variable) (error : StoreError)
  /-- A variable could not be written. -/
  | write (var : Variable) (error : StoreError)
  /-- A variable could not be deleted. -/
  | delete (var : Variable) (error : StoreError)
  /-- The operator could not prove to know the password of a pending request. -/
  | authenticationFailed (var : Variable)
  /-- The operator gave up, or ran out of attempts. -/
  | userAborted
  /-- No answer could be read. -/
  | prompt (message : String)
  /-- The keys do not fit in a list. -/
  | encode (error : SignatureList.EncodeError)
deriving DecidableEq, Repr

namespace RequestError

/-- The variable that a failure is about. -/
def var? : RequestError → Option Variable
  | notFound var | read var _ | write var _ | delete var _ | authenticationFailed var => some var
  | userAborted | prompt _ | encode _ => none

/-- The wording of a failure. -/
def message : RequestError → String
  | notFound var => s!"variable {var.name} not found"
  | read var _ => s!"failed to read {var.name}"
  | write var _ => s!"failed to write {var.name}"
  | delete var _ => s!"failed to delete {var.name}"
  | authenticationFailed var => s!"failed to authenticate the pending request in {var.name}"
  | userAborted => "aborted"
  | prompt _ => "failed to read password"
  | encode _ => "failed to encode signature list"

/-- The wordings of the deeper causes of a failure. -/
def sources : RequestError → List String
  | read _ error | write _ error | delete _ error => error.message :: error.sources
  | prompt message => [message]
  | encode error => [error.message]
  | notFound _ | authenticationFailed _ | userAborted => []

end RequestError

end OwnerKeys
