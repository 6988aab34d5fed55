import OwnerKeys.Request
import OwnerKeys.SignatureList.Reading

/-!
# Queries of key lists

A key list that does not exist is empty. So is one that cannot be read, lest a single broken
firmware database keep the operator from staging requests; only `readExistingList` insists on a
list.

A key may be enrolled unless it is already trusted, or about to be, through one of the
`trustedLists`. A key may be deleted if it is enrolled and its deletion is not pending yet.
-/

namespace OwnerKeys.Query

variable {Store : Type} [VariableStore Store]

/-- The key list in a variable. -/
def readList (var : Variable) : Action Store Bytes := do
  match ← Action.readVariable var with
  | .ok (some value) => return value.data
  | .ok none => return []
  | .error _ =>
    Action.note (.listUnreadable var)
    return []

/-- The key list in a variable that has to exist. -/
def readExistingList (var : Variable) : Attempt Store RequestError Bytes := do
  match ← perform (Action.readVariable var) with
  | .ok (some value) => return value.data
  | .ok none => throw (.notFound var)
  | .error error => throw (.read var error)

/-- Whether the key list in a variable has a given key. -/
def listContains (var : Variable) (key : Bytes) : Action Store Bool := do
  return (SignatureList.decode (← readList var)).contains key

/-- Whether the first of several lists to have a given key exists; lists after it are not read. -/
def anyListContains (key : Bytes) : List Variable → Action Store Bool
  | [] => return false
  | var :: later => do
    if ← listContains var key then
      return true
    else
      anyListContains key later

/-- The lists through which a key is trusted or about to be trusted. -/
def trustedLists : List Variable :=
  [.platformKey, .keyExchangeKeys, .signatureDatabase, .enrolledKeys, .pendingEnrollment]

/-- Whether a key is trusted or about to be trusted. -/
def isEnrolled (key : Bytes) : Action Store Bool :=
  anyListContains key trustedLists

/-- Whether the enrollment of a key may be requested. That its deletion is pending does not matter:
it may be enrolled again. -/
def isEligibleForEnrollment (key : Bytes) : Action Store Bool := do
  return !(← isEnrolled key)

/-- Whether the deletion of a key may be requested. -/
def isEligibleForDeletion (key : Bytes) : Action Store Bool := do
  if ← listContains .enrolledKeys key then
    return !(← listContains .pendingDeletion key)
  else
    return false

/-- Whether a key may be part of a request of a kind. -/
def isEligible (kind : RequestKind) (key : Bytes) : Action Store Bool :=
  match kind with
  | .enroll => isEligibleForEnrollment key
  | .delete => isEligibleForDeletion key

end OwnerKeys.Query
