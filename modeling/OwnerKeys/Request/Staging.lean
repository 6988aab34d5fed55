import OwnerKeys.Certificate
import OwnerKeys.Request.Dialogue
import OwnerKeys.Request.Query

/-!
# Staging of requests

`issue` stages candidates for enrollment or deletion. Candidates that are not eligible, or that
occur twice, are skipped. If a request of the same kind is pending already, the operator must first
prove to know its password; then the new keys are put in front of the pending list. A new password
is asked for in any case, and the list is stored before the tag that binds it to that password.

`reset` stages an empty list, and `revoke` takes a pending request back.
-/

namespace OwnerKeys

/-- A key that shall be part of a request. -/
structure Candidate where
  /-- The name by which the operator knows the key. -/
  name : String
  /-- The key. -/
  data : Bytes
deriving DecidableEq, Repr

/-- The outcome of staging candidates. -/
structure RequestReport where
  /-- The names of the candidates that are part of the pending list now. -/
  accepted : List String
  /-- The names of the candidates that were skipped. -/
  skipped : List String
  /-- The size of the pending list, if there was anything to stage. -/
  committedLength : Option Nat
deriving DecidableEq, Repr

namespace Staging

variable {Store : Type} [VariableStore Store]

/-- Reaches a phase. -/
def enter (phase : Phase) : Attempt Store RequestError Unit :=
  perform (Action.emit (.entered phase))

/-- An attempt after whose failure the request counts as aborted. -/
def abortOnFailure {Result : Type} (attempt : Attempt Store RequestError Result) :
    Attempt Store RequestError Result :=
  tryCatch attempt fun error => do
    enter .aborted
    throw error

/-- Tells eligible candidates from those to skip. A candidate is skipped without a look at the store
when its key was accepted before. Gives the accepted candidates and the names of the others. -/
def assess (kind : RequestKind) (accepted : List Candidate) (skipped : List String) :
    List Candidate → Action Store (List Candidate × List String)
  | [] => return (accepted, skipped)
  | candidate :: later => do
    if !Certificate.isValid candidate.data then
      Action.note (.notCertificate candidate.name)
    if accepted.any (·.data == candidate.data) then
      assess kind accepted (skipped ++ [candidate.name]) later
    else if ← Query.isEligible kind candidate.data then
      assess kind (accepted ++ [candidate]) skipped later
    else
      assess kind accepted (skipped ++ [candidate.name]) later

/-- The pending list, after the operator has proved to know its password. -/
def authenticatePrior (kind : RequestKind) : Attempt Store RequestError (Option Bytes) := do
  match ← perform (Action.readVariable kind.pendingVariable) with
  | .error error => throw (.read kind.pendingVariable error)
  | .ok none =>
    enter .priorRequestAbsent
    return none
  | .ok (some pending) =>
    match ← perform (Action.readVariable kind.tagVariable) with
    | .error error => throw (.read kind.tagVariable error)
    | .ok stored =>
      match stored.bind fun value => AuthTag.ofBytes? value.data with
      | none =>
        perform (Action.note (.tagUnusable kind.tagVariable))
        throw (.authenticationFailed kind.pendingVariable)
      | some tag =>
        if ← Dialogue.challenge tag (some pending.data) then
          enter .priorRequestAuthenticated
          return some pending.data
        else
          throw (.authenticationFailed kind.pendingVariable)

/-- Stores the list of a request, or removes it if the request has none. -/
def storeList (kind : RequestKind) (list : Option Bytes) : Attempt Store RequestError Unit := do
  match list with
  | some bytes =>
    match ← perform (Action.writeVariable kind.pendingVariable ⟨.standard, bytes⟩) with
    | .ok () => return ()
    | .error error => throw (.write kind.pendingVariable error)
  | none =>
    match ← perform (Action.deleteVariable kind.pendingVariable) with
    | .ok _ => return ()
    | .error error => throw (.delete kind.pendingVariable error)

/-- Stores the tag of a request. When that fails the list is removed, for a list must not stay
behind without the tag that belongs to it. -/
def storeTag (kind : RequestKind) (tag : AuthTag) : Attempt Store RequestError Unit := do
  match ← perform (Action.writeVariable kind.tagVariable ⟨.standard, tag.toBytes⟩) with
  | .ok () => return ()
  | .error error =>
    match ← perform (Action.deleteVariable kind.pendingVariable) with
    | .ok _ => pure ()
    | .error _ => perform (Action.note (.rollbackFailed kind.pendingVariable))
    throw (.write kind.tagVariable error)

/-- Asks for a new password and stores a list with the tag that the password gives it. -/
def signAndCommit (kind : RequestKind) (list : Option Bytes) :
    Attempt Store RequestError Unit := do
  let password ← Dialogue.newPassword
  let tag := AuthTag.derive list password
  enter .signed
  storeList kind list
  storeTag kind tag
  enter .committed
  perform (Action.note (.requestStaged kind.pendingVariable ((list.map List.length).getD 0)))

/-- The pending list that results from accepted keys and the list that was pending before. -/
def mergedList (accepted : List Candidate) (prior : Option Bytes) :
    Except SignatureList.EncodeError Bytes := do
  let list ← SignatureList.encode (accepted.map (·.data)) Variable.shimVendor
  return list ++ prior.getD []

/-- Stages candidates, without regard to what a failure means for the phase. -/
def issueSteps (kind : RequestKind) (candidates : List Candidate) :
    Attempt Store RequestError RequestReport := do
  let (accepted, skipped) ← perform (assess kind [] [] candidates)
  enter .candidatesValidated
  if accepted.isEmpty then
    perform (Action.note .nothingToDo)
    return ⟨[], skipped, none⟩
  else
    let prior ← authenticatePrior kind
    match mergedList accepted prior with
    | .error error => throw (.encode error)
    | .ok list =>
      enter .merged
      signAndCommit kind (some list)
      return ⟨accepted.map (·.name), skipped, some list.length⟩

/-- Stages candidates. Either every eligible candidate is staged or nothing is. -/
def issue (kind : RequestKind) (candidates : List Candidate) :
    Attempt Store RequestError RequestReport :=
  abortOnFailure (issueSteps kind candidates)

/-- Stages an empty list in place of any pending request. For enrollment this asks the boot loader
to forget all enrolled keys. -/
def reset (kind : RequestKind) : Attempt Store RequestError Unit := do
  enter .merged
  abortOnFailure (signAndCommit kind none)

/-- Deletes a variable, and says whether it existed. -/
def deleteExisting (var : Variable) : Attempt Store RequestError Bool := do
  match ← perform (Action.deleteVariable var) with
  | .ok found => return found
  | .error error => throw (.delete var error)

/-- Takes a pending request back with its tag, and says whether there was any of them. -/
def revoke (kind : RequestKind) : Attempt Store RequestError Bool := do
  let foundList ← deleteExisting kind.pendingVariable
  let foundTag ← deleteExisting kind.tagVariable
  return foundList || foundTag

end Staging

end OwnerKeys
