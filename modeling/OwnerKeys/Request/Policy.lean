import OwnerKeys.Request.Dialogue

/-!
# Requests about policy

The operator can stage a new password of the boot loader's key manager and a change of the boot
loader's validation state, and can look up whether the firmware verifies what it boots.
-/

namespace OwnerKeys.Policy

variable {Store : Type} [VariableStore Store]

/-- What the firmware says about verified booting. -/
inductive SecureBootState where
  /-- The firmware verifies what it boots. -/
  | enabled
  /-- The firmware boots anything. -/
  | disabled
  /-- The firmware says neither. -/
  | unknown
deriving DecidableEq, Repr

/-- Writes a variable with the standard attributes. -/
def store (var : Variable) (data : Bytes) : Attempt Store RequestError Unit := do
  match ← perform (Action.writeVariable var ⟨.standard, data⟩) with
  | .ok () => return ()
  | .error error => throw (.write var error)

/-- Stages a new password: its tag over an empty list. -/
def setPassword : Attempt Store RequestError Unit := do
  let password ← Dialogue.newPassword
  store .pendingPassword (AuthTag.derive none password).toBytes
  perform (Action.note .passwordStaged)

/-- Stages a change of the validation state. -/
def setValidation (state : Validation) : Attempt Store RequestError Unit := do
  let password ← Dialogue.newPassword
  store .pendingValidation (ValidationRequest.new state password.units).toBytes
  perform (Action.note (.validationStaged state))

/-- The state that the data of the firmware's variable stands for: the first byte counts. -/
def stateOfData (data : Bytes) : SecureBootState :=
  match data.head? with
  | some 1 => .enabled
  | some 0 => .disabled
  | _ => .unknown

/-- Looks up whether the firmware verifies what it boots. -/
def secureBootState : Attempt Store RequestError SecureBootState := do
  match ← perform (Action.readVariable .secureBoot) with
  | .ok (some value) => return stateOfData value.data
  | .ok none => throw (.notFound .secureBoot)
  | .error error => throw (.read .secureBoot error)

end OwnerKeys.Policy
