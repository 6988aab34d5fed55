import OwnerKeys.Password

/-!
# Validation requests

The operator can ask the boot loader to stop, or to resume, validating signatures. The request is a
block of 40 bytes: the wanted state, the number of units of a password, and 16 units. The operator
confirms it by entering characters of the password, so the password is stored in the clear.
-/

namespace OwnerKeys

/-- Whether the boot loader shall validate signatures. -/
inductive Validation where
  /-- Stop validating. -/
  | disable
  /-- Validate. -/
  | enable
deriving DecidableEq, Repr

namespace Validation

/-- The number that stands for a state. -/
def code : Validation → UInt32
  | disable => 0
  | enable => 1

/-- The name of a state in diagnostics. -/
def name : Validation → String
  | disable => "DisableValidation"
  | enable => "EnableValidation"

end Validation

/-- The content of a validation request. -/
structure ValidationRequest where
  /-- The number that stands for the wanted state. -/
  state : UInt32
  /-- The number of units of the password. -/
  length : UInt32
  /-- The units, with zeros in the slots that are not used. -/
  slots : Vector UInt16 16
deriving DecidableEq, Repr

namespace ValidationRequest

/-- The number of bytes of a request. -/
def size : Nat := 40

/-- The request for a state with a password, of which at most 16 units are stored. -/
def new (state : Validation) (units : List UInt16) : ValidationRequest where
  state := state.code
  length := UInt32.ofNat (min units.length 16)
  slots := Vector.ofFn fun slot => units.getD slot 0

/-- The bytes of a request. -/
def toBytes (request : ValidationRequest) : Bytes :=
  LittleEndian.ofUInt32 request.state ++ LittleEndian.ofUInt32 request.length ++
    request.slots.toList.flatMap LittleEndian.ofUInt16

/-- A number of 16-bit words at the front of a byte string, and the bytes after them. -/
def readUnits? : Nat → Bytes → Option (List UInt16 × Bytes)
  | 0, bytes => some ([], bytes)
  | count + 1, bytes => do
    let (unit, rest) ← LittleEndian.read16? bytes
    let (units, rest) ← readUnits? count rest
    return (unit :: units, rest)

/-- The request with the given bytes, if there are 40 of them. -/
def ofBytes? (bytes : Bytes) : Option ValidationRequest := do
  let (state, rest) ← LittleEndian.read32? bytes
  let (length, rest) ← LittleEndian.read32? rest
  let (units, rest) ← readUnits? 16 rest
  if slots : units.length = 16 then
    if rest = [] then
      return ⟨state, length, ⟨units.toArray, by simpa using slots⟩⟩
    else
      none
  else
    none

end ValidationRequest

end OwnerKeys
