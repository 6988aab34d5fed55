import OwnerKeys.Digest
import OwnerKeys.SignatureList

/-!
# Writing signature lists

A list is either a single certificate, because the certificates of one record would all have to be
equally long, or any number of SHA-256 digests. `encode` writes certificates one record each.
-/

namespace OwnerKeys

/-- A signature list to be written. -/
inductive SignatureList where
  /-- One certificate. -/
  | x509 (owner : Guid) (certificate : Bytes)
  /-- Digests with their owners. -/
  | sha256 (signatures : List (Guid × Digest))
deriving DecidableEq, Repr

namespace SignatureList

/-- The reason why a list cannot be written. -/
inductive EncodeError where
  /-- The size of the record, with payloads of the given size, does not fit in its header. -/
  | tooLarge (payloadSize : Nat)
deriving DecidableEq, Repr

/-- The wording of the reason. -/
def EncodeError.message : EncodeError → String
  | tooLarge payloadSize =>
    s!"signature data of {payloadSize} bytes does not fit in an EFI_SIGNATURE_LIST"

/-- The kind of the keys in a list. -/
def kind : SignatureList → Kind
  | x509 .. => .x509
  | sha256 _ => .sha256

/-- The size of the payload of every entry. -/
def payloadSize : SignatureList → Nat
  | x509 _ certificate => certificate.length
  | sha256 _ => 32

/-- The entries of a list. -/
def entries : SignatureList → List Entry
  | x509 owner certificate => [⟨.x509, owner, certificate⟩]
  | sha256 signatures => signatures.map fun (owner, digest) => ⟨.sha256, owner, digest.toList⟩

/-- An entry as bytes. -/
def Entry.toBytes (entry : Entry) : Bytes :=
  entry.owner.toBytes ++ entry.payload

/-- The size of the record of a list. -/
def recordSize (list : SignatureList) : Nat :=
  headerSize + list.entries.length * (ownerSize + list.payloadSize)

/-- The record of a list. -/
def toRecord (list : SignatureList) : Record where
  signatureType := list.kind.signatureType
  listSize := UInt32.ofNat list.recordSize
  signatureHeaderSize := 0
  signatureSize := UInt32.ofNat (ownerSize + list.payloadSize)
  signatureHeader := []
  signatures := list.entries.flatMap Entry.toBytes

/-- The bytes of a list, provided that its size fits in 32 bits. -/
def toBytes (list : SignatureList) : Except EncodeError Bytes :=
  if list.recordSize < UInt32.size then
    .ok list.toRecord.toBytes
  else
    .error (.tooLarge list.payloadSize)

/-- The bytes of lists, one after another. -/
def encodeLists : List SignatureList → Except EncodeError Bytes
  | [] => .ok []
  | list :: later => do
    let bytes ← list.toBytes
    return bytes ++ (← encodeLists later)

/-- Every certificate as a record of its own, all with one owner. -/
def encode (certificates : List Bytes) (owner : Guid) : Except EncodeError Bytes :=
  encodeLists (certificates.map (x509 owner))

end SignatureList

end OwnerKeys
