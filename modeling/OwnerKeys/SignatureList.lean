import OwnerKeys.Guid.Text

/-!
# Signature lists

Firmware keeps keys in buffers of concatenated records. A record is a header of 28 bytes, which
gives the type of its signatures and three sizes, then an opaque signature header, then entries of
one size. An entry is the GUID of its owner followed by the payload: a certificate or a digest.

This file holds the data: kinds of keys, entries, records and the ways in which a buffer can break
the format. `SignatureList.Reading` takes buffers apart and `SignatureList.Writing` builds them.
-/

namespace OwnerKeys.SignatureList

/-- The kinds of keys that are understood. -/
inductive Kind where
  /-- A certificate. -/
  | x509
  /-- The digest of an image. -/
  | sha256
deriving DecidableEq, Repr

namespace Kind

/-- The signature type of the header of a record with keys of this kind. -/
def signatureType : Kind → Guid
  | x509 => ⟨0xa5c059a1, 0x94e4, 0x4aa7, #v[0x87, 0xb5, 0xab, 0x15, 0x5c, 0x2b, 0xf0, 0x72]⟩
  | sha256 => ⟨0xc1c41626, 0x504c, 0x4092, #v[0xac, 0xa9, 0x41, 0xf9, 0x36, 0x93, 0x43, 0x28]⟩

/-- The kind with a given signature type. -/
def ofSignatureType? (type : Guid) : Option Kind :=
  if type = x509.signatureType then some x509
  else if type = sha256.signatureType then some sha256
  else none

end Kind

/-- One key of a record. -/
structure Entry where
  /-- What the payload is. -/
  kind : Kind
  /-- Who added the key. -/
  owner : Guid
  /-- The certificate or the digest. -/
  payload : Bytes
deriving DecidableEq, Repr

/-- The number of bytes in the header of a record. -/
def headerSize : Nat := 28

/-- The number of bytes before the payload of an entry. -/
def ownerSize : Nat := 16

/-- The number of bytes of an entry whose payload is a SHA-256 digest. -/
def sha256EntrySize : Nat := 48

/-- A record as it lies in the buffer. -/
structure Record where
  /-- The type of the signatures. -/
  signatureType : Guid
  /-- The size of the whole record, as its header declares it. -/
  listSize : UInt32
  /-- The size of the signature header, as the record's header declares it. -/
  signatureHeaderSize : UInt32
  /-- The size of one entry, as the record's header declares it. -/
  signatureSize : UInt32
  /-- The opaque signature header. -/
  signatureHeader : Bytes
  /-- The bytes of the entries. -/
  signatures : Bytes
deriving DecidableEq, Repr

/-- A record as bytes: its header, its signature header, its entries. -/
def Record.toBytes (record : Record) : Bytes :=
  record.signatureType.toBytes ++ LittleEndian.ofUInt32 record.listSize ++
    LittleEndian.ofUInt32 record.signatureHeaderSize ++
    LittleEndian.ofUInt32 record.signatureSize ++ record.signatureHeader ++ record.signatures

/-- A way in which a buffer breaks the format. -/
inductive Fault where
  /-- Fewer bytes remain than a record's header has. -/
  | invalidHeader (remaining : Nat)
  /-- A record is declared to be smaller than its own header. -/
  | invalidListSize (size : UInt32)
  /-- A record is declared to be larger than what remains of the buffer. -/
  | truncatedData (declared : UInt32) (remaining : Nat)
  /-- A signature header is declared to be larger than the record's body. -/
  | invalidHeaderSize (headerSize listSize : UInt32)
  /-- The type of the signatures is not understood. -/
  | unsupportedSignatureType (type : Guid)
  /-- The entries of a SHA-256 record are not an owner and a digest long. -/
  | sha256InvalidSignatureSize (size : UInt32)
  /-- The entries have no room for a payload. -/
  | invalidSignatureSize (size : UInt32)
  /-- Bytes are left over after the last whole entry. -/
  | misalignedSignatures (length : Nat) (signatureSize : UInt32)
deriving DecidableEq, Repr

namespace Fault

/-- Whether the fault hides where the next record starts, so that reading has to stop. -/
def isFatal : Fault → Bool
  | invalidHeader _ | invalidListSize _ | truncatedData .. | invalidHeaderSize .. => true
  | unsupportedSignatureType _ | sha256InvalidSignatureSize _ | invalidSignatureSize _
  | misalignedSignatures .. => false

/-- The wording of a fault. -/
def message : Fault → String
  | invalidHeader remaining =>
    s!"could not read signature list header ({remaining} bytes remaining)"
  | invalidListSize size =>
    s!"signature list size {size} is smaller than the signature list header"
  | truncatedData declared remaining =>
    s!"signature list declares {declared} bytes, but only {remaining} bytes remain"
  | invalidHeaderSize headerSize listSize =>
    s!"signature header size {headerSize} exceeds signature list size {listSize}"
  | unsupportedSignatureType type => s!"unsupported signature type: {type}"
  | sha256InvalidSignatureSize size =>
    s!"invalid signature_size specified for sha256 (expected 32 + 16, got {size})"
  | invalidSignatureSize size =>
    s!"invalid signature_size {size} (must be larger than the EFI_SIGNATURE_DATA header)"
  | misalignedSignatures length signatureSize =>
    s!"signature array of {length} bytes is not a multiple of signature_size {signatureSize}"

end Fault

end OwnerKeys.SignatureList
