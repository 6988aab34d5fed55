import OwnerKeys.SignatureList

/-!
# Reading signature lists

`Record.read` takes the first record off a buffer, and `records` takes a buffer apart until it ends
or a fault hides the next record. `Record.entriesWithSlack` cuts the entries of one record, and
leaves over the bytes after the last whole entry; `Record.entries` refuses such bytes.

Firmware is known to be sloppy, so `decode` keeps every entry that can be found: a record that is
not understood is skipped, bytes left over are ignored, and only a fault that hides the next record
ends the decoding. What was passed over is reported beside the entries.
-/

namespace OwnerKeys.SignatureList

/-- The pieces of a given size in a byte string, from the front, without an incomplete last one. -/
def chunks (size : Nat) (bytes : Bytes) : List Bytes :=
  if 0 < size ∧ size ≤ bytes.length then
    bytes.take size :: chunks size (bytes.drop size)
  else
    []
termination_by bytes.length
decreasing_by simp only [List.length_drop]; omega

namespace Record

/-- The fields of the header at the front of a buffer, with nothing behind them yet, and the bytes
after the header. -/
def readHeader? (buffer : Bytes) : Option (Record × Bytes) := do
  let (signatureType, rest) ← Guid.read? buffer
  let (listSize, rest) ← LittleEndian.read32? rest
  let (signatureHeaderSize, rest) ← LittleEndian.read32? rest
  let (signatureSize, rest) ← LittleEndian.read32? rest
  return (⟨signatureType, listSize, signatureHeaderSize, signatureSize, [], []⟩, rest)

/-- The record at the front of a buffer, and the bytes after it. -/
def read (buffer : Bytes) : Except Fault (Record × Bytes) :=
  match readHeader? buffer with
  | none => .error (.invalidHeader buffer.length)
  | some (header, afterHeader) =>
    if header.listSize.toNat < SignatureList.headerSize then
      .error (.invalidListSize header.listSize)
    else if buffer.length < header.listSize.toNat then
      .error (.truncatedData header.listSize buffer.length)
    else
      let bodySize := header.listSize.toNat - SignatureList.headerSize
      let body := afterHeader.take bodySize
      if bodySize < header.signatureHeaderSize.toNat then
        .error (.invalidHeaderSize header.signatureHeaderSize header.listSize)
      else
        .ok ({ header with
            signatureHeader := body.take header.signatureHeaderSize.toNat
            signatures := body.drop header.signatureHeaderSize.toNat },
          afterHeader.drop bodySize)

theorem length_of_readHeader {buffer rest : Bytes} {header : Record}
    (read : readHeader? buffer = some (header, rest)) :
    buffer.length = rest.length + SignatureList.headerSize := by
  simp only [readHeader?, Option.bind_eq_bind, Option.bind_eq_some_iff, Option.pure_def,
    Option.some.injEq, Prod.mk.injEq] at read
  obtain ⟨⟨type, rest1⟩, readType, ⟨listSize, rest2⟩, readList, ⟨headerSize, rest3⟩, readHeader,
    ⟨signatureSize, rest4⟩, readSignature, _, same⟩ := read
  have step1 := Guid.length_of_read readType
  have step2 := LittleEndian.length_of_read32 readList
  have step3 := LittleEndian.length_of_read32 readHeader
  have step4 := LittleEndian.length_of_read32 readSignature
  simp only at step1 step2 step3 step4 same
  subst same
  simp only [SignatureList.headerSize]
  omega

/-- Reading a record makes the buffer shorter. -/
theorem length_lt_of_read {buffer rest : Bytes} {record : Record}
    (result : read buffer = .ok (record, rest)) : rest.length < buffer.length := by
  unfold read at result
  split at result
  · cases result
  · rename_i header afterHeader readHeader
    have size := length_of_readHeader readHeader
    simp only [SignatureList.headerSize] at size result
    by_cases small : header.listSize.toNat < 28
    · simp [small] at result
    · by_cases truncated : buffer.length < header.listSize.toNat
      · simp [small, truncated] at result
      · by_cases oversized :
          header.listSize.toNat - 28 < header.signatureHeaderSize.toNat
        · simp [small, truncated, oversized] at result
        · simp only [small, truncated, oversized, if_false, Except.ok.injEq,
            Prod.mk.injEq] at result
          rw [← result.2, List.length_drop]
          omega

/-- The kind and the entry size of a record, if both are acceptable. -/
def validate (record : Record) : Except Fault (Kind × Nat) :=
  match Kind.ofSignatureType? record.signatureType with
  | none => .error (.unsupportedSignatureType record.signatureType)
  | some kind =>
    if kind = .sha256 ∧ record.signatureSize.toNat ≠ sha256EntrySize then
      .error (.sha256InvalidSignatureSize record.signatureSize)
    else if record.signatureSize.toNat ≤ ownerSize then
      .error (.invalidSignatureSize record.signatureSize)
    else
      .ok (kind, record.signatureSize.toNat)

/-- The entry in a piece of a record. -/
def entryOfChunk? (kind : Kind) (chunk : Bytes) : Option Entry :=
  (Guid.read? chunk).map fun (owner, payload) => ⟨kind, owner, payload⟩

/-- The whole entries of a record, and the fault of the bytes left over after them, if any. -/
def entriesWithSlack (record : Record) : Except Fault (List Entry × Option Fault) := do
  let (kind, size) ← record.validate
  let slack := record.signatures.length % size
  return ((chunks size record.signatures).filterMap (entryOfChunk? kind),
    if slack = 0 then none
    else some (.misalignedSignatures record.signatures.length record.signatureSize))

/-- The entries of a record that holds nothing else. -/
def entries (record : Record) : Except Fault (List Entry) := do
  match ← record.entriesWithSlack with
  | (entries, none) => return entries
  | (_, some fault) => throw fault

end Record

/-- The records of a buffer, and the fault at which reading stopped before the buffer's end. -/
def records (buffer : Bytes) : List Record × Option Fault :=
  if buffer = [] then
    ([], none)
  else
    match _result : Record.read buffer with
    | .error fault => ([], some fault)
    | .ok (record, rest) =>
      let (later, fault) := records rest
      (record :: later, fault)
termination_by buffer.length
decreasing_by exact Record.length_lt_of_read _result

/-- What can be found in a buffer. -/
structure Decoded where
  /-- The entries, in the order of the buffer. -/
  entries : List Entry
  /-- The faults of records, or of ends of records, that were passed over. -/
  skipped : List Fault
  /-- The fault that ended the decoding before the end of the buffer. -/
  malformed : Option Fault
deriving DecidableEq, Repr

namespace Decoded

/-- What one record contributes. -/
def ofRecord (record : Record) : Decoded :=
  match record.entriesWithSlack with
  | .ok (entries, slack) => ⟨entries, slack.toList, none⟩
  | .error fault => ⟨[], [fault], none⟩

/-- Whether some entry has a given payload. -/
def contains (decoded : Decoded) (payload : Bytes) : Bool :=
  decoded.entries.any (·.payload == payload)

/-- The payloads of the entries. -/
def payloads (decoded : Decoded) : List Bytes :=
  decoded.entries.map (·.payload)

end Decoded

/-- Everything that can be found in a buffer, however broken the buffer is. -/
def decode (buffer : Bytes) : Decoded :=
  let (found, malformed) := records buffer
  let parts := found.map Decoded.ofRecord
  ⟨parts.flatMap (·.entries), parts.flatMap (·.skipped), malformed⟩

end OwnerKeys.SignatureList
