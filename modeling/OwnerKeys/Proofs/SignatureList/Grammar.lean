import Mathlib.Data.Set.List
import OwnerKeys.Proofs.SignatureList.Entries
import OwnerKeys.Proofs.SignatureList.Framing

/-!
# The grammar of signature lists

A key block is a record without any flaw: its keys are of one kind, its entries have one size that
suits the kind, and the sizes in its header are right. Decoding passes over nothing exactly if the
buffer is a concatenation of key blocks, and then it finds exactly their entries.
-/

namespace OwnerKeys.SignatureList

/-- A record as the format wants it. -/
structure KeyBlock where
  /-- The kind of all keys. -/
  kind : Kind
  /-- The opaque signature header. -/
  signatureHeader : Bytes
  /-- The size of every entry. -/
  entrySize : UInt32
  /-- The entries. -/
  entries : List Entry
  /-- The size of the entries suits the kind. -/
  admits : kind.Admits entrySize.toNat
  /-- All keys are of the kind. -/
  entry_kind : ∀ entry ∈ entries, entry.kind = kind
  /-- All entries have the size. -/
  entry_length : ∀ entry ∈ entries, entry.toBytes.length = entrySize.toNat
  /-- The size of the block fits in its header. -/
  fits : headerSize + signatureHeader.length + entries.length * entrySize.toNat < UInt32.size

namespace KeyBlock

/-- The number of bytes of a block. -/
def size (block : KeyBlock) : Nat :=
  headerSize + block.signatureHeader.length + block.entries.length * block.entrySize.toNat

/-- A block as bytes: the type of its keys, its size, the size of the signature header and the size
of an entry; then the signature header and the entries. -/
def toBytes (block : KeyBlock) : Bytes :=
  block.kind.signatureType.toBytes ++ LittleEndian.ofUInt32 (UInt32.ofNat block.size) ++
    LittleEndian.ofUInt32 (UInt32.ofNat block.signatureHeader.length) ++
    LittleEndian.ofUInt32 block.entrySize ++ block.signatureHeader ++
    block.entries.flatMap Entry.toBytes

/-- A block as it is seen by a reader that does not look at the entries. -/
def toRecord (block : KeyBlock) : Record where
  signatureType := block.kind.signatureType
  listSize := UInt32.ofNat block.size
  signatureHeaderSize := UInt32.ofNat block.signatureHeader.length
  signatureSize := block.entrySize
  signatureHeader := block.signatureHeader
  signatures := block.entries.flatMap Entry.toBytes

theorem toBytes_toRecord (block : KeyBlock) : block.toRecord.toBytes = block.toBytes := rfl

theorem length_signatures (block : KeyBlock) :
    block.toRecord.signatures.length = block.entries.length * block.entrySize.toNat := by
  have lengths : ∀ piece ∈ block.entries.map Entry.toBytes,
      piece.length = block.entrySize.toNat := by
    simpa using block.entry_length
  have total := length_flatten_of_forall lengths
  rw [List.length_map] at total
  exact total

theorem framed_toRecord (block : KeyBlock) : block.toRecord.Framed := by
  have fits := block.fits
  have signatures := block.length_signatures
  constructor
  · rw [signatures]
    exact UInt32.toNat_ofNat_of_lt' fits
  · apply UInt32.toNat_ofNat_of_lt'
    omega

/-- The size in the header of a block is the number of its bytes. -/
theorem length_toBytes (block : KeyBlock) : block.toBytes.length = block.size := by
  rw [← toBytes_toRecord, Record.length_toBytes, length_signatures]
  rfl

theorem validate_toRecord (block : KeyBlock) :
    block.toRecord.validate = .ok (block.kind, block.entrySize.toNat) :=
  Record.validate_eq_ok_iff.mpr ⟨rfl, block.admits, rfl⟩

theorem entriesWithSlack_toRecord (block : KeyBlock) :
    block.toRecord.entriesWithSlack = .ok (block.entries, none) := by
  have positive := Nat.zero_lt_of_lt block.admits.ownerSize_lt
  have noSlack : block.toRecord.signatures = block.entries.flatMap Entry.toBytes ++ [] := by
    rw [List.append_nil]
    rfl
  have found := Record.entriesWithSlack_of_entries block.validate_toRecord block.entry_kind
    block.entry_length noSlack positive
  rw [if_pos rfl] at found
  exact found

theorem entries_toRecord (block : KeyBlock) : block.toRecord.entries = .ok block.entries := by
  unfold Record.entries
  rw [entriesWithSlack_toRecord]
  rfl

theorem ofRecord_toRecord (block : KeyBlock) :
    Decoded.ofRecord block.toRecord = ⟨block.entries, [], none⟩ := by
  unfold Decoded.ofRecord
  rw [entriesWithSlack_toRecord]
  rfl

end KeyBlock

/-- A framed record from which nothing is passed over is a key block. -/
theorem Record.Framed.exists_keyBlock {record : Record} (framed : record.Framed)
    (nothingSkipped : (Decoded.ofRecord record).skipped = []) :
    ∃ block : KeyBlock, block.toRecord = record := by
  cases valid : record.validate with
  | error fault =>
      simp [Decoded.ofRecord_of_validate_error valid] at nothingSkipped
  | ok result =>
      rcases result with ⟨kind, size⟩
      rcases Record.exists_entries valid with ⟨entries, slack, kinds, lengths, signatures, short⟩
      have slackEmpty : slack = [] := by
        by_contra notEmpty
        simp [Decoded.ofRecord, notEmpty,
          Record.entriesWithSlack_of_entries valid kinds lengths signatures short]
          at nothingSkipped
      rcases Record.validate_eq_ok_iff.mp valid with ⟨type, admits, rfl⟩
      rw [slackEmpty, List.append_nil] at signatures
      have total : record.signatures.length = entries.length * record.signatureSize.toNat := by
        rw [signatures, List.flatMap_def, length_flatten_of_forall (by simpa using lengths),
          List.length_map]
      have listSize := framed.listSize
      have headerSize := framed.signatureHeaderSize
      rw [total] at listSize
      refine ⟨⟨kind, record.signatureHeader, record.signatureSize, entries, admits, kinds, lengths,
        ?_⟩, ?_⟩
      · rw [← listSize]
        exact record.listSize.toNat_lt
      · simp only [KeyBlock.toRecord, KeyBlock.size]
        rw [← listSize, ← headerSize, ← signatures, ← type, UInt32.ofNat_toNat, UInt32.ofNat_toNat]

/-- Framed records are decoded one after another, and then the bytes behind them. -/
theorem decode_append {found : List Record} (framed : ∀ record ∈ found, record.Framed)
    (rest : Bytes) :
    decode (found.flatMap Record.toBytes ++ rest) =
      ⟨(found.flatMap fun record => (Decoded.ofRecord record).entries) ++ (decode rest).entries,
        (found.flatMap fun record => (Decoded.ofRecord record).skipped) ++ (decode rest).skipped,
        (decode rest).malformed⟩ := by
  simp [decode, records_append framed, List.flatMap_map]

theorem decode_nil : decode [] = ⟨[], [], none⟩ := by
  simp [decode]

theorem decode_flatMap_toBytes {found : List Record}
    (framed : ∀ record ∈ found, record.Framed) :
    decode (found.flatMap Record.toBytes) =
      ⟨found.flatMap fun record => (Decoded.ofRecord record).entries,
        found.flatMap fun record => (Decoded.ofRecord record).skipped, none⟩ := by
  simpa [decode_nil] using decode_append framed []

theorem records_keyBlocks (blocks : List KeyBlock) :
    records (blocks.flatMap KeyBlock.toBytes) = (blocks.map KeyBlock.toRecord, none) := by
  have framed : ∀ record ∈ blocks.map KeyBlock.toRecord, record.Framed := by
    intro record mem
    rcases List.mem_map.mp mem with ⟨block, _, rfl⟩
    exact block.framed_toRecord
  have found := records_flatMap framed
  rw [List.flatMap_map] at found
  exact found

theorem decode_keyBlocks (blocks : List KeyBlock) :
    decode (blocks.flatMap KeyBlock.toBytes) = ⟨blocks.flatMap KeyBlock.entries, [], none⟩ := by
  simp [decode, records_keyBlocks, List.flatMap_map, KeyBlock.ofRecord_toRecord]

/-- A buffer from which nothing is passed over is a concatenation of key blocks. -/
theorem exists_keyBlocks {buffer : Bytes} (nothingSkipped : (decode buffer).skipped = [])
    (wellFormed : (decode buffer).malformed = none) :
    ∃ blocks : List KeyBlock, buffer = blocks.flatMap KeyBlock.toBytes := by
  cases result : records buffer with
  | mk found fault =>
      simp only [decode, result] at nothingSkipped wellFormed
      rw [wellFormed] at result
      rcases records_eq_iff.mp result with ⟨framed, rfl⟩
      have isBlock : ∀ record ∈ found, record ∈ Set.range KeyBlock.toRecord := by
        intro record mem
        apply (framed record mem).exists_keyBlock
        rw [List.flatMap_map, List.flatMap_eq_nil_iff] at nothingSkipped
        exact nothingSkipped record mem
      have areBlocks : found ∈ Set.range (List.map KeyBlock.toRecord) := by
        rw [Set.range_list_map]
        exact isBlock
      rcases areBlocks with ⟨blocks, rfl⟩
      exact ⟨blocks, by rw [List.flatMap_map]; rfl⟩

/-- Decoding passes over nothing exactly if the buffer is a concatenation of key blocks. Then both
the lenient and the strict reading find exactly these blocks and their entries. -/
theorem decode_clean_iff_keyBlocks (buffer : Bytes) :
    ((decode buffer).skipped = [] ∧ (decode buffer).malformed = none ↔
      ∃ blocks : List KeyBlock, buffer = blocks.flatMap KeyBlock.toBytes) ∧
    ∀ blocks : List KeyBlock,
      decode (blocks.flatMap KeyBlock.toBytes) = ⟨blocks.flatMap KeyBlock.entries, [], none⟩ ∧
      records (blocks.flatMap KeyBlock.toBytes) = (blocks.map KeyBlock.toRecord, none) ∧
      (blocks.map KeyBlock.toRecord).map Record.entries =
        blocks.map fun block => .ok block.entries := by
  constructor
  · constructor
    · rintro ⟨nothingSkipped, wellFormed⟩
      exact exists_keyBlocks nothingSkipped wellFormed
    · rintro ⟨blocks, rfl⟩
      rw [decode_keyBlocks]
      exact ⟨rfl, rfl⟩
  · intro blocks
    refine ⟨decode_keyBlocks blocks, records_keyBlocks blocks, ?_⟩
    rw [List.map_map]
    exact List.map_congr_left fun block _ => block.entries_toRecord

end OwnerKeys.SignatureList
