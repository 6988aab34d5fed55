import Mathlib.Tactic.Common
import OwnerKeys.SignatureList.Reading
import OwnerKeys.SignatureList.Writing

/-!
# Entries of records

`chunks` cuts a byte string into pieces of one size: `chunks_flatten_append` and
`exists_flatten_chunks` say that it inverts concatenation, up to bytes that are too few for a piece.
`Record.validate_eq_ok_iff` says which records have entries at all, and
`Record.entriesWithSlack_of_entries` what the entries are.
-/

namespace OwnerKeys.SignatureList

/-! ## Pieces of one size -/

theorem chunks_of_length_lt {size : Nat} {bytes : Bytes} (short : bytes.length < size) :
    chunks size bytes = [] := by
  rw [chunks, if_neg (by omega)]

theorem chunks_append {size : Nat} (positive : 0 < size) {piece : Bytes}
    (length : piece.length = size) (rest : Bytes) :
    chunks size (piece ++ rest) = piece :: chunks size rest := by
  rw [chunks, if_pos ⟨positive, by rw [List.length_append]; omega⟩, List.take_left' length,
    List.drop_left' length]

/-- Cutting a concatenation of pieces gives the pieces back. -/
theorem chunks_flatten_append {size : Nat} (positive : 0 < size) {pieces : List Bytes}
    (lengths : ∀ piece ∈ pieces, piece.length = size) {slack : Bytes}
    (short : slack.length < size) : chunks size (pieces.flatten ++ slack) = pieces := by
  induction pieces with
  | nil => exact chunks_of_length_lt short
  | cons piece later ih =>
      rw [List.flatten_cons, List.append_assoc,
        chunks_append positive (lengths piece List.mem_cons_self),
        ih fun other mem => lengths other (List.mem_cons_of_mem _ mem)]

/-- All pieces have the size, and only bytes that are too few for a piece are left over. -/
theorem exists_flatten_chunks {size : Nat} (positive : 0 < size) (bytes : Bytes) :
    (∀ piece ∈ chunks size bytes, piece.length = size) ∧
      ∃ slack, bytes = (chunks size bytes).flatten ++ slack ∧ slack.length < size := by
  fun_induction chunks size bytes with
  | case1 bytes enough ih =>
      rcases ih with ⟨lengths, slack, same, short⟩
      refine ⟨?_, slack, ?_, short⟩
      · intro piece mem
        rcases List.mem_cons.mp mem with rfl | later
        · rw [List.length_take]
          omega
        · exact lengths piece later
      · rw [List.flatten_cons, List.append_assoc, ← same, List.take_append_drop]
  | case2 bytes notEnough =>
      exact ⟨by simp, bytes, by simp, by omega⟩

theorem length_flatten_of_forall {size : Nat} {pieces : List Bytes}
    (lengths : ∀ piece ∈ pieces, piece.length = size) :
    pieces.flatten.length = pieces.length * size := by
  induction pieces with
  | nil => simp
  | cons piece later ih =>
      have first := lengths piece List.mem_cons_self
      have others := ih fun other mem => lengths other (List.mem_cons_of_mem _ mem)
      rw [List.flatten_cons, List.length_append, List.length_cons, first, others, Nat.succ_mul,
        Nat.add_comm]

/-! ## Kinds of entries -/

namespace Kind

/-- The sizes that an entry with a key of some kind can have. -/
def Admits (kind : Kind) (entrySize : Nat) : Prop :=
  match kind with
  | x509 => ownerSize < entrySize
  | sha256 => entrySize = sha256EntrySize

theorem Admits.ownerSize_lt {kind : Kind} {entrySize : Nat} (admits : kind.Admits entrySize) :
    ownerSize < entrySize := by
  cases kind with
  | x509 => exact admits
  | sha256 =>
      simp only [Admits, sha256EntrySize] at admits
      simp only [ownerSize]
      omega

theorem ofSignatureType_eq_some_iff {type : Guid} {kind : Kind} :
    ofSignatureType? type = some kind ↔ type = kind.signatureType := by
  have different : sha256.signatureType ≠ x509.signatureType := by decide
  unfold ofSignatureType?
  constructor
  · intro result
    split at result
    · rename_i isX509
      cases result
      exact isX509
    · split at result
      · rename_i isSha256
        cases result
        exact isSha256
      · cases result
  · rintro rfl
    cases kind with
    | x509 => rw [if_pos rfl]
    | sha256 => rw [if_neg different, if_pos rfl]

end Kind

namespace Record

/-- Records with entries are those of a known type whose entry size suits the type. -/
theorem validate_eq_ok_iff {record : Record} {kind : Kind} {size : Nat} :
    record.validate = .ok (kind, size) ↔
      record.signatureType = kind.signatureType ∧ kind.Admits record.signatureSize.toNat ∧
        size = record.signatureSize.toNat := by
  rw [← Kind.ofSignatureType_eq_some_iff]
  unfold validate
  cases Kind.ofSignatureType? record.signatureType with
  | none => simp
  | some found =>
      constructor
      · intro result
        by_cases wrongSize : found = .sha256 ∧ record.signatureSize.toNat ≠ sha256EntrySize
        · simp [wrongSize] at result
        · by_cases short : record.signatureSize.toNat ≤ ownerSize
          · simp [wrongSize, short] at result
          · simp only [wrongSize, short, if_false, Except.ok.injEq, Prod.mk.injEq] at result
            rcases result with ⟨rfl, rfl⟩
            refine ⟨rfl, ?_, rfl⟩
            cases found with
            | x509 => exact Nat.lt_of_not_le short
            | sha256 => simpa [Kind.Admits] using wrongSize
      · rintro ⟨sameKind, admits, rfl⟩
        cases sameKind
        have long := Nat.not_le_of_lt admits.ownerSize_lt
        have sizeSuits : ¬(kind = .sha256 ∧ record.signatureSize.toNat ≠ sha256EntrySize) := by
          rintro ⟨rfl, other⟩
          exact other admits
        simp only [if_neg sizeSuits, if_neg long]

@[simp]
theorem entryOfChunk_toBytes (entry : Entry) :
    entryOfChunk? entry.kind entry.toBytes = some entry := by
  simp [entryOfChunk?, Entry.toBytes]

theorem filterMap_entryOfChunk {kind : Kind} {entries : List Entry}
    (kinds : ∀ entry ∈ entries, entry.kind = kind) :
    (entries.map Entry.toBytes).filterMap (entryOfChunk? kind) = entries := by
  induction entries with
  | nil => rfl
  | cons entry later ih =>
      have first : entryOfChunk? kind entry.toBytes = some entry := by
        rw [← kinds entry List.mem_cons_self, entryOfChunk_toBytes]
      rw [List.map_cons, List.filterMap_cons_some first,
        ih fun other mem => kinds other (List.mem_cons_of_mem _ mem)]

/-- A piece that is longer than an owner is an entry. -/
theorem exists_entry_toBytes (kind : Kind) {piece : Bytes} (long : ownerSize < piece.length) :
    ∃ entry : Entry, entry.kind = kind ∧ entry.toBytes = piece := by
  rcases Guid.exists_read (Nat.le_of_lt long) with ⟨owner, payload, read⟩
  exact ⟨⟨kind, owner, payload⟩, rfl, (Guid.eq_of_read read).symm⟩

/-- What a record that holds entries, and bytes that are too few for one more, contributes. -/
theorem entriesWithSlack_of_entries {record : Record} {kind : Kind} {size : Nat}
    (valid : record.validate = .ok (kind, size)) {entries : List Entry}
    (kinds : ∀ entry ∈ entries, entry.kind = kind)
    (lengths : ∀ entry ∈ entries, entry.toBytes.length = size) {slack : Bytes}
    (signatures : record.signatures = entries.flatMap Entry.toBytes ++ slack)
    (short : slack.length < size) :
    record.entriesWithSlack = .ok (entries, if slack = [] then none
      else some (.misalignedSignatures record.signatures.length record.signatureSize)) := by
  have positive : 0 < size := by omega
  have pieceLengths : ∀ piece ∈ entries.map Entry.toBytes, piece.length = size := by
    simpa using lengths
  rw [List.flatMap_def] at signatures
  have pieces : chunks size record.signatures = entries.map Entry.toBytes := by
    rw [signatures, chunks_flatten_append positive pieceLengths short]
  have slackLength : record.signatures.length % size = slack.length := by
    rw [signatures, List.length_append, length_flatten_of_forall pieceLengths,
      Nat.mul_add_mod_self_right, Nat.mod_eq_of_lt short]
  unfold entriesWithSlack
  rw [valid]
  simp only [bind, Except.bind, pure, Except.pure, pieces, filterMap_entryOfChunk kinds,
    slackLength, List.length_eq_zero_iff]

/-- Every acceptable record holds entries, and bytes that are too few for one more. -/
theorem exists_entries {record : Record} {kind : Kind} {size : Nat}
    (valid : record.validate = .ok (kind, size)) :
    ∃ (entries : List Entry) (slack : Bytes), (∀ entry ∈ entries, entry.kind = kind) ∧
      (∀ entry ∈ entries, entry.toBytes.length = size) ∧
      record.signatures = entries.flatMap Entry.toBytes ++ slack ∧ slack.length < size := by
  rcases validate_eq_ok_iff.mp valid with ⟨_, admits, rfl⟩
  have long := admits.ownerSize_lt
  rcases exists_flatten_chunks (Nat.zero_lt_of_lt long) record.signatures with
    ⟨lengths, slack, same, short⟩
  have : Nonempty Entry := ⟨⟨kind, .zero, []⟩⟩
  have entryOf : ∀ piece ∈ chunks record.signatureSize.toNat record.signatures,
      ∃ entry : Entry, entry.kind = kind ∧ entry.toBytes = piece := by
    intro piece mem
    exact exists_entry_toBytes kind (by rw [lengths piece mem]; exact long)
  choose! entry kinds spelled using entryOf
  refine ⟨(chunks record.signatureSize.toNat record.signatures).map entry, slack, ?_, ?_, ?_,
    short⟩
  · simpa using kinds
  · intro other mem
    rcases List.mem_map.mp mem with ⟨piece, pieceMem, rfl⟩
    rw [spelled piece pieceMem, lengths piece pieceMem]
  · have pieces : ((chunks record.signatureSize.toNat record.signatures).map entry).map
        Entry.toBytes = chunks record.signatureSize.toNat record.signatures := by
      rw [List.map_map]
      exact (List.map_congr_left spelled).trans (List.map_id _)
    rw [List.flatMap_def, pieces]
    exact same

end Record

/-! ## Payloads -/

/-- A record that is not acceptable is passed over as a whole. -/
theorem Decoded.ofRecord_of_validate_error {record : Record} {fault : Fault}
    (invalid : record.validate = .error fault) : ofRecord record = ⟨[], [fault], none⟩ := by
  simp [ofRecord, Record.entriesWithSlack, invalid, bind, Except.bind]

/-- The entries of an acceptable record are alike and lie one behind the other, and bytes that are
too few for one more follow them. -/
theorem Decoded.exists_slack_ofRecord {record : Record} {kind : Kind} {size : Nat}
    (valid : record.validate = .ok (kind, size)) :
    ∃ slack : Bytes, record.signatures = (ofRecord record).entries.flatMap Entry.toBytes ++ slack ∧
      slack.length < size ∧ (∀ entry ∈ (ofRecord record).entries, entry.kind = kind) ∧
      ∀ entry ∈ (ofRecord record).entries, entry.toBytes.length = size := by
  rcases Record.exists_entries valid with ⟨entries, slack, kinds, lengths, signatures, short⟩
  have found := Record.entriesWithSlack_of_entries valid kinds lengths signatures short
  have same : (ofRecord record).entries = entries := by simp only [ofRecord, found]
  rw [same]
  exact ⟨slack, signatures, short, kinds, lengths⟩

/-- An acceptable record has as many entries as there is room for. -/
theorem Decoded.length_entries_ofRecord {record : Record} {kind : Kind} {size : Nat}
    (valid : record.validate = .ok (kind, size)) :
    (ofRecord record).entries.length = record.signatures.length / size ∧
      ((ofRecord record).entries.flatMap Entry.toBytes).length =
        record.signatures.length / size * size := by
  rcases exists_slack_ofRecord valid with ⟨slack, signatures, short, _, lengths⟩
  have pieceLengths : ∀ piece ∈ (ofRecord record).entries.map Entry.toBytes,
      piece.length = size := by
    simpa using lengths
  have total := length_flatten_of_forall pieceLengths
  rw [← List.flatMap_def, List.length_map] at total
  have count : record.signatures.length / size = (ofRecord record).entries.length := by
    rw [signatures, List.length_append, total, Nat.add_comm, Nat.add_mul_div_right _ _ (by omega),
      Nat.div_eq_of_lt short, Nat.zero_add]
  rw [count]
  exact ⟨rfl, total⟩

theorem Decoded.admits_of_mem_ofRecord {record : Record} {entry : Entry}
    (mem : entry ∈ (ofRecord record).entries) : entry.kind.Admits entry.toBytes.length := by
  cases valid : record.validate with
  | error fault =>
      simp [ofRecord_of_validate_error valid] at mem
  | ok result =>
      rcases result with ⟨kind, size⟩
      rcases exists_slack_ofRecord valid with ⟨_, _, _, kinds, lengths⟩
      rcases Record.validate_eq_ok_iff.mp valid with ⟨_, admits, rfl⟩
      rw [kinds entry mem, lengths entry mem]
      exact admits

/-- Every key that decoding finds has a size that suits its kind. -/
theorem admits_of_mem_decode {buffer : Bytes} {entry : Entry}
    (mem : entry ∈ (decode buffer).entries) :
    entry.kind.Admits (ownerSize + entry.payload.length) := by
  simp only [decode, List.mem_flatMap, List.mem_map] at mem
  rcases mem with ⟨_, ⟨record, _, rfl⟩, inRecord⟩
  have admits := Decoded.admits_of_mem_ofRecord inRecord
  rwa [Entry.toBytes, List.length_append, Guid.length_toBytes] at admits

/-- Decoding finds no key without bytes. -/
theorem payload_ne_nil {buffer payload : Bytes} (mem : payload ∈ (decode buffer).payloads) :
    payload ≠ [] := by
  rcases List.mem_map.mp mem with ⟨entry, entryMem, rfl⟩
  have long := (admits_of_mem_decode entryMem).ownerSize_lt
  exact List.ne_nil_of_length_pos (Nat.pos_of_lt_add_right long)

end OwnerKeys.SignatureList
