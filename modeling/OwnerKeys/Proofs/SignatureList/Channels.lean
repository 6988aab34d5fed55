import OwnerKeys.Proofs.SignatureList.Scanning

/-!
# Where faults are reported

The entries of a record have two readers: a strict one that refuses bytes which are left over, and a
lenient one that gives the entries before them. Decoding is lenient, and yet what it reports is what
the strict readers come to: the fault at which the reader of the buffer stops, and beside it the
faults of the records whose strict reader fails, in the order of the records. The first is always
one that hides the next record, and the others never are.
-/

namespace OwnerKeys.SignatureList

namespace Record

/-- What the lenient reader of a record's entries and the strict one answer. -/
inductive Answers (record : Record) :
    Except Fault (List Entry × Option Fault) → Except Fault (List Entry) → Prop where
  /-- The record holds entries and nothing else. -/
  | whole {kind : Kind} {size : Nat} (valid : record.validate = .ok (kind, size))
      (aligned : record.signatures.length % size = 0) {entries : List Entry}
      (count : entries.length = record.signatures.length / size) :
      Answers record (.ok (entries, none)) (.ok entries)
  /-- Bytes are left over after the entries. -/
  | misaligned {kind : Kind} {size : Nat} (valid : record.validate = .ok (kind, size))
      (slack : record.signatures.length % size ≠ 0) {entries : List Entry}
      (count : entries.length = record.signatures.length / size) {fault : Fault}
      (same : fault = .misalignedSignatures record.signatures.length record.signatureSize) :
      Answers record (.ok (entries, some fault)) (.error fault)
  /-- The record is not acceptable. -/
  | refused {fault : Fault} (invalid : record.validate = .error fault) :
      Answers record (.error fault) (.error fault)

theorem answers (record : Record) : Answers record record.entriesWithSlack record.entries := by
  unfold entries
  cases valid : record.validate with
  | error fault =>
      have lenient : record.entriesWithSlack = .error fault := by
        simp [entriesWithSlack, valid, bind, Except.bind]
      rw [lenient]
      exact .refused valid
  | ok result =>
      rcases result with ⟨kind, size⟩
      have count := (Decoded.length_entries_ofRecord valid).1
      by_cases aligned : record.signatures.length % size = 0
      · have lenient : record.entriesWithSlack =
            .ok ((Decoded.ofRecord record).entries, none) := by
          simp [Decoded.ofRecord, entriesWithSlack, valid, bind, Except.bind, pure, Except.pure,
            aligned]
        rw [lenient]
        exact .whole valid aligned count
      · have lenient : record.entriesWithSlack = .ok ((Decoded.ofRecord record).entries,
            some (.misalignedSignatures record.signatures.length record.signatureSize)) := by
          simp [Decoded.ofRecord, entriesWithSlack, valid, bind, Except.bind, pure, Except.pure,
            aligned]
        rw [lenient]
        exact .misaligned valid aligned count rfl

/-- A record is not acceptable for its type or for the size of its entries. -/
theorem fault_of_validate_error {record : Record} {fault : Fault}
    (invalid : record.validate = .error fault) :
    fault = .unsupportedSignatureType record.signatureType ∨
      fault = .sha256InvalidSignatureSize record.signatureSize ∨
      fault = .invalidSignatureSize record.signatureSize := by
  unfold validate at invalid
  split at invalid
  · cases invalid
    exact .inl rfl
  · split at invalid
    · cases invalid
      exact .inr (.inl rfl)
    · split at invalid
      · cases invalid
        exact .inr (.inr rfl)
      · cases invalid

/-- The fault for which the strict reader of a record's entries fails. -/
def refusal? (record : Record) : Option Fault :=
  match record.entries with
  | .ok _ => none
  | .error fault => some fault

/-- The entries that the lenient reader of a record gives, if it succeeds. -/
def contribution? (record : Record) : Option (List Entry) :=
  match record.entriesWithSlack with
  | .ok (entries, _) => some entries
  | .error _ => none

/-- Decoding takes from a record what its lenient reader gives, and reports why its strict reader
fails. -/
theorem ofRecord_eq (record : Record) :
    Decoded.ofRecord record = ⟨record.contribution?.getD [], record.refusal?.toList, none⟩ := by
  have answers := record.answers
  unfold Decoded.ofRecord contribution? refusal?
  generalize record.entriesWithSlack = lenient, record.entries = strict at answers
  cases answers <;> rfl

theorem isFatal_of_refusal {record : Record} {fault : Fault}
    (refused : record.refusal? = some fault) : fault.isFatal = false := by
  have answers := record.answers
  unfold refusal? at refused
  generalize record.entriesWithSlack = lenient, record.entries = strict at answers refused
  cases answers with
  | whole => cases refused
  | misaligned _ _ _ same =>
      cases refused
      rw [same]
      rfl
  | refused invalid =>
      cases refused
      rcases fault_of_validate_error invalid with rfl | rfl | rfl <;> rfl

/-- A record contributes all entries for which there is room. -/
theorem length_of_contribution {record : Record} {entries : List Entry}
    (contributed : record.contribution? = some entries) :
    entries.length = record.signatures.length / record.signatureSize.toNat := by
  have answers := record.answers
  unfold contribution? at contributed
  generalize record.entriesWithSlack = lenient, record.entries = strict at answers contributed
  cases answers with
  | whole valid _ count =>
      cases contributed
      rw [count, (validate_eq_ok_iff.mp valid).2.2]
  | misaligned valid _ count _ =>
      cases contributed
      rw [count, (validate_eq_ok_iff.mp valid).2.2]
  | refused => cases contributed

/-- Where the strict reader succeeds, the lenient one gives the same entries. Where it fails, the
lenient one gives entries exactly if the reason is that bytes are left over. -/
theorem contribution_of_entries (record : Record) :
    (∀ entries, record.entries = .ok entries → record.contribution? = some entries) ∧
      ∀ fault, record.entries = .error fault →
        (record.contribution?.isSome ↔
          fault = .misalignedSignatures record.signatures.length record.signatureSize) := by
  have answers := record.answers
  unfold contribution?
  generalize record.entriesWithSlack = lenient, record.entries = strict at answers
  cases answers with
  | whole => simp
  | misaligned _ _ _ same => simp [same]
  | refused invalid =>
      rcases fault_of_validate_error invalid with rfl | rfl | rfl <;> simp

end Record

/-! ## The whole buffer -/

theorem entries_decode_eq_flatten (buffer : Bytes) : (decode buffer).entries =
    ((records buffer).1.filterMap Record.contribution?).flatten := by
  rw [entries_decode]
  induction (records buffer).1 with
  | nil => rfl
  | cons record later ih =>
      rw [List.flatMap_cons, ih, Record.ofRecord_eq]
      cases contributed : record.contribution? with
      | none => simp [contributed]
      | some entries => simp [contributed]

theorem skipped_decode_eq_filterMap (buffer : Bytes) :
    (decode buffer).skipped = (records buffer).1.filterMap Record.refusal? := by
  simp only [skipped_decode, Record.ofRecord_eq, List.filterMap_eq_flatMap_toList]

/-- What decoding reports about a buffer is what the strict readers of the buffer and of its records
come to. -/
structure Reported (buffer : Bytes) : Prop where
  /-- The decoding ends early at the fault to which a reader of the buffer comes. -/
  malformed_iff : ∀ fault, (decode buffer).malformed = some fault ↔
    ∃ earlier, item? buffer earlier = some (.error fault)
  /-- Such a fault hides the next record. -/
  isFatal_malformed : ∀ fault, (decode buffer).malformed = some fault → fault.isFatal = true
  /-- A fault that is passed over does not. -/
  isFatal_skipped : ∀ fault ∈ (decode buffer).skipped, fault.isFatal = false
  /-- Faults are passed over in the order of the records, one for each record whose strict reader
  fails. -/
  skipped_eq : (decode buffer).skipped = (records buffer).1.filterMap Record.refusal?
  /-- Entries are found in the order of the records whose lenient reader succeeds. -/
  entries_eq :
    (decode buffer).entries = ((records buffer).1.filterMap Record.contribution?).flatten
  /-- These are all entries for which a record has room. -/
  length_eq : ∀ record ∈ (records buffer).1, ∀ entries, record.contribution? = some entries →
    entries.length = record.signatures.length / record.signatureSize.toNat
  /-- They are those of the strict reader, if it succeeds. -/
  contribution_of_ok : ∀ record ∈ (records buffer).1, ∀ entries,
    record.entries = .ok entries → record.contribution? = some entries
  /-- Where it fails there are entries exactly if the reason is that bytes are left over. -/
  contribution_of_error : ∀ record ∈ (records buffer).1, ∀ fault, record.entries = .error fault →
    (record.contribution?.isSome ↔
      fault = .misalignedSignatures record.signatures.length record.signatureSize)

/-- Decoding reports the faults of the strict readers, those that hide the next record apart from
the others, and finds the entries of the lenient ones. -/
theorem reported_decode (buffer : Bytes) : Reported buffer := by
  constructor
  · intro fault
    exact exists_item?_eq_error_iff.symm
  · intro fault malformed
    rcases exists_rest buffer with ⟨rest, _, _, stopped⟩
    exact ((stopped fault).mp malformed).isFatal
  · intro fault mem
    rw [skipped_decode_eq_filterMap] at mem
    rcases List.mem_filterMap.mp mem with ⟨record, _, refused⟩
    exact Record.isFatal_of_refusal refused
  · exact skipped_decode_eq_filterMap buffer
  · exact entries_decode_eq_flatten buffer
  · exact fun _ _ _ => Record.length_of_contribution
  · exact fun record _ => record.contribution_of_entries.1
  · exact fun record _ => record.contribution_of_entries.2

end OwnerKeys.SignatureList
