import OwnerKeys.Proofs.SignatureList.Grammar

/-!
# Concatenated buffers

Reading ends behind the last record of a complete buffer, and what follows is then read as if it
stood alone. So decoding turns the concatenation of a complete buffer with any other into the
concatenation of what is found in each. A record that is passed over does not get in the way.
-/

namespace OwnerKeys.SignatureList

section Complete

variable {front : Bytes} (complete : (decode front).malformed = none)

include complete

/-- A complete buffer is a concatenation of framed records. -/
theorem exists_framed_of_complete :
    ∃ found : List Record, (∀ record ∈ found, record.Framed) ∧
      front = found.flatMap Record.toBytes := by
  have result : records front = ((records front).1, none) := Prod.ext rfl complete
  exact ⟨_, records_eq_iff.mp result⟩

theorem decode_append_eq (back : Bytes) :
    decode (front ++ back) =
      ⟨(decode front).entries ++ (decode back).entries,
        (decode front).skipped ++ (decode back).skipped, (decode back).malformed⟩ := by
  rcases exists_framed_of_complete complete with ⟨found, framed, rfl⟩
  rw [decode_append framed, decode_flatMap_toBytes framed]

end Complete

theorem decode_toBytes_append {record : Record} (framed : record.Framed) {fault : Fault}
    (invalid : record.validate = .error fault) (back : Bytes) :
    decode (record.toBytes ++ back) =
      ⟨(decode back).entries, fault :: (decode back).skipped, (decode back).malformed⟩ := by
  have framedOne : ∀ other ∈ [record], other.Framed := by simpa using framed
  simpa [Decoded.ofRecord_of_validate_error invalid] using decode_append framedOne back

/-- What is found in a complete buffer followed by any other is what is found in the first and then
what is found in the second, and the second one's fault is the fault of both. An unacceptable record
between the two adds its own fault and changes nothing else. -/
theorem decode_append_of_complete {front : Bytes} (complete : (decode front).malformed = none)
    (back : Bytes) :
    (decode (front ++ back)).entries = (decode front).entries ++ (decode back).entries ∧
      (decode (front ++ back)).skipped = (decode front).skipped ++ (decode back).skipped ∧
      (decode (front ++ back)).malformed = (decode back).malformed ∧
      ∀ (record : Record) (fault : Fault), record.Framed → record.validate = .error fault →
        decode (front ++ (record.toBytes ++ back)) =
          ⟨(decode front).entries ++ (decode back).entries,
            (decode front).skipped ++ fault :: (decode back).skipped,
            (decode back).malformed⟩ := by
  have whole := decode_append_eq complete back
  refine ⟨by rw [whole], by rw [whole], by rw [whole], ?_⟩
  intro record fault framed invalid
  rw [decode_append_eq complete, decode_toBytes_append framed invalid]

/-- A record of digests that are one byte too short. -/
def shortDigests : Record where
  signatureType := Kind.sha256.signatureType
  listSize := 75
  signatureHeaderSize := 0
  signatureSize := 47
  signatureHeader := []
  signatures := List.replicate 47 0

/-- Short digests between a record of an unknown type with a certificate behind it and a buffer that
is cut off in its second header are passed over. -/
theorem decode_append_shortDigests :
    let unknown : Record := ⟨.zero, 31, 2, 17, [1, 2], [3]⟩
    let front := unknown.toBytes ++ (x509 .zero [1]).toRecord.toBytes
    let back := (x509 .zero [2]).toRecord.toBytes ++ [0]
    (decode front).malformed = none ∧ shortDigests.Framed ∧
      shortDigests.validate = .error (.sha256InvalidSignatureSize 47) ∧
      decode (front ++ (shortDigests.toBytes ++ back)) =
        ⟨[⟨.x509, .zero, [1]⟩, ⟨.x509, .zero, [2]⟩],
          [.unsupportedSignatureType .zero, .sha256InvalidSignatureSize 47],
          some (.invalidHeader 1)⟩ := by
  intro unknown front back
  have complete : (decode front).malformed = none := by decide +kernel
  have framed : shortDigests.Framed := ⟨by decide, by decide⟩
  have invalid : shortDigests.validate = .error (.sha256InvalidSignatureSize 47) := by
    decide +kernel
  have entries : (decode front).entries ++ (decode back).entries =
      [⟨.x509, .zero, [1]⟩, ⟨.x509, .zero, [2]⟩] := by
    decide +kernel
  have skipped : (decode front).skipped ++ .sha256InvalidSignatureSize 47 :: (decode back).skipped =
      [.unsupportedSignatureType .zero, .sha256InvalidSignatureSize 47] := by
    decide +kernel
  have malformed : (decode back).malformed = some (.invalidHeader 1) := by decide +kernel
  refine ⟨complete, framed, invalid, ?_⟩
  rw [(decode_append_of_complete complete back).2.2.2 shortDigests _ framed invalid, entries,
    skipped, malformed]

end OwnerKeys.SignatureList
