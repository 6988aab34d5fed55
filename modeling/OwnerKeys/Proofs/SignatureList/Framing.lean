import Mathlib.Tactic.Common
import OwnerKeys.SignatureList.Reading

/-!
# Framing of records

A record is framed if the sizes in its header are the sizes of its parts. `Record.read` takes
exactly the framed records off the front of a buffer, and `records` takes a buffer apart into framed
records: `Record.read_eq_ok_iff` and `records_eq_iff` say that reading inverts `Record.toBytes`.
-/

namespace OwnerKeys.SignatureList

namespace Record

/-- The sizes that the header of a record declares are the sizes of its parts. -/
structure Framed (record : Record) : Prop where
  /-- The size of the whole record. -/
  listSize : record.listSize.toNat =
    SignatureList.headerSize + record.signatureHeader.length + record.signatures.length
  /-- The size of the signature header. -/
  signatureHeaderSize : record.signatureHeaderSize.toNat = record.signatureHeader.length

@[simp]
theorem length_toBytes (record : Record) : record.toBytes.length =
    SignatureList.headerSize + record.signatureHeader.length + record.signatures.length := by
  simp [toBytes, SignatureList.headerSize]
  omega

theorem readHeader_toBytes (record : Record) (rest : Bytes) :
    readHeader? (record.toBytes ++ rest) =
      some ({ record with signatureHeader := [], signatures := [] },
        record.signatureHeader ++ (record.signatures ++ rest)) := by
  simp [readHeader?, toBytes]

/-- A header that was read is spelled by the bytes before the rest. -/
theorem eq_of_readHeader {buffer rest : Bytes} {header : Record}
    (read : readHeader? buffer = some (header, rest)) :
    buffer = header.toBytes ++ rest ∧ header.signatureHeader = [] ∧ header.signatures = [] := by
  simp only [readHeader?, Option.bind_eq_bind, Option.bind_eq_some_iff, Option.pure_def,
    Option.some.injEq, Prod.mk.injEq] at read
  obtain ⟨⟨type, rest1⟩, readType, ⟨listSize, rest2⟩, readList, ⟨headerSize, rest3⟩, readHeader,
    ⟨signatureSize, rest4⟩, readSignature, rfl, rfl⟩ := read
  simp only at readList readHeader readSignature
  rw [Guid.eq_of_read readType, LittleEndian.eq_of_read32 readList,
    LittleEndian.eq_of_read32 readHeader, LittleEndian.eq_of_read32 readSignature]
  simp [toBytes]

theorem read_toBytes {record : Record} (framed : record.Framed) (rest : Bytes) :
    read (record.toBytes ++ rest) = .ok (record, rest) := by
  have listSize := framed.listSize
  have headerSize := framed.signatureHeaderSize
  have body : record.listSize.toNat - 28 =
      record.signatureHeader.length + record.signatures.length := by
    simp only [SignatureList.headerSize] at listSize
    omega
  have notSmall : ¬record.listSize.toNat < 28 := by
    simp only [SignatureList.headerSize] at listSize
    omega
  have notTruncated : ¬(record.toBytes ++ rest).length < record.listSize.toNat := by
    rw [List.length_append, length_toBytes]
    omega
  have notOversized : ¬record.signatureHeader.length + record.signatures.length <
      record.signatureHeader.length := by
    omega
  unfold read
  simp only [readHeader_toBytes, SignatureList.headerSize, notSmall, notTruncated, body,
    headerSize, notOversized, if_false]
  rw [← List.append_assoc, ← List.length_append, List.take_left, List.drop_left, List.take_left,
    List.drop_left]

/-- Reading takes exactly the framed records off the front of a buffer. -/
theorem read_eq_ok_iff {buffer rest : Bytes} {record : Record} :
    read buffer = .ok (record, rest) ↔ record.Framed ∧ buffer = record.toBytes ++ rest := by
  constructor
  · intro result
    unfold read at result
    split at result
    · cases result
    · rename_i header afterHeader readHeader
      rcases eq_of_readHeader readHeader with ⟨rfl, noHeader, noSignatures⟩
      simp only [List.length_append, length_toBytes, noHeader, noSignatures,
        List.length_nil, SignatureList.headerSize] at result
      by_cases small : header.listSize.toNat < 28
      · simp [small] at result
      · by_cases truncated : 28 + afterHeader.length < header.listSize.toNat
        · simp [small, truncated] at result
        · by_cases oversized : header.listSize.toNat - 28 < header.signatureHeaderSize.toNat
          · simp [small, truncated, oversized] at result
          · simp only [small, truncated, oversized, Nat.add_zero, if_false, Except.ok.injEq,
              Prod.mk.injEq] at result
            rcases result with ⟨rfl, rfl⟩
            constructor
            · constructor
              · simp only [List.length_take, List.length_drop, SignatureList.headerSize]
                omega
              · simp only [List.length_take]
                omega
            · simp [toBytes, noHeader, noSignatures]
  · rintro ⟨framed, rfl⟩
    exact read_toBytes framed rest

end Record

@[simp]
theorem records_nil : records [] = ([], none) := by
  rw [records, if_pos rfl]

theorem records_of_read_ok {buffer rest : Bytes} {record : Record}
    (read : Record.read buffer = .ok (record, rest)) :
    records buffer = (record :: (records rest).1, (records rest).2) := by
  have notEmpty : buffer ≠ [] := by
    rintro rfl
    exact absurd (Record.length_lt_of_read read) (Nat.not_lt_zero _)
  rw [records, if_neg notEmpty]
  split
  · rename_i fault result
    rw [read] at result
    cases result
  · rename_i first afterFirst result
    rw [read] at result
    cases result
    rfl

/-- Framed records are read one after another. -/
theorem records_append {found : List Record} (framed : ∀ record ∈ found, record.Framed)
    (rest : Bytes) :
    records (found.flatMap Record.toBytes ++ rest) =
      (found ++ (records rest).1, (records rest).2) := by
  induction found with
  | nil => simp
  | cons record later ih =>
      have read := Record.read_toBytes (framed record List.mem_cons_self)
        (later.flatMap Record.toBytes ++ rest)
      rw [List.flatMap_cons, List.append_assoc, records_of_read_ok read,
        ih fun other mem => framed other (List.mem_cons_of_mem _ mem)]
      rfl

theorem records_flatMap {found : List Record} (framed : ∀ record ∈ found, record.Framed) :
    records (found.flatMap Record.toBytes) = (found, none) := by
  simpa using records_append framed []

/-- Whatever reading finds is framed and lies at the front of the buffer. When reading comes to no
fault, nothing lies behind it. -/
theorem eq_of_records {buffer : Bytes} {found : List Record} {fault : Option Fault}
    (result : records buffer = (found, fault)) :
    (∀ record ∈ found, record.Framed) ∧
      ∃ rest, buffer = found.flatMap Record.toBytes ++ rest ∧ (fault = none → rest = []) := by
  fun_induction records buffer generalizing found fault with
  | case1 =>
      cases result
      exact ⟨by simp, [], by simp, fun _ => rfl⟩
  | case2 buffer notEmpty failed read =>
      cases result
      exact ⟨by simp, buffer, by simp, by simp⟩
  | case3 buffer notEmpty record rest read later failed afterwards ih =>
      cases result
      rcases ih afterwards with ⟨laterFramed, tail, rfl, tailEmpty⟩
      rcases Record.read_eq_ok_iff.mp read with ⟨recordFramed, rfl⟩
      refine ⟨?_, tail, ?_, tailEmpty⟩
      · intro other mem
        rcases List.mem_cons.mp mem with rfl | inLater
        · exact recordFramed
        · exact laterFramed other inLater
      · rw [List.flatMap_cons, List.append_assoc]

/-- A buffer is taken apart to its end exactly if it is a concatenation of framed records. -/
theorem records_eq_iff {buffer : Bytes} {found : List Record} :
    records buffer = (found, none) ↔
      (∀ record ∈ found, record.Framed) ∧ buffer = found.flatMap Record.toBytes := by
  constructor
  · intro result
    rcases eq_of_records result with ⟨framed, rest, rfl, ended⟩
    rw [ended rfl, List.append_nil]
    exact ⟨framed, rfl⟩
  · rintro ⟨framed, rfl⟩
    exact records_flatMap framed

end OwnerKeys.SignatureList
