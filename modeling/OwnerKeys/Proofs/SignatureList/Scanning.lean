import OwnerKeys.Proofs.SignatureList.Truncation

/-!
# Taking a buffer apart call by call

A strict reader gives one record with every call. Where the next record cannot be found it gives the
fault that hides it, and from then on nothing. `records` is all that such a reader gives: reading
ends, nothing is lost on the way, and the sizes in the header of a record are those of its parts.
Which fault hides a record is told by the header at the front of what has not been read.
-/

namespace OwnerKeys.SignatureList

/-! ## The reader -/

/-- What one call of a reader gives: the next record, the fault that hides it, or nothing at the end
of the buffer. Then what is left for the later calls; after a fault that is nothing. -/
def next (buffer : Bytes) : Option (Except Fault Record) × Bytes :=
  if buffer = [] then
    (none, [])
  else
    match Record.read buffer with
    | .error fault => (some (.error fault), [])
    | .ok (record, rest) => (some (.ok record), rest)

/-- What a reader gives when it has been called a number of times before. -/
def item? (buffer : Bytes) : Nat → Option (Except Fault Record)
  | 0 => (next buffer).1
  | earlier + 1 => item? (next buffer).2 earlier

theorem item?_nil (earlier : Nat) : item? [] earlier = none := by
  induction earlier with
  | zero => rfl
  | succ earlier ih => exact ih

/-- The calls of a reader give the records of the buffer one by one, then the fault, if there is
one, and then nothing. -/
theorem item?_eq (buffer : Bytes) (earlier : Nat) :
    item? buffer earlier =
      ((records buffer).1.map .ok ++ (records buffer).2.toList.map .error)[earlier]? := by
  -- Each record takes one call, so the number of earlier calls varies along the induction.
  fun_induction records buffer generalizing earlier with
  | case1 => simp [item?_nil]
  | case2 buffer notEmpty fault read =>
      have step : next buffer = (some (.error fault), []) := by simp [next, notEmpty, read]
      cases earlier with
      | zero => simp [item?, step]
      | succ earlier => simp [item?, step, item?_nil]
  | case3 buffer notEmpty record rest read later fault afterwards ih =>
      have step : next buffer = (some (.ok record), rest) := by simp [next, notEmpty, read]
      rw [afterwards] at ih
      cases earlier with
      | zero => simp [item?, step]
      | succ earlier => simpa [item?, step] using ih earlier

/-- A reader comes to a fault with one of its calls exactly if reading stops at that fault. -/
theorem exists_item?_eq_error_iff {buffer : Bytes} {fault : Fault} :
    (∃ earlier, item? buffer earlier = some (.error fault)) ↔ (records buffer).2 = some fault := by
  simp [item?_eq, ← List.mem_iff_getElem?]

/-! ## The fault -/

/-- The four bytes at a place spell a number. -/
def NumberAt (bytes : Bytes) (place : Nat) (number : UInt32) : Prop :=
  (bytes.drop place).take 4 = LittleEndian.ofUInt32 number

theorem numberAt_append {front rest : Bytes} {place : Nat} {word number : UInt32}
    (length : front.length = place) :
    NumberAt (front ++ (LittleEndian.ofUInt32 word ++ rest)) place number ↔ word = number := by
  rw [NumberAt, List.drop_left' length, List.take_left' (LittleEndian.length_ofUInt32 word),
    LittleEndian.ofUInt32_inj]

/-- Why no record can be found at the front of some bytes. Of several reasons it is the first one,
in the order in which they are listed. -/
inductive Hides (rest : Bytes) : Fault → Prop where
  /-- There are bytes, but not enough for a header. -/
  | invalidHeader (nonempty : 0 < rest.length) (short : rest.length < headerSize) :
      Hides rest (.invalidHeader rest.length)
  /-- The record is declared to be smaller than its header. -/
  | invalidListSize {listSize : UInt32} (whole : headerSize ≤ rest.length)
      (declared : NumberAt rest 16 listSize) (small : listSize.toNat < headerSize) :
      Hides rest (.invalidListSize listSize)
  /-- The record is declared to be larger than what there is. -/
  | truncatedData {listSize : UInt32} (whole : headerSize ≤ rest.length)
      (declared : NumberAt rest 16 listSize) (large : headerSize ≤ listSize.toNat)
      (truncated : rest.length < listSize.toNat) :
      Hides rest (.truncatedData listSize rest.length)
  /-- The signature header is declared to be larger than what the record has behind its header. -/
  | invalidHeaderSize {listSize signatureHeaderSize : UInt32} (whole : headerSize ≤ rest.length)
      (declared : NumberAt rest 16 listSize) (large : headerSize ≤ listSize.toNat)
      (enough : listSize.toNat ≤ rest.length)
      (headerDeclared : NumberAt rest 20 signatureHeaderSize)
      (oversized : listSize.toNat - headerSize < signatureHeaderSize.toNat) :
      Hides rest (.invalidHeaderSize signatureHeaderSize listSize)

theorem Hides.isFatal {rest : Bytes} {fault : Fault} (hides : Hides rest fault) :
    fault.isFatal = true := by
  cases hides <;> rfl

/-- Where nothing is left, nothing is hidden. -/
theorem Hides.ne_nil {rest : Bytes} {fault : Fault} (hides : Hides rest fault) : rest ≠ [] := by
  rintro rfl
  cases hides with
  | invalidHeader nonempty => exact absurd nonempty (Nat.lt_irrefl 0)
  | invalidListSize whole => exact absurd whole (by decide)
  | truncatedData whole => exact absurd whole (by decide)
  | invalidHeaderSize whole => exact absurd whole (by decide)

namespace Record

/-- A header is found wherever there are enough bytes for one. -/
theorem exists_readHeader {rest : Bytes} (whole : SignatureList.headerSize ≤ rest.length) :
    ∃ header afterHeader, readHeader? rest = some (header, afterHeader) := by
  simp only [SignatureList.headerSize] at whole
  have room : 16 ≤ rest.length := by omega
  rcases Guid.exists_read room with ⟨type, rest1, readType⟩
  have left1 := Guid.length_of_read readType
  have room1 : 4 ≤ rest1.length := by omega
  rcases LittleEndian.exists_read32 room1 with ⟨listSize, rest2, readList⟩
  have left2 := LittleEndian.length_of_read32 readList
  have room2 : 4 ≤ rest2.length := by omega
  rcases LittleEndian.exists_read32 room2 with ⟨headerSize, rest3, readHeader⟩
  have left3 := LittleEndian.length_of_read32 readHeader
  have room3 : 4 ≤ rest3.length := by omega
  rcases LittleEndian.exists_read32 room3 with ⟨signatureSize, rest4, readSignature⟩
  refine ⟨⟨type, listSize, headerSize, signatureSize, [], []⟩, rest4, ?_⟩
  simp [readHeader?, readType, readList, readHeader, readSignature]

theorem readHeader_eq_none_iff {rest : Bytes} :
    readHeader? rest = none ↔ rest.length < SignatureList.headerSize := by
  constructor
  · intro unread
    by_contra whole
    rcases exists_readHeader (Nat.le_of_not_lt whole) with ⟨header, afterHeader, read⟩
    cases unread.symm.trans read
  · intro short
    cases read : readHeader? rest with
    | none => rfl
    | some found =>
        have size := length_of_readHeader read
        omega

/-- A header that was read has its sizes at their places. -/
theorem numberAt_iff_of_readHeader {rest afterHeader : Bytes} {header : Record}
    (read : readHeader? rest = some (header, afterHeader)) (number : UInt32) :
    (NumberAt rest 16 number ↔ header.listSize = number) ∧
      (NumberAt rest 20 number ↔ header.signatureHeaderSize = number) := by
  rcases eq_of_readHeader read with ⟨spelled, noHeader, noSignatures⟩
  simp only [toBytes, noHeader, noSignatures, List.append_nil, List.append_assoc] at spelled
  constructor
  · rw [spelled, numberAt_append (Guid.length_toBytes _)]
  · rw [spelled, ← List.append_assoc, numberAt_append (by simp)]

theorem read_of_short {rest : Bytes} (short : rest.length < SignatureList.headerSize) :
    read rest = .error (.invalidHeader rest.length) := by
  unfold read
  rw [readHeader_eq_none_iff.mpr short]

/-- Whatever hides a record is what reading it comes to. -/
theorem read_of_hides {rest : Bytes} {fault : Fault} (hides : Hides rest fault) :
    read rest = .error fault := by
  cases hides with
  | invalidHeader _ short => exact read_of_short short
  | invalidListSize whole declared small =>
      rcases exists_readHeader whole with ⟨header, afterHeader, found⟩
      cases (numberAt_iff_of_readHeader found _).1.mp declared
      simp only [read, found, small, if_true]
  | truncatedData whole declared large truncated =>
      rcases exists_readHeader whole with ⟨header, afterHeader, found⟩
      cases (numberAt_iff_of_readHeader found _).1.mp declared
      simp only [read, found, Nat.not_lt.mpr large, truncated, if_false, if_true]
  | invalidHeaderSize whole declared large enough headerDeclared oversized =>
      rcases exists_readHeader whole with ⟨header, afterHeader, found⟩
      cases (numberAt_iff_of_readHeader found _).1.mp declared
      cases (numberAt_iff_of_readHeader found _).2.mp headerDeclared
      simp only [read, found, Nat.not_lt.mpr large, Nat.not_lt.mpr enough, oversized, if_false,
        if_true]

/-- Bytes are refused exactly for what hides the record at their front. -/
theorem read_eq_error_iff {rest : Bytes} {fault : Fault} (notEmpty : rest ≠ []) :
    read rest = .error fault ↔ Hides rest fault := by
  refine ⟨fun refused => ?_, read_of_hides⟩
  -- The cases follow the order in which reading looks for reasons; each excludes those before it.
  by_cases short : rest.length < SignatureList.headerSize
  · cases (read_of_short short).symm.trans refused
    exact .invalidHeader (List.length_pos_iff.mpr notEmpty) short
  · have whole := Nat.le_of_not_lt short
    rcases exists_readHeader whole with ⟨header, afterHeader, found⟩
    have declared := (numberAt_iff_of_readHeader found _).1.mpr rfl
    have headerDeclared := (numberAt_iff_of_readHeader found _).2.mpr rfl
    by_cases small : header.listSize.toNat < SignatureList.headerSize
    · have hides := Hides.invalidListSize whole declared small
      cases (read_of_hides hides).symm.trans refused
      exact hides
    · have large := Nat.le_of_not_lt small
      by_cases truncated : rest.length < header.listSize.toNat
      · have hides := Hides.truncatedData whole declared large truncated
        cases (read_of_hides hides).symm.trans refused
        exact hides
      · have enough := Nat.le_of_not_lt truncated
        by_cases oversized : header.listSize.toNat - SignatureList.headerSize <
            header.signatureHeaderSize.toNat
        · have hides := Hides.invalidHeaderSize whole declared large enough headerDeclared oversized
          cases (read_of_hides hides).symm.trans refused
          exact hides
        · simp [read, found, small, truncated, oversized] at refused

end Record

/-! ## What reading leaves -/

/-- Behind the records there is either nothing or a record that is hidden, and the fault is what
hides it. -/
theorem exists_rest (buffer : Bytes) :
    ∃ rest, buffer = (records buffer).1.flatMap Record.toBytes ++ rest ∧
      ((records buffer).2 = none → rest = []) ∧
      ∀ fault, (records buffer).2 = some fault ↔ Hides rest fault := by
  fun_induction records buffer with
  | case1 =>
      refine ⟨[], by simp, fun _ => rfl, fun fault => ?_⟩
      simpa using fun hides : Hides [] fault => hides.ne_nil rfl
  | case2 buffer notEmpty failed read =>
      refine ⟨buffer, by simp, by simp, fun fault => ?_⟩
      rw [← Record.read_eq_error_iff notEmpty, read]
      simp
  | case3 buffer notEmpty record rest read later failed afterwards ih =>
      rw [afterwards] at ih
      rcases ih with ⟨tail, rfl, ended, stopped⟩
      rcases Record.read_eq_ok_iff.mp read with ⟨_, rfl⟩
      exact ⟨tail, by simp, ended, stopped⟩

/-- Every record takes up at least a header. -/
theorem mul_headerSize_le_length (found : List Record) :
    found.length * headerSize ≤ (found.flatMap Record.toBytes).length := by
  induction found with
  | nil => simp
  | cons record later ih =>
      have size := record.length_toBytes
      simp only [List.flatMap_cons, List.length_append, List.length_cons, Nat.succ_mul]
      omega

/-- A buffer has been taken apart into records, up to its end or to a fault. -/
structure Scanned (buffer : Bytes) (found : List Record) (fault : Option Fault) : Prop where
  /-- The calls of a reader give the records in order, then the fault, if there is one, and from
  then on nothing. -/
  item_eq : ∀ earlier,
    item? buffer earlier = (found.map .ok ++ fault.toList.map .error)[earlier]?
  /-- There are no more records than there is room for their headers. -/
  length_le : found.length ≤ buffer.length / headerSize
  /-- The sizes in the header of a record are those of the record and of its signature header. -/
  sizes : ∀ record ∈ found, record.listSize.toNat = record.toBytes.length ∧
    record.signatureHeaderSize.toNat = record.signatureHeader.length
  /-- The records lie at the front of the buffer, and a fault is what hides a record at the front of
  the rest. -/
  exists_rest : ∃ rest, buffer = found.flatMap Record.toBytes ++ rest ∧
    ∀ reason, fault = some reason ↔ Hides rest reason
  /-- They are the whole buffer exactly if there is no fault. -/
  whole_iff : found.flatMap Record.toBytes = buffer ↔ fault = none

/-- Reading takes every buffer apart without losing anything, and stops at the first fault. -/
theorem scanned_records (buffer : Bytes) :
    Scanned buffer (records buffer).1 (records buffer).2 := by
  rcases exists_rest buffer with ⟨rest, split, ended, stopped⟩
  have framed := (eq_of_records (show records buffer = (_, _) from rfl)).1
  constructor
  · exact item?_eq buffer
  · rw [Nat.le_div_iff_mul_le (by decide)]
    calc (records buffer).1.length * headerSize
        ≤ ((records buffer).1.flatMap Record.toBytes).length := mul_headerSize_le_length _
      _ ≤ buffer.length := by
        rw [congrArg List.length split, List.length_append]
        exact Nat.le_add_right _ _
  · intro record mem
    rw [Record.length_toBytes]
    exact ⟨(framed record mem).listSize, (framed record mem).signatureHeaderSize⟩
  · exact ⟨rest, split, stopped⟩
  · constructor
    · intro whole
      have nothing : rest = [] := by
        rw [whole] at split
        simpa using split
      rw [Option.eq_none_iff_forall_ne_some]
      exact fun fault found => ((stopped fault).mp found).ne_nil nothing
    · intro noFault
      rw [ended noFault, List.append_nil] at split
      exact split.symm

end OwnerKeys.SignatureList
