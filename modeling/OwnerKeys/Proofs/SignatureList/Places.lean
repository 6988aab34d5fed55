import OwnerKeys.Proofs.SignatureList.Truncation

/-!
# Places of entries

Every entry that decoding finds is a piece of the buffer, and no two of these pieces share a byte.
The sizes in a buffer can be anything, so it takes two walks to see where the pieces lie: one over
the records, and in each record one over the entries. A byte that belongs to no entry is part of a
header, follows the last whole entry of its record, or is in a record or an end of the buffer that
is passed over.
-/

namespace OwnerKeys.SignatureList

/-! ## Entries and their places -/

/-- Entries one right behind the other, each with the place where it starts. -/
def spread (start : Nat) : List Entry → List (Nat × Entry)
  | [] => []
  | entry :: later => (start, entry) :: spread (start + entry.toBytes.length) later

/-- The entries of records that lie one right behind the other, each with the place where it
starts. -/
def located (start : Nat) : List Record → List (Nat × Entry)
  | [] => []
  | record :: later =>
    spread (start + (headerSize + record.signatureHeader.length))
        (Decoded.ofRecord record).entries ++
      located (start + record.toBytes.length) later

/-- An entry is a piece of a buffer: its owner at a place, and right behind that its payload. -/
def LiesAt (buffer : Bytes) (place : Nat) (entry : Entry) : Prop :=
  ∃ front back, front.length = place ∧
    buffer = front ++ (entry.owner.toBytes ++ entry.payload ++ back)

/-- A position is that of a byte of an entry at a place. -/
def Covers (item : Nat × Entry) (position : Nat) : Prop :=
  item.1 ≤ position ∧ position < item.1 + item.2.toBytes.length

/-- One entry starts and ends before another one starts. -/
def Before (earlier later : Nat × Entry) : Prop :=
  earlier.1 < later.1 ∧ earlier.1 + earlier.2.toBytes.length ≤ later.1

/-- A position is that of a byte which belongs to no entry. Positions count from where the records
start. -/
inductive PassedOver : List Record → Nat → Prop where
  /-- The byte is in the header of a record. -/
  | header {record : Record} {later : List Record} {position : Nat}
      (within : position < headerSize) : PassedOver (record :: later) position
  /-- The byte is in the signature header of a record. -/
  | signatureHeader {record : Record} {later : List Record} {position : Nat}
      (behind : headerSize ≤ position)
      (within : position < headerSize + record.signatureHeader.length) :
      PassedOver (record :: later) position
  /-- The byte is left over behind the last whole entry of a record. -/
  | slack {record : Record} {later : List Record} {position : Nat} {kind : Kind} {size : Nat}
      (valid : record.validate = .ok (kind, size))
      (behind : headerSize + record.signatureHeader.length +
        record.signatures.length / size * size ≤ position)
      (within : position < record.toBytes.length) : PassedOver (record :: later) position
  /-- The byte is in a record that is skipped. -/
  | skipped {record : Record} {later : List Record} {position : Nat} {fault : Fault}
      (invalid : record.validate = .error fault) (within : position < record.toBytes.length) :
      PassedOver (record :: later) position
  /-- The byte is passed over behind the first record. -/
  | later {record : Record} {later : List Record} {position : Nat}
      (behind : record.toBytes.length ≤ position)
      (passed : PassedOver later (position - record.toBytes.length)) :
      PassedOver (record :: later) position
  /-- The byte is behind the last record. -/
  | tail {position : Nat} : PassedOver [] position

/-! ## The entries of one record -/

@[simp]
theorem map_snd_spread (start : Nat) (entries : List Entry) :
    (spread start entries).map Prod.snd = entries := by
  induction entries generalizing start with
  | nil => rfl
  | cons entry later ih => simp [spread, ih]

/-- Entries that are spread out stay within their bytes. -/
theorem within_of_mem_spread {start : Nat} {entries : List Entry} {item : Nat × Entry}
    (mem : item ∈ spread start entries) :
    start ≤ item.1 ∧
      item.1 + item.2.toBytes.length ≤ start + (entries.flatMap Entry.toBytes).length := by
  induction entries generalizing start with
  | nil => simp [spread] at mem
  | cons entry later ih =>
      rw [List.flatMap_cons, List.length_append]
      rcases List.mem_cons.mp mem with rfl | inLater
      · simp only
        omega
      · have bounds := ih inLater
        omega

theorem Before.of_le {earlier later : Nat × Entry}
    (apart : earlier.1 + earlier.2.toBytes.length ≤ later.1) : Before earlier later := by
  refine ⟨?_, apart⟩
  simp only [Entry.toBytes, List.length_append, Guid.length_toBytes] at apart
  omega

theorem pairwise_spread (start : Nat) (entries : List Entry) :
    (spread start entries).Pairwise Before := by
  induction entries generalizing start with
  | nil => exact .nil
  | cons entry later ih =>
      exact .cons (fun item mem => .of_le (within_of_mem_spread mem).1) (ih _)

/-- The bytes of entries that are spread out leave no gap. -/
theorem exists_covers_spread_iff {start position : Nat} {entries : List Entry} :
    (∃ item ∈ spread start entries, Covers item position) ↔
      start ≤ position ∧ position < start + (entries.flatMap Entry.toBytes).length := by
  induction entries generalizing start with
  | nil =>
      simp only [spread, List.not_mem_nil, false_and, exists_false, List.flatMap_nil,
        List.length_nil, false_iff]
      omega
  | cons entry later ih =>
      rw [spread, List.exists_mem_cons_iff, ih, List.flatMap_cons, List.length_append, Covers]
      simp only
      omega

theorem liesAt_of_mem_spread (front back : Bytes) {entries : List Entry} {item : Nat × Entry}
    (mem : item ∈ spread front.length entries) :
    LiesAt (front ++ (entries.flatMap Entry.toBytes ++ back)) item.1 item.2 := by
  induction entries generalizing front with
  | nil => simp [spread] at mem
  | cons entry later ih =>
      rcases List.mem_cons.mp mem with rfl | inLater
      · exact ⟨front, later.flatMap Entry.toBytes ++ back, rfl, by simp [Entry.toBytes]⟩
      · rw [← List.length_append] at inLater
        simpa using ih _ inLater

/-! ## The entries of a buffer -/

theorem map_snd_located (start : Nat) (found : List Record) :
    (located start found).map Prod.snd =
      found.flatMap fun record => (Decoded.ofRecord record).entries := by
  induction found generalizing start with
  | nil => rfl
  | cons record later ih => simp [located, ih]

/-- The entries of a record lie behind its headers. -/
theorem Record.exists_toBytes_eq (record : Record) :
    ∃ headers slack : Bytes,
      headers.length = SignatureList.headerSize + record.signatureHeader.length ∧
      record.toBytes =
        headers ++ ((Decoded.ofRecord record).entries.flatMap Entry.toBytes ++ slack) := by
  have signatures : ∃ slack, record.signatures =
      (Decoded.ofRecord record).entries.flatMap Entry.toBytes ++ slack := by
    cases valid : record.validate with
    | error fault =>
        exact ⟨record.signatures, by simp [Decoded.ofRecord_of_validate_error valid]⟩
    | ok result =>
        rcases Decoded.exists_slack_ofRecord valid with ⟨slack, split, _⟩
        exact ⟨slack, split⟩
  rcases signatures with ⟨slack, split⟩
  refine ⟨{ record with signatures := [] }.toBytes, slack, by simp, ?_⟩
  rw [← split]
  simp [toBytes]

theorem le_of_mem_located {start : Nat} {found : List Record} {item : Nat × Entry}
    (mem : item ∈ located start found) : start ≤ item.1 := by
  induction found generalizing start with
  | nil => simp [located] at mem
  | cons record later ih =>
      rcases List.mem_append.mp mem with inRecord | inLater
      · have bounds := within_of_mem_spread inRecord
        omega
      · have bound := ih inLater
        omega

theorem pairwise_located (start : Nat) (found : List Record) :
    (located start found).Pairwise Before := by
  induction found generalizing start with
  | nil => exact .nil
  | cons record later ih =>
      refine List.pairwise_append.mpr ⟨pairwise_spread _ _, ih _, ?_⟩
      -- What lies in one record ends before the record does.
      intro earlier inRecord next inLater
      rcases record.exists_toBytes_eq with ⟨headers, slack, headersLength, split⟩
      have size := congrArg List.length split
      have bounds := within_of_mem_spread inRecord
      have bound := le_of_mem_located inLater
      simp only [List.length_append] at size
      exact .of_le (by omega)

theorem liesAt_of_mem_located (front back : Bytes) {found : List Record} {item : Nat × Entry}
    (mem : item ∈ located front.length found) :
    LiesAt (front ++ (found.flatMap Record.toBytes ++ back)) item.1 item.2 := by
  induction found generalizing front with
  | nil => simp [located] at mem
  | cons record later ih =>
      rcases List.mem_append.mp mem with inRecord | inLater
      · rcases record.exists_toBytes_eq with ⟨headers, slack, headersLength, split⟩
        rw [← headersLength, ← List.length_append] at inRecord
        simpa [split] using
          liesAt_of_mem_spread _ (slack ++ (later.flatMap Record.toBytes ++ back)) inRecord
      · rw [← List.length_append] at inLater
        simpa using ih _ inLater

/-! ## What belongs to no entry -/

/-- Within a record, what belongs to no entry is what lies before the first entry or behind the last
one. -/
theorem passedOver_iff_of_lt {record : Record} {later : List Record} {position : Nat}
    (within : position < record.toBytes.length) :
    PassedOver (record :: later) position ↔
      position < headerSize + record.signatureHeader.length ∨
        headerSize + record.signatureHeader.length +
          ((Decoded.ofRecord record).entries.flatMap Entry.toBytes).length ≤ position := by
  constructor
  · intro passed
    cases passed with
    | header within => exact .inl (Nat.lt_of_lt_of_le within (Nat.le_add_right _ _))
    | signatureHeader _ within => exact .inl within
    | slack valid behind _ =>
        rw [(Decoded.length_entries_ofRecord valid).2]
        exact .inr behind
    | skipped invalid _ =>
        rw [Decoded.ofRecord_of_validate_error invalid, List.flatMap_nil, List.length_nil]
        exact Nat.lt_or_ge _ _
    | later behind _ => exact absurd within (Nat.not_lt.mpr behind)
  · rintro (before | behind)
    · by_cases inHeader : position < headerSize
      · exact .header inHeader
      · exact .signatureHeader (Nat.le_of_not_lt inHeader) before
    · cases valid : record.validate with
      | error fault => exact .skipped valid within
      | ok result =>
          rw [(Decoded.length_entries_ofRecord valid).2] at behind
          exact .slack valid behind within

/-- Behind the first record, what belongs to no entry is what belongs to none of the others. -/
theorem passedOver_iff_of_le {record : Record} {later : List Record} {position : Nat}
    (behind : record.toBytes.length ≤ position) :
    PassedOver (record :: later) position ↔
      PassedOver later (position - record.toBytes.length) := by
  refine ⟨fun passed => ?_, .later behind⟩
  have size := record.length_toBytes
  cases passed with
  | header within => omega
  | signatureHeader _ within => omega
  | slack _ _ within => omega
  | skipped _ within => omega
  | later _ passed => exact passed

/-- A byte behind the place where the records start belongs to an entry exactly if it is not passed
over. -/
theorem exists_covers_located_iff (start position : Nat) (found : List Record) :
    (∃ item ∈ located start found, Covers item (start + position)) ↔
      ¬PassedOver found position := by
  induction found generalizing start position with
  | nil => simp [located, PassedOver.tail]
  | cons record later ih =>
      simp only [located, List.mem_append, or_and_right, exists_or, exists_covers_spread_iff]
      by_cases within : position < record.toBytes.length
      · have notLater : ¬∃ item ∈ located (start + record.toBytes.length) later,
            Covers item (start + position) := by
          rintro ⟨item, mem, covers⟩
          have bound := le_of_mem_located mem
          have reached := covers.1
          omega
        rw [passedOver_iff_of_lt within]
        simp only [notLater, or_false]
        omega
      · -- Behind the first record, positions count from where the second one starts.
        have behind := Nat.le_of_not_lt within
        have same : start + position =
            start + record.toBytes.length + (position - record.toBytes.length) := by
          omega
        rcases record.exists_toBytes_eq with ⟨headers, slack, headersLength, split⟩
        have size := congrArg List.length split
        simp only [List.length_append] at size
        rw [passedOver_iff_of_le behind, ← ih (start + record.toBytes.length), ← same]
        refine or_iff_right ?_
        omega

/-- Entries have been found in a buffer, each at the place that stands with it. -/
structure Placed (buffer : Bytes) (items : List (Nat × Entry)) : Prop where
  /-- They are the entries that decoding finds, in order. -/
  entries_eq : items.map Prod.snd = (decode buffer).entries
  /-- Each entry is a piece of the buffer. -/
  liesAt : ∀ item ∈ items, LiesAt buffer item.1 item.2
  /-- The places ascend, and no entry reaches into a later one. -/
  apart : items.Pairwise Before
  /-- The bytes of the entries are those that are not passed over. -/
  covers_iff : ∀ position,
    (∃ item ∈ items, Covers item position) ↔ ¬PassedOver (records buffer).1 position

theorem placed_located (buffer : Bytes) : Placed buffer (located 0 (records buffer).1) := by
  rcases eq_of_records (show records buffer = (_, _) from rfl) with ⟨_, rest, split, _⟩
  constructor
  · rw [map_snd_located, entries_decode]
  · intro item mem
    rw [split]
    exact liesAt_of_mem_located [] rest mem
  · exact pairwise_located _ _
  · intro position
    simpa using exists_covers_located_iff 0 position (records buffer).1

/-- The entries that decoding finds are pieces of the buffer that share no byte with each other, or
with anything that is passed over. A digest has 32 bytes, and no payload is without bytes. -/
theorem exists_placed_decode (buffer : Bytes) :
    (∃ items, Placed buffer items) ∧
      (∀ entry ∈ (decode buffer).entries, match entry.kind with
        | .sha256 => entry.payload.length = 32
        | .x509 => 1 ≤ entry.payload.length) ∧
      (decode buffer).contains [] = false := by
  refine ⟨⟨_, placed_located buffer⟩, ?_, ?_⟩
  · intro entry mem
    have admits := admits_of_mem_decode mem
    cases kind : entry.kind with
    | sha256 =>
        simp only [kind, Kind.Admits, ownerSize, sha256EntrySize] at admits ⊢
        omega
    | x509 =>
        simp only [kind, Kind.Admits] at admits ⊢
        omega
  · simp only [Decoded.contains, List.any_eq_false, beq_iff_eq]
    exact fun entry mem => payload_ne_nil (List.mem_map_of_mem mem)

end OwnerKeys.SignatureList
