import OwnerKeys.Proofs.SignatureList.Grammar

/-!
# Writing signature lists and decoding them

Every list whose record fits in 32 bits is written as a key block, except the list of a certificate
without bytes: the size of its entry is the size of the owner alone, which no reader accepts. So
decoding gives back what was written, and reports the certificates without bytes one by one.
-/

namespace OwnerKeys

namespace SignatureList

/-- Whether a list is a certificate without bytes. -/
def isEmptyCertificate : SignatureList → Bool
  | x509 _ certificate => certificate.isEmpty
  | sha256 _ => false

theorem entry_kind_eq (list : SignatureList) : ∀ entry ∈ list.entries, entry.kind = list.kind := by
  cases list with
  | x509 owner certificate => simp [entries, kind]
  | sha256 signatures =>
      intro entry mem
      rcases List.mem_map.mp mem with ⟨_, _, rfl⟩
      rfl

theorem entry_length_eq (list : SignatureList) :
    ∀ entry ∈ list.entries, entry.toBytes.length = ownerSize + list.payloadSize := by
  cases list with
  | x509 owner certificate => simp [entries, payloadSize, Entry.toBytes, ownerSize]
  | sha256 signatures =>
      intro entry mem
      rcases List.mem_map.mp mem with ⟨_, _, rfl⟩
      simp [payloadSize, Entry.toBytes, ownerSize]

/-- The entry size fits in the header of a record that fits as a whole: a list of digests may be
without entries, but then its entry size is known. -/
theorem entrySize_lt {list : SignatureList} (fits : list.recordSize < UInt32.size) :
    ownerSize + list.payloadSize < UInt32.size := by
  cases list with
  | x509 owner certificate =>
      simp only [recordSize, entries, List.length_singleton] at fits
      omega
  | sha256 signatures =>
      simp only [payloadSize, ownerSize, UInt32.size]
      omega

theorem toNat_signatureSize {list : SignatureList} (fits : list.recordSize < UInt32.size) :
    list.toRecord.signatureSize.toNat = ownerSize + list.payloadSize :=
  UInt32.toNat_ofNat_of_lt' (entrySize_lt fits)

theorem framed_toRecord {list : SignatureList} (fits : list.recordSize < UInt32.size) :
    list.toRecord.Framed := by
  constructor
  · have size : list.toRecord.listSize.toNat = list.recordSize :=
      UInt32.toNat_ofNat_of_lt' fits
    rw [size]
    simp only [toRecord, List.length_nil, List.flatMap_def, recordSize]
    rw [length_flatten_of_forall (by simpa using list.entry_length_eq), List.length_map,
      Nat.add_zero]
  · rfl

theorem kind_admits {list : SignatureList} (notEmpty : list.isEmptyCertificate = false) :
    list.kind.Admits (ownerSize + list.payloadSize) := by
  cases list with
  | x509 owner certificate =>
      have positive := List.length_pos_iff.mpr (by simpa [isEmptyCertificate] using notEmpty)
      simp only [kind, Kind.Admits, payloadSize]
      omega
  | sha256 signatures => rfl

/-- The key block that a list is written as. -/
def toKeyBlock (list : SignatureList) (fits : list.recordSize < UInt32.size)
    (notEmpty : list.isEmptyCertificate = false) : KeyBlock where
  kind := list.kind
  signatureHeader := []
  entrySize := list.toRecord.signatureSize
  entries := list.entries
  admits := by
    rw [toNat_signatureSize fits]
    exact kind_admits notEmpty
  entry_kind := list.entry_kind_eq
  entry_length := by
    rw [toNat_signatureSize fits]
    exact list.entry_length_eq
  fits := by
    rw [toNat_signatureSize fits]
    exact fits

theorem toRecord_toKeyBlock {list : SignatureList} (fits : list.recordSize < UInt32.size)
    (notEmpty : list.isEmptyCertificate = false) :
    (list.toKeyBlock fits notEmpty).toRecord = list.toRecord := by
  simp only [KeyBlock.toRecord, KeyBlock.size, toKeyBlock, toNat_signatureSize fits]
  rfl

/-- What the record of a list contributes when it is decoded. -/
theorem ofRecord_toRecord_eq {list : SignatureList} (fits : list.recordSize < UInt32.size) :
    Decoded.ofRecord list.toRecord =
      if list.isEmptyCertificate then ⟨[], [.invalidSignatureSize 16], none⟩
      else ⟨list.entries, [], none⟩ := by
  cases empty : list.isEmptyCertificate with
  | true =>
      cases list with
      | x509 owner certificate =>
          obtain rfl : certificate = [] := by simpa [isEmptyCertificate] using empty
          rfl
      | sha256 signatures => cases empty
  | false =>
      rw [← toRecord_toKeyBlock fits empty, KeyBlock.ofRecord_toRecord]
      rfl

theorem encodeLists_eq_ok {lists : List SignatureList}
    (fit : ∀ list ∈ lists, list.recordSize < UInt32.size) :
    encodeLists lists = .ok (lists.flatMap fun list => list.toRecord.toBytes) := by
  induction lists with
  | nil => rfl
  | cons list later ih =>
      have first : list.toBytes = .ok list.toRecord.toBytes :=
        if_pos (fit list List.mem_cons_self)
      have others := ih fun other mem => fit other (List.mem_cons_of_mem _ mem)
      simp only [encodeLists, first, others, List.flatMap_cons]
      rfl

/-- What the records of lists contribute together. -/
theorem flatMap_ofRecord_toRecord {lists : List SignatureList}
    (fit : ∀ list ∈ lists, list.recordSize < UInt32.size) :
    (lists.flatMap fun list => (Decoded.ofRecord list.toRecord).entries) =
        (lists.filter (!·.isEmptyCertificate)).flatMap entries ∧
      (lists.flatMap fun list => (Decoded.ofRecord list.toRecord).skipped) =
        (lists.filter (·.isEmptyCertificate)).map fun _ => .invalidSignatureSize 16 := by
  induction lists with
  | nil => exact ⟨rfl, rfl⟩
  | cons list later ih =>
      have others := ih fun other mem => fit other (List.mem_cons_of_mem _ mem)
      have first := ofRecord_toRecord_eq (fit list List.mem_cons_self)
      rw [List.flatMap_cons, List.flatMap_cons, others.1, others.2, first]
      cases empty : list.isEmptyCertificate <;> simp [empty]

/-- A sequence of lists is only written if every list fits in its record. -/
theorem fit_of_encodeLists {lists : List SignatureList} {bytes : Bytes}
    (written : encodeLists lists = .ok bytes) : ∀ list ∈ lists, list.recordSize < UInt32.size := by
  induction lists generalizing bytes with
  | nil => simp
  | cons list later ih =>
      unfold encodeLists toBytes at written
      by_cases fits : list.recordSize < UInt32.size
      · rw [if_pos fits] at written
        cases others : encodeLists later with
        | error error => simp [others, bind, Except.bind] at written
        | ok rest =>
            intro other mem
            rcases List.mem_cons.mp mem with rfl | inLater
            · exact fits
            · exact ih others other inLater
      · simp [if_neg fits, bind, Except.bind] at written

/-- Decoding what was written, with any bytes behind it, gives the entries of all lists and then
what those bytes give, save that certificates without bytes are reported. -/
theorem decode_encodedLists_append {lists : List SignatureList}
    (fit : ∀ list ∈ lists, list.recordSize < UInt32.size) (rest : Bytes) :
    decode ((lists.flatMap fun list => list.toRecord.toBytes) ++ rest) =
      ⟨(lists.filter (!·.isEmptyCertificate)).flatMap entries ++ (decode rest).entries,
        ((lists.filter (·.isEmptyCertificate)).map fun _ => .invalidSignatureSize 16) ++
          (decode rest).skipped,
        (decode rest).malformed⟩ := by
  have framed : ∀ record ∈ lists.map toRecord, record.Framed := by
    intro record mem
    rcases List.mem_map.mp mem with ⟨list, listMem, rfl⟩
    exact framed_toRecord (fit list listMem)
  have decoded := decode_append framed rest
  rw [List.flatMap_map, List.flatMap_map, List.flatMap_map] at decoded
  rcases flatMap_ofRecord_toRecord fit with ⟨sameEntries, sameSkipped⟩
  rw [decoded, sameEntries, sameSkipped]

/-- Decoding what was written gives the entries of all lists, save that certificates without bytes
are reported. -/
theorem decode_encodedLists {lists : List SignatureList}
    (fit : ∀ list ∈ lists, list.recordSize < UInt32.size) :
    decode (lists.flatMap fun list => list.toRecord.toBytes) =
      ⟨(lists.filter (!·.isEmptyCertificate)).flatMap entries,
        (lists.filter (·.isEmptyCertificate)).map fun _ => .invalidSignatureSize 16, none⟩ := by
  simpa [decode_nil] using decode_encodedLists_append fit []

theorem encode_eq_ok {certificates : List Bytes} {owner : Guid}
    (fit : ∀ certificate ∈ certificates, (x509 owner certificate).recordSize < UInt32.size) :
    encode certificates owner =
      .ok ((certificates.map (x509 owner)).flatMap fun list => list.toRecord.toBytes) :=
  encodeLists_eq_ok (by simpa using fit)

theorem entries_certificates (certificates : List Bytes) (owner : Guid) :
    ((certificates.map (x509 owner)).filter (!·.isEmptyCertificate)).flatMap entries =
      (certificates.filter (· ≠ [])).map (⟨.x509, owner, ·⟩) := by
  induction certificates with
  | nil => rfl
  | cons certificate later ih =>
      cases certificate with
      | nil => simpa [isEmptyCertificate] using ih
      | cons byte others => simpa [isEmptyCertificate, entries] using ih

/-- Decoding a buffer that certificates were written in front of gives an entry for each of these
certificates, save those without bytes, and then what the buffer gave before. -/
theorem decode_encode_append {certificates : List Bytes} {owner : Guid} {bytes : Bytes}
    (written : encode certificates owner = .ok bytes) (rest : Bytes) :
    (decode (bytes ++ rest)).entries =
        (certificates.filter (· ≠ [])).map (⟨.x509, owner, ·⟩) ++ (decode rest).entries ∧
      (decode (bytes ++ rest)).malformed = (decode rest).malformed := by
  have fit := fit_of_encodeLists written
  have same := (encodeLists_eq_ok fit).symm.trans written
  rw [← Except.ok.inj same, decode_encodedLists_append fit, entries_certificates]
  exact ⟨rfl, rfl⟩

/-- Among the keys of a buffer that certificates were written in front of are these certificates,
save those without bytes. -/
theorem payloads_encode_append {certificates : List Bytes} {owner : Guid} {bytes : Bytes}
    (written : encode certificates owner = .ok bytes) (rest : Bytes) :
    (decode (bytes ++ rest)).payloads = certificates.filter (· ≠ []) ++ (decode rest).payloads := by
  rw [Decoded.payloads, (decode_encode_append written rest).1, List.map_append, List.map_map,
    Decoded.payloads]
  congr 1
  exact List.map_id _

/-- Certificates with bytes are decoded as they were written. -/
theorem decode_encodedCertificates {certificates : List Bytes} {owner : Guid}
    (notEmpty : ∀ certificate ∈ certificates, certificate ≠ [])
    (fit : ∀ certificate ∈ certificates, (x509 owner certificate).recordSize < UInt32.size) :
    decode ((certificates.map (x509 owner)).flatMap fun list => list.toRecord.toBytes) =
      ⟨certificates.map (⟨.x509, owner, ·⟩), [], none⟩ := by
  have noneEmpty : ∀ list ∈ certificates.map (x509 owner), list.isEmptyCertificate = false := by
    intro list mem
    rcases List.mem_map.mp mem with ⟨certificate, certificateMem, rfl⟩
    simpa [isEmptyCertificate] using notEmpty certificate certificateMem
  rw [decode_encodedLists (by simpa using fit), List.filter_eq_self.mpr (by simpa using noneEmpty),
    List.filter_eq_nil_iff.mpr (by simpa using noneEmpty), List.flatMap_map, List.map_nil]
  congr 1
  exact List.map_eq_flatMap.symm

/-- Whatever was written with bytes in every certificate is decoded as it was written. -/
theorem decode_encode_eq {certificates : List Bytes} {owner : Guid} {bytes : Bytes}
    (written : encode certificates owner = .ok bytes)
    (notEmpty : ∀ certificate ∈ certificates, certificate ≠ []) :
    decode bytes = ⟨certificates.map (⟨.x509, owner, ·⟩), [], none⟩ := by
  have fit := fit_of_encodeLists written
  have same := (encodeLists_eq_ok fit).symm.trans written
  rw [← Except.ok.inj same]
  exact decode_encodedCertificates notEmpty (by simpa using fit)

/-- A certificate that was decoded fits in a record of its own, for it came out of one. -/
theorem recordSize_lt_of_mem_payloads {buffer payload : Bytes}
    (mem : payload ∈ (decode buffer).payloads) (owner : Guid) :
    (x509 owner payload).recordSize < UInt32.size := by
  rcases List.mem_map.mp mem with ⟨entry, entryMem, rfl⟩
  simp only [decode, List.mem_flatMap, List.mem_map] at entryMem
  rcases entryMem with ⟨_, ⟨record, found, rfl⟩, inRecord⟩
  have framed := (eq_of_records (show records buffer = (_, _) from rfl)).1 record found
  cases valid : record.validate with
  | error fault =>
      simp [Decoded.ofRecord_of_validate_error valid] at inRecord
  | ok result =>
      rcases result with ⟨kind, size⟩
      rcases Record.exists_entries valid with ⟨inside, slack, kinds, lengths, signatures, short⟩
      have contents := Record.entriesWithSlack_of_entries valid kinds lengths signatures short
      simp only [Decoded.ofRecord, contents] at inRecord
      have within : entry.toBytes.length ≤ record.signatures.length := by
        have spelled : entry.toBytes ∈ inside.map Entry.toBytes := List.mem_map_of_mem inRecord
        rw [signatures, List.length_append, List.flatMap_def]
        exact Nat.le_add_right_of_le (List.infix_of_mem_flatten spelled).length_le
      have bound := record.listSize.toNat_lt
      have listSize := framed.listSize
      simp only [Entry.toBytes, List.length_append, Guid.length_toBytes] at within
      simp only [recordSize, entries, payloadSize, List.length_singleton, headerSize, ownerSize,
        UInt32.size] at listSize ⊢
      omega

/-- Writing and decoding: every sequence of lists that fit in their records is written, and decoding
gives their entries back, save that certificates without bytes are reported; writing certificates
with bytes, decoding them and writing the payloads again comes to the same bytes. -/
theorem decode_encode_roundTrip :
    (∀ lists : List SignatureList, (∀ list ∈ lists, list.recordSize < UInt32.size) →
      ∃ bytes, encodeLists lists = .ok bytes ∧
        decode bytes = ⟨(lists.filter (!·.isEmptyCertificate)).flatMap entries,
          (lists.filter (·.isEmptyCertificate)).map fun _ => .invalidSignatureSize 16, none⟩) ∧
    ∀ (certificates : List Bytes) (owner : Guid),
      (∀ certificate ∈ certificates, certificate ≠ []) →
      (∀ certificate ∈ certificates, (x509 owner certificate).recordSize < UInt32.size) →
      ∃ bytes, encode certificates owner = .ok bytes ∧
        (decode bytes).payloads = certificates ∧
        (∀ entry ∈ (decode bytes).entries, entry.kind = .x509 ∧ entry.owner = owner) ∧
        encode (decode bytes).payloads owner = .ok bytes := by
  constructor
  · intro lists fit
    exact ⟨_, encodeLists_eq_ok fit, decode_encodedLists fit⟩
  · intro certificates owner notEmpty fit
    have decoded := decode_encodedCertificates notEmpty fit
    have payloads : (decode ((certificates.map (x509 owner)).flatMap
        fun list => list.toRecord.toBytes)).payloads = certificates := by
      simp [decoded, Decoded.payloads, Function.comp_def]
    refine ⟨_, encode_eq_ok fit, payloads, ?_, ?_⟩
    · rw [decoded]
      simp
    · rw [payloads]
      exact encode_eq_ok fit

/-- A list of digests may have no digest, and a certificate no bytes. -/
theorem decode_encode_roundTrip_withoutBytes :
    (∃ bytes, encodeLists [.x509 .zero [1, 2], .sha256 [], .x509 .zero []] = .ok bytes ∧
      decode bytes = ⟨[⟨.x509, .zero, [1, 2]⟩], [.invalidSignatureSize 16], none⟩) ∧
    ∃ bytes, encode [[1, 2], [3]] .zero = .ok bytes ∧ (decode bytes).payloads = [[1, 2], [3]] ∧
      (∀ entry ∈ (decode bytes).entries, entry.kind = .x509 ∧ entry.owner = .zero) ∧
      encode (decode bytes).payloads .zero = .ok bytes :=
  ⟨decode_encode_roundTrip.1 [.x509 .zero [1, 2], .sha256 [], .x509 .zero []] (by decide),
    decode_encode_roundTrip.2 [[1, 2], [3]] .zero (by decide) (by decide)⟩

end SignatureList

end OwnerKeys
