import Mathlib.Algebra.Ring.Nat
import Mathlib.Data.List.Infix
import OwnerKeys.Proofs.SignatureList.Grammar

/-!
# Buffers that were cut off

A record is framed by its own header, so what follows it does not affect how it is read. Cutting a
buffer off can therefore lose records, but it never brings in one that the buffer does not have.
The loss goes unnoticed only if the cut falls between two records, or at an end of the buffer.
-/

namespace OwnerKeys.SignatureList

/-- The records of a buffer are found whatever follows the buffer. -/
theorem records_prefix_append (front back : Bytes) :
    (records front).1 <+: (records (front ++ back)).1 := by
  rcases result : records front with ⟨found, fault⟩
  rcases eq_of_records result with ⟨framed, rest, rfl, _⟩
  rw [List.append_assoc, records_append framed]
  exact List.prefix_append found _

theorem entries_decode (buffer : Bytes) : (decode buffer).entries =
    (records buffer).1.flatMap fun record => (Decoded.ofRecord record).entries := by
  simp [decode, List.flatMap_map]

theorem skipped_decode (buffer : Bytes) : (decode buffer).skipped =
    (records buffer).1.flatMap fun record => (Decoded.ofRecord record).skipped := by
  simp [decode, List.flatMap_map]

/-- The bytes of framed records are as many as their headers declare. -/
theorem length_flatMap_toBytes {found : List Record} (framed : ∀ record ∈ found, record.Framed) :
    (found.flatMap Record.toBytes).length = (found.map (·.listSize.toNat)).sum := by
  rw [List.length_flatMap]
  apply congrArg List.sum
  apply List.map_congr_left
  intro record mem
  rw [Record.length_toBytes, (framed record mem).listSize]

/-- A place where some of the records of a buffer, from the first on, end by the sizes that their
headers declare. -/
def IsBoundary (buffer : Bytes) (place : Nat) : Prop :=
  ∃ count, place = (((records buffer).1.take count).map (·.listSize.toNat)).sum

section Complete

variable {buffer : Bytes} {found : List Record} {place : Nat}

/-- At a boundary a buffer is cut into whole records. -/
theorem records_take_of_isBoundary (complete : records buffer = (found, none))
    (boundary : IsBoundary buffer place) : (records (buffer.take place)).2 = none := by
  rcases boundary with ⟨count, rfl⟩
  rcases records_eq_iff.mp complete with ⟨framed, same⟩
  have framedFront : ∀ record ∈ found.take count, record.Framed := by
    intro record mem
    exact framed record (List.mem_of_mem_take mem)
  have split : buffer = (found.take count).flatMap Record.toBytes ++
      (found.drop count).flatMap Record.toBytes := by
    rw [← List.flatMap_append, List.take_append_drop, same]
  have front : buffer.take ((found.take count).map (·.listSize.toNat)).sum =
      (found.take count).flatMap Record.toBytes := by
    rw [split, List.take_left' (length_flatMap_toBytes framedFront)]
  rw [complete, front, records_flatMap framedFront]

/-- A cut that leaves nothing but whole records is at a boundary. -/
theorem isBoundary_of_records_take (within : place ≤ buffer.length)
    (complete : records buffer = (found, none)) (cut : (records (buffer.take place)).2 = none) :
    IsBoundary buffer place := by
  rcases result : records (buffer.take place) with ⟨front, fault⟩
  rw [result] at cut
  subst cut
  rcases records_eq_iff.mp result with ⟨framed, same⟩
  have isPrefix := records_prefix_append (buffer.take place) (buffer.drop place)
  rw [List.take_append_drop, result, complete, List.prefix_iff_eq_take] at isPrefix
  refine ⟨front.length, ?_⟩
  rw [complete, ← isPrefix, ← length_flatMap_toBytes framed, ← same, List.length_take]
  omega

end Complete

/-- Decoding a buffer that was cut off finds the first of the buffer's entries and passes over the
first of its faults. If the buffer is well-formed, what is left of it is so exactly if the cut is at
a boundary. -/
theorem decode_take {buffer : Bytes} {place : Nat} (within : place ≤ buffer.length) :
    (decode (buffer.take place)).entries <+: (decode buffer).entries ∧
      (decode (buffer.take place)).skipped <+: (decode buffer).skipped ∧
      ((decode buffer).malformed = none →
        ((decode (buffer.take place)).malformed = none ↔ IsBoundary buffer place)) := by
  have isPrefix := records_prefix_append (buffer.take place) (buffer.drop place)
  rw [List.take_append_drop] at isPrefix
  refine ⟨?_, ?_, ?_⟩
  · rw [entries_decode, entries_decode]
    exact isPrefix.flatMap _
  · rw [skipped_decode, skipped_decode]
    exact isPrefix.flatMap _
  · intro wellFormed
    have complete : records buffer = ((records buffer).1, none) := Prod.ext rfl wellFormed
    constructor
    · intro cut
      exact isBoundary_of_records_take within complete cut
    · intro boundary
      exact records_take_of_isBoundary complete boundary

/-- Two certificates of one byte. -/
def twoCertificates : Bytes :=
  (x509 .zero [1]).toRecord.toBytes ++ (x509 .zero [2]).toRecord.toBytes

/-- A cut between two certificates goes unnoticed, a cut inside of the second one does not. -/
theorem decode_take_twoCertificates :
    45 ≤ twoCertificates.length ∧ 89 ≤ twoCertificates.length ∧
      (decode twoCertificates).malformed = none ∧
      ((decode (twoCertificates.take 45)).malformed = none ∧ IsBoundary twoCertificates 45) ∧
      (decode (twoCertificates.take 89)).malformed ≠ none ∧ ¬IsBoundary twoCertificates 89 := by
  have first : 45 ≤ twoCertificates.length := by decide
  have second : 89 ≤ twoCertificates.length := by decide
  have wellFormed : (decode twoCertificates).malformed = none := by decide +kernel
  have unnoticed : (decode (twoCertificates.take 45)).malformed = none := by decide +kernel
  have noticed : (decode (twoCertificates.take 89)).malformed ≠ none := by decide +kernel
  have between := (decode_take first).2.2 wellFormed
  have inside := (decode_take second).2.2 wellFormed
  exact ⟨first, second, wellFormed, ⟨unnoticed, between.mp unnoticed⟩, noticed,
    fun boundary => noticed (inside.mpr boundary)⟩

end OwnerKeys.SignatureList
