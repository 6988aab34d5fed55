import OwnerKeys.Proofs.Request.Accounting

/-!
# What a deletion names

The deletion of a key may be requested if the key is enrolled, where a key is nothing but its bytes.
What is staged is a certificate with these bytes, whatever the kind of the entry in which they were
found. So the bytes of an enrolled digest can be staged as if they were a certificate; for anything
but 32 bytes that cannot happen.
-/

namespace OwnerKeys

namespace SignatureList

theorem kind_of_mem_decode {buffer : Bytes} {entry : Entry}
    (mem : entry ∈ (decode buffer).entries) :
    entry.kind = .x509 ∨ entry.kind = .sha256 ∧ entry.payload.length = 32 := by
  have admits := admits_of_mem_decode mem
  cases sort : entry.kind with
  | x509 => exact .inl rfl
  | sha256 =>
      simp only [sort, Kind.Admits, sha256EntrySize, ownerSize] at admits
      exact .inr ⟨rfl, by omega⟩

end SignatureList

namespace Staging

section

variable {Store : Type} [VariableStore Store] {kind : RequestKind} {candidates : List Candidate}

/-- Whether any key is accepted or not, the pending list then begins with the accepted ones, as
certificates. -/
theorem Accounts.entries_eq {before after : Store} {report : RequestReport}
    (accounts : Accounts kind candidates before after report) :
    (SignatureList.decode (Query.listIn after kind.pendingVariable)).entries =
      (((fresh (Query.Eligible before kind) candidates).map (·.data)).filter (· ≠ [])).map
          (⟨.x509, Variable.shimVendor, ·⟩) ++
        (SignatureList.decode (Query.listIn before kind.pendingVariable)).entries := by
  by_cases none : report.accepted = []
  · have noneFresh := accounts.accepted_eq.symm.trans none
    rw [(accounts.idle none).2, List.map_eq_nil_iff.mp noneFresh]
    rfl
  · rcases accounts.grown none with ⟨list, _, grown⟩
    have written : Query.listIn after kind.pendingVariable = list := by
      rw [Query.listIn, grown.read_eq]
    rw [written, grown.entries_eq]

theorem eligible_of_mem_fresh {eligible : Bytes → Prop} [DecidablePred eligible] {key : Bytes}
    (mem : key ∈ (fresh eligible candidates).map (·.data)) : eligible key := by
  rw [map_data_fresh, List.mem_eraseDups] at mem
  exact of_decide_eq_true (List.mem_filter.mp mem).2

/-- An entry is a certificate with the bytes of an enrolled key: of an enrolled certificate, or, if
they are 32, of an enrolled digest. -/
def NamesEnrolled (store : Store) (entry : SignatureList.Entry) : Prop :=
  entry.kind = .x509 ∧ entry.owner = Variable.shimVendor ∧
    ∃ enrolled ∈ (SignatureList.decode (Query.listIn store .enrolledKeys)).entries,
      enrolled.payload = entry.payload ∧
        (enrolled.kind = .x509 ∨ enrolled.kind = .sha256 ∧ entry.payload.length = 32)

variable [LawfulStore Store] {before after : Machine Store}

/-- What staging a deletion adds to the pending list names enrolled keys. -/
theorem deletion_names_enrolled {report : RequestReport}
    (issued : Attempt.outcome (issue .delete candidates) before = (.ok report, after)) :
    ∃ added,
      (SignatureList.decode (Query.listIn after.store .pendingDeletion)).entries =
        added ++ (SignatureList.decode (Query.listIn before.store .pendingDeletion)).entries ∧
      ∀ entry ∈ added, NamesEnrolled before.store entry := by
  refine ⟨_, (issue_accounts issued).entries_eq, fun entry mem => ?_⟩
  rcases List.mem_map.mp mem with ⟨key, keyMem, rfl⟩
  have eligible := eligible_of_mem_fresh (List.mem_filter.mp keyMem).1
  rcases List.mem_map.mp eligible.1 with ⟨enrolled, enrolledMem, same⟩
  refine ⟨rfl, rfl, enrolled, enrolledMem, same, ?_⟩
  rw [← same]
  exact SignatureList.kind_of_mem_decode enrolledMem

end

/-- A certificate and a digest of 32 bytes are enrolled, and the operator enters a password. -/
def twoEnrolled : Machine Memory where
  store := Memory.empty.insert .enrolledKeys ⟨.standard,
    (SignatureList.x509 Variable.shimVendor [1]).toRecord.toBytes ++
      (SignatureList.sha256 [(Variable.shimVendor, Vector.replicate 32 0xab)]).toRecord.toBytes⟩
  answers := [.line "password", .line "password"]

/-- Of two certificates the one that is enrolled is staged. -/
theorem deletion_names_enrolled_certificate :
    let issued := Attempt.outcome (issue .delete [⟨"certificate", [1]⟩, ⟨"other", [2]⟩]) twoEnrolled
    issued.1 = .ok ⟨["certificate"], ["other"], some 45⟩ ∧
      ∃ added,
        (SignatureList.decode (Query.listIn issued.2.store .pendingDeletion)).entries =
          added ++ (SignatureList.decode (Query.listIn twoEnrolled.store .pendingDeletion)).entries ∧
        ∀ entry ∈ added, NamesEnrolled twoEnrolled.store entry := by
  have issued : (Attempt.outcome (issue .delete [⟨"certificate", [1]⟩, ⟨"other", [2]⟩])
      twoEnrolled).1 = .ok ⟨["certificate"], ["other"], some 45⟩ := by
    decide +kernel
  exact ⟨issued, deletion_names_enrolled (Prod.ext issued rfl)⟩

/-- The bytes of an enrolled digest are staged for deletion as a certificate, though no certificate
with these bytes is enrolled. -/
theorem digest_staged_as_certificate :
    let digest := List.replicate 32 0xab
    let issued := Attempt.outcome (issue .delete [⟨"digest", digest⟩]) twoEnrolled
    issued.1 = .ok ⟨["digest"], [], some 76⟩ ∧
      (SignatureList.decode (Query.listIn twoEnrolled.store .pendingDeletion)).entries = [] ∧
      (SignatureList.decode (Query.listIn issued.2.store .pendingDeletion)).entries =
        [⟨.x509, Variable.shimVendor, digest⟩] ∧
      ¬∃ enrolled ∈ (SignatureList.decode (Query.listIn twoEnrolled.store .enrolledKeys)).entries,
        enrolled.kind = .x509 ∧ enrolled.payload = digest := by
  decide +kernel

end Staging

end OwnerKeys
