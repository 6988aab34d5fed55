import OwnerKeys.Proofs.Request.Merging
import OwnerKeys.Proofs.Request.Selection

/-!
# What becomes of the candidates and of the pending list

When issuing does not fail, every candidate is accounted for: the fresh ones are reported as
accepted and stand in front of the pending list, the others are reported as skipped. The bytes that
were pending before are still there, behind the new ones, whatever they are; and since the new ones
are whole records, decoding finds the same in them as before.
-/

namespace OwnerKeys.Staging

section

variable {Store : Type} [VariableStore Store]

/-- The pending list has grown by the given keys: their records stand in front of the bytes that
were there before, and a list that can be decoded up to some point still can, up to that point. -/
structure Grown (kind : RequestKind) (keys : List Bytes) (before after : Store) (list : Bytes) :
    Prop where
  /-- The list is stored with the standard attributes. -/
  read_eq : VariableStore.read after kind.pendingVariable = .ok (some ⟨⟨7⟩, list⟩)
  /-- It could be found out what was pending. -/
  readable : ∃ found, VariableStore.read before kind.pendingVariable = .ok found
  /-- The records of the keys are followed by what was pending, if anything was. -/
  exists_records : ∃ records, SignatureList.encode keys Variable.shimVendor = .ok records ∧
    list = records ++ Query.listIn before kind.pendingVariable
  /-- The keys are decoded, save those without bytes, and then all that was decoded before. -/
  entries_eq : (SignatureList.decode list).entries =
    (keys.filter (· ≠ [])).map (⟨.x509, Variable.shimVendor, ·⟩) ++
      (SignatureList.decode (Query.listIn before kind.pendingVariable)).entries
  /-- Decoding ends as it did before. -/
  malformed_eq : (SignatureList.decode list).malformed =
    (SignatureList.decode (Query.listIn before kind.pendingVariable)).malformed

/-- A report accounts for all candidates, and the store is as the report says. -/
structure Accounts (kind : RequestKind) (candidates : List Candidate) (before after : Store)
    (report : RequestReport) : Prop where
  /-- The fresh candidates are accepted. -/
  accepted_eq : report.accepted = (fresh (Query.Eligible before kind) candidates).map (·.name)
  /-- The others are skipped. -/
  skipped_eq : report.skipped = (stale (Query.Eligible before kind) candidates).map (·.name)
  /-- Where none is accepted nothing is committed, and the store stays as it is. -/
  idle : report.accepted = [] → report.committedLength = none ∧ after = before
  /-- Otherwise the pending list has grown by the accepted keys, and its size is reported. -/
  grown : report.accepted ≠ [] → ∃ list, report.committedLength = some list.length ∧
    Grown kind ((fresh (Query.Eligible before kind) candidates).map (·.data)) before after list

variable {kind : RequestKind} {candidates accepted : List Candidate} {skipped : List String}
  {before after : Machine Store}

/-- The candidates are told apart by what is fresh on the store. -/
theorem eq_fresh_stale_of_assess {looked : Machine Store}
    (assessing : Action.outcome (assess kind [] [] candidates) before =
      ((accepted, skipped), looked)) :
    accepted = fresh (Query.Eligible before.store kind) candidates ∧
      skipped = (stale (Query.Eligible before.store kind) candidates).map (·.name) := by
  simpa using (sifted_of_assess assessing).eq_fresh_stale

variable [LawfulStore Store]

theorem CommitOutcome.grown {list : Bytes} {found : Option Value}
    (ending : CommitOutcome kind (some list) before (.ok ()) after)
    (readable : VariableStore.read before.store kind.pendingVariable = .ok found)
    (merging : mergedList accepted (found.map (·.data)) = .ok list) :
    Grown kind (accepted.map (·.data)) before.store after.store list := by
  have sevenBits : Attributes.standard = ⟨7⟩ := by decide
  have prior : (found.map (·.data)).getD [] = Query.listIn before.store kind.pendingVariable := by
    cases found with
    | none => simp [Query.listIn, readable]
    | some value => simp [Query.listIn, readable]
  rcases mergedList_eq_ok_iff.mp merging with ⟨records, written, same⟩
  rw [prior] at same
  subst same
  have decoded := SignatureList.decode_encode_append written
    (Query.listIn before.store kind.pendingVariable)
  constructor
  · rw [ending.read_pending readable, sevenBits]
  · exact ⟨found, readable⟩
  · exact ⟨records, written, rfl⟩
  · exact decoded.1
  · exact decoded.2

theorem IssueOutcome.accounts {report : RequestReport}
    (ending : IssueOutcome kind candidates before (.ok report) after) :
    Accounts kind candidates before.store after.store report := by
  cases ending with
  | nothingEligible assessing =>
      rcases eq_fresh_stale_of_assess assessing with ⟨none, rfl⟩
      constructor
      · rw [← none]
        rfl
      · rfl
      · exact fun _ => ⟨rfl, (looks_of_assess assessing).store_eq⟩
      · exact fun some => absurd rfl some
  | committed assessing eligible authenticating merging committing =>
      have looks := looks_of_assess assessing
      have sameStore := authenticating.store_eq_of_looks looks
      rcases authenticating.exists_read_of_looks looks with ⟨found, readable, rfl⟩
      rw [← sameStore] at readable
      have grown := committing.grown readable merging
      rw [Machine.store_advance, sameStore] at grown
      rcases eq_fresh_stale_of_assess assessing with ⟨rfl, rfl⟩
      constructor
      · rfl
      · rfl
      · intro none
        exact absurd (List.map_eq_nil_iff.mp none) eligible
      · exact fun _ => ⟨_, rfl, grown⟩

/-- Issuing that does not fail accounts for all candidates and for everything that was pending. -/
theorem issue_accounts {report : RequestReport}
    (issued : Attempt.outcome (issue kind candidates) before = (.ok report, after)) :
    Accounts kind candidates before.store after.store report := by
  rcases exists_issueOutcome kind candidates before with ⟨result, stopped, ending, ran⟩
  rw [issued, Prod.mk.injEq] at ran
  rcases ran with ⟨rfl, rfl⟩
  exact ending.accounts

end

/-- A list with one key, behind which the first bytes of a header have been left over. -/
def damagedList : Bytes :=
  (SignatureList.x509 Variable.shimVendor [1]).toRecord.toBytes ++ [0xa1, 0x59]

/-- The damaged list is pending, and the operator knows its password. -/
def damaged : Machine Memory where
  store := (Memory.empty.insert .pendingEnrollment ⟨.standard, damagedList⟩).insert .enrollmentTag
    ⟨.standard, (AuthTag.derive (some damagedList)
      ((Password.ofLine? "old password").get (by decide))).toBytes⟩
  answers := [.line "old password", .line "new password", .line "new password"]

/-- A key that is pending, a new one that occurs twice, and one without bytes. -/
def mixedBatch : List Candidate :=
  [⟨"pending", [1]⟩, ⟨"new", [2]⟩, ⟨"again", [2]⟩, ⟨"empty", []⟩]

/-- The new keys are put in front of the damaged list. -/
theorem issue_accounts_damaged :
    let issued := Attempt.outcome (issue .enroll mixedBatch) damaged
    let report : RequestReport := ⟨["new", "empty"], ["pending", "again"], some 136⟩
    issued.1 = .ok report ∧ Accounts .enroll mixedBatch damaged.store issued.2.store report := by
  have issued : (Attempt.outcome (issue .enroll mixedBatch) damaged).1 =
      .ok ⟨["new", "empty"], ["pending", "again"], some 136⟩ := by
    decide +kernel
  exact ⟨issued, issue_accounts (Prod.ext issued rfl)⟩

end OwnerKeys.Staging
