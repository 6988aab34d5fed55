import OwnerKeys.Proofs.Request.Eligibility
import OwnerKeys.Proofs.SignatureList.RoundTrip
import OwnerKeys.Proofs.Store.Laws

/-!
# What issuing leaves

Issuing that does not fail has put the accepted keys in front of the keys that were pending, and has
left the other variables alone. Keys without bytes are written, too, but nobody finds them there.
-/

namespace OwnerKeys

namespace RequestKind

theorem isPlain_pendingVariable (kind : RequestKind) : kind.pendingVariable.IsPlain := by
  cases kind <;> decide

theorem isPlain_tagVariable (kind : RequestKind) : kind.tagVariable.IsPlain := by
  cases kind <;> decide

/-! The list and the tag of a request do not affect each other. -/

variable {Store : Type} [VariableStore Store] [LawfulStore Store] {kind : RequestKind}
  {store after : Store} {value : Value} {was : Bool}

theorem read_tag_of_listed
    (listing : VariableStore.write store kind.pendingVariable value = .ok after) :
    VariableStore.read after kind.tagVariable = VariableStore.read store kind.tagVariable :=
  LawfulStore.read_other_written kind.isPlain_pendingVariable kind.isPlain_tagVariable
    (kind.pendingVariable_ne_tagVariable kind).symm listing

theorem read_tag_of_unlisted
    (removal : VariableStore.delete store kind.pendingVariable = .ok (was, after)) :
    VariableStore.read after kind.tagVariable = VariableStore.read store kind.tagVariable :=
  LawfulStore.read_other_deleted kind.isPlain_pendingVariable kind.isPlain_tagVariable
    (kind.pendingVariable_ne_tagVariable kind).symm removal

theorem read_pending_of_tagged
    (tagging : VariableStore.write store kind.tagVariable value = .ok after) :
    VariableStore.read after kind.pendingVariable =
      VariableStore.read store kind.pendingVariable :=
  LawfulStore.read_other_written kind.isPlain_tagVariable kind.isPlain_pendingVariable
    (kind.pendingVariable_ne_tagVariable kind) tagging

theorem read_pending_of_untagged
    (removal : VariableStore.delete store kind.tagVariable = .ok (was, after)) :
    VariableStore.read after kind.pendingVariable =
      VariableStore.read store kind.pendingVariable :=
  LawfulStore.read_other_deleted kind.isPlain_tagVariable kind.isPlain_pendingVariable
    (kind.pendingVariable_ne_tagVariable kind) removal

end RequestKind

namespace SignatureList

/-- A key is small enough for a record of its own. -/
def Fits (key : Bytes) : Prop :=
  (x509 Variable.shimVendor key).recordSize < UInt32.size

end SignatureList

namespace Staging

variable {Store : Type} [VariableStore Store] [LawfulStore Store] {kind : RequestKind}
  {candidates : List Candidate} {before after : Machine Store}

/-- A committed list is found where it was written. -/
theorem CommitOutcome.read_pending {bytes : Bytes} {found : Option Value}
    (ending : CommitOutcome kind (some bytes) before (.ok ()) after)
    (readable : VariableStore.read before.store kind.pendingVariable = .ok found) :
    VariableStore.read after.store kind.pendingVariable = .ok (some ⟨.standard, bytes⟩) := by
  rcases ending.exists_writes with ⟨listed, tag, listing, tagging⟩
  rw [RequestKind.read_pending_of_tagged tagging]
  exact LawfulStore.read_written kind.isPlain_pendingVariable readable listing

/-- A commit leaves the variables of other purposes alone. -/
theorem CommitOutcome.read_other {bytes : Bytes}
    (ending : CommitOutcome kind (some bytes) before (.ok ()) after) {var : Variable}
    (plain : var.IsPlain) (notList : var ≠ kind.pendingVariable) (notTag : var ≠ kind.tagVariable) :
    VariableStore.read after.store var = VariableStore.read before.store var := by
  rcases ending.exists_writes with ⟨listed, tag, listing, tagging⟩
  rw [LawfulStore.read_other_written kind.isPlain_tagVariable plain notTag tagging,
    LawfulStore.read_other_written kind.isPlain_pendingVariable plain notList listing]

/-- Accepted keys that fit are merged with any list. -/
theorem exists_mergedList {accepted : List Candidate}
    (fit : ∀ candidate ∈ accepted, SignatureList.Fits candidate.data) (prior : Option Bytes) :
    ∃ list, mergedList accepted prior = .ok list := by
  have keysFit : ∀ key ∈ accepted.map (·.data), SignatureList.Fits key := by
    intro key mem
    rcases List.mem_map.mp mem with ⟨candidate, inAccepted, rfl⟩
    exact fit candidate inAccepted
  rw [mergedList, SignatureList.encode_eq_ok keysFit]
  exact ⟨_, rfl⟩

/-- A merged list consists of the accepted keys and, behind them, the list that was pending. -/
theorem mergedList_eq_ok_iff {accepted : List Candidate} {prior : Option Bytes} {list : Bytes} :
    mergedList accepted prior = .ok list ↔
      ∃ fresh, SignatureList.encode (accepted.map (·.data)) Variable.shimVendor = .ok fresh ∧
        list = fresh ++ prior.getD [] := by
  unfold mergedList
  cases written : SignatureList.encode (accepted.map (·.data)) Variable.shimVendor with
  | error error => simp [bind, Except.bind]
  | ok fresh => simp [bind, Except.bind, pure, Except.pure, eq_comm]

/-- Among the keys of a merged list are the accepted ones, save those without bytes, and then the
keys of the list that was pending. -/
theorem payloads_mergedList {accepted : List Candidate} {prior : Option Bytes} {list : Bytes}
    (merging : mergedList accepted prior = .ok list) :
    (SignatureList.decode list).payloads =
      (accepted.map (·.data)).filter (· ≠ []) ++
        (SignatureList.decode (prior.getD [])).payloads := by
  rcases mergedList_eq_ok_iff.mp merging with ⟨fresh, written, rfl⟩
  exact SignatureList.payloads_encode_append written _

/-- What issuing leaves when it does not fail. -/
theorem IssueOutcome.exists_merged {report : RequestReport}
    (ending : IssueOutcome kind candidates before (.ok report) after) :
    ∃ accepted, Sifted (Query.Eligible before.store kind) [] candidates accepted report.skipped ∧
      Query.keysIn after.store kind.pendingVariable =
        (accepted.map (·.data)).filter (· ≠ []) ++
          Query.keysIn before.store kind.pendingVariable ∧
      ∀ var : Variable, var.IsPlain → var ≠ kind.pendingVariable → var ≠ kind.tagVariable →
        Query.keysIn after.store var = Query.keysIn before.store var := by
  cases ending with
  | nothingEligible assessing =>
      have sameStore := (looks_of_assess assessing).store_eq
      refine ⟨[], sifted_of_assess assessing, ?_, fun var _ _ _ => ?_⟩
      · simp [sameStore]
      · simp [sameStore]
  | committed assessing _ authenticating merging committing =>
      have looks := looks_of_assess assessing
      have sameStore := authenticating.store_eq_of_looks looks
      rcases authenticating.exists_read_of_looks looks with ⟨found, readable, rfl⟩
      refine ⟨_, sifted_of_assess assessing, ?_, ?_⟩
      · have reading := committing.read_pending (by rwa [Machine.store_advance, sameStore])
        simp only [Query.keysIn, Query.listIn, reading, readable]
        rw [payloads_mergedList merging]
        cases found <;> rfl
      · intro var plain notList notTag
        apply Query.keysIn_congr
        rw [committing.read_other plain notList notTag, Machine.store_advance, sameStore]

end Staging

end OwnerKeys
