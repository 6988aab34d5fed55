import OwnerKeys.Proofs.Request.Staging
import OwnerKeys.Store.Faulty
import OwnerKeys.Store.Memory

/-!
# The gate before a pending request

While a request is pending, or cannot be read, nothing is tried that could change the store before
the operator has entered the password of the pending request.
-/

namespace OwnerKeys.Staging

variable {Store : Type} [VariableStore Store]

/-- The operator has what it takes to replace the pending request of a kind. The list and its tag
can be read, the tag has the size of a digest, and one of the first three answers is a line of 8 to
16 characters whose tag over the bytes of the list is the stored one. The answers before it are
lines, too. -/
def Authorized (store : Store) (kind : RequestKind) (answers : List Answer) : Prop :=
  ∃ (pending stored : Value) (refused : List String) (line : String) (password : Password),
    VariableStore.read store kind.pendingVariable = .ok (some pending) ∧
      VariableStore.read store kind.tagVariable = .ok (some stored) ∧
      stored.data.length = 32 ∧
      refused.length < 3 ∧ (refused ++ [line]).map Answer.line <+: answers ∧
      8 ≤ line.toList.length ∧ line.toList.length ≤ 16 ∧
      Password.ofLine? line = some password ∧
      (AuthTag.derive (some pending.data) password).toBytes = stored.data

variable {kind : RequestKind} {before after : Machine Store}

/-- Whoever gets past the authentication of a request that is not absent is authorized. -/
theorem AuthenticationOutcome.authorized {prior : Option Bytes}
    (ending : AuthenticationOutcome kind before (.ok prior) after)
    (pending : VariableStore.read before.store kind.pendingVariable ≠ .ok none) :
    Authorized before.store kind before.answers := by
  cases ending with
  | absent reading => exact absurd reading pending
  | authenticated reading tagReading usable asking =>
      rcases Dialogue.answers_of_challengeWithin asking with
        ⟨refused, line, password, answers, few, found, derived⟩
      have acceptable := Password.acceptable_of_ofLine found
      have sameTag := AuthTag.ofBytes_eq_some_iff.mp usable
      refine ⟨_, _, refused, line, password, reading, tagReading, ?_, few, ?_, acceptable.1,
        acceptable.2, found, ?_⟩
      · rw [← sameTag, AuthTag.length_toBytes]
      · exact ⟨_, answers.symm⟩
      · rw [derived, sameTag]

/-- The steps of issuing try something that could change the store only after authorization. -/
theorem IssueOutcome.quiet_or_authorized {candidates : List Candidate}
    {result : Except RequestError RequestReport}
    (ending : IssueOutcome kind candidates before result after)
    (pending : VariableStore.read before.store kind.pendingVariable ≠ .ok none) :
    Machine.Quiet before after ∨
      before.trace <+: after.trace ∧ Authorized before.store kind before.answers := by
  rcases ending.quiet_or_commits with
    quiet | ⟨looked, authenticated, prior, list, committed, looks, authenticating, quiet,
      committing, _⟩
  · exact .inl quiet
  · right
    refine ⟨quiet.prefix_trace.trans committing.asksFirst.prefix_trace, ?_⟩
    have stillPending : VariableStore.read looked.store kind.pendingVariable ≠ .ok none := by
      rwa [looks.store_eq]
    have authorized := authenticating.authorized stillPending
    rwa [Machine.store_advance, Machine.answers_advance, looks.store_eq, looks.answers_eq]
      at authorized

/-- While a request is pending, or cannot be read, issuing makes a call that could change the store
only if the operator is authorized. Otherwise the store stays as it is. -/
theorem issue_changes_only_authorized (kind : RequestKind) (candidates : List Candidate)
    (before : Machine Store)
    (pending : VariableStore.read before.store kind.pendingVariable ≠ .ok none) :
    ∃ events,
      (Attempt.outcome (issue kind candidates) before).2.trace = before.trace ++ events ∧
        ((∃ event ∈ events, event.IsChange) →
          Authorized before.store kind before.answers) ∧
        (¬Authorized before.store kind before.answers →
          (Attempt.outcome (issue kind candidates) before).2.store = before.store) := by
  have ending := issueOutcome kind candidates before
  rcases ran : Attempt.outcome (issueSteps kind candidates) before with ⟨result, stopped⟩
  rw [ran] at ending
  have aborted := quiet_abortedOn result stopped
  simp only [issue, outcome_abortOnFailure, ran]
  rcases ending.quiet_or_authorized pending with quiet | ⟨grown, authorized⟩
  · have quietToEnd := quiet.trans aborted
    rcases quietToEnd.trace_eq with ⟨events, trace, quietEvents⟩
    refine ⟨events, trace, ?_, fun _ => quietToEnd.store_eq⟩
    rintro ⟨event, mem, change⟩
    exact absurd change (quietEvents event mem)
  · rcases grown.trans aborted.prefix_trace with ⟨events, trace⟩
    exact ⟨events, trace.symm, fun _ => authorized, fun refused => absurd authorized refused⟩

/-- A pending list whose tag cannot be read, and an operator who knows a password. -/
def unreadableTag : Machine (Faulty Memory) where
  store := {
    inner := Memory.empty.insert .pendingEnrollment ⟨.standard, [1, 2, 3]⟩
    faults := [⟨.read, .enrollmentTag, "no tag today"⟩] }
  answers := [.line "password", .line "new password", .line "new password"]

/-- Where the tag cannot be read, nothing is changed for anyone. -/
theorem issue_changes_only_authorized_unreadableTag :
    VariableStore.read unreadableTag.store RequestKind.enroll.pendingVariable ≠ .ok none ∧
      (Attempt.outcome (issue .enroll [⟨"key", [4]⟩]) unreadableTag).2.store =
        unreadableTag.store := by
  have found : VariableStore.read unreadableTag.store RequestKind.enroll.pendingVariable =
      .ok (some ⟨.standard, [1, 2, 3]⟩) := by
    refine Faulty.read_eq_ok_iff.mpr ⟨by decide, ?_⟩
    simp [unreadableTag, RequestKind.pendingVariable, Memory.get?_insert]
  have pending : VariableStore.read unreadableTag.store RequestKind.enroll.pendingVariable ≠
      .ok none := by
    rw [found]
    simp
  rcases issue_changes_only_authorized .enroll [⟨"key", [4]⟩] unreadableTag pending with
    ⟨events, trace, onlyAuthorized, unchanged⟩
  refine ⟨pending, unchanged ?_⟩
  rintro ⟨_, _, _, _, _, _, tagReading, _⟩
  have noFault := (Faulty.read_eq_ok_iff.mp tagReading).1
  exact absurd noFault (by decide)

end OwnerKeys.Staging
