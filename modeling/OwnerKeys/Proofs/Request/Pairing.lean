import OwnerKeys.Proofs.Request.CommitInMemory
import OwnerKeys.Proofs.Request.Session
import OwnerKeys.Proofs.Request.Staging

/-!
# Lists and their tags

A pending list is paired if the tag beside it is the tag that some password gives to exactly that
list. Every call keeps all pending lists paired, whatever fails while it runs, unless both the tag
cannot be written and the list cannot be deleted again. That carries over to whole sessions.
-/

namespace OwnerKeys

namespace Memory

/-- Either no request of a kind is pending, or the tag beside the pending list is the one that the
list has under a password which a line gives. -/
def Paired (memory : Memory) (kind : RequestKind) : Prop :=
  memory.get? kind.pendingVariable = none ∨
    ∃ pending tag line password,
      memory.get? kind.pendingVariable = some pending ∧
        memory.get? kind.tagVariable = some tag ∧
        Password.ofLine? line = some password ∧
        tag.data = (AuthTag.derive (some pending.data) password).toBytes

/-- What is paired depends on two variables only. -/
theorem Paired.of_get?_eq {memory other : Memory} {kind : RequestKind}
    (paired : memory.Paired kind)
    (samePending : other.get? kind.pendingVariable = memory.get? kind.pendingVariable)
    (sameTag : other.get? kind.tagVariable = memory.get? kind.tagVariable) :
    other.Paired kind := by
  unfold Paired
  rw [samePending, sameTag]
  exact paired

/-- Between two memories, at most the two variables of a kind of request have changed. -/
def SameBut (kind : RequestKind) (before after : Memory) : Prop :=
  ∀ var, var ≠ kind.pendingVariable → var ≠ kind.tagVariable → after.get? var = before.get? var

namespace SameBut

variable {kind : RequestKind} {before middle after : Memory}

theorem trans (first : SameBut kind before middle) (second : SameBut kind middle after) :
    SameBut kind before after :=
  fun var notList notTag => (second var notList notTag).trans (first var notList notTag)

theorem staged (kind : RequestKind) (memory : Memory) (list : Option Bytes) :
    SameBut kind memory (memory.staged kind list) := by
  intro var notList _
  rw [get?_staged, if_neg notList]

theorem insert_tag (kind : RequestKind) (memory : Memory) (value : Value) :
    SameBut kind memory (memory.insert kind.tagVariable value) := by
  intro var _ notTag
  rw [get?_insert, if_neg notTag]

theorem erase_tag (kind : RequestKind) (memory : Memory) :
    SameBut kind memory (memory.erase kind.tagVariable) := by
  intro var _ notTag
  rw [get?_erase, if_neg notTag]

/-- It is enough to look at the kind whose variables may have changed. -/
theorem paired (same : SameBut kind before after) (paired : ∀ other, before.Paired other)
    (own : after.Paired kind) (other : RequestKind) : after.Paired other := by
  by_cases changed : other = kind
  · rwa [changed]
  · apply (paired other).of_get?_eq
    · exact same _ (by simpa using changed) (by simp)
    · exact same _ (Ne.symm (by simp)) (by simpa using changed)

end SameBut

/-- A list that has been removed needs no tag. -/
theorem paired_staged_none (memory : Memory) (kind : RequestKind) :
    (memory.staged kind none).Paired kind := by
  left
  simp [get?_staged]

/-- A list that is staged and then tagged under a password of the operator is paired. -/
theorem paired_tagged (memory : Memory) (kind : RequestKind) (list : Option Bytes) {line : String}
    {password : Password} (found : Password.ofLine? line = some password) :
    ((memory.staged kind list).insert kind.tagVariable
      ⟨.standard, (AuthTag.derive list password).toBytes⟩).Paired kind := by
  cases list with
  | none =>
      left
      simp [get?_insert, get?_staged]
  | some bytes =>
      right
      refine ⟨⟨.standard, bytes⟩,
        ⟨.standard, (AuthTag.derive (some bytes) password).toBytes⟩, line, password, ?_, ?_,
        found, rfl⟩
      · simp [get?_insert, get?_staged]
      · simp [get?_insert]

end Memory

namespace Staging

variable {kind : RequestKind} {before after : Machine (Faulty Memory)}

/-- Committing keeps all lists paired, unless a list that was stored cannot be removed again. -/
theorem CommitOutcome.paired {list : Option Bytes} {result : Except RequestError Unit}
    (ending : CommitOutcome kind list before result after)
    (removable : list ≠ none → before.store.fault? .write kind.tagVariable ≠ none →
      before.store.fault? .delete kind.pendingVariable = none)
    (paired : ∀ other, before.store.inner.Paired other) (other : RequestKind) :
    after.store.inner.Paired other := by
  cases ending with
  | unanswered asking =>
      rw [(Dialogue.quiet_newPassword asking).store_eq]
      exact paired other
  | listRefused asking _ =>
      rw [Machine.store_advance, (Dialogue.quiet_newPassword asking).store_eq]
      exact paired other
  | rolledBack asking listing _ removal =>
      rw [Machine.store_advance, Faulty.inner_of_delete removal, (staged_of_withList listing).1,
        (Dialogue.quiet_newPassword asking).store_eq]
      have same := (Memory.SameBut.staged kind before.store.inner list).trans
        (Memory.SameBut.staged kind _ none)
      exact same.paired paired (Memory.paired_staged_none _ kind) other
  | leftBehind asking listing tagging removal =>
      rcases staged_of_withList listing with ⟨stagedInner, sameFaults⟩
      have sameStore := (Dialogue.quiet_newPassword asking).store_eq
      rw [sameStore] at stagedInner sameFaults
      rw [Machine.store_advance, stagedInner]
      cases list with
      | none =>
          exact (Memory.SameBut.staged kind _ none).paired paired
            (Memory.paired_staged_none _ kind) other
      | some bytes =>
          -- Both calls have failed, which is what `removable` excludes.
          have tagFault := Faulty.fault_of_write_error tagging
          have listFault := Faulty.fault_of_delete_error removal
          rw [Faulty.fault?_congr sameFaults] at tagFault listFault
          exact absurd (removable (by simp) tagFault) listFault
  | @committed password _ _ _ asking listing tagging =>
      rcases Dialogue.confirmed_of_newPassword asking with ⟨given, _, confirmed⟩
      rcases confirmed.exists_line with ⟨line, found⟩
      rw [Machine.store_advance, Faulty.inner_of_write tagging, (staged_of_withList listing).1,
        (Dialogue.quiet_newPassword asking).store_eq]
      have same := (Memory.SameBut.staged kind before.store.inner list).trans
        (Memory.SameBut.insert_tag kind _ ⟨.standard, (AuthTag.derive list password).toBytes⟩)
      exact same.paired paired (Memory.paired_tagged _ kind list found) other

/-- Issuing keeps all lists paired, unless a list that was stored cannot be removed again. -/
theorem IssueOutcome.paired {candidates : List Candidate}
    {result : Except RequestError RequestReport}
    (ending : IssueOutcome kind candidates before result after)
    (removable : before.store.fault? .write kind.tagVariable ≠ none →
      before.store.fault? .delete kind.pendingVariable = none)
    (paired : ∀ other, before.store.inner.Paired other) (other : RequestKind) :
    after.store.inner.Paired other := by
  rcases ending.quiet_or_commits with
    quiet | ⟨_, _, _, list, _, _, _, quiet, committing, _⟩
  · rw [quiet.store_eq]
    exact paired other
  · apply committing.paired
    · intro _
      rwa [quiet.store_eq]
    · rwa [quiet.store_eq]

/-- Revoking keeps all lists paired, for it removes the list before the tag. -/
theorem RevokeOutcome.paired {result : Except RequestError Bool}
    (ending : RevokeOutcome kind before result after)
    (paired : ∀ other, before.store.inner.Paired other) (other : RequestKind) :
    after.store.inner.Paired other := by
  cases ending with
  | listKept _ => exact paired other
  | tagKept removal _ =>
      rw [Machine.store_advance, Faulty.inner_of_delete removal]
      exact (Memory.SameBut.staged kind _ none).paired paired (Memory.paired_staged_none _ kind)
        other
  | revoked removal tagRemoval =>
      rw [Machine.store_advance, Faulty.inner_of_delete tagRemoval,
        Faulty.inner_of_delete removal]
      have same := (Memory.SameBut.staged kind before.store.inner none).trans
        (Memory.SameBut.erase_tag kind _)
      refine same.paired paired ?_ other
      left
      simp [Memory.get?_erase, Memory.get?_staged]

/-- Between two machines a list of a given size has been stored, and beside it the tag that it has
under the password which the operator has confirmed in between. -/
def Signed (kind : RequestKind) (size : Nat) (before after : Machine (Faulty Memory)) : Prop :=
  ∃ pending tag password earlier given,
    before.answers = earlier ++ given ++ after.answers ∧ Dialogue.Confirmed given password ∧
      after.store.inner.get? kind.pendingVariable = some pending ∧ pending.data.length = size ∧
      after.store.inner.get? kind.tagVariable = some tag ∧
      tag.data = (AuthTag.derive (some pending.data) password).toBytes

theorem CommitOutcome.signed {bytes : Bytes}
    (ending : CommitOutcome kind (some bytes) before (.ok ()) after) :
    Signed kind bytes.length before after := by
  cases ending with
  | @committed password asked listed tagged asking listing tagging =>
      rcases Dialogue.confirmed_of_newPassword asking with ⟨given, answers, confirmed⟩
      have inner : tagged.inner = (asked.store.inner.staged kind (some bytes)).insert
          kind.tagVariable ⟨.standard, (AuthTag.derive (some bytes) password).toBytes⟩ := by
        rw [Faulty.inner_of_write tagging, (staged_of_withList listing).1]
      refine ⟨⟨.standard, bytes⟩, ⟨.standard, (AuthTag.derive (some bytes) password).toBytes⟩,
        password, [], given, answers, confirmed, ?_, rfl, ?_, rfl⟩
      · simp [inner, Memory.get?_insert, Memory.get?_staged]
      · simp [inner, Memory.get?_insert]

/-- Where issuing reports the size of a list, it has signed a list of that size. -/
theorem IssueOutcome.signed {candidates : List Candidate} {report : RequestReport} {size : Nat}
    (ending : IssueOutcome kind candidates before (.ok report) after)
    (committed : report.committedLength = some size) : Signed kind size before after := by
  cases ending with
  | nothingEligible _ => cases committed
  | committed assessing _ authenticating _ committing =>
      cases committed
      have looks := looks_of_assess assessing
      rcases committing.signed with ⟨pending, tag, password, between, given, answers, rest⟩
      rcases authenticating.suffix_answers with ⟨taken, split⟩
      rw [Machine.answers_advance] at answers split
      refine ⟨pending, tag, password, taken ++ between, given, ?_, rest⟩
      rw [← looks.answers_eq, ← split, answers]
      simp only [List.append_assoc]

end Staging

namespace Call

/-- If a call issues candidates, then while it runs the tag can be written or the list can be
deleted. -/
def Recoverable (call : Call) : Prop :=
  ∀ kind candidates, call.operation = .issue kind candidates →
    ¬(call.Fails .write kind.tagVariable ∧ call.Fails .delete kind.pendingVariable)

/-- Every call keeps all lists paired. -/
theorem paired_after {call : Call} {memory : Memory} (recoverable : call.Recoverable)
    (paired : ∀ kind, memory.Paired kind) (kind : RequestKind) :
    (call.after memory).Paired kind := by
  unfold after outcome
  cases running : call.operation with
  | issue issued candidates =>
      have removable : (call.start memory).store.fault? .write issued.tagVariable ≠ none →
          (call.start memory).store.fault? .delete issued.pendingVariable = none := by
        intro tagFault
        by_contra listFault
        exact recoverable issued candidates running
          ⟨Faulty.fault?_ne_none_iff.mp tagFault, Faulty.fault?_ne_none_iff.mp listFault⟩
      have ending := Staging.issueOutcome issued candidates (call.start memory)
      simp only [Operation.attempt, Attempt.outcome_map, Staging.issue,
        Staging.outcome_abortOnFailure]
      rw [(Staging.quiet_abortedOn _ _).store_eq]
      exact ending.paired removable paired kind
  | reset cleared =>
      have ending := Staging.commitOutcome cleared none
        ((call.start memory).advance (call.start memory).store [.entered .merged])
      simp only [Operation.attempt, Attempt.outcome_map, Staging.outcome_reset]
      rw [(Staging.quiet_abortedOn _ _).store_eq]
      exact ending.paired (by simp) paired kind
  | revoke revoked =>
      have ending := Staging.revokeOutcome revoked (call.start memory)
      simp only [Operation.attempt, Attempt.outcome_map]
      exact ending.paired paired kind

/-- A call that reports the size of a list has signed a list of that size. -/
theorem signed_of_report {call : Call} {memory : Memory} {kind : RequestKind}
    {candidates : List Candidate} {report : RequestReport} {size : Nat}
    (issuing : call.operation = .issue kind candidates)
    (replied : (call.outcome memory).1 = .ok (.issued report))
    (committed : report.committedLength = some size) :
    Staging.Signed kind size (call.start memory) (call.outcome memory).2 := by
  have ending := Staging.issueOutcome kind candidates (call.start memory)
  unfold outcome at replied ⊢
  simp only [issuing, Operation.attempt, Attempt.outcome_map, Staging.issue,
    Staging.outcome_abortOnFailure] at replied ⊢
  generalize Attempt.outcome (Staging.issueSteps kind candidates) (call.start memory) = ran
    at ending replied ⊢
  rcases ran with ⟨error | done, stopped⟩
  · cases replied
  · cases replied
    exact ending.signed committed

end Call

/-- A session of recoverable calls keeps all lists paired. -/
theorem paired_afterSession {memory : Memory} {calls : List Call}
    (paired : ∀ kind, memory.Paired kind) (recoverable : ∀ call ∈ calls, call.Recoverable) :
    ∀ kind, (afterSession memory calls).Paired kind := by
  induction calls generalizing memory with
  | nil => exact paired
  | cons call later ih =>
      refine ih (Call.paired_after (recoverable call List.mem_cons_self) paired) ?_
      exact fun next mem => recoverable next (List.mem_cons_of_mem call mem)

/-- From a memory in which all lists are paired, every session of recoverable calls keeps them
paired after every call; and a call that reports a committed list has just signed it. -/
theorem paired_throughout {memory : Memory} {calls : List Call}
    (paired : ∀ kind, memory.Paired kind) (recoverable : ∀ call ∈ calls, call.Recoverable) :
    ∀ earlier call later, calls = earlier ++ call :: later →
      let current := afterSession memory earlier
      (∀ kind, (call.after current).Paired kind) ∧
        ∀ kind candidates report size, call.operation = .issue kind candidates →
          (call.outcome current).1 = .ok (.issued report) →
          report.committedLength = some size →
          Staging.Signed kind size (call.start current) (call.outcome current).2 := by
  rintro earlier call later rfl
  have recoverableEarlier : ∀ next ∈ earlier, next.Recoverable :=
    fun next mem => recoverable next (List.mem_append_left _ mem)
  have recoverableCall : call.Recoverable :=
    recoverable call (List.mem_append_right _ List.mem_cons_self)
  have pairedBefore := paired_afterSession paired recoverableEarlier
  refine ⟨Call.paired_after recoverableCall pairedBefore, ?_⟩
  intro kind candidates report size issuing replied committed
  exact Call.signed_of_report issuing replied committed

/-- A key is staged; more keys are staged in vain, for the tag cannot be written; and then the
request is revoked, but the tag cannot be deleted. -/
def faultySession : List Call :=
  [⟨.issue .enroll [⟨"first", [1]⟩], [.line "password", .line "password"], []⟩,
    ⟨.issue .enroll [⟨"second", [2]⟩],
      [.line "password", .line "new password", .line "new password"],
      [⟨.write, .enrollmentTag, "no space"⟩]⟩,
    ⟨.revoke .enroll, [], [⟨.delete, .enrollmentTag, "locked"⟩]⟩]

/-- The faults in that session are recoverable ones. -/
theorem paired_throughout_faultySession :
    (∀ kind, Memory.empty.Paired kind) ∧ (∀ call ∈ faultySession, call.Recoverable) ∧
      ∀ earlier call later, faultySession = earlier ++ call :: later →
        let current := afterSession Memory.empty earlier
        (∀ kind, (call.after current).Paired kind) ∧
          ∀ kind candidates report size, call.operation = .issue kind candidates →
            (call.outcome current).1 = .ok (.issued report) →
            report.committedLength = some size →
            Staging.Signed kind size (call.start current) (call.outcome current).2 := by
  have paired : ∀ kind, Memory.empty.Paired kind := fun kind => .inl rfl
  have recoverable : ∀ call ∈ faultySession, call.Recoverable := by
    intro call mem kind candidates issuing
    rintro ⟨_, fault, deleting, isDelete, isList⟩
    simp only [faultySession, List.mem_cons, List.not_mem_nil, or_false] at mem
    rcases mem with rfl | rfl | rfl
    · cases deleting
    · rw [List.mem_singleton.mp deleting] at isDelete
      cases isDelete
    · cases issuing
  exact ⟨paired, recoverable, paired_throughout paired recoverable⟩

end OwnerKeys
