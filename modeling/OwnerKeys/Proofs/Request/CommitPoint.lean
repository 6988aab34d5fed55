import OwnerKeys.Proofs.Request.Staging

/-!
# The commit point

A request first finds out everything that it needs, from the store and from the operator, and only
then changes the store. So all prompts come before all changes, and as long as nothing but the tag
can still fail, a failure leaves the store as it was.
-/

namespace OwnerKeys.Staging

variable {Store : Type} [VariableStore Store]

/-- A request has asked everything before it changed anything; and if it has failed, but not because
its tag was refused, then it has changed nothing. -/
structure Careful {Result : Type} (kind : RequestKind) (before : Machine Store)
    (ran : Except RequestError Result × Machine Store) : Prop where
  /-- Nothing that could change the store was tried before the last prompt. -/
  prompts_first : ∃ events, ran.2.trace = before.trace ++ events ∧ Event.PromptsFirst events
  /-- Any failure other than that of writing the tag leaves the store as it was. -/
  unchanged : ∀ error, ran.1 = .error error →
    (∀ failure, error ≠ .write kind.tagVariable failure) → ran.2.store = before.store

variable {kind : RequestKind} {before after : Machine Store}

/-- A commit that fails before it comes to the tag has changed nothing. -/
theorem CommitOutcome.store_eq_of_error {list : Option Bytes} {error : RequestError}
    (ending : CommitOutcome kind list before (.error error) after)
    (notTag : ∀ failure, error ≠ .write kind.tagVariable failure) :
    after.store = before.store := by
  cases ending with
  | unanswered asking => exact (Dialogue.quiet_newPassword asking).store_eq
  | listRefused asking => exact (Dialogue.quiet_newPassword asking).store_eq
  | rolledBack => exact absurd rfl (notTag _)
  | leftBehind => exact absurd rfl (notTag _)

/-- The steps of issuing ask everything before they commit. -/
theorem IssueOutcome.asksFirst {candidates : List Candidate}
    {result : Except RequestError RequestReport}
    (ending : IssueOutcome kind candidates before result after) :
    Machine.AsksFirst before after := by
  rcases ending.quiet_or_commits with quiet | ⟨_, _, _, _, _, _, _, quiet, committing, _⟩
  · exact .of_quiet quiet
  · exact committing.asksFirst.quiet_trans quiet

theorem IssueOutcome.store_eq_of_error {candidates : List Candidate} {error : RequestError}
    (ending : IssueOutcome kind candidates before (.error error) after)
    (notTag : ∀ failure, error ≠ .write kind.tagVariable failure) :
    after.store = before.store := by
  rcases ending.quiet_or_commits with
    quiet | ⟨_, _, _, _, committed, _, _, quiet, committing, _, sameFailure⟩
  · exact quiet.store_eq
  · cases committed with
    | ok done => cases sameFailure
    | error failure =>
        cases sameFailure
        exact (committing.store_eq_of_error notTag).trans quiet.store_eq

omit [VariableStore Store] in
/-- Noting a failure as the end of a request is neither a prompt nor a change. -/
theorem careful_abortedOn {Result : Type} {result : Except RequestError Result}
    (asksFirst : Machine.AsksFirst before after)
    (unchanged : ∀ error, result = .error error →
      (∀ failure, error ≠ .write kind.tagVariable failure) → after.store = before.store) :
    Careful kind before (result, abortedOn result after) := by
  cases result with
  | ok value => exact ⟨asksFirst.exists_promptsFirst, unchanged⟩
  | error error =>
      have ended : Machine.AsksFirst before (after.advance after.store [.entered .aborted]) :=
        asksFirst.trans_advance _ (by simp [Event.IsPrompt])
      exact ⟨ended.exists_promptsFirst, unchanged⟩

/-- Issuing and resetting ask the operator everything before they change the store, and unless it is
the tag that is refused, they do not fail after they have changed it. -/
theorem careful_issue_reset (kind : RequestKind) (candidates : List Candidate)
    (before : Machine Store) :
    Careful kind before (Attempt.outcome (issue kind candidates) before) ∧
      Careful kind before (Attempt.outcome (reset kind) before) := by
  constructor
  · rcases exists_issueOutcome kind candidates before with ⟨result, stopped, ending, issued⟩
    rw [issued]
    refine careful_abortedOn ending.asksFirst ?_
    rintro error rfl notTag
    exact ending.store_eq_of_error notTag
  · have ending := commitOutcome kind none (before.advance before.store [.entered .merged])
    have merged : Machine.Quiet before (before.advance before.store [.entered .merged]) :=
      Machine.Adds.advance before (by simp [Event.IsChange])
    rw [outcome_reset]
    refine careful_abortedOn (ending.asksFirst.quiet_trans merged) ?_
    intro error failed notTag
    rw [failed] at ending
    exact ending.store_eq_of_error notTag

end OwnerKeys.Staging
