import OwnerKeys.Proofs.Request.Authentication
import OwnerKeys.Proofs.Request.Commit
import OwnerKeys.Proofs.Request.Query

/-!
# How staging can end

For issuing and for revoking a relation lists the ways in which they can end, in terms of how the
authentication of a pending request and the commit of a list end. Issuing tries nothing that could
change the store before it commits: that is `IssueOutcome.quiet_or_commits`.
-/

namespace OwnerKeys.Staging

variable {Store : Type} [VariableStore Store]

/-! ## Telling the candidates apart -/

theorem looks_assess (kind : RequestKind) (accepted : List Candidate) (skipped : List String)
    (candidates : List Candidate) :
    (assess kind accepted skipped candidates : Action Store _).Keeps Machine.Looks := by
  induction candidates generalizing accepted skipped with
  | nil => exact Action.keeps_pure _
  | cons candidate later ih =>
      unfold assess
      extract_lets judge
      have looks (told : PUnit) : Action.Keeps Machine.Looks (judge told) := by
        unfold judge
        split
        · exact ih _ _
        · refine (Query.looks_isEligible kind candidate.data).bind fun eligible => ?_
          split
          · exact ih _ _
          · exact ih _ _
      split
      · exact (Query.looks_note _).bind looks
      · exact looks ⟨⟩

/-- Telling the candidates apart tries nothing that could change the store, and asks nothing. -/
theorem looks_of_assess {kind : RequestKind} {candidates : List Candidate}
    {assessed : List Candidate × List String} {before looked : Machine Store}
    (assessing : Action.outcome (assess kind [] [] candidates) before = (assessed, looked)) :
    Machine.Looks before looked :=
  (looks_assess kind [] [] candidates).of_outcome assessing

/-! ## Issuing -/

/-- The ways in which the steps of issuing can end. -/
inductive IssueOutcome (kind : RequestKind) (candidates : List Candidate)
    (before : Machine Store) : Except RequestError RequestReport → Machine Store → Prop where
  /-- No candidate is eligible. -/
  | nothingEligible {skipped : List String} {looked : Machine Store}
      (assessing : Action.outcome (assess kind [] [] candidates) before = (([], skipped), looked)) :
      IssueOutcome kind candidates before (.ok ⟨[], skipped, none⟩)
        (looked.advance looked.store [.entered .candidatesValidated, .noted .nothingToDo])
  /-- The operator is not authenticated. -/
  | notAuthenticated {accepted : List Candidate} {skipped : List String}
      {looked stopped : Machine Store} {error : RequestError}
      (assessing : Action.outcome (assess kind [] [] candidates) before =
        ((accepted, skipped), looked))
      (eligible : accepted ≠ [])
      (authenticating : AuthenticationOutcome kind
        (looked.advance looked.store [.entered .candidatesValidated]) (.error error) stopped) :
      IssueOutcome kind candidates before (.error error) stopped
  /-- The list is too large to be written. -/
  | notEncoded {accepted : List Candidate} {skipped : List String}
      {looked authenticated : Machine Store} {prior : Option Bytes}
      {error : SignatureList.EncodeError}
      (assessing : Action.outcome (assess kind [] [] candidates) before =
        ((accepted, skipped), looked))
      (eligible : accepted ≠ [])
      (authenticating : AuthenticationOutcome kind
        (looked.advance looked.store [.entered .candidatesValidated]) (.ok prior) authenticated)
      (merging : mergedList accepted prior = .error error) :
      IssueOutcome kind candidates before (.error (.encode error)) authenticated
  /-- The list is not committed. -/
  | notCommitted {accepted : List Candidate} {skipped : List String}
      {looked authenticated stopped : Machine Store} {prior : Option Bytes} {list : Bytes}
      {error : RequestError}
      (assessing : Action.outcome (assess kind [] [] candidates) before =
        ((accepted, skipped), looked))
      (eligible : accepted ≠ [])
      (authenticating : AuthenticationOutcome kind
        (looked.advance looked.store [.entered .candidatesValidated]) (.ok prior) authenticated)
      (merging : mergedList accepted prior = .ok list)
      (committing : CommitOutcome kind (some list)
        (authenticated.advance authenticated.store [.entered .merged]) (.error error) stopped) :
      IssueOutcome kind candidates before (.error error) stopped
  /-- The list is committed. -/
  | committed {accepted : List Candidate} {skipped : List String}
      {looked authenticated after : Machine Store} {prior : Option Bytes} {list : Bytes}
      (assessing : Action.outcome (assess kind [] [] candidates) before =
        ((accepted, skipped), looked))
      (eligible : accepted ≠ [])
      (authenticating : AuthenticationOutcome kind
        (looked.advance looked.store [.entered .candidatesValidated]) (.ok prior) authenticated)
      (merging : mergedList accepted prior = .ok list)
      (committing : CommitOutcome kind (some list)
        (authenticated.advance authenticated.store [.entered .merged]) (.ok ()) after) :
      IssueOutcome kind candidates before
        (.ok ⟨accepted.map (·.name), skipped, some list.length⟩) after

/-- The steps of issuing end in one of these ways. -/
theorem issueOutcome (kind : RequestKind) (candidates : List Candidate) (before : Machine Store) :
    IssueOutcome kind candidates before
      (Attempt.outcome (issueSteps kind candidates) before).1
      (Attempt.outcome (issueSteps kind candidates) before).2 := by
  unfold issueSteps
  rcases assessing : Action.outcome (assess kind [] [] candidates) before with
    ⟨⟨accepted, skipped⟩, looked⟩
  simp only [enter, Attempt.outcome_perform_bind, assessing, Action.outcome_emit]
  cases accepted with
  | nil =>
      simp only [List.isEmpty_nil, if_true, Attempt.outcome_perform_bind, Action.outcome_note,
        Attempt.outcome_pure, Machine.store_advance, Machine.advance_advance, List.cons_append,
        List.nil_append]
      exact .nothingEligible assessing
  | cons first later =>
      have eligible : first :: later ≠ [] := List.cons_ne_nil first later
      simp only [List.isEmpty_cons, Bool.false_eq_true, if_false]
      have authenticating := authenticationOutcome kind
        (looked.advance looked.store [.entered .candidatesValidated])
      rcases authentication : Attempt.outcome (authenticatePrior kind)
        (looked.advance looked.store [.entered .candidatesValidated]) with
        ⟨error | prior, authenticated⟩
      · rw [authentication] at authenticating
        rw [Attempt.outcome_bind_error authentication]
        exact .notAuthenticated assessing eligible authenticating
      · rw [authentication] at authenticating
        rw [Attempt.outcome_bind_ok authentication]
        cases merging : mergedList (first :: later) prior with
        | error error => exact .notEncoded assessing eligible authenticating merging
        | ok list =>
            simp only [Attempt.outcome_perform_bind, Action.outcome_emit]
            have committing := commitOutcome kind (some list)
              (authenticated.advance authenticated.store [.entered .merged])
            rcases commit : Attempt.outcome (signAndCommit kind (some list))
              (authenticated.advance authenticated.store [.entered .merged]) with
              ⟨error | done, after⟩
            · rw [commit] at committing
              rw [Attempt.outcome_bind_error commit]
              exact .notCommitted assessing eligible authenticating merging committing
            · rw [commit] at committing
              rw [Attempt.outcome_bind_ok commit]
              exact .committed assessing eligible authenticating merging committing

/-- Issuing either tries nothing that could change the store, or it commits a list after an
authentication, has tried nothing before that, and fails exactly as the commit does. -/
theorem IssueOutcome.quiet_or_commits {kind : RequestKind} {candidates : List Candidate}
    {before after : Machine Store} {result : Except RequestError RequestReport}
    (ending : IssueOutcome kind candidates before result after) :
    Machine.Quiet before after ∨
      ∃ (looked authenticated : Machine Store) (prior : Option Bytes) (list : Bytes)
        (committed : Except RequestError Unit),
        Machine.Looks before looked ∧
          AuthenticationOutcome kind
            (looked.advance looked.store [.entered .candidatesValidated]) (.ok prior)
            authenticated ∧
          Machine.Quiet before
            (authenticated.advance authenticated.store [.entered .merged]) ∧
          CommitOutcome kind (some list)
            (authenticated.advance authenticated.store [.entered .merged]) committed after ∧
          ∃ report, result = committed.map fun _ => report := by
  have authenticates {looked authenticated : Machine Store}
      {prior : Except RequestError (Option Bytes)} (looks : Machine.Looks before looked)
      (authenticating : AuthenticationOutcome kind
        (looked.advance looked.store [.entered .candidatesValidated]) prior authenticated) :
      Machine.Quiet before authenticated :=
    (looks.quiet.trans_advance (by simp [Event.IsChange])).trans authenticating.quiet
  cases ending with
  | nothingEligible assessing =>
      left
      exact (looks_of_assess assessing).quiet.trans_advance (by simp [Event.IsChange])
  | notAuthenticated assessing _ authenticating =>
      left
      exact authenticates (looks_of_assess assessing) authenticating
  | notEncoded assessing _ authenticating _ =>
      left
      exact authenticates (looks_of_assess assessing) authenticating
  | notCommitted assessing _ authenticating _ committing =>
      right
      have looks := looks_of_assess assessing
      exact ⟨_, _, _, _, _, looks, authenticating,
        (authenticates looks authenticating).trans_advance (by simp [Event.IsChange]), committing,
        ⟨[], [], none⟩, rfl⟩
  | committed assessing _ authenticating _ committing =>
      right
      have looks := looks_of_assess assessing
      exact ⟨_, _, _, _, _, looks, authenticating,
        (authenticates looks authenticating).trans_advance (by simp [Event.IsChange]), committing,
        _, rfl⟩

/-! ## Failures -/

/-- The machine after a failure has been noted as the end of a request. -/
def abortedOn {Result : Type} (result : Except RequestError Result) (machine : Machine Store) :
    Machine Store :=
  match result with
  | .ok _ => machine
  | .error _ => machine.advance machine.store [.entered .aborted]

omit [VariableStore Store] in
theorem quiet_abortedOn {Result : Type} (result : Except RequestError Result)
    (machine : Machine Store) : Machine.Quiet machine (abortedOn result machine) := by
  cases result with
  | ok value => exact Machine.Adds.refl machine
  | error error => exact Machine.Adds.advance machine (by simp [Event.IsChange])

omit [VariableStore Store] in
theorem outcome_abortOnFailure {Result : Type} (attempt : Attempt Store RequestError Result)
    (machine : Machine Store) :
    Attempt.outcome (abortOnFailure attempt) machine =
      ((attempt.outcome machine).1, abortedOn (attempt.outcome machine).1
        (attempt.outcome machine).2) := by
  unfold abortOnFailure
  rcases ran : attempt.outcome machine with ⟨error | result, after⟩
  · rw [Attempt.outcome_tryCatch_error ran]
    rfl
  · rw [Attempt.outcome_tryCatch_ok ran]
    rfl

/-- Issuing ends as its steps do, and a failure of the steps is noted. -/
theorem exists_issueOutcome (kind : RequestKind) (candidates : List Candidate)
    (before : Machine Store) :
    ∃ result stopped, IssueOutcome kind candidates before result stopped ∧
      Attempt.outcome (issue kind candidates) before = (result, abortedOn result stopped) :=
  ⟨_, _, issueOutcome kind candidates before, by rw [issue, outcome_abortOnFailure]⟩

theorem outcome_reset (kind : RequestKind) (before : Machine Store) :
    Attempt.outcome (reset kind) before =
      let ran := Attempt.outcome (signAndCommit kind none)
        (before.advance before.store [.entered .merged])
      (ran.1, abortedOn ran.1 ran.2) := by
  simp only [reset, enter, Attempt.outcome_perform_bind, Action.outcome_emit,
    outcome_abortOnFailure]

/-! ## Revoking -/

/-- The ways in which revoking can end. -/
inductive RevokeOutcome (kind : RequestKind) (before : Machine Store) :
    Except RequestError Bool → Machine Store → Prop where
  /-- The list is not deleted. -/
  | listKept {error : StoreError}
      (removal : VariableStore.delete before.store kind.pendingVariable = .error error) :
      RevokeOutcome kind before (.error (.delete kind.pendingVariable error))
        (before.advance before.store [.called .delete kind.pendingVariable])
  /-- The list is deleted and the tag is not. -/
  | tagKept {foundList : Bool} {removed : Store} {error : StoreError}
      (removal : VariableStore.delete before.store kind.pendingVariable =
        .ok (foundList, removed))
      (tagRemoval : VariableStore.delete removed kind.tagVariable = .error error) :
      RevokeOutcome kind before (.error (.delete kind.tagVariable error))
        (before.advance removed
          [.called .delete kind.pendingVariable, .called .delete kind.tagVariable])
  /-- The list and the tag are deleted. -/
  | revoked {foundList foundTag : Bool} {removed cleared : Store}
      (removal : VariableStore.delete before.store kind.pendingVariable =
        .ok (foundList, removed))
      (tagRemoval : VariableStore.delete removed kind.tagVariable = .ok (foundTag, cleared)) :
      RevokeOutcome kind before (.ok (foundList || foundTag))
        (before.advance cleared
          [.called .delete kind.pendingVariable, .called .delete kind.tagVariable])

theorem outcome_deleteExisting (var : Variable) (machine : Machine Store) :
    Attempt.outcome (deleteExisting var) machine =
      match VariableStore.delete machine.store var with
      | .ok (found, deleted) => (.ok found, machine.advance deleted [.called .delete var])
      | .error error =>
        (.error (.delete var error), machine.advance machine.store [.called .delete var]) := by
  simp only [deleteExisting, Attempt.outcome_perform_bind, Action.outcome_deleteVariable]
  cases VariableStore.delete machine.store var with
  | ok result => rfl
  | error error => rfl

/-- Revoking ends in one of these ways. -/
theorem revokeOutcome (kind : RequestKind) (before : Machine Store) :
    RevokeOutcome kind before (Attempt.outcome (revoke kind) before).1
      (Attempt.outcome (revoke kind) before).2 := by
  unfold revoke
  have deleting := outcome_deleteExisting kind.pendingVariable before
  cases removal : VariableStore.delete before.store kind.pendingVariable with
  | error error =>
      simp only [removal] at deleting
      rw [Attempt.outcome_bind_error deleting]
      exact .listKept removal
  | ok result =>
      rcases result with ⟨foundList, removed⟩
      simp only [removal] at deleting
      rw [Attempt.outcome_bind_ok deleting]
      have deletingTag := outcome_deleteExisting kind.tagVariable
        (before.advance removed [.called .delete kind.pendingVariable])
      cases tagRemoval : VariableStore.delete removed kind.tagVariable with
      | error error =>
          simp only [tagRemoval, Machine.store_advance, Machine.advance_advance,
            List.cons_append, List.nil_append] at deletingTag
          rw [Attempt.outcome_bind_error deletingTag]
          exact .tagKept removal tagRemoval
      | ok tagResult =>
          rcases tagResult with ⟨foundTag, cleared⟩
          simp only [tagRemoval, Machine.store_advance, Machine.advance_advance,
            List.cons_append, List.nil_append] at deletingTag
          rw [Attempt.outcome_bind_ok deletingTag]
          exact .revoked removal tagRemoval

end OwnerKeys.Staging
