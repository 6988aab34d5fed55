import OwnerKeys.Proofs.Request.Reissue
import OwnerKeys.Proofs.Request.Session
import OwnerKeys.Proofs.Request.Supersession

/-!
# How far requests get

Requests of one kind can be issued and reset one after another, whether the earlier ones have failed
or not. The phase that was reached last then tells how the last of them has ended, and a phase that
lies on the way to an end is never the last one. Where a request is committed, its list and its tag
are found in the store, even if the variables could not be read before.
-/

namespace OwnerKeys

/-- What is done in one of several turns about requests of one kind. -/
inductive Turn where
  /-- Candidates are staged, as far as they are eligible. -/
  | issue (candidates : List Candidate)
  /-- An empty list is staged. -/
  | reset

/-- The operation of a turn. -/
def Turn.operation (kind : RequestKind) : Turn → Operation
  | issue candidates => .issue kind candidates
  | reset => .reset kind

section Turns

variable {Store : Type} [VariableStore Store]

/-- The reply to a turn, or its error, and the machine that it leaves behind. -/
def Turn.outcome (kind : RequestKind) (turn : Turn) (machine : Machine Store) :
    Except RequestError Reply × Machine Store :=
  (turn.operation kind).attempt.outcome machine

/-- The machine after some turns. A turn that fails does not keep the next one from being taken. -/
def afterTurns (kind : RequestKind) (machine : Machine Store) (turns : List Turn) :
    Machine Store :=
  turns.foldl (fun current turn => (turn.outcome kind current).2) machine

end Turns

/-! ## The last phase -/

/-- The phase that an event enters. -/
def Event.phase? : Event → Option Phase
  | entered phase => some phase
  | _ => none

namespace Machine

variable {Store : Type}

theorem phase_eq (machine : Machine Store) :
    machine.phase = (machine.trace.filterMap Event.phase?).getLast?.getD .start := rfl

/-- A phase remains the last one as long as no other is reached. -/
theorem phase_advance (machine : Machine Store) (store : Store) (earlier : List Event)
    (reached : Phase) {later : List Event} (silent : ∀ event ∈ later, event.phase? = none) :
    (machine.advance store (earlier ++ .entered reached :: later)).phase = reached := by
  have nothing : later.filterMap Event.phase? = [] := List.filterMap_eq_nil_iff.mpr silent
  have entering : (Event.entered reached).phase? = some reached := rfl
  rw [phase_eq, trace_advance, List.filterMap_append, List.filterMap_append,
    List.filterMap_cons_some entering, nothing, ← List.append_assoc, List.getLast?_append,
    List.getLast?_singleton, Option.some_or, Option.getD_some]

end Machine

namespace Staging

variable {kind : RequestKind}

theorem phase_abortedOn_error {Store Result : Type} (error : RequestError)
    (machine : Machine Store) :
    (abortedOn (.error error : Except RequestError Result) machine).phase = .aborted :=
  machine.phase_advance machine.store [] .aborted (by simp)

theorem CommitOutcome.phase_eq {Store : Type} [VariableStore Store] {list : Option Bytes}
    {before after : Machine Store} (ending : CommitOutcome kind list before (.ok ()) after) :
    after.phase = .committed := by
  cases ending with
  | @committed _ asked _ tagged =>
      exact asked.phase_advance tagged
        [.entered .signed, listCall kind list, .called .write kind.tagVariable] .committed
        (by simp [Event.phase?])

/-! ## What is found after a commit

What is made to fail may well keep the variables from being read, so it is the store behind that is
looked at. -/

variable {Store : Type} [VariableStore Store] [TransparentStore Store]
  {before after : Machine (Faulty Store)}

theorem Commits.listStaged_inner {candidates : List Candidate} {report : RequestReport}
    {list : Bytes} {password : Password}
    (commits : Commits kind candidates before after report list password) :
    ListStaged kind after.store.inner list password := by
  rcases commits.writes with ⟨listed, listing, tagging⟩
  rcases Faulty.write_eq_ok_iff.mp listing with ⟨_, innerListing, _⟩
  rcases Faulty.write_eq_ok_iff.mp tagging with ⟨_, innerTagging, _⟩
  constructor
  · rw [RequestKind.read_pending_of_tagged innerTagging]
    exact TransparentStore.read_of_written kind.isPlain_pendingVariable innerListing
  · exact TransparentStore.read_of_written kind.isPlain_tagVariable innerTagging

theorem CommitOutcome.resetStaged_inner
    (ending : CommitOutcome kind none before (.ok ()) after) :
    ∃ given password, before.answers = given ++ after.answers ∧
      Dialogue.Confirmed given password ∧ ResetStaged kind after.store.inner password := by
  rcases ending.exists_confirmed_reset with
    ⟨password, was, removed, given, removal, tagging, answers, confirmed⟩
  rcases Faulty.delete_eq_ok_iff.mp removal with ⟨_, innerRemoval, _⟩
  rcases Faulty.write_eq_ok_iff.mp tagging with ⟨_, innerTagging, _⟩
  refine ⟨given, password, answers, confirmed, ?_, ?_⟩
  · rw [RequestKind.read_pending_of_tagged innerTagging]
    exact TransparentStore.read_of_deleted kind.isPlain_pendingVariable innerRemoval
  · exact ⟨_, TransparentStore.read_of_written kind.isPlain_tagVariable innerTagging, rfl⟩

end Staging

/-! ## How a turn ends -/

section Endings

variable {Store : Type} [VariableStore Store]

/-- The last of the answers that were taken between two machines confirm a password. -/
def ConfirmedLast (before after : Machine Store) (password : Password) : Prop :=
  ∃ earlier given, before.answers = earlier ++ given ++ after.answers ∧
    Dialogue.Confirmed given password

/-- The ways in which a turn can end, with the phase that it reaches last and with what it leaves in
the store. -/
inductive TurnOutcome (kind : RequestKind) (before : Machine (Faulty Store)) :
    Except RequestError Reply → Machine (Faulty Store) → Prop where
  /-- The turn fails. -/
  | failed {error : RequestError} {after : Machine (Faulty Store)}
      (phase_eq : after.phase = .aborted) : TurnOutcome kind before (.error error) after
  /-- No candidate is eligible, and no more is done than to find that out. -/
  | idle {report : RequestReport} {after : Machine (Faulty Store)}
      (nothing : report.committedLength = none) (phase_eq : after.phase = .candidatesValidated)
      (searches : Machine.Adds Event.IsSearch before after)
      (answers_eq : after.answers = before.answers) :
      TurnOutcome kind before (.ok (.issued report)) after
  /-- A list is committed. -/
  | listed {report : RequestReport} {after : Machine (Faulty Store)} {list : Bytes}
      {password : Password} (size : report.committedLength = some list.length)
      (phase_eq : after.phase = .committed) (confirmed : ConfirmedLast before after password)
      (staged : Staging.ListStaged kind after.store.inner list password) :
      TurnOutcome kind before (.ok (.issued report)) after
  /-- An empty list is committed. -/
  | cleared {after : Machine (Faulty Store)} {password : Password}
      (phase_eq : after.phase = .committed) (confirmed : ConfirmedLast before after password)
      (staged : Staging.ResetStaged kind after.store.inner password) :
      TurnOutcome kind before (.ok .cleared) after

/-- The phase that was reached last, and the store, tell how a turn has ended. -/
structure Reflects (kind : RequestKind) (before : Machine (Faulty Store))
    (result : Except RequestError Reply) (after : Machine (Faulty Store)) : Prop where
  /-- It was aborted exactly if it has failed. -/
  aborted_iff : after.phase = .aborted ↔ ∃ error, result = .error error
  /-- The candidates are known, and no more, exactly if none of them was to be staged. -/
  candidatesValidated_iff : after.phase = .candidatesValidated ↔
    ∃ report, result = .ok (.issued report) ∧ report.committedLength = none
  /-- It was committed exactly if a list was staged, or an empty one. -/
  committed_iff : after.phase = .committed ↔
    (∃ report size, result = .ok (.issued report) ∧ report.committedLength = some size) ∨
      result = .ok .cleared
  /-- It has come to an end. -/
  ended : after.phase ∈ [.aborted, .candidatesValidated, .committed]
  /-- Where no candidate was to be staged, nothing was tried that could have changed the store, and
  the operator was asked nothing. -/
  idle : ∀ report, result = .ok (.issued report) → report.committedLength = none →
    Machine.Adds (fun event => ¬event.IsChange ∧ ¬event.IsPrompt) before after ∧
      after.answers = before.answers
  /-- A list that was staged is pending with all its bytes, beside it the tag that it has under the
  password which was confirmed. -/
  listed : ∀ report size, result = .ok (.issued report) → report.committedLength = some size →
    ∃ list password, list.length = size ∧ ConfirmedLast before after password ∧
      Staging.ListStaged kind after.store.inner list password
  /-- After a reset no list is pending, and the tag is that of none under the password which was
  confirmed. -/
  cleared : result = .ok .cleared →
    ∃ password, ConfirmedLast before after password ∧
      Staging.ResetStaged kind after.store.inner password

theorem TurnOutcome.reflects {kind : RequestKind} {before after : Machine (Faulty Store)}
    {result : Except RequestError Reply} (ending : TurnOutcome kind before result after) :
    Reflects kind before result after := by
  cases ending with
  | failed phase_eq => constructor <;> simp [phase_eq]
  | idle nothing phase_eq searches answers_eq =>
      constructor
      case idle =>
        exact fun _ _ _ =>
          ⟨searches.mono fun _ => Event.IsSearch.not_isChange_and_not_isPrompt, answers_eq⟩
      case listed =>
        rintro _ _ ⟨⟩ size
        cases nothing.symm.trans size
      all_goals simp [phase_eq, nothing]
  | @listed _ _ list password size phase_eq confirmed staged =>
      constructor
      case listed =>
        rintro _ _ ⟨⟩ sameSize
        cases size.symm.trans sameSize
        exact ⟨list, password, rfl, confirmed, staged⟩
      all_goals simp [phase_eq, size]
  | @cleared _ password phase_eq confirmed staged =>
      constructor
      case cleared => exact fun _ => ⟨password, confirmed, staged⟩
      all_goals simp [phase_eq]

variable [TransparentStore Store]

theorem turnOutcome_issue (kind : RequestKind) (candidates : List Candidate)
    (before : Machine (Faulty Store)) :
    TurnOutcome kind before ((Turn.issue candidates).outcome kind before).1
      ((Turn.issue candidates).outcome kind before).2 := by
  rcases Staging.exists_issueOutcome kind candidates before with ⟨result, stopped, ending, ran⟩
  simp only [Turn.outcome, Turn.operation, Operation.attempt, Attempt.outcome_map, ran]
  cases result with
  | error error => exact .failed (Staging.phase_abortedOn_error error stopped)
  | ok report =>
      cases ending with
      | @nothingEligible _ looked assessing =>
          have looks := Staging.looks_of_assess assessing
          exact .idle rfl
            (looked.phase_advance looked.store [] .candidatesValidated (by simp [Event.phase?]))
            (Staging.searches_of_looks looks) looks.answers_eq
      | committed _ _ _ _ committing =>
          rcases Staging.exists_commits ran (Option.some_ne_none _) with ⟨_, _, commits⟩
          have size := congrArg RequestReport.committedLength commits.report_eq
          exact .listed size committing.phase_eq commits.confirms commits.listStaged_inner

theorem turnOutcome_reset (kind : RequestKind) (before : Machine (Faulty Store)) :
    TurnOutcome kind before (Turn.reset.outcome kind before).1
      (Turn.reset.outcome kind before).2 := by
  have ending := Staging.commitOutcome kind none (before.advance before.store [.entered .merged])
  rcases ran : Attempt.outcome (Staging.signAndCommit kind none)
    (before.advance before.store [.entered .merged]) with ⟨result, stopped⟩
  rw [ran] at ending
  simp only [Turn.outcome, Turn.operation, Operation.attempt, Attempt.outcome_map,
    Staging.outcome_reset, ran]
  cases result with
  | error error => exact .failed (Staging.phase_abortedOn_error error stopped)
  | ok done =>
      rcases ending.resetStaged_inner with ⟨given, password, answers, confirmed, staged⟩
      exact .cleared ending.phase_eq ⟨[], given, answers, confirmed⟩ staged

theorem turnOutcome (kind : RequestKind) (turn : Turn) (before : Machine (Faulty Store)) :
    TurnOutcome kind before (turn.outcome kind before).1 (turn.outcome kind before).2 := by
  cases turn with
  | issue candidates => exact turnOutcome_issue kind candidates before
  | reset => exact turnOutcome_reset kind before

/-- Whatever turns were taken before, and however they have ended, the phase that was reached last
tells how the last turn has ended. -/
theorem reflects_afterTurns (kind : RequestKind) (machine : Machine (Faulty Store))
    (earlier : List Turn) (turn : Turn) :
    let before := afterTurns kind machine earlier
    Reflects kind before (turn.outcome kind before).1
      (afterTurns kind machine (earlier ++ [turn])) := by
  intro before
  have last : afterTurns kind machine (earlier ++ [turn]) = (turn.outcome kind before).2 := by
    simp [afterTurns, before]
  rw [last]
  exact (turnOutcome kind turn before).reflects

end Endings

/-- An operator who confirms a password, before a store in which the pending enrollments cannot be
read. -/
def blindfolded : Machine (Faulty Memory) where
  store := ⟨.empty, [⟨.read, .pendingEnrollment, "unreadable"⟩]⟩
  answers := [.line "password", .line "password"]

/-- Issuing fails there, and a reset after it is committed. -/
theorem reflects_afterTurns_blindfolded :
    let failed := afterTurns .enroll blindfolded [.issue [⟨"key", [1]⟩]]
    let cleared := afterTurns .enroll blindfolded [.issue [⟨"key", [1]⟩], .reset]
    failed.phase = .aborted ∧ cleared.phase = .committed ∧
      ∃ password, ConfirmedLast failed cleared password ∧
        Staging.ResetStaged .enroll cleared.store.inner password := by
  intro failed cleared
  have afterIssue := reflects_afterTurns .enroll blindfolded [] (.issue [⟨"key", [1]⟩])
  have afterReset := reflects_afterTurns .enroll blindfolded [.issue [⟨"key", [1]⟩]] .reset
  have unreadable : (Turn.outcome .enroll (.issue [⟨"key", [1]⟩]) blindfolded).1 =
      .error (.read .pendingEnrollment (.load (.other "unreadable"))) := by
    decide +kernel
  have done : (Turn.outcome .enroll .reset failed).1 = .ok .cleared := by
    decide +kernel
  exact ⟨afterIssue.aborted_iff.mpr ⟨_, unreadable⟩, afterReset.committed_iff.mpr (.inr done),
    afterReset.cleared done⟩

end OwnerKeys
