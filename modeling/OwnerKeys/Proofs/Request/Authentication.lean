import OwnerKeys.Proofs.Request.Dialogue
import OwnerKeys.Request.Staging

/-!
# How authentication can end

A relation lists the ways in which the authentication of a pending request can end: what made it end
that way, its result, and the machine that it leaves behind with every event on the way. It ends in
these ways and in no other, so whatever is true of all of them is true of every authentication.
-/

namespace OwnerKeys.Staging

variable {Store : Type} [VariableStore Store]

/-- The ways in which the authentication of a pending request can end. -/
inductive AuthenticationOutcome (kind : RequestKind) (before : Machine Store) :
    Except RequestError (Option Bytes) → Machine Store → Prop where
  /-- The pending list cannot be read. -/
  | unreadable {error : StoreError}
      (reading : VariableStore.read before.store kind.pendingVariable = .error error) :
      AuthenticationOutcome kind before (.error (.read kind.pendingVariable error))
        (before.advance before.store [.called .read kind.pendingVariable])
  /-- No request is pending. -/
  | absent (reading : VariableStore.read before.store kind.pendingVariable = .ok none) :
      AuthenticationOutcome kind before (.ok none)
        (before.advance before.store
          [.called .read kind.pendingVariable, .entered .priorRequestAbsent])
  /-- The tag of the pending list cannot be read. -/
  | tagUnreadable {pending : Value} {error : StoreError}
      (reading : VariableStore.read before.store kind.pendingVariable = .ok (some pending))
      (tagReading : VariableStore.read before.store kind.tagVariable = .error error) :
      AuthenticationOutcome kind before (.error (.read kind.tagVariable error))
        (before.advance before.store
          [.called .read kind.pendingVariable, .called .read kind.tagVariable])
  /-- The pending list has no tag, or one of a wrong size. -/
  | tagUnusable {pending : Value} {stored : Option Value}
      (reading : VariableStore.read before.store kind.pendingVariable = .ok (some pending))
      (tagReading : VariableStore.read before.store kind.tagVariable = .ok stored)
      (unusable : (stored.bind fun value => AuthTag.ofBytes? value.data) = none) :
      AuthenticationOutcome kind before (.error (.authenticationFailed kind.pendingVariable))
        (before.advance before.store
          [.called .read kind.pendingVariable, .called .read kind.tagVariable,
            .noted (.tagUnusable kind.tagVariable)])
  /-- The operator does not answer the challenge. -/
  | unanswered {pending stored : Value} {tag : AuthTag} {error : RequestError}
      {asked : Machine Store}
      (reading : VariableStore.read before.store kind.pendingVariable = .ok (some pending))
      (tagReading : VariableStore.read before.store kind.tagVariable = .ok (some stored))
      (usable : AuthTag.ofBytes? stored.data = some tag)
      (asking : Attempt.outcome (Dialogue.challenge tag (some pending.data))
        (before.advance before.store
          [.called .read kind.pendingVariable, .called .read kind.tagVariable]) =
          (.error error, asked)) :
      AuthenticationOutcome kind before (.error error) asked
  /-- The operator does not know the password. -/
  | refused {pending stored : Value} {tag : AuthTag} {asked : Machine Store}
      (reading : VariableStore.read before.store kind.pendingVariable = .ok (some pending))
      (tagReading : VariableStore.read before.store kind.tagVariable = .ok (some stored))
      (usable : AuthTag.ofBytes? stored.data = some tag)
      (asking : Attempt.outcome (Dialogue.challenge tag (some pending.data))
        (before.advance before.store
          [.called .read kind.pendingVariable, .called .read kind.tagVariable]) =
          (.ok false, asked)) :
      AuthenticationOutcome kind before (.error (.authenticationFailed kind.pendingVariable)) asked
  /-- The operator knows the password. -/
  | authenticated {pending stored : Value} {tag : AuthTag} {asked : Machine Store}
      (reading : VariableStore.read before.store kind.pendingVariable = .ok (some pending))
      (tagReading : VariableStore.read before.store kind.tagVariable = .ok (some stored))
      (usable : AuthTag.ofBytes? stored.data = some tag)
      (asking : Attempt.outcome (Dialogue.challenge tag (some pending.data))
        (before.advance before.store
          [.called .read kind.pendingVariable, .called .read kind.tagVariable]) =
          (.ok true, asked)) :
      AuthenticationOutcome kind before (.ok (some pending.data))
        (asked.advance asked.store [.entered .priorRequestAuthenticated])

/-- Authentication ends in one of these ways. -/
theorem authenticationOutcome (kind : RequestKind) (before : Machine Store) :
    AuthenticationOutcome kind before
      (Attempt.outcome (authenticatePrior kind) before).1
      (Attempt.outcome (authenticatePrior kind) before).2 := by
  simp only [authenticatePrior, enter, Attempt.outcome_perform_bind, Action.outcome_readVariable]
  cases reading : VariableStore.read before.store kind.pendingVariable with
  | error error => exact .unreadable reading
  | ok found =>
      cases found with
      | none =>
          simp only [Attempt.outcome_perform_bind, Action.outcome_emit, Attempt.outcome_pure,
            Machine.advance_advance, Machine.store_advance]
          exact .absent reading
      | some pending =>
          simp only [Attempt.outcome_perform_bind, Action.outcome_readVariable,
            Machine.advance_advance, Machine.store_advance, List.cons_append, List.nil_append]
          cases tagReading : VariableStore.read before.store kind.tagVariable with
          | error error => exact .tagUnreadable reading tagReading
          | ok stored =>
              cases usable : stored.bind fun value => AuthTag.ofBytes? value.data with
              | none =>
                  simp only [usable, Attempt.outcome_perform_bind, Action.outcome_note,
                    Attempt.outcome_throw, Machine.advance_advance, Machine.store_advance]
                  exact .tagUnusable reading tagReading usable
              | some tag =>
                  rcases Option.bind_eq_some_iff.mp usable with ⟨value, rfl, fromValue⟩
                  simp only [usable]
                  generalize asking : Attempt.outcome (Dialogue.challenge tag (some pending.data))
                    (before.advance before.store
                      [.called .read kind.pendingVariable, .called .read kind.tagVariable]) = answer
                  rcases answer with ⟨error | passed, asked⟩
                  · rw [Attempt.outcome_bind_error asking]
                    exact .unanswered reading tagReading fromValue asking
                  · rw [Attempt.outcome_bind_ok asking]
                    cases passed with
                    | false => exact .refused reading tagReading fromValue asking
                    | true => exact .authenticated reading tagReading fromValue asking

variable {kind : RequestKind} {before after : Machine Store}

/-- Authentication tries nothing that could change the store. -/
theorem AuthenticationOutcome.quiet {result : Except RequestError (Option Bytes)}
    (ending : AuthenticationOutcome kind before result after) : Machine.Quiet before after := by
  have reads : Machine.Quiet before (before.advance before.store
      [.called .read kind.pendingVariable, .called .read kind.tagVariable]) :=
    Machine.Adds.advance before (by simp [Event.IsChange])
  have asks {tag : AuthTag} {pending : Value} {result : Except RequestError Bool}
      {asked : Machine Store}
      (asking : Attempt.outcome (Dialogue.challenge tag (some pending.data))
        (before.advance before.store
          [.called .read kind.pendingVariable, .called .read kind.tagVariable]) =
        (result, asked)) : Machine.Quiet before asked :=
    reads.trans (Dialogue.quiet_challenge asking)
  cases ending with
  | unreadable => exact Machine.Adds.advance before (by simp [Event.IsChange])
  | absent => exact Machine.Adds.advance before (by simp [Event.IsChange])
  | tagUnreadable => exact reads
  | tagUnusable => exact Machine.Adds.advance before (by simp [Event.IsChange])
  | unanswered _ _ _ asking => exact asks asking
  | refused _ _ _ asking => exact asks asking
  | authenticated _ _ _ asking =>
      exact (asks asking).trans (Machine.Adds.advance _ (by simp [Event.IsChange]))

/-- An authentication that does not fail has read the pending list. -/
theorem AuthenticationOutcome.exists_read {prior : Option Bytes}
    (ending : AuthenticationOutcome kind before (.ok prior) after) :
    ∃ found, VariableStore.read before.store kind.pendingVariable = .ok found ∧
      prior = found.map (·.data) := by
  cases ending with
  | absent reading => exact ⟨none, reading, rfl⟩
  | authenticated reading => exact ⟨some _, reading, rfl⟩

/-- Looking at the store and authenticating the operator leaves the store as it was. -/
theorem AuthenticationOutcome.store_eq_of_looks {looked : Machine Store} {events : List Event}
    {prior : Except RequestError (Option Bytes)} (looks : Machine.Looks before looked)
    (ending : AuthenticationOutcome kind (looked.advance looked.store events) prior after) :
    after.store = before.store := by
  have sameStore := ending.quiet.store_eq
  rwa [Machine.store_advance, looks.store_eq] at sameStore

theorem AuthenticationOutcome.exists_read_of_looks {looked : Machine Store} {events : List Event}
    {prior : Option Bytes} (looks : Machine.Looks before looked)
    (ending : AuthenticationOutcome kind (looked.advance looked.store events) (.ok prior) after) :
    ∃ found, VariableStore.read before.store kind.pendingVariable = .ok found ∧
      prior = found.map (·.data) := by
  rcases ending.exists_read with ⟨found, readable, same⟩
  rw [Machine.store_advance, looks.store_eq] at readable
  exact ⟨found, readable, same⟩

/-- An authentication that does not fail has taken some of the answers, from the first on. -/
theorem AuthenticationOutcome.suffix_answers {prior : Option Bytes}
    (ending : AuthenticationOutcome kind before (.ok prior) after) :
    after.answers <:+ before.answers := by
  cases ending with
  | absent => exact List.suffix_rfl
  | authenticated _ _ _ asking =>
      rcases Dialogue.answers_of_challengeWithin asking with ⟨refused, line, _, answers, _⟩
      exact ⟨(refused ++ [line]).map Answer.line, answers.symm⟩

/-- Where no request is pending, nobody is challenged. -/
theorem AuthenticationOutcome.of_absent {result : Except RequestError (Option Bytes)}
    (ending : AuthenticationOutcome kind before result after)
    (absent : VariableStore.read before.store kind.pendingVariable = .ok none) :
    result = .ok none ∧ after.answers = before.answers ∧ after.store = before.store := by
  cases ending with
  | absent => exact ⟨rfl, rfl, rfl⟩
  | unreadable reading => cases absent.symm.trans reading
  | tagUnreadable reading => cases absent.symm.trans reading
  | tagUnusable reading => cases absent.symm.trans reading
  | unanswered reading => cases absent.symm.trans reading
  | refused reading => cases absent.symm.trans reading
  | authenticated reading => cases absent.symm.trans reading

/-- An operator who answers the challenge of a pending request is authenticated, and no further
answer is taken. -/
theorem AuthenticationOutcome.of_answered {pending stored : Value} {tag : AuthTag}
    {given later : List Answer} {result : Except RequestError (Option Bytes)}
    (ending : AuthenticationOutcome kind before result after)
    (reading : VariableStore.read before.store kind.pendingVariable = .ok (some pending))
    (tagReading : VariableStore.read before.store kind.tagVariable = .ok (some stored))
    (usable : AuthTag.ofBytes? stored.data = some tag)
    (answered : Dialogue.Answered given tag (some pending.data))
    (answers : before.answers = given ++ later) :
    result = .ok (some pending.data) ∧ after.answers = later := by
  -- Whatever is challenged is the pending list with its tag, and the operator knows the password.
  have passes {read tagRead : Value} {found : AuthTag} {answer : Except RequestError Bool}
      {asked : Machine Store}
      (isRead : VariableStore.read before.store kind.pendingVariable = .ok (some read))
      (isTagRead : VariableStore.read before.store kind.tagVariable = .ok (some tagRead))
      (isFound : AuthTag.ofBytes? tagRead.data = some found)
      (asking : Attempt.outcome (Dialogue.challenge found (some read.data))
        (before.advance before.store
          [.called .read kind.pendingVariable, .called .read kind.tagVariable]) =
        (answer, asked)) : read = pending ∧ answer = .ok true ∧ asked.answers = later := by
    cases reading.symm.trans isRead
    cases tagReading.symm.trans isTagRead
    cases usable.symm.trans isFound
    rcases Dialogue.challenge_succeeds answered
      ((Machine.answers_advance ..).trans answers) with ⟨passed, met, left⟩
    cases met.symm.trans asking
    exact ⟨rfl, rfl, left⟩
  cases ending with
  | unreadable unread => cases reading.symm.trans unread
  | absent unread => cases reading.symm.trans unread
  | tagUnreadable _ unread => cases tagReading.symm.trans unread
  | tagUnusable _ unread unusable =>
      cases tagReading.symm.trans unread
      rw [Option.bind_some, usable] at unusable
      cases unusable
  | unanswered read tagRead found asking =>
      rcases passes read tagRead found asking with ⟨_, failed, _⟩
      cases failed
  | refused read tagRead found asking =>
      rcases passes read tagRead found asking with ⟨_, failed, _⟩
      cases failed
  | authenticated read tagRead found asking =>
      rcases passes read tagRead found asking with ⟨rfl, _, left⟩
      exact ⟨rfl, left⟩

end OwnerKeys.Staging
