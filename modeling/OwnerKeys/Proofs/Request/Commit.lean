import OwnerKeys.Proofs.Request.Dialogue
import OwnerKeys.Request.Staging

/-!
# How committing can end

Committing a list stores it, and stores the tag that it has under a new password. A relation lists
the ways in which that can end, with the result and with the machine that is left behind: the list
and the tag can be refused by the store, and a list whose tag was refused is removed again, if that
is possible.
-/

namespace OwnerKeys.Staging

variable {Store : Type} [VariableStore Store]

/-- The call that stores the list of a request, or removes it if the request has none. -/
def listCall (kind : RequestKind) : Option Bytes → Event
  | some _ => .called .write kind.pendingVariable
  | none => .called .delete kind.pendingVariable

/-- The store after that call. -/
def withList (kind : RequestKind) (list : Option Bytes) (store : Store) :
    Except RequestError Store :=
  match list with
  | some bytes =>
    (VariableStore.write store kind.pendingVariable ⟨.standard, bytes⟩).mapError
      (.write kind.pendingVariable)
  | none =>
    ((VariableStore.delete store kind.pendingVariable).map (·.2)).mapError
      (.delete kind.pendingVariable)

theorem withList_some_eq_ok_iff {kind : RequestKind} {bytes : Bytes} {store listed : Store} :
    withList kind (some bytes) store = .ok listed ↔
      VariableStore.write store kind.pendingVariable ⟨.standard, bytes⟩ = .ok listed := by
  cases written : VariableStore.write store kind.pendingVariable ⟨.standard, bytes⟩ with
  | error error => simp [withList, written, Except.mapError]
  | ok after => simp [withList, written, Except.mapError]

theorem withList_none_eq_ok_iff {kind : RequestKind} {store listed : Store} :
    withList kind none store = .ok listed ↔
      ∃ found, VariableStore.delete store kind.pendingVariable = .ok (found, listed) := by
  cases deleted : VariableStore.delete store kind.pendingVariable with
  | error error => simp [withList, deleted, Except.mapError, Except.map]
  | ok result =>
      rcases result with ⟨found, after⟩
      simp [withList, deleted, Except.mapError, Except.map]

/-- The ways in which signing and committing a list can end. -/
inductive CommitOutcome (kind : RequestKind) (list : Option Bytes) (before : Machine Store) :
    Except RequestError Unit → Machine Store → Prop where
  /-- The operator gives no new password. -/
  | unanswered {error : RequestError} {asked : Machine Store}
      (asking : Attempt.outcome Dialogue.newPassword before = (.error error, asked)) :
      CommitOutcome kind list before (.error error) asked
  /-- The list is not stored. -/
  | listRefused {password : Password} {asked : Machine Store} {error : RequestError}
      (asking : Attempt.outcome Dialogue.newPassword before = (.ok password, asked))
      (listing : withList kind list asked.store = .error error) :
      CommitOutcome kind list before (.error error)
        (asked.advance asked.store [.entered .signed, listCall kind list])
  /-- The tag is not stored, and the list is removed again. -/
  | rolledBack {password : Password} {asked : Machine Store} {listed removed : Store}
      {error : StoreError} {found : Bool}
      (asking : Attempt.outcome Dialogue.newPassword before = (.ok password, asked))
      (listing : withList kind list asked.store = .ok listed)
      (tagging : VariableStore.write listed kind.tagVariable
        ⟨.standard, (AuthTag.derive list password).toBytes⟩ = .error error)
      (removal : VariableStore.delete listed kind.pendingVariable = .ok (found, removed)) :
      CommitOutcome kind list before (.error (.write kind.tagVariable error))
        (asked.advance removed
          [.entered .signed, listCall kind list, .called .write kind.tagVariable,
            .called .delete kind.pendingVariable])
  /-- The tag is not stored, and the list cannot be removed. -/
  | leftBehind {password : Password} {asked : Machine Store} {listed : Store}
      {error failure : StoreError}
      (asking : Attempt.outcome Dialogue.newPassword before = (.ok password, asked))
      (listing : withList kind list asked.store = .ok listed)
      (tagging : VariableStore.write listed kind.tagVariable
        ⟨.standard, (AuthTag.derive list password).toBytes⟩ = .error error)
      (removal : VariableStore.delete listed kind.pendingVariable = .error failure) :
      CommitOutcome kind list before (.error (.write kind.tagVariable error))
        (asked.advance listed
          [.entered .signed, listCall kind list, .called .write kind.tagVariable,
            .called .delete kind.pendingVariable, .noted (.rollbackFailed kind.pendingVariable)])
  /-- The list and its tag are stored. -/
  | committed {password : Password} {asked : Machine Store} {listed tagged : Store}
      (asking : Attempt.outcome Dialogue.newPassword before = (.ok password, asked))
      (listing : withList kind list asked.store = .ok listed)
      (tagging : VariableStore.write listed kind.tagVariable
        ⟨.standard, (AuthTag.derive list password).toBytes⟩ = .ok tagged) :
      CommitOutcome kind list before (.ok ())
        (asked.advance tagged
          [.entered .signed, listCall kind list, .called .write kind.tagVariable,
            .entered .committed,
            .noted (.requestStaged kind.pendingVariable ((list.map List.length).getD 0))])

theorem outcome_storeList (kind : RequestKind) (list : Option Bytes) (machine : Machine Store) :
    Attempt.outcome (storeList kind list) machine =
      match withList kind list machine.store with
      | .ok listed => (.ok (), machine.advance listed [listCall kind list])
      | .error error => (.error error, machine.advance machine.store [listCall kind list]) := by
  cases list with
  | some bytes =>
      simp only [storeList, withList, listCall, Attempt.outcome_perform_bind,
        Action.outcome_writeVariable]
      cases VariableStore.write machine.store kind.pendingVariable ⟨.standard, bytes⟩ with
      | ok listed => rfl
      | error error => rfl
  | none =>
      simp only [storeList, withList, listCall, Attempt.outcome_perform_bind,
        Action.outcome_deleteVariable]
      cases VariableStore.delete machine.store kind.pendingVariable with
      | ok result => rfl
      | error error => rfl

theorem outcome_storeTag (kind : RequestKind) (tag : AuthTag) (machine : Machine Store) :
    Attempt.outcome (storeTag kind tag) machine =
      match VariableStore.write machine.store kind.tagVariable ⟨.standard, tag.toBytes⟩ with
      | .ok tagged => (.ok (), machine.advance tagged [.called .write kind.tagVariable])
      | .error error =>
        (.error (.write kind.tagVariable error),
          match VariableStore.delete machine.store kind.pendingVariable with
          | .ok (_, removed) => machine.advance removed
              [.called .write kind.tagVariable, .called .delete kind.pendingVariable]
          | .error _ => machine.advance machine.store
              [.called .write kind.tagVariable, .called .delete kind.pendingVariable,
                .noted (.rollbackFailed kind.pendingVariable)]) := by
  simp only [storeTag, Attempt.outcome_perform_bind, Action.outcome_writeVariable]
  cases VariableStore.write machine.store kind.tagVariable ⟨.standard, tag.toBytes⟩ with
  | ok tagged => rfl
  | error error =>
      simp only [Attempt.outcome_perform_bind, Action.outcome_deleteVariable,
        Machine.store_advance]
      cases VariableStore.delete machine.store kind.pendingVariable with
      | ok result => simp
      | error failure => simp

/-- Committing ends in one of these ways. -/
theorem commitOutcome (kind : RequestKind) (list : Option Bytes) (before : Machine Store) :
    CommitOutcome kind list before
      (Attempt.outcome (signAndCommit kind list) before).1
      (Attempt.outcome (signAndCommit kind list) before).2 := by
  unfold signAndCommit
  rcases asking : Attempt.outcome Dialogue.newPassword before with ⟨error | password, asked⟩
  · rw [Attempt.outcome_bind_error asking]
    exact .unanswered asking
  · rw [Attempt.outcome_bind_ok asking]
    simp only [enter, Attempt.outcome_perform_bind, Action.outcome_emit]
    have storing := outcome_storeList kind list (asked.advance asked.store [.entered .signed])
    cases listing : withList kind list asked.store with
    | error error =>
        simp only [listing, Machine.store_advance, Machine.advance_advance, List.cons_append,
          List.nil_append] at storing
        rw [Attempt.outcome_bind_error storing]
        exact .listRefused asking listing
    | ok listed =>
        simp only [listing, Machine.store_advance, Machine.advance_advance, List.cons_append,
          List.nil_append] at storing
        rw [Attempt.outcome_bind_ok storing]
        have signing := outcome_storeTag kind (AuthTag.derive list password)
          (asked.advance listed [.entered .signed, listCall kind list])
        cases tagging : VariableStore.write listed kind.tagVariable
          ⟨.standard, (AuthTag.derive list password).toBytes⟩ with
        | ok tagged =>
            simp only [tagging, Machine.store_advance, Machine.advance_advance, List.cons_append,
              List.nil_append] at signing
            rw [Attempt.outcome_bind_ok signing]
            simp only [Attempt.outcome_perform_bind, Attempt.outcome_perform, Action.outcome_emit,
              Action.outcome_note, Machine.store_advance, Machine.advance_advance,
              List.cons_append, List.nil_append]
            exact .committed asking listing tagging
        | error error =>
            cases removal : VariableStore.delete listed kind.pendingVariable with
            | ok result =>
                simp only [tagging, removal, Machine.store_advance, Machine.advance_advance,
                  List.cons_append, List.nil_append] at signing
                rw [Attempt.outcome_bind_error signing]
                exact .rolledBack asking listing tagging removal
            | error failure =>
                simp only [tagging, removal, Machine.store_advance, Machine.advance_advance,
                  List.cons_append, List.nil_append] at signing
                rw [Attempt.outcome_bind_error signing]
                exact .leftBehind asking listing tagging removal

variable {kind : RequestKind} {before after : Machine Store}

/-- A committed list was written, and after it the tag. -/
theorem CommitOutcome.exists_writes {bytes : Bytes}
    (ending : CommitOutcome kind (some bytes) before (.ok ()) after) :
    ∃ listed tag,
      VariableStore.write before.store kind.pendingVariable ⟨.standard, bytes⟩ = .ok listed ∧
        VariableStore.write listed kind.tagVariable tag = .ok after.store := by
  cases ending with
  | committed asking listing tagging =>
      rw [withList_some_eq_ok_iff, (Dialogue.quiet_newPassword asking).store_eq] at listing
      exact ⟨_, _, listing, tagging⟩

/-- Committing asks for the new password before it calls the store. -/
theorem CommitOutcome.asksFirst {list : Option Bytes} {result : Except RequestError Unit}
    (ending : CommitOutcome kind list before result after) : Machine.AsksFirst before after := by
  have listing (prompt : Prompt) : listCall kind list ≠ .prompted prompt := by
    cases list <;> simp [listCall]
  cases ending with
  | unanswered asking => exact .of_quiet (Dialogue.quiet_newPassword asking)
  | listRefused asking =>
      exact .advance (Dialogue.quiet_newPassword asking) _ (by simp [Event.IsPrompt, listing])
  | rolledBack asking =>
      exact .advance (Dialogue.quiet_newPassword asking) _ (by simp [Event.IsPrompt, listing])
  | leftBehind asking =>
      exact .advance (Dialogue.quiet_newPassword asking) _ (by simp [Event.IsPrompt, listing])
  | committed asking =>
      exact .advance (Dialogue.quiet_newPassword asking) _ (by simp [Event.IsPrompt, listing])

end OwnerKeys.Staging
