import OwnerKeys.Proofs.Request.Order
import OwnerKeys.Proofs.Request.Services
import OwnerKeys.Proofs.Store.Recorded

/-!
# Pending lists stay in order

Issuing, resetting and revoking change the store step by step, whatever fails on the way, and so
does a whole session. What holds before and after every step is said of a recorded store: from a
store without pending requests on, both pending lists are in order in everything that the store has
been.

Only reads must not fail. A trusted list that cannot be read counts as empty, and then a key of it
may be staged.
-/

namespace OwnerKeys

namespace Staging

section

variable {Store : Type} [VariableStore Store] {kind : RequestKind} {before after : Machine Store}

theorem step_of_withList {list : Option Bytes} {store listed : Store}
    (sound : ∀ bytes, list = some bytes → Sound kind store bytes)
    (listing : withList kind list store = .ok listed) : Step kind store listed := by
  cases list with
  | some bytes => exact .listed (sound bytes rfl) (withList_some_eq_ok_iff.mp listing)
  | none =>
      unfold withList at listing
      rcases deleted : VariableStore.delete store kind.pendingVariable with
        error | ⟨found, removed⟩
      · simp [deleted, Except.map, Except.mapError] at listing
      · simp only [deleted, Except.map, Except.mapError, Except.ok.injEq] at listing
        subst listing
        exact .unlisted deleted

/-- However committing ends, it has stored a list that may be stored, and perhaps removed it. -/
theorem CommitOutcome.steps {list : Option Bytes} {result : Except RequestError Unit}
    (ending : CommitOutcome kind list before result after)
    (sound : ∀ bytes, list = some bytes → Sound kind before.store bytes) :
    Steps kind before.store after.store := by
  cases ending with
  | unanswered asking =>
      rw [(Dialogue.quiet_newPassword asking).store_eq]
  | listRefused asking listing =>
      rw [Machine.store_advance, (Dialogue.quiet_newPassword asking).store_eq]
  | rolledBack asking listing tagging removal =>
      rw [(Dialogue.quiet_newPassword asking).store_eq] at listing
      exact .tail (.single (step_of_withList sound listing)) (.unlisted removal)
  | leftBehind asking listing tagging removal =>
      rw [(Dialogue.quiet_newPassword asking).store_eq] at listing
      exact .single (step_of_withList sound listing)
  | committed asking listing tagging =>
      rw [(Dialogue.quiet_newPassword asking).store_eq] at listing
      exact .tail (.single (step_of_withList sound listing)) (.tagged tagging)

theorem IssueOutcome.steps {candidates : List Candidate}
    {result : Except RequestError RequestReport}
    (ending : IssueOutcome kind candidates before result after)
    (inOrder : InOrder before.store kind) : Steps kind before.store after.store := by
  have commits {accepted : List Candidate} {skipped : List String}
      {looked authenticated stopped : Machine Store} {prior : Option Bytes} {list : Bytes}
      {committed : Except RequestError Unit}
      (assessing : Action.outcome (assess kind [] [] candidates) before =
        ((accepted, skipped), looked))
      (authenticating : AuthenticationOutcome kind
        (looked.advance looked.store [.entered .candidatesValidated]) (.ok prior) authenticated)
      (merging : mergedList accepted prior = .ok list)
      (committing : CommitOutcome kind (some list)
        (authenticated.advance authenticated.store [.entered .merged]) committed stopped) :
      Steps kind before.store stopped.store := by
    have looks := looks_of_assess assessing
    have sameStore := authenticating.store_eq_of_looks looks
    rcases authenticating.exists_read_of_looks looks with ⟨found, readable, rfl⟩
    have sound := sound_merged inOrder (sifted_of_assess assessing) readable merging
    have steps := committing.steps fun bytes isList => by
      cases isList
      rwa [Machine.store_advance, sameStore]
    rwa [Machine.store_advance, sameStore] at steps
  cases ending with
  | nothingEligible assessing =>
      rw [Machine.store_advance, (looks_of_assess assessing).store_eq]
  | notAuthenticated assessing _ authenticating =>
      rw [authenticating.store_eq_of_looks (looks_of_assess assessing)]
  | notEncoded assessing _ authenticating _ =>
      rw [authenticating.store_eq_of_looks (looks_of_assess assessing)]
  | notCommitted assessing _ authenticating merging committing =>
      exact commits assessing authenticating merging committing
  | committed assessing _ authenticating merging committing =>
      exact commits assessing authenticating merging committing

theorem RevokeOutcome.steps {result : Except RequestError Bool}
    (ending : RevokeOutcome kind before result after) : Steps kind before.store after.store := by
  cases ending with
  | listKept _ => exact .refl
  | tagKept removal _ => exact .single (.unlisted removal)
  | revoked removal tagRemoval => exact .tail (.single (.unlisted removal)) (.untagged tagRemoval)

/-- An operation changes the store step by step, if the pending lists are in order. -/
theorem steps_of_operation (operation : Operation)
    (inOrder : ∀ kind, InOrder before.store kind) :
    Steps operation.kind before.store (operation.attempt.outcome before).2.store := by
  cases operation with
  | issue kind candidates =>
      have ending := issueOutcome kind candidates before
      simp only [Operation.attempt, Attempt.outcome_map, issue, outcome_abortOnFailure]
      rw [(quiet_abortedOn _ _).store_eq]
      exact ending.steps (inOrder kind)
  | reset kind =>
      have ending := commitOutcome kind none (before.advance before.store [.entered .merged])
      simp only [Operation.attempt, Attempt.outcome_map, outcome_reset]
      rw [(quiet_abortedOn _ _).store_eq]
      exact ending.steps (by simp)
  | revoke kind =>
      simp only [Operation.attempt, Attempt.outcome_map]
      exact (revokeOutcome kind before).steps

end

end Staging

variable {Store : Type} [VariableStore Store]

namespace Recorded

open Staging

/-- In everything that a store has been the pending lists were in order, and the lists of trusted
keys were those that they were at first. -/
def AlwaysInOrder (first : Store) (recorded : Recorded Store) : Prop :=
  ∀ stage ∈ recorded.stages, (∀ kind, InOrder stage kind) ∧
    ∀ var ∈ Query.settledLists, VariableStore.read stage var = VariableStore.read first var

variable {first : Store} {kind : RequestKind} {before after : Faulty (Recorded Store)}

/-- A step on a store of which no read fails is a step of the store that is recorded. -/
theorem exists_step (step : Step kind before after)
    (readsPass : ∀ var, before.fault? .read var = none) :
    ∃ store, Step kind before.inner.current store ∧ after.inner = before.inner.next store ∧
      after.faults = before.faults := by
  cases step with
  | listed sound written =>
      rcases Faulty.write_eq_ok_iff.mp written with ⟨_, innerWritten, sameFaults⟩
      rcases write_eq_ok_iff.mp innerWritten with ⟨store, currentWritten, recorded⟩
      have soundCurrent : Sound kind before.inner.current _ :=
        sound.congr fun var _ => Faulty.read_eq_inner (readsPass var)
      exact ⟨store, .listed soundCurrent currentWritten, recorded, sameFaults⟩
  | unlisted deleted =>
      rcases Faulty.delete_eq_ok_iff.mp deleted with ⟨_, innerDeleted, sameFaults⟩
      rcases delete_eq_ok_iff.mp innerDeleted with ⟨store, currentDeleted, recorded⟩
      exact ⟨store, .unlisted currentDeleted, recorded, sameFaults⟩
  | tagged written =>
      rcases Faulty.write_eq_ok_iff.mp written with ⟨_, innerWritten, sameFaults⟩
      rcases write_eq_ok_iff.mp innerWritten with ⟨store, currentWritten, recorded⟩
      exact ⟨store, .tagged currentWritten, recorded, sameFaults⟩
  | untagged deleted =>
      rcases Faulty.delete_eq_ok_iff.mp deleted with ⟨_, innerDeleted, sameFaults⟩
      rcases delete_eq_ok_iff.mp innerDeleted with ⟨store, currentDeleted, recorded⟩
      exact ⟨store, .untagged currentDeleted, recorded, sameFaults⟩

variable [LawfulStore Store]

theorem AlwaysInOrder.step (always : AlwaysInOrder first before.inner)
    (readsPass : ∀ var, before.fault? .read var = none) (step : Step kind before after) :
    AlwaysInOrder first after.inner ∧ ∀ var, after.fault? .read var = none := by
  rcases exists_step step readsPass with ⟨store, currentStep, recorded, sameFaults⟩
  rcases always before.inner.current before.inner.current_mem_stages with ⟨inOrder, settled⟩
  constructor
  · intro stage mem
    rw [recorded, stages_next, List.mem_append, List.mem_singleton] at mem
    rcases mem with earlier | rfl
    · exact always stage earlier
    · refine ⟨currentStep.inOrder inOrder, fun var inSettled => ?_⟩
      rw [currentStep.read_settled inSettled, settled var inSettled]
  · intro var
    rw [Faulty.fault?_congr sameFaults]
    exact readsPass var

theorem AlwaysInOrder.steps (always : AlwaysInOrder first before.inner)
    (readsPass : ∀ var, before.fault? .read var = none) (steps : Steps kind before after) :
    AlwaysInOrder first after.inner ∧ ∀ var, after.fault? .read var = none := by
  induction steps with
  | refl => exact ⟨always, readsPass⟩
  | tail _ step ih => exact ih.1.step ih.2 step

end Recorded

open Staging Recorded

/-- Nothing is made to fail during a call but writing and deleting. -/
def Call.ReadsPass (call : Call) : Prop :=
  ∀ fault ∈ call.faults, fault.operation ≠ .read

theorem Call.current_after (call : Call) (recorded : Recorded Store) :
    (call.after recorded).current = call.after recorded.current := by
  have inStep : Machine.InStep Records (call.start recorded) (call.start recorded.current) :=
    ⟨⟨rfl, rfl⟩, rfl, rfl⟩
  have inUse : ∀ var ∈ call.operation.touched, True := fun _ _ => True.intro
  exact (call.operation.agrees Recorded.simulation inUse inStep).2.stores.1

theorem current_afterSession (recorded : Recorded Store) (calls : List Call) :
    (afterSession recorded calls).current = afterSession recorded.current calls := by
  induction calls generalizing recorded with
  | nil => rfl
  | cons call later ih =>
      change (afterSession (call.after recorded) later).current =
        afterSession (call.after recorded.current) later
      rw [ih, call.current_after]

variable [LawfulStore Store] {first : Store} {recorded : Recorded Store}

/-- Every call keeps the pending lists in order all the way. -/
theorem Call.alwaysInOrder_after {call : Call} (readsPass : call.ReadsPass)
    (always : AlwaysInOrder first recorded) : AlwaysInOrder first (call.after recorded) := by
  have noFault : ∀ var, (call.start recorded).store.fault? .read var = none := by
    intro var
    by_contra fails
    rcases Faulty.fault?_ne_none_iff.mp fails with ⟨fault, mem, isRead, _⟩
    exact readsPass fault mem isRead
  have inOrder : ∀ kind, InOrder (call.start recorded).store kind := by
    intro kind
    have current := (always recorded.current recorded.current_mem_stages).1 kind
    exact current.congr (Faulty.read_eq_inner (noFault _)).symm
      fun var _ => (Faulty.read_eq_inner (noFault var)).symm
  have steps := steps_of_operation call.operation inOrder
  exact (AlwaysInOrder.steps always noFault steps).1

theorem alwaysInOrder_afterSession {calls : List Call} (readsPass : ∀ call ∈ calls, call.ReadsPass)
    (always : AlwaysInOrder first recorded) :
    AlwaysInOrder first (afterSession recorded calls) := by
  induction calls generalizing recorded with
  | nil => exact always
  | cons call later ih =>
      apply ih
      · exact fun next mem => readsPass next (List.mem_cons_of_mem call mem)
      · exact Call.alwaysInOrder_after (readsPass call List.mem_cons_self) always

/-- From a store without pending requests on, whose lists of trusted keys can be read, no session in
which reads do not fail brings a pending list out of order, not even for a while. -/
theorem pending_inOrder_throughout {store : Store} {calls : List Call}
    (absent : ∀ kind : RequestKind, VariableStore.read store kind.pendingVariable = .ok none)
    (readable : ∀ var ∈ Query.settledLists, ∃ found, VariableStore.read store var = .ok found)
    (readsPass : ∀ call ∈ calls, call.ReadsPass) :
    let recorded := afterSession (Recorded.start store) calls
    recorded.current = afterSession store calls ∧
      ∀ stage ∈ recorded.stages, (∀ kind, InOrder stage kind) ∧
        ∀ var ∈ Query.settledLists, ∃ found, VariableStore.read stage var = .ok found := by
  intro recorded
  have always : AlwaysInOrder store (Recorded.start store) := by
    intro stage mem
    obtain rfl : stage = store := by simpa [Recorded.start, Recorded.stages] using mem
    exact ⟨fun kind => inOrder_of_absent (absent kind), fun _ _ => rfl⟩
  refine ⟨current_afterSession _ calls, fun stage mem => ?_⟩
  rcases alwaysInOrder_afterSession readsPass always stage mem with ⟨inOrder, settled⟩
  refine ⟨inOrder, fun var inSettled => ?_⟩
  rw [settled var inSettled]
  exact readable var inSettled

/-- A memory in which one key is enrolled. -/
def enrolledMemory : Memory :=
  Memory.empty.insert .enrolledKeys
    ⟨.standard, (SignatureList.x509 Variable.shimVendor [1]).toRecord.toBytes⟩

/-- A key is staged that occurs twice in its batch, beside one that is enrolled already; the
enrolled one is staged for deletion, but the tag can neither be written nor the list removed. -/
def brokenSession : List Call :=
  [⟨.issue .enroll [⟨"enrolled", [1]⟩, ⟨"new", [2]⟩, ⟨"again", [2]⟩],
      [.line "password", .line "password"], []⟩,
    ⟨.issue .delete [⟨"enrolled", [1]⟩, ⟨"unknown", [3]⟩],
      [.line "password", .line "password"],
      [⟨.write, .deletionTag, "no space"⟩, ⟨.delete, .pendingDeletion, "locked"⟩]⟩]

/-- The session leaves one key in each pending list, and the lists were in order all the way. -/
theorem pending_inOrder_throughout_brokenSession :
    (∀ kind : RequestKind, VariableStore.read enrolledMemory kind.pendingVariable = .ok none) ∧
      (∀ var ∈ Query.settledLists,
        ∃ found, VariableStore.read enrolledMemory var = .ok found) ∧
      (∀ call ∈ brokenSession, call.ReadsPass) ∧
      Query.keysIn (afterSession enrolledMemory brokenSession) .pendingEnrollment = [[2]] ∧
      Query.keysIn (afterSession enrolledMemory brokenSession) .pendingDeletion = [[1]] ∧
      ∀ stage ∈ (afterSession (Recorded.start enrolledMemory) brokenSession).stages,
        ∀ kind, InOrder stage kind := by
  have absent : ∀ kind : RequestKind,
      VariableStore.read enrolledMemory kind.pendingVariable = .ok none := by
    rintro (_ | _)
    · rfl
    · rfl
  have readable : ∀ var ∈ Query.settledLists,
      ∃ found, VariableStore.read enrolledMemory var = .ok found :=
    fun var _ => ⟨_, Memory.read_eq enrolledMemory var⟩
  have readsPass : ∀ call ∈ brokenSession, call.ReadsPass := by
    simp [brokenSession, Call.ReadsPass]
  refine ⟨absent, readable, readsPass, by decide +kernel, by decide +kernel, ?_⟩
  intro stage mem
  exact ((pending_inOrder_throughout absent readable readsPass).2 stage mem).1

end OwnerKeys
