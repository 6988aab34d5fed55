import OwnerKeys.Proofs.Request.Footprint
import OwnerKeys.Proofs.Request.Merging
import OwnerKeys.Proofs.Request.Session
import OwnerKeys.Proofs.Store.Restoring

/-!
# What revoking takes back

Revoking deletes the list first and the tag after it, so a failure between the two leaves a tag
without a list and never a list without a tag. When it succeeds there is nothing left to revoke, and
since requests change nothing but their list and their tag, a store in which there was neither is
back after any requests that are revoked in the end.
-/

namespace OwnerKeys

namespace Faulty

variable {Store : Type} [VariableStore Store]

/-- Changes that succeed are made on the store behind, and what is made to fail stays. -/
theorem applyAll_inner {store after : Faulty Store} {changes : List Change}
    (changed : Change.applyAll store changes = .ok after) :
    Change.applyAll store.inner changes = .ok after.inner ∧ after.faults = store.faults := by
  induction changes generalizing store with
  | nil =>
      rw [Change.applyAll_nil_eq_ok_iff.mp changed]
      exact ⟨Change.applyAll_nil_eq_ok_iff.mpr rfl, rfl⟩
  | cons change later ih =>
      rcases Change.applyAll_cons_eq_ok_iff.mp changed with ⟨middle, first, rest⟩
      rcases apply_eq_ok_iff.mp first with ⟨_, innerFirst, sameFaults⟩
      rcases ih rest with ⟨innerRest, sameFaultsAfter⟩
      exact ⟨Change.applyAll_cons_eq_ok_iff.mpr ⟨_, innerFirst, innerRest⟩,
        sameFaultsAfter.trans sameFaults⟩

end Faulty

namespace Staging

variable {Store : Type} [VariableStore Store]

/-- What revoking comes to, on a store of which any operations may be made to fail. -/
structure Revokes (kind : RequestKind) (before : Machine (Faulty Store))
    (ran : Except RequestError Bool × Machine (Faulty Store)) : Prop where
  /-- When it succeeds there is neither a list nor a tag. -/
  absent : ∀ found, ran.1 = .ok found →
    VariableStore.read ran.2.store.inner kind.pendingVariable = .ok none ∧
      VariableStore.read ran.2.store.inner kind.tagVariable = .ok none
  /-- It is told whether there was any of them. -/
  found_iff : ∀ found, ran.1 = .ok found →
    (found = true ↔ VariableStore.read before.store.inner kind.pendingVariable ≠ .ok none ∨
      VariableStore.read before.store.inner kind.tagVariable ≠ .ok none)
  /-- When it is done again there is nothing left to do. -/
  again : ∀ found, ran.1 = .ok found → ∀ next : Machine (Faulty Store),
    next.store = ran.2.store →
    (Attempt.outcome (revoke kind) next).1 = .ok false ∧
      (Attempt.outcome (revoke kind) next).2.store = next.store
  /-- When it fails the tag is still there, and so is everything else unless the list is gone. -/
  failed : ∀ error, ran.1 = .error error →
    VariableStore.read ran.2.store.inner kind.tagVariable =
        VariableStore.read before.store.inner kind.tagVariable ∧
      ((∃ cause, error = .delete kind.pendingVariable cause ∧ ran.2.store = before.store) ∨
        ∃ cause, error = .delete kind.tagVariable cause ∧
          VariableStore.read ran.2.store.inner kind.pendingVariable = .ok none)
  /-- All other variables are as before. -/
  others : ∀ var, VariableStore.Apart Store kind.pendingVariable var →
    VariableStore.Apart Store kind.tagVariable var →
    VariableStore.read ran.2.store.inner var = VariableStore.read before.store.inner var

section Deleting

variable {kind : RequestKind}

/-- Where neither can be found, revoking finds neither. -/
theorem outcome_revoke_of_nothing {machine : Machine Store}
    (noList : VariableStore.delete machine.store kind.pendingVariable = .ok (false, machine.store))
    (noTag : VariableStore.delete machine.store kind.tagVariable = .ok (false, machine.store)) :
    (Attempt.outcome (revoke kind) machine).1 = .ok false ∧
      (Attempt.outcome (revoke kind) machine).2.store = machine.store := by
  have ending := revokeOutcome kind machine
  generalize Attempt.outcome (revoke kind) machine = ran at ending ⊢
  rcases ran with ⟨result, after⟩
  cases ending with
  | listKept removal => cases removal.symm.trans noList
  | tagKept removal tagRemoval =>
      cases removal.symm.trans noList
      cases tagRemoval.symm.trans noTag
  | revoked removal tagRemoval =>
      cases removal.symm.trans noList
      cases tagRemoval.symm.trans noTag
      exact ⟨rfl, rfl⟩

/-- Whatever becomes of a revocation, it only changes the list and the tag. -/
theorem read_revoke_of_apart (before : Machine (Faulty Store)) {var : Variable}
    (listApart : VariableStore.Apart Store kind.pendingVariable var)
    (tagApart : VariableStore.Apart Store kind.tagVariable var) :
    VariableStore.read (Attempt.outcome (revoke kind) before).2.store.inner var =
      VariableStore.read before.store.inner var := by
  rcases (within_revoke kind before).exists_changes with ⟨changes, inFootprint, changed⟩
  refine VariableStore.read_eq_of_applyAll (fun change mem => ?_)
    (Faulty.applyAll_inner changed).1
  have isEither : change.var = kind.pendingVariable ∨ change.var = kind.tagVariable := by
    simpa [RequestKind.footprint] using inFootprint change mem
  rcases isEither with isList | isTag
  · rwa [isList]
  · rwa [isTag]

variable [FaithfulStore Store] {removed cleared : Faulty Store} {foundList foundTag : Bool}

/-- What both deletions of a list and its tag leave behind them. -/
structure Cleared (kind : RequestKind) (before cleared : Faulty Store) (foundList foundTag : Bool) :
    Prop where
  read_pending : VariableStore.read cleared.inner kind.pendingVariable = .ok none
  read_tag : VariableStore.read cleared.inner kind.tagVariable = .ok none
  pending_iff : foundList = true ↔
    VariableStore.read before.inner kind.pendingVariable ≠ .ok none
  tag_iff : foundTag = true ↔ VariableStore.read before.inner kind.tagVariable ≠ .ok none
  delete_pending : VariableStore.delete cleared kind.pendingVariable = .ok (false, cleared)
  delete_tag : VariableStore.delete cleared kind.tagVariable = .ok (false, cleared)

theorem cleared_of_deletions {before : Faulty Store}
    (removal : VariableStore.delete before kind.pendingVariable = .ok (foundList, removed))
    (tagRemoval : VariableStore.delete removed kind.tagVariable = .ok (foundTag, cleared)) :
    Cleared kind before cleared foundList foundTag := by
  rcases Faulty.delete_eq_ok_iff.mp removal with ⟨noFault, innerRemoval, sameFaults⟩
  rcases Faulty.delete_eq_ok_iff.mp tagRemoval with ⟨noTagFault, innerTagRemoval, sameTagFaults⟩
  have listPlain := kind.isPlain_pendingVariable
  have tagPlain := kind.isPlain_tagVariable
  have noList : VariableStore.read cleared.inner kind.pendingVariable = .ok none := by
    rw [RequestKind.read_pending_of_untagged innerTagRemoval]
    exact TransparentStore.read_of_deleted listPlain innerRemoval
  have noTag : VariableStore.read cleared.inner kind.tagVariable = .ok none :=
    TransparentStore.read_of_deleted tagPlain innerTagRemoval
  refine ⟨noList, noTag, FaithfulStore.found_iff listPlain innerRemoval, ?_, ?_, ?_⟩
  · rw [FaithfulStore.found_iff tagPlain innerTagRemoval,
      RequestKind.read_tag_of_unlisted innerRemoval]
  · refine Faulty.delete_eq_ok_iff.mpr ⟨?_, FaithfulStore.delete_of_absent listPlain noList, rfl⟩
    rw [Faulty.fault?_congr (sameTagFaults.trans sameFaults), noFault]
  · refine Faulty.delete_eq_ok_iff.mpr ⟨?_, FaithfulStore.delete_of_absent tagPlain noTag, rfl⟩
    rw [Faulty.fault?_congr sameTagFaults, noTagFault]

theorem revokes (kind : RequestKind) (before : Machine (Faulty Store)) :
    Revokes kind before (Attempt.outcome (revoke kind) before) := by
  have others (var : Variable) (listApart : VariableStore.Apart Store kind.pendingVariable var)
      (tagApart : VariableStore.Apart Store kind.tagVariable var) :=
    read_revoke_of_apart before listApart tagApart
  have ending := revokeOutcome kind before
  generalize Attempt.outcome (revoke kind) before = ran at ending others ⊢
  rcases ran with ⟨result, after⟩
  cases ending with
  | listKept removal =>
      refine ⟨by simp, by simp, by simp, ?_, others⟩
      rintro _ ⟨⟩
      exact ⟨rfl, .inl ⟨_, rfl, rfl⟩⟩
  | tagKept removal tagRemoval =>
      have innerRemoval := (Faulty.delete_eq_ok_iff.mp removal).2.1
      refine ⟨by simp, by simp, by simp, ?_, others⟩
      rintro _ ⟨⟩
      refine ⟨RequestKind.read_tag_of_unlisted innerRemoval, .inr ⟨_, rfl, ?_⟩⟩
      exact TransparentStore.read_of_deleted kind.isPlain_pendingVariable innerRemoval
  | revoked removal tagRemoval =>
      have nothing := cleared_of_deletions removal tagRemoval
      refine ⟨?_, ?_, ?_, by simp, others⟩
      · rintro _ ⟨⟩
        exact ⟨nothing.read_pending, nothing.read_tag⟩
      · rintro _ ⟨⟩
        rw [Bool.or_eq_true, nothing.pending_iff, nothing.tag_iff]
      · rintro _ ⟨⟩ next sameStore
        apply outcome_revoke_of_nothing
        · rw [sameStore]
          exact nothing.delete_pending
        · rw [sameStore]
          exact nothing.delete_tag

end Deleting

end Staging

section Sessions

variable {Store : Type} [VariableStore Store]

/-- A call leads from one store to the other by changes of the list and the tag of its kind. -/
theorem Call.exists_changes (call : Call) (store : Store) :
    ∃ changes, (∀ change ∈ changes, Change.var change ∈ call.operation.kind.footprint) ∧
      Change.applyAll store changes = .ok (call.after store) := by
  rcases (call.operation.within (call.start store)).exists_changes with
    ⟨changes, inFootprint, changed⟩
  exact ⟨changes, inFootprint, (Faulty.applyAll_inner changed).1⟩

/-- So does a session about one kind. -/
theorem exists_changes_afterSession {kind : RequestKind} {calls : List Call}
    (ofKind : ∀ call ∈ calls, call.operation.kind = kind) (store : Store) :
    ∃ changes, (∀ change ∈ changes, Change.var change ∈ kind.footprint) ∧
      Change.applyAll store changes = .ok (afterSession store calls) := by
  induction calls generalizing store with
  | nil => exact ⟨[], by simp, Change.applyAll_nil_eq_ok_iff.mpr rfl⟩
  | cons call later ih =>
      rcases call.exists_changes store with ⟨changes, inFootprint, changed⟩
      rw [ofKind call List.mem_cons_self] at inFootprint
      rcases ih (fun other mem => ofKind other (List.mem_cons_of_mem _ mem)) (call.after store) with
        ⟨laterChanges, laterInFootprint, laterChanged⟩
      refine ⟨changes ++ laterChanges, fun change mem => ?_,
        Change.applyAll_append_eq_ok_iff.mpr ⟨_, changed, laterChanged⟩⟩
      rcases List.mem_append.mp mem with inChanges | inLater
      · exact inFootprint change inChanges
      · exact laterInFootprint change inLater

theorem Call.outcome_of_revoke {call : Call} {kind : RequestKind}
    (revoking : call.operation = .revoke kind) (store : Store) :
    call.outcome store =
      let ran := Attempt.outcome (Staging.revoke kind) (call.start store)
      (ran.1.map .revoked, ran.2) := by
  rw [outcome, revoking]
  exact Attempt.outcome_map _ _ _

/-- After a session about one kind that ends with a revocation, a store without a list and a tag is
the store that it was. -/
theorem after_revocation [FaithfulStore Store] {kind : RequestKind} {store : Store}
    {calls : List Call} {last : Call} {reply : Reply}
    (noList : VariableStore.read store kind.pendingVariable = .ok none)
    (noTag : VariableStore.read store kind.tagVariable = .ok none)
    (ofKind : ∀ call ∈ calls, call.operation.kind = kind)
    (revoking : last.operation = .revoke kind)
    (succeeded : (last.outcome (afterSession store calls)).1 = .ok reply) :
    last.after (afterSession store calls) = store := by
  have ran := Call.outcome_of_revoke revoking (afterSession store calls)
  have revokes := Staging.revokes kind (last.start (afterSession store calls))
  generalize Attempt.outcome (Staging.revoke kind) (last.start (afterSession store calls)) =
    revoked at ran revokes
  simp only [ran] at succeeded
  cases result : revoked.1 with
  | error error =>
      rw [result] at succeeded
      cases succeeded
  | ok found =>
      rcases revokes.absent found result with ⟨listGone, tagGone⟩
      have leaves : last.after (afterSession store calls) = revoked.2.store.inner := by
        rw [Call.after, ran]
      rw [← leaves] at listGone tagGone
      have session : afterSession store (calls ++ [last]) = last.after (afterSession store calls) :=
        List.foldl_append
      have allOfKind : ∀ call ∈ calls ++ [last], call.operation.kind = kind := by
        intro call mem
        rcases List.mem_append.mp mem with inCalls | isLast
        · exact ofKind call inCalls
        · rw [List.mem_singleton.mp isLast, revoking]
          rfl
      rcases exists_changes_afterSession allOfKind store with ⟨changes, inFootprint, changed⟩
      rw [session] at changed
      have isEither (change : Change) (mem : change ∈ changes) :
          change.var = kind.pendingVariable ∨ change.var = kind.tagVariable := by
        simpa [RequestKind.footprint] using inFootprint change mem
      refine FaithfulStore.eq_of_applyAll (fun change mem => ?_) changed fun change mem =>
        ⟨none, ?_⟩
      · rcases isEither change mem with isList | isTag
        · rw [isList]
          exact kind.isPlain_pendingVariable
        · rw [isTag]
          exact kind.isPlain_tagVariable
      · rcases isEither change mem with isList | isTag
        · rw [isList]
          exact ⟨noList, listGone⟩
        · rw [isTag]
          exact ⟨noTag, tagGone⟩

/-- Revoking deletes a list with its tag, and when it fails it is the list that is gone at most. A
store in which there was neither is restored by it after any requests of the kind, however they
ended. -/
theorem revocation_takes_back [FaithfulStore Store] (kind : RequestKind) :
    (∀ before : Machine (Faulty Store),
      Staging.Revokes kind before (Attempt.outcome (Staging.revoke kind) before)) ∧
      ∀ (store : Store) (calls : List Call) (last : Call) (reply : Reply),
        VariableStore.read store kind.pendingVariable = .ok none →
        VariableStore.read store kind.tagVariable = .ok none →
        (∀ call ∈ calls, call.operation.kind = kind) →
        last.operation = .revoke kind →
        (last.outcome (afterSession store calls)).1 = .ok reply →
        last.after (afterSession store calls) = store :=
  ⟨Staging.revokes kind, fun _ _ _ _ noList noTag ofKind revoking succeeded =>
    after_revocation noList noTag ofKind revoking succeeded⟩

/-- A directory without variables. -/
def emptyDirectory : Efivars where
  root := "vars"
  tree := (FileTree.blank ["home"]).plant ["home", "vars"] .directory

/-- A key is staged for enrollment, then an empty list in its place. -/
def stagings : List Call :=
  [⟨.issue .enroll [⟨"key", [1]⟩], [.line "password", .line "password"], []⟩,
    ⟨.reset .enroll, [.line "password", .line "password"], []⟩]

def lastRevocation : Call :=
  ⟨.revoke .enroll, [], []⟩

/-- The tag of the empty list is found and deleted, and the directory is empty again. -/
theorem revocation_takes_back_stagings :
    (lastRevocation.outcome (afterSession emptyDirectory stagings)).1 = .ok (.revoked true) ∧
      lastRevocation.after (afterSession emptyDirectory stagings) = emptyDirectory := by
  have succeeded : (lastRevocation.outcome (afterSession emptyDirectory stagings)).1 =
      .ok (.revoked true) := by
    decide +kernel
  refine ⟨succeeded, (revocation_takes_back .enroll).2 emptyDirectory stagings lastRevocation _
    ?_ ?_ ?_ rfl succeeded⟩
  · exact Efivars.read_eq_none_iff.mpr (by decide +kernel)
  · exact Efivars.read_eq_none_iff.mpr (by decide +kernel)
  · decide

end Sessions

end OwnerKeys
