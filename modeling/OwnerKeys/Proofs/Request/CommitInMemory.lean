import OwnerKeys.Proofs.Request.Commit
import OwnerKeys.Store.Faulty
import OwnerKeys.Store.Memory

/-!
# Commits in memory

On variables in memory only what is made to fail fails, so a commit can be followed value by value:
the list is staged, and then the tag is inserted.
-/

namespace OwnerKeys

namespace Faulty

variable {store after : Faulty Memory} {var : Variable}

theorem inner_of_write {value : Value} (done : VariableStore.write store var value = .ok after) :
    after.inner = store.inner.insert var value := by
  have written := (write_eq_ok_iff.mp done).2.1
  simpa using written.symm

theorem inner_of_delete {found : Bool}
    (done : VariableStore.delete store var = .ok (found, after)) :
    after.inner = store.inner.erase var := by
  have deleted := (delete_eq_ok_iff.mp done).2.1
  simp only [Memory.delete_eq, Except.ok.injEq, Prod.mk.injEq] at deleted
  exact deleted.2.symm

/-- On variables in memory, only what is made to fail fails. -/
theorem fault_of_write_error {value : Value} {error : StoreError}
    (failed : VariableStore.write store var value = .error error) :
    store.fault? .write var ≠ none := by
  intro noFault
  simp [VariableStore.write, noFault, Except.map] at failed

theorem fault_of_delete_error {error : StoreError}
    (failed : VariableStore.delete store var = .error error) :
    store.fault? .delete var ≠ none := by
  intro noFault
  simp [VariableStore.delete, noFault, Except.map] at failed

end Faulty

namespace Memory

/-- The memory in which the list of a request is stored, or removed if the request has none. -/
def staged (memory : Memory) (kind : RequestKind) (list : Option Bytes) : Memory :=
  match list with
  | some bytes => memory.insert kind.pendingVariable ⟨.standard, bytes⟩
  | none => memory.erase kind.pendingVariable

theorem get?_staged (memory : Memory) (kind : RequestKind) (list : Option Bytes)
    (var : Variable) :
    (memory.staged kind list).get? var =
      if var = kind.pendingVariable then list.map (⟨.standard, ·⟩) else memory.get? var := by
  cases list with
  | some bytes => exact get?_insert ..
  | none => exact get?_erase ..

end Memory

namespace Staging

/-- A list that was stored is staged, and the store has the faults that it had before. -/
theorem staged_of_withList {kind : RequestKind} {list : Option Bytes} {store listed : Faulty Memory}
    (listing : withList kind list store = .ok listed) :
    listed.inner = store.inner.staged kind list ∧ listed.faults = store.faults := by
  cases list with
  | some bytes =>
      have written := withList_some_eq_ok_iff.mp listing
      exact ⟨Faulty.inner_of_write written, (Faulty.write_eq_ok_iff.mp written).2.2⟩
  | none =>
      simp only [withList] at listing
      cases deleted : VariableStore.delete store kind.pendingVariable with
      | error error => simp [deleted, Except.mapError, Except.map] at listing
      | ok result =>
          rcases result with ⟨found, after⟩
          simp only [deleted, Except.mapError, Except.map, Except.ok.injEq] at listing
          subst listing
          exact ⟨Faulty.inner_of_delete deleted, (Faulty.delete_eq_ok_iff.mp deleted).2.2⟩

end Staging

end OwnerKeys
