import OwnerKeys.Proofs.Machine.Simulation
import OwnerKeys.Proofs.Store.Laws

/-!
# Stores that remember what they have been

While something is under way a store may pass through several states, of which only the last one is
left in the end. A recorded store remembers all of them. In everything else it is like the store
that is recorded, so whatever is done on it would have been done on that store in the same way.
-/

namespace OwnerKeys

/-- A store with what it has been before, from the first state on. -/
structure Recorded (Store : Type) where
  current : Store
  past : List Store

namespace Recorded

variable {Store : Type}

/-- A store at the beginning of a record. -/
def start (store : Store) : Recorded Store :=
  ⟨store, []⟩

/-- The record goes on with another state of the store. -/
def next (recorded : Recorded Store) (store : Store) : Recorded Store :=
  ⟨store, recorded.past ++ [recorded.current]⟩

/-- Everything that the store has been, and what it is. -/
def stages (recorded : Recorded Store) : List Store :=
  recorded.past ++ [recorded.current]

@[simp]
theorem stages_next (recorded : Recorded Store) (store : Store) :
    (recorded.next store).stages = recorded.stages ++ [store] := rfl

theorem current_mem_stages (recorded : Recorded Store) : recorded.current ∈ recorded.stages := by
  simp [stages]

variable [VariableStore Store]

instance : VariableStore (Recorded Store) where
  read recorded var := VariableStore.read recorded.current var
  write recorded var value :=
    (VariableStore.write recorded.current var value).map recorded.next
  delete recorded var :=
    (VariableStore.delete recorded.current var).map fun (found, store) =>
      (found, recorded.next store)

variable {recorded after : Recorded Store} {var : Variable}

theorem read_eq (recorded : Recorded Store) (var : Variable) :
    VariableStore.read recorded var = VariableStore.read recorded.current var := rfl

theorem read_next (recorded : Recorded Store) (store : Store) (var : Variable) :
    VariableStore.read (recorded.next store) var = VariableStore.read store var := rfl

theorem write_eq_ok_iff {value : Value} :
    VariableStore.write recorded var value = .ok after ↔
      ∃ store, VariableStore.write recorded.current var value = .ok store ∧
        after = recorded.next store := by
  simp only [VariableStore.write]
  cases VariableStore.write recorded.current var value with
  | error error => simp [Except.map]
  | ok store => simp [Except.map, eq_comm]

theorem delete_eq_ok_iff {was : Bool} :
    VariableStore.delete recorded var = .ok (was, after) ↔
      ∃ store, VariableStore.delete recorded.current var = .ok (was, store) ∧
        after = recorded.next store := by
  simp only [VariableStore.delete]
  cases VariableStore.delete recorded.current var with
  | error error => simp [Except.map]
  | ok result =>
      rcases result with ⟨found, store⟩
      simp only [Except.map, Except.ok.injEq, Prod.mk.injEq]
      constructor
      · rintro ⟨rfl, rfl⟩
        exact ⟨store, ⟨rfl, rfl⟩, rfl⟩
      · rintro ⟨same, ⟨rfl, rfl⟩, rfl⟩
        exact ⟨rfl, rfl⟩

instance [LawfulStore Store] : LawfulStore (Recorded Store) where
  read_written plain readable written := by
    rcases write_eq_ok_iff.mp written with ⟨store, writtenCurrent, rfl⟩
    rw [read_eq] at readable
    rw [read_next, LawfulStore.read_written plain readable writtenCurrent]
  read_other_written plain otherPlain different written := by
    rcases write_eq_ok_iff.mp written with ⟨store, writtenCurrent, rfl⟩
    rw [read_next, read_eq,
      LawfulStore.read_other_written plain otherPlain different writtenCurrent]
  read_deleted plain readable deleted := by
    rcases delete_eq_ok_iff.mp deleted with ⟨store, deletedCurrent, rfl⟩
    rw [read_eq] at readable
    rw [read_next, LawfulStore.read_deleted plain readable deletedCurrent]
  read_other_deleted plain otherPlain different deleted := by
    rcases delete_eq_ok_iff.mp deleted with ⟨store, deletedCurrent, rfl⟩
    rw [read_next, read_eq,
      LawfulStore.read_other_deleted plain otherPlain different deletedCurrent]

/-- A recorded store is now the given store, and the same is made to fail on both. -/
def Records (recorded : Faulty (Recorded Store)) (store : Faulty Store) : Prop :=
  recorded.inner.current = store.inner ∧ recorded.faults = store.faults

/-- A recorded store answers like the store itself. -/
theorem simulation :
    Simulation (fun _ => True) (Records : Faulty (Recorded Store) → Faulty Store → Prop) where
  read_eq {recorded store var} _ same := by
    simp only [VariableStore.read, Faulty.fault?_congr same.2, same.1]
  write {recorded store var} _ same value := by
    simp only [VariableStore.write, Faulty.fault?_congr same.2, same.1]
    cases store.fault? .write var with
    | some error => exact .error error
    | none =>
        cases VariableStore.write store.inner var value with
        | error error => exact .error error
        | ok written => exact .ok ⟨rfl, same.2⟩
  delete {recorded store var} _ same := by
    simp only [VariableStore.delete, Faulty.fault?_congr same.2, same.1]
    cases store.fault? .delete var with
    | some error => exact .error error
    | none =>
        cases VariableStore.delete store.inner var with
        | error error => exact .error error
        | ok result => exact .ok ⟨rfl, rfl, same.2⟩

end Recorded

end OwnerKeys
