import OwnerKeys.Store

/-!
# Stores with faults

A store on which chosen operations on chosen variables fail, without reaching the store behind it.
-/

namespace OwnerKeys

/-- An operation on a variable that is made to fail. -/
structure Sabotage where
  /-- The operation. -/
  operation : StoreOperation
  /-- The variable. -/
  var : Variable
  /-- The wording of the cause. -/
  message : String
deriving DecidableEq, Repr

/-- A store with operations that are made to fail. -/
structure Faulty (Store : Type) where
  /-- The store behind it. -/
  inner : Store
  /-- What is made to fail. -/
  faults : List Sabotage

namespace Faulty

variable {Store : Type}

/-- The failure that an operation on a variable is made to have. -/
def fault? (store : Faulty Store) (operation : StoreOperation) (var : Variable) :
    Option StoreError :=
  (store.faults.find? fun fault => fault.operation == operation && fault.var == var).map
    fun fault => operation.failure (.other fault.message)

/-- An operation on a variable fails if and only if it is among what is made to fail. -/
theorem fault?_ne_none_iff {store : Faulty Store} {operation : StoreOperation} {var : Variable} :
    store.fault? operation var ≠ none ↔
      ∃ fault ∈ store.faults, fault.operation = operation ∧ fault.var = var := by
  simp [fault?]

/-- Stores on which the same is made to fail have the same failures. -/
theorem fault?_congr {Other : Type} {store : Faulty Store} {other : Faulty Other}
    (same : store.faults = other.faults) (operation : StoreOperation) (var : Variable) :
    store.fault? operation var = other.fault? operation var := by
  unfold fault?
  rw [same]

/-- The store on which an operation on a variable no longer is made to fail. -/
def repair (store : Faulty Store) (operation : StoreOperation) (var : Variable) : Faulty Store :=
  { store with
    faults := store.faults.filter fun fault => !(fault.operation == operation && fault.var == var) }

/-- The store on which an operation on a variable fails with a given cause. -/
def sabotage (store : Faulty Store) (operation : StoreOperation) (var : Variable)
    (message : String) : Faulty Store :=
  let repaired := store.repair operation var
  { repaired with faults := ⟨operation, var, message⟩ :: repaired.faults }

variable [VariableStore Store]

instance : VariableStore (Faulty Store) where
  read store var :=
    match store.fault? .read var with
    | some error => .error error
    | none => VariableStore.read store.inner var
  write store var value :=
    match store.fault? .write var with
    | some error => .error error
    | none => (VariableStore.write store.inner var value).map fun inner => { store with inner }
  delete store var :=
    match store.fault? .delete var with
    | some error => .error error
    | none => (VariableStore.delete store.inner var).map fun (found, inner) =>
        (found, { store with inner })

/-- What a read finds was found in the store behind. -/
theorem read_eq_ok_iff {store : Faulty Store} {var : Variable} {value? : Option Value} :
    VariableStore.read store var = .ok value? ↔
      store.fault? .read var = none ∧ VariableStore.read store.inner var = .ok value? := by
  simp only [VariableStore.read]
  cases store.fault? .read var with
  | some error => simp
  | none => simp

theorem read_eq_inner {store : Faulty Store} {var : Variable}
    (noFault : store.fault? .read var = none) :
    VariableStore.read store var = VariableStore.read store.inner var := by
  simp only [VariableStore.read, noFault]

/-- A write that succeeds was done on the store behind, and what is made to fail stays. -/
theorem write_eq_ok_iff {store written : Faulty Store} {var : Variable} {value : Value} :
    VariableStore.write store var value = .ok written ↔
      store.fault? .write var = none ∧
        VariableStore.write store.inner var value = .ok written.inner ∧
        written.faults = store.faults := by
  simp only [VariableStore.write]
  cases store.fault? .write var with
  | some error => simp
  | none =>
      cases VariableStore.write store.inner var value with
      | error error => simp [Except.map]
      | ok inner =>
          rcases written with ⟨writtenInner, faults⟩
          simp only [Except.map, Except.ok.injEq, mk.injEq, true_and]
          exact and_congr_right fun _ => eq_comm

/-- A deletion that succeeds was done on the store behind, and what is made to fail stays. -/
theorem delete_eq_ok_iff {store deleted : Faulty Store} {var : Variable} {found : Bool} :
    VariableStore.delete store var = .ok (found, deleted) ↔
      store.fault? .delete var = none ∧
        VariableStore.delete store.inner var = .ok (found, deleted.inner) ∧
        deleted.faults = store.faults := by
  simp only [VariableStore.delete]
  cases store.fault? .delete var with
  | some error => simp
  | none =>
      rcases deleted with ⟨deletedInner, faults⟩
      cases VariableStore.delete store.inner var with
      | error error => simp [Except.map]
      | ok result =>
          rcases result with ⟨wasThere, inner⟩
          simp only [Except.map, Except.ok.injEq, Prod.mk.injEq, mk.injEq, true_and, and_assoc]
          exact and_congr_right fun _ => and_congr_right fun _ => eq_comm

end Faulty

end OwnerKeys
