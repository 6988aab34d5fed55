import OwnerKeys.Store.Faulty
import OwnerKeys.Store.Memory

/-!
# What stores have in common

Whatever a store is made of, a variable that was written is found with its new value, one that was
deleted is not found, and the others are found as before. A store may keep variables in places that
are named after them, so this is only asked of names without a slash. It is not asked of a variable
that could not be read before: what keeps it from being read may well last.
-/

namespace OwnerKeys

namespace Variable

/-- The name of a variable is not a path. -/
def IsPlain (var : Variable) : Prop :=
  '/' ∉ var.name.toList

instance (var : Variable) : Decidable var.IsPlain :=
  inferInstanceAs (Decidable (_ ∉ _))

end Variable

/-- A store that keeps what is written until it is deleted. -/
class LawfulStore (Store : Type) [VariableStore Store] : Prop where
  /-- A variable that was written has its new value. -/
  read_written {store after : Store} {var : Variable} {value : Value} {found : Option Value}
    (plain : var.IsPlain) (readable : VariableStore.read store var = .ok found)
    (written : VariableStore.write store var value = .ok after) :
    VariableStore.read after var = .ok (some value)
  /-- Writing a variable does not affect the others. -/
  read_other_written {store after : Store} {var other : Variable} {value : Value}
    (plain : var.IsPlain) (otherPlain : other.IsPlain) (different : other ≠ var)
    (written : VariableStore.write store var value = .ok after) :
    VariableStore.read after other = VariableStore.read store other
  /-- A variable that was deleted does not exist. -/
  read_deleted {store after : Store} {var : Variable} {was : Bool} {found : Option Value}
    (plain : var.IsPlain) (readable : VariableStore.read store var = .ok found)
    (deleted : VariableStore.delete store var = .ok (was, after)) :
    VariableStore.read after var = .ok none
  /-- Deleting a variable does not affect the others. -/
  read_other_deleted {store after : Store} {var other : Variable} {was : Bool}
    (plain : var.IsPlain) (otherPlain : other.IsPlain) (different : other ≠ var)
    (deleted : VariableStore.delete store var = .ok (was, after)) :
    VariableStore.read after other = VariableStore.read store other

/-- A store that shows at once what was written or deleted, whatever kept the variable from being
read before. -/
class TransparentStore (Store : Type) [VariableStore Store] : Prop extends LawfulStore Store where
  /-- A variable that was written can be read. -/
  read_of_written {store after : Store} {var : Variable} {value : Value} (plain : var.IsPlain)
    (written : VariableStore.write store var value = .ok after) :
    VariableStore.read after var = .ok (some value)
  /-- A variable that was deleted is known not to exist. -/
  read_of_deleted {store after : Store} {var : Variable} {was : Bool} (plain : var.IsPlain)
    (deleted : VariableStore.delete store var = .ok (was, after)) :
    VariableStore.read after var = .ok none

namespace Memory

variable {memory after : Memory} {var : Variable}

theorem read_of_written {value : Value}
    (written : VariableStore.write memory var value = .ok after) :
    VariableStore.read after var = .ok (some value) := by
  rw [write_eq, Except.ok.injEq] at written
  subst written
  rw [read_eq, get?_insert, if_pos rfl]

theorem read_of_deleted {was : Bool}
    (deleted : VariableStore.delete memory var = .ok (was, after)) :
    VariableStore.read after var = .ok none := by
  rw [delete_eq, Except.ok.injEq, Prod.mk.injEq] at deleted
  rcases deleted with ⟨_, rfl⟩
  rw [read_eq, get?_erase, if_pos rfl]

end Memory

instance : LawfulStore Memory where
  read_written _ _ written := Memory.read_of_written written
  read_other_written _ _ different written := by
    rw [Memory.write_eq, Except.ok.injEq] at written
    subst written
    rw [Memory.read_eq, Memory.get?_insert, if_neg different, Memory.read_eq]
  read_deleted _ _ deleted := Memory.read_of_deleted deleted
  read_other_deleted _ _ different deleted := by
    rw [Memory.delete_eq, Except.ok.injEq, Prod.mk.injEq] at deleted
    rcases deleted with ⟨_, rfl⟩
    rw [Memory.read_eq, Memory.get?_erase, if_neg different, Memory.read_eq]

instance : TransparentStore Memory where
  read_of_written _ written := Memory.read_of_written written
  read_of_deleted _ deleted := Memory.read_of_deleted deleted

namespace Faulty

variable {Store : Type} [VariableStore Store]

/-- Reading is affected by what is made to fail and by what the store behind holds. -/
theorem read_congr {store other : Faulty Store} {var : Variable}
    (sameFaults : store.faults = other.faults)
    (sameRead : VariableStore.read store.inner var = VariableStore.read other.inner var) :
    VariableStore.read store var = VariableStore.read other var := by
  simp only [VariableStore.read, fault?_congr sameFaults]
  rw [sameRead]

instance [LawfulStore Store] : LawfulStore (Faulty Store) where
  read_written plain readable written := by
    rcases read_eq_ok_iff.mp readable with ⟨noFault, innerReadable⟩
    rcases write_eq_ok_iff.mp written with ⟨_, innerWritten, sameFaults⟩
    refine read_eq_ok_iff.mpr ⟨?_, LawfulStore.read_written plain innerReadable innerWritten⟩
    rwa [fault?_congr sameFaults]
  read_other_written plain otherPlain different written := by
    rcases write_eq_ok_iff.mp written with ⟨_, innerWritten, sameFaults⟩
    exact read_congr sameFaults
      (LawfulStore.read_other_written plain otherPlain different innerWritten)
  read_deleted plain readable deleted := by
    rcases read_eq_ok_iff.mp readable with ⟨noFault, innerReadable⟩
    rcases delete_eq_ok_iff.mp deleted with ⟨_, innerDeleted, sameFaults⟩
    refine read_eq_ok_iff.mpr ⟨?_, LawfulStore.read_deleted plain innerReadable innerDeleted⟩
    rwa [fault?_congr sameFaults]
  read_other_deleted plain otherPlain different deleted := by
    rcases delete_eq_ok_iff.mp deleted with ⟨_, innerDeleted, sameFaults⟩
    exact read_congr sameFaults
      (LawfulStore.read_other_deleted plain otherPlain different innerDeleted)

end Faulty

end OwnerKeys
