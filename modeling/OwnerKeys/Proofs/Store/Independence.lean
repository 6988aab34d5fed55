import OwnerKeys.Proofs.Machine.Simulation
import OwnerKeys.Proofs.Store.Changes
import OwnerKeys.Proofs.Store.SortedMap

/-!
# Changes of different variables

In an independent store it does not matter whether one variable is changed before or after another
one. A store from before a change then answers like the one from after it, as long as nobody asks
about the variable that was changed. Stores in memory are independent, and making operations on
chosen variables fail does not take that away.
-/

namespace OwnerKeys

/-- A store in which changes of one variable do not get in the way of the others: before and after
such a change the others are read alike and are changed alike, failures included. -/
class IndependentStore (Store : Type) [VariableStore Store] : Prop where
  simulation {change : Change} (plain : change.var.IsPlain) :
    Simulation (fun other => other.IsPlain ∧ other ≠ change.var)
      (fun before after : Store => change.apply before = .ok after)

/-! ## Memory -/

namespace Memory

/-- The memory after a change. -/
def changed (memory : Memory) : Change → Memory
  | .write var value => memory.insert var value
  | .delete var => memory.erase var

theorem apply_eq (memory : Memory) (change : Change) :
    change.apply memory = .ok (memory.changed change) := by
  cases change <;> rfl

/-- Changes of different variables can be made in either order. -/
theorem changed_comm (memory : Memory) {change other : Change}
    (different : change.var ≠ other.var) :
    (memory.changed change).changed other = (memory.changed other).changed change := by
  apply congrArg Memory.mk
  cases change with
  | write var value =>
      cases other with
      | write otherVar otherValue => exact memory.values.insert_comm different value otherValue
      | delete otherVar => exact (memory.values.erase_insert_comm different.symm value).symm
  | delete var =>
      cases other with
      | write otherVar otherValue => exact memory.values.erase_insert_comm different otherValue
      | delete otherVar => exact memory.values.erase_comm var otherVar

theorem get?_changed_of_ne (memory : Memory) {change : Change} {other : Variable}
    (different : other ≠ change.var) : (memory.changed change).get? other = memory.get? other :=
  Except.ok.inj (apart different rfl (apply_eq memory change))

instance : IndependentStore Memory where
  simulation {change} plain := by
    constructor
    · rintro before after other ⟨_, different⟩ changed
      exact (apart different rfl changed).symm
    · rintro before after other ⟨_, different⟩ changed value
      rw [apply_eq, Except.ok.injEq] at changed
      subst changed
      have differentToo : change.var ≠ (Change.write other value).var := different.symm
      exact .ok ((apply_eq _ _).trans (congrArg _ (changed_comm before differentToo).symm))
    · rintro before after other ⟨_, different⟩ changed
      rw [apply_eq, Except.ok.injEq] at changed
      subst changed
      rw [delete_eq, delete_eq, get?_changed_of_ne before different]
      have differentToo : change.var ≠ (Change.delete other).var := different.symm
      exact .ok ⟨rfl, (apply_eq _ _).trans (congrArg _ (changed_comm before differentToo).symm)⟩

end Memory

/-! ## Stores with faults -/

namespace Faulty

variable {Store : Type} [VariableStore Store]

/-- The operation that makes a change. -/
def operationOf : Change → StoreOperation
  | .write .. => .write
  | .delete _ => .delete

/-- A change that succeeds is one of the store behind, and what is made to fail stays. -/
theorem apply_eq_ok_iff {store changed : Faulty Store} {change : Change} :
    change.apply store = .ok changed ↔
      store.fault? (operationOf change) change.var = none ∧
        change.apply store.inner = .ok changed.inner ∧ changed.faults = store.faults := by
  cases change with
  | write var value => exact write_eq_ok_iff
  | delete var =>
      simp only [Change.apply_delete_eq_ok_iff, delete_eq_ok_iff, operationOf, Change.var]
      constructor
      · rintro ⟨found, noFault, deleted, sameFaults⟩
        exact ⟨noFault, ⟨found, deleted⟩, sameFaults⟩
      · rintro ⟨noFault, ⟨found, deleted⟩, sameFaults⟩
        exact ⟨found, noFault, deleted, sameFaults⟩

instance [IndependentStore Store] : IndependentStore (Faulty Store) where
  simulation {change} plain := by
    have inner : Simulation _ fun before after : Store => change.apply before = .ok after :=
      IndependentStore.simulation plain
    constructor
    · rintro before after other inUse changed
      rcases apply_eq_ok_iff.mp changed with ⟨_, innerChanged, sameFaults⟩
      exact read_congr sameFaults.symm (inner.read_eq inUse innerChanged)
    · rintro before after other inUse changed value
      rcases apply_eq_ok_iff.mp changed with ⟨noFault, innerChanged, sameFaults⟩
      simp only [VariableStore.write, fault?_congr sameFaults]
      cases before.fault? .write other with
      | some error => exact .error error
      | none =>
          have written := inner.write inUse innerChanged value
          generalize VariableStore.write before.inner other value = left at written ⊢
          generalize VariableStore.write after.inner other value = right at written ⊢
          cases written with
          | error error => exact .error error
          | ok stores => exact .ok (apply_eq_ok_iff.mpr ⟨noFault, stores, sameFaults⟩)
    · rintro before after other inUse changed
      rcases apply_eq_ok_iff.mp changed with ⟨noFault, innerChanged, sameFaults⟩
      simp only [VariableStore.delete, fault?_congr sameFaults]
      cases before.fault? .delete other with
      | some error => exact .error error
      | none =>
          have deleted := inner.delete inUse innerChanged
          generalize VariableStore.delete before.inner other = left at deleted ⊢
          generalize VariableStore.delete after.inner other = right at deleted ⊢
          cases deleted with
          | error error => exact .error error
          | ok results =>
              exact .ok ⟨results.1, apply_eq_ok_iff.mpr ⟨noFault, results.2, sameFaults⟩⟩

end Faulty

/-! ## Changes one after another -/

namespace Change

variable {Store : Type} [VariableStore Store] {used : Variable → Prop}

/-- What a simulation says of calls it says of changes. -/
theorem apply_alike {First Second : Type} [VariableStore First] [VariableStore Second]
    {related : First → Second → Prop} (simulation : Simulation used related) {first : First}
    {second : Second} (stores : related first second) {change : Change} (inUse : used change.var) :
    Alike related (change.apply first) (change.apply second) := by
  cases change with
  | write var value => exact simulation.write inUse stores value
  | delete var =>
      have deleted := simulation.delete inUse stores
      simp only [Change.var] at deleted
      simp only [apply]
      generalize VariableStore.delete first var = left at deleted ⊢
      generalize VariableStore.delete second var = right at deleted ⊢
      cases deleted with
      | error error => exact .error error
      | ok results => exact .ok results.2

/-- Changes that succeed on the one store succeed on the other. -/
theorem exists_applyAll {First Second : Type} [VariableStore First] [VariableStore Second]
    {related : First → Second → Prop} (simulation : Simulation used related) {first after : First}
    {second : Second} (stores : related first second) {changes : List Change}
    (inUse : ∀ change ∈ changes, used change.var)
    (changed : applyAll first changes = .ok after) :
    ∃ afterToo, applyAll second changes = .ok afterToo ∧ related after afterToo := by
  induction changes generalizing first second with
  | nil =>
      rw [applyAll_nil_eq_ok_iff.mp changed] at stores
      exact ⟨second, applyAll_nil_eq_ok_iff.mpr rfl, stores⟩
  | cons change later ih =>
      rcases applyAll_cons_eq_ok_iff.mp changed with ⟨middle, begins, ends⟩
      have alike := apply_alike simulation stores (inUse change List.mem_cons_self)
      rw [begins] at alike
      generalize beginsToo : change.apply second = result at alike
      cases alike with
      | ok middleStores =>
          have laterInUse : ∀ other ∈ later, used other.var := fun other mem =>
            inUse other (List.mem_cons_of_mem _ mem)
          rcases ih middleStores laterInUse ends with
            ⟨afterToo, endsToo, afterStores⟩
          exact ⟨afterToo, applyAll_cons_eq_ok_iff.mpr ⟨_, beginsToo, endsToo⟩, afterStores⟩

variable [IndependentStore Store]

/-- Before and after changes, all other variables answer alike. -/
theorem simulation_applyAll {changes : List Change}
    (plain : ∀ change ∈ changes, change.var.IsPlain)
    (others : ∀ var, used var → var.IsPlain ∧ ∀ change ∈ changes, var ≠ change.var) :
    Simulation used (fun before after : Store => applyAll before changes = .ok after) := by
  induction changes with
  | nil =>
      have same : (fun before after : Store => applyAll before [] = .ok after) = Eq := by
        funext before after
        exact propext applyAll_nil_eq_ok_iff
      rw [same]
      exact Simulation.identity used
  | cons change later ih =>
      have same : (fun before after : Store => applyAll before (change :: later) = .ok after) =
          Relation.Comp (fun before after => change.apply before = .ok after)
            (fun before after => applyAll before later = .ok after) := by
        funext before after
        exact propext applyAll_cons_eq_ok_iff
      rw [same]
      have first : Simulation _ fun before after : Store => change.apply before = .ok after :=
        IndependentStore.simulation (plain change List.mem_cons_self)
      refine (first.mono fun var inUse => ?_).comp (ih ?_ ?_)
      · exact ⟨(others var inUse).1, (others var inUse).2 change List.mem_cons_self⟩
      · exact fun other mem => plain other (List.mem_cons_of_mem _ mem)
      · exact fun var inUse => ⟨(others var inUse).1, fun other mem =>
          (others var inUse).2 other (List.mem_cons_of_mem _ mem)⟩

end Change

end OwnerKeys
