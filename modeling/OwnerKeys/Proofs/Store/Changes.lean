import OwnerKeys.Proofs.Store.Laws

/-!
# Changes of stores

A change writes one variable or deletes it. Changes are made one after another; when one fails,
none is made after it. Variables are apart if a change of the one never affects what is read of the
other: in a lawful store that holds of different names without a slash, in memory of all different
names.
-/

namespace OwnerKeys

/-- A change of one variable. -/
inductive Change where
  | write (var : Variable) (value : Value)
  | delete (var : Variable)

namespace Change

/-- The variable that is changed. -/
def var : Change → Variable
  | write var _ | delete var => var

variable {Store : Type} [VariableStore Store]

/-- The store after a change. -/
def apply (store : Store) : Change → Except StoreError Store
  | write var value => VariableStore.write store var value
  | delete var => (VariableStore.delete store var).map (·.2)

/-- The store after changes that are made one after another. -/
def applyAll (store : Store) (changes : List Change) : Except StoreError Store :=
  changes.foldlM apply store

theorem apply_delete_eq_ok_iff {store after : Store} {var : Variable} :
    (delete var).apply store = .ok after ↔
      ∃ found, VariableStore.delete store var = .ok (found, after) := by
  rw [apply]
  cases VariableStore.delete store var with
  | error error => simp [Except.map]
  | ok result =>
      rcases result with ⟨found, deleted⟩
      simp [Except.map]

theorem applyAll_nil_eq_ok_iff {store after : Store} :
    applyAll store [] = .ok after ↔ store = after := by
  rw [applyAll, List.foldlM_nil]
  simp [pure, Except.pure]

theorem applyAll_cons_eq_ok_iff {store after : Store} {change : Change} {later : List Change} :
    applyAll store (change :: later) = .ok after ↔
      ∃ changed, change.apply store = .ok changed ∧ applyAll changed later = .ok after := by
  rw [applyAll, List.foldlM_cons]
  cases change.apply store with
  | error error => simp [bind, Except.bind]
  | ok changed => simp [bind, Except.bind, applyAll]

theorem applyAll_append_eq_ok_iff {store after : Store} {earlier later : List Change} :
    applyAll store (earlier ++ later) = .ok after ↔
      ∃ changed, applyAll store earlier = .ok changed ∧ applyAll changed later = .ok after := by
  rw [applyAll, List.foldlM_append]
  change (applyAll store earlier >>= fun changed => applyAll changed later) = _ ↔ _
  cases applyAll store earlier with
  | error error => simp [bind, Except.bind]
  | ok changed => simp [bind, Except.bind]

end Change

/-- A change of one variable never affects what is read of another one. -/
def VariableStore.Apart (Store : Type) [VariableStore Store] (var other : Variable) : Prop :=
  ∀ ⦃change : Change⦄ ⦃before after : Store⦄, change.var = var →
    change.apply before = .ok after →
    VariableStore.read after other = VariableStore.read before other

theorem LawfulStore.apart {Store : Type} [VariableStore Store] [LawfulStore Store]
    {var other : Variable} (plain : var.IsPlain) (otherPlain : other.IsPlain)
    (different : other ≠ var) : VariableStore.Apart Store var other := by
  rintro (⟨_, value⟩ | ⟨_⟩) before after rfl changed
  · exact LawfulStore.read_other_written plain otherPlain different changed
  · rcases Change.apply_delete_eq_ok_iff.mp changed with ⟨found, deleted⟩
    exact LawfulStore.read_other_deleted plain otherPlain different deleted

/-- In memory, all different variables are apart. -/
theorem Memory.apart {var other : Variable} (different : other ≠ var) :
    VariableStore.Apart Memory var other := by
  rintro (⟨_, value⟩ | ⟨_⟩) before after rfl changed
  · cases changed
    exact congrArg Except.ok ((Memory.get?_insert ..).trans (if_neg different))
  · cases changed
    exact congrArg Except.ok ((Memory.get?_erase ..).trans (if_neg different))

/-- Changes of variables from which another one is apart do not affect it. -/
theorem VariableStore.read_eq_of_applyAll {Store : Type} [VariableStore Store]
    {before after : Store} {changes : List Change} {other : Variable}
    (apart : ∀ change ∈ changes, VariableStore.Apart Store change.var other)
    (changed : Change.applyAll before changes = .ok after) :
    VariableStore.read after other = VariableStore.read before other := by
  induction changes generalizing before with
  | nil => rw [Change.applyAll_nil_eq_ok_iff.mp changed]
  | cons change later ih =>
      rcases Change.applyAll_cons_eq_ok_iff.mp changed with ⟨middle, first, rest⟩
      rw [ih (fun other mem => apart other (List.mem_cons_of_mem _ mem)) rest]
      exact apart change List.mem_cons_self rfl first

end OwnerKeys
