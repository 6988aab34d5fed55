import OwnerKeys.Proofs.Machine.Frame
import OwnerKeys.Proofs.Store.Changes

/-!
# Which variables computations may change

The footprint of a computation is a list of variables such that the computation calls the store to
write or delete no other variable, and leaves a store to which changes of these variables lead. A
sequence stays within a footprint if its parts do. What tries nothing that could change the store
stays within every footprint.
-/

namespace OwnerKeys

variable {Store Error : Type}

/-- An event is no call that may change a variable outside of a footprint. -/
def Event.StaysWithin (footprint : List Variable) : Event → Prop
  | called .write var | called .delete var => var ∈ footprint
  | _ => True

theorem Event.staysWithin_of_not_isChange {event : Event} (quiet : ¬event.IsChange)
    (footprint : List Variable) : event.StaysWithin footprint := by
  cases event with
  | called operation var => cases operation <;> simp_all [IsChange, StaysWithin]
  | _ => exact True.intro

/-- Outside of the empty footprint there is every change. -/
theorem Event.StaysWithin.not_isChange {event : Event} (within : event.StaysWithin []) :
    ¬event.IsChange := by
  cases event with
  | called operation var => cases operation <;> simp_all [IsChange, StaysWithin]
  | _ => simp [IsChange]

namespace Machine

/-- Between two machines, nothing was tried that could have changed a variable outside of a
footprint. -/
def Calls (footprint : List Variable) (before after : Machine Store) : Prop :=
  ∃ events, after.trace = before.trace ++ events ∧
    ∀ event ∈ events, event.StaysWithin footprint

namespace Calls

variable {footprint : List Variable} {before middle after : Machine Store}

theorem refl (machine : Machine Store) : Calls footprint machine machine :=
  ⟨[], by simp⟩

theorem trans (first : Calls footprint before middle) (second : Calls footprint middle after) :
    Calls footprint before after := by
  rcases first with ⟨earlier, firstTrace, earlierWithin⟩
  rcases second with ⟨later, secondTrace, laterWithin⟩
  refine ⟨earlier ++ later, ?_, ?_⟩
  · rw [secondTrace, firstTrace, List.append_assoc]
  · intro event mem
    rcases List.mem_append.mp mem with inEarlier | inLater
    · exact earlierWithin event inEarlier
    · exact laterWithin event inLater

instance : IsPreorder (Machine Store) (Calls footprint) where
  refl := refl
  trans _ _ _ := trans

theorem advance (machine : Machine Store) (store : Store) {events : List Event}
    (within : ∀ event ∈ events, event.StaysWithin footprint) :
    Calls footprint machine (machine.advance store events) :=
  ⟨events, rfl, within⟩

end Calls

variable [VariableStore Store]

/-- Between two machines, nothing was tried that could have changed a variable outside of a
footprint, and changes within the footprint lead from the one store to the other. -/
structure Within (footprint : List Variable) (before after : Machine Store) : Prop where
  /-- The calls were about variables in the footprint. -/
  calls : Calls footprint before after
  /-- The changes were, too. -/
  exists_changes : ∃ changes, (∀ change ∈ changes, Change.var change ∈ footprint) ∧
    Change.applyAll before.store changes = .ok after.store

namespace Within

variable {footprint : List Variable} {before middle after : Machine Store}

theorem refl (machine : Machine Store) : Within footprint machine machine :=
  ⟨Calls.refl machine, [], by simp, Change.applyAll_nil_eq_ok_iff.mpr rfl⟩

theorem trans (first : Within footprint before middle) (second : Within footprint middle after) :
    Within footprint before after := by
  rcases first.exists_changes with ⟨earlier, earlierWithin, firstChanged⟩
  rcases second.exists_changes with ⟨later, laterWithin, secondChanged⟩
  refine ⟨first.calls.trans second.calls, earlier ++ later, ?_,
    Change.applyAll_append_eq_ok_iff.mpr ⟨_, firstChanged, secondChanged⟩⟩
  intro change mem
  rcases List.mem_append.mp mem with inEarlier | inLater
  · exact earlierWithin change inEarlier
  · exact laterWithin change inLater

instance : IsPreorder (Machine Store) (Within footprint) where
  refl := refl
  trans _ _ _ := trans

theorem of_quiet (quiet : Quiet before after) : Within footprint before after := by
  rcases quiet.trace_eq with ⟨events, trace, unchanging⟩
  refine ⟨⟨events, trace, fun event mem =>
    event.staysWithin_of_not_isChange (unchanging event mem) footprint⟩, [], by simp, ?_⟩
  exact Change.applyAll_nil_eq_ok_iff.mpr quiet.store_eq.symm

theorem advance (machine : Machine Store) {events : List Event}
    (within : ∀ event ∈ events, event.StaysWithin footprint) :
    Within footprint machine (machine.advance machine.store events) :=
  ⟨.advance machine machine.store within, [], by simp, Change.applyAll_nil_eq_ok_iff.mpr rfl⟩

theorem advance_of_change {machine : Machine Store} {store : Store} {change : Change}
    (mem : change.var ∈ footprint) (changed : change.apply machine.store = .ok store)
    {events : List Event} (within : ∀ event ∈ events, event.StaysWithin footprint) :
    Within footprint machine (machine.advance store events) := by
  refine ⟨.advance machine store within, [change], by simpa using mem, ?_⟩
  exact Change.applyAll_cons_eq_ok_iff.mpr
    ⟨store, changed, Change.applyAll_nil_eq_ok_iff.mpr rfl⟩

/-- Where nothing may be changed, nothing is. -/
theorem quiet (within : Within [] before after) : Quiet before after := by
  rcases within.calls with ⟨events, trace, staysWithin⟩
  rcases within.exists_changes with ⟨changes, noChange, changed⟩
  have none : changes = [] := List.eq_nil_iff_forall_not_mem.mpr fun change mem =>
    List.not_mem_nil (noChange change mem)
  subst none
  exact ⟨(Change.applyAll_nil_eq_ok_iff.mp changed).symm, events, trace, fun event mem =>
    (staysWithin event mem).not_isChange⟩

/-- A variable that is apart from all of a footprint is read as before. -/
theorem read_eq (within : Within footprint before after) {var : Variable}
    (apart : ∀ other ∈ footprint, VariableStore.Apart Store other var) :
    VariableStore.read after.store var = VariableStore.read before.store var := by
  rcases within.exists_changes with ⟨changes, inFootprint, changed⟩
  exact VariableStore.read_eq_of_applyAll
    (fun change mem => apart change.var (inFootprint change mem)) changed

end Within

end Machine

variable [VariableStore Store] {footprint : List Variable} {var : Variable}

theorem Action.within_writeVariable (mem : var ∈ footprint) (value : Value) :
    (writeVariable var value : Action Store _).Keeps (Machine.Within footprint) := by
  intro machine
  have called : ∀ event ∈ [Event.called .write var], event.StaysWithin footprint := by
    simpa [Event.StaysWithin] using mem
  rw [outcome_writeVariable]
  cases written : VariableStore.write machine.store var value with
  | error error => exact .advance machine called
  | ok store =>
      have changed : (Change.write var value).apply machine.store = .ok store := written
      exact .advance_of_change mem changed called

theorem Action.within_deleteVariable (mem : var ∈ footprint) :
    (deleteVariable var : Action Store _).Keeps (Machine.Within footprint) := by
  intro machine
  have called : ∀ event ∈ [Event.called .delete var], event.StaysWithin footprint := by
    simpa [Event.StaysWithin] using mem
  rw [outcome_deleteVariable]
  cases deleted : VariableStore.delete machine.store var with
  | error error => exact .advance machine called
  | ok result =>
      have changed := Change.apply_delete_eq_ok_iff.mpr ⟨result.1, deleted⟩
      exact .advance_of_change mem changed called

end OwnerKeys
