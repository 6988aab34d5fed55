import OwnerKeys.Proofs.Export.Files

/-!
# Key files and variables

Key files can be written into any directory, also into that of the variables, and it may well not
exist as one. Where a variable was found there is a directory for all of them, and no key file is
named like the file of a variable; so an export does not affect what is read of any variable.
-/

namespace OwnerKeys

/-- Where some variable is found, a key file that is written affects no variable. -/
class KeyFilesApart (Store : Type) [VariableStore Store] [HasFiles Store] : Prop where
  read_withFiles {store : Store} {tree : FileTree} {directory : String} {index : Nat} {key : Bytes}
    {var seen : Variable} {value : Value} (plain : var.IsPlain) (seenPlain : seen.IsPlain)
    (found : VariableStore.read store var = .ok (some value))
    (written : (HasFiles.files store).write (Export.path directory index) key = .ok tree) :
    VariableStore.read (HasFiles.withFiles store tree) seen = VariableStore.read store seen

namespace Hosted

variable {Store : Type} [VariableStore Store]

instance : KeyFilesApart (Hosted Store) where
  read_withFiles _ _ _ _ := rfl

theorem write_eq_ok_iff {world after : Hosted Store} {var : Variable} {value : Value} :
    VariableStore.write world var value = .ok after ↔
      VariableStore.write world.store var value = .ok after.store ∧ after.tree = world.tree := by
  rcases after with ⟨store, tree⟩
  simp only [VariableStore.write]
  cases VariableStore.write world.store var value with
  | error error => simp [Except.map]
  | ok written => simp [Except.map, eq_comm]

theorem delete_eq_ok_iff {world after : Hosted Store} {var : Variable} {was : Bool} :
    VariableStore.delete world var = .ok (was, after) ↔
      VariableStore.delete world.store var = .ok (was, after.store) ∧ after.tree = world.tree := by
  rcases after with ⟨store, tree⟩
  simp only [VariableStore.delete]
  cases VariableStore.delete world.store var with
  | error error => simp [Except.map]
  | ok deleted =>
      rcases deleted with ⟨found, removed⟩
      simp [Except.map, eq_comm, and_assoc]

instance [LawfulStore Store] : LawfulStore (Hosted Store) where
  read_written {world after var value found} plain readable written := by
    have reads : VariableStore.read after.store var = .ok (some value) :=
      LawfulStore.read_written plain readable (write_eq_ok_iff.mp written).1
    exact reads
  read_other_written {world after var other value} plain otherPlain different written := by
    have reads : VariableStore.read after.store other = VariableStore.read world.store other :=
      LawfulStore.read_other_written plain otherPlain different (write_eq_ok_iff.mp written).1
    exact reads
  read_deleted {world after var was found} plain readable deleted := by
    have reads : VariableStore.read after.store var = .ok none :=
      LawfulStore.read_deleted plain readable (delete_eq_ok_iff.mp deleted).1
    exact reads
  read_other_deleted {world after var other was} plain otherPlain different deleted := by
    have reads : VariableStore.read after.store other = VariableStore.read world.store other :=
      LawfulStore.read_other_deleted plain otherPlain different (delete_eq_ok_iff.mp deleted).1
    exact reads

end Hosted

namespace Efivars

/-- Where a variable is found, the directory of the variables exists. -/
theorem exists_root_of_read {store : Efivars} {var : Variable} {value : Value}
    (plain : var.IsPlain) (found : VariableStore.read store var = .ok (some value)) :
    ∃ parent, store.tree.directoryPlace store.root = .ok parent ∧
      store.tree.node? parent = some .directory := by
  change store.read var = _ at found
  rw [read_eq] at found
  cases looked : store.tree.lookup (store.path var) with
  | error refusal =>
      by_cases missing : refusal = .notFound
      · subst missing
        cases (valueAt_of_missing looked).symm.trans found
      · cases (valueAt_of_refused missing looked).symm.trans found
  | ok node =>
      rcases FileTree.lookup_eq_ok_iff.mp looked with ⟨place, resolved, _⟩
      rcases FileTree.exists_directory_of_resolve (isEntry_fileName plain) resolved with
        ⟨parent, walked, isDirectory, _⟩
      exact ⟨parent, walked, isDirectory⟩

instance : KeyFilesApart Efivars where
  read_withFiles {store tree directory index key var seen value} plain seenPlain found written := by
    rcases exists_root_of_read plain found with ⟨root, walked, isRoot⟩
    rcases FileTree.changesOnly_of_write written with ⟨place, resolved, changes, _⟩
    rcases FileTree.exists_directory_of_resolve (Export.isEntry_fileName index) resolved with
      ⟨parent, _, _, rfl⟩
    -- The file that is written is an entry of some directory, maybe of that with the variables, but
    -- then under another name than those of the variables.
    have elsewhere : root ++ [fileName seen] ≠ parent ++ [Export.fileName index] := by
      intro same
      have sameName := (List.append_inj' same rfl).2
      rw [List.cons.injEq] at sameName
      exact Export.fileName_ne_variable index seen sameName.1.symm
    have sameFind : tree.find (store.path seen) = store.tree.find (store.path seen) :=
      changes.find_join_of_ne (isEntry_fileName seenPlain) walked isRoot elsewhere
    apply read_congr
    rw [FileTree.lookup_eq_find, FileTree.lookup_eq_find, sameFind]

end Efivars

namespace Export

/-- An export that does not fail affects no variable, if there is one. -/
theorem read_exportEntries {Store : Type} [VariableStore Store] [HasFiles Store]
    [KeyFilesApart Store] {machine after : Machine Store} {device : Device} {directory : String}
    {number : Nat} {entries : List SignatureList.Entry} {paths : List String}
    {var seen : Variable} {value : Value} (plain : var.IsPlain) (seenPlain : seen.IsPlain)
    (found : VariableStore.read machine.store var = .ok (some value))
    (ran : Attempt.outcome (exportEntries device directory number entries) machine =
      (.ok paths, after)) :
    VariableStore.read after.store seen = VariableStore.read machine.store seen := by
  induction entries generalizing number machine paths after with
  | nil =>
      cases ran
      rfl
  | cons entry later ih =>
      by_cases certificate : entry.kind = .x509
      · have creates := FileTree.Step.createOutcome device (path directory number) entry.payload
          (HasFiles.files machine.store)
        rw [outcome_exportEntries_cons certificate] at ran
        generalize (FileTree.Step.create _ entry.payload).outcome device _ = created at ran creates
        cases creates with
        | stopped => cases ran
        | interrupted => cases ran
        | @created tree written =>
            have same (other : Variable) (otherPlain : other.IsPlain) :=
              KeyFilesApart.read_withFiles plain otherPlain found written
            simp only [Prod.mk.injEq] at ran
            rcases ran with ⟨succeeded, rfl⟩
            rcases rest : Attempt.outcome (exportEntries device directory (number + 1) later)
              (machine.advance (HasFiles.withFiles machine.store tree) []) with
              ⟨error | others, final⟩
            · rw [rest] at succeeded
              cases succeeded
            · rw [← same seen seenPlain]
              exact ih ((same var plain).trans found) rest
      · rw [outcome_exportEntries_cons_digest certificate] at ran
        change VariableStore.read after.store seen = VariableStore.read
          (machine.advance machine.store [.noted (.hashNotExported number)]).store seen
        exact ih found ran

end Export

end OwnerKeys
