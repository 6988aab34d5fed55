import OwnerKeys.Proofs.Store.Laws
import OwnerKeys.Proofs.Store.Steps
import OwnerKeys.Proofs.Text.GuidText

/-!
# Variables in files keep what is written

Different variables have files of different names in one directory, so the store of files is a
lawful one. A file that could not be opened for reading cannot be written or removed either, so what
was written or deleted is seen.
-/

namespace OwnerKeys.Efivars

theorem toList_fileName (var : Variable) :
    (fileName var).toList = var.name.toList ++ '-' :: var.vendor.textChars := by
  have dash : "-".toList = ['-'] := by decide
  rw [fileName, Guid.text, String.toList_append, String.toList_append, dash, String.toList_ofList,
    List.append_assoc, List.singleton_append]

/-- The name of a file tells the variable, for the text of the vendor is as long as that of any
other. -/
theorem fileName_inj {var other : Variable} (same : fileName var = fileName other) :
    var = other := by
  have sameChars := congrArg String.toList same
  rw [toList_fileName, toList_fileName] at sameChars
  have sameLength : ('-' :: var.vendor.textChars).length =
      ('-' :: other.vendor.textChars).length := by
    simp
  rcases List.append_inj' sameChars sameLength with ⟨sameName, sameVendor⟩
  rw [List.cons.injEq] at sameVendor
  have vendor : var.vendor = other.vendor :=
    Guid.text_inj (congrArg String.ofList sameVendor.2)
  cases var
  cases other
  simp only [Variable.mk.injEq]
  exact ⟨String.toList_inj.mp sameName, vendor⟩

theorem isEntry_fileName {var : Variable} (plain : var.IsPlain) :
    FileTree.IsEntry (fileName var) := by
  apply FileTree.IsEntry.of_long
  · rw [toList_fileName, List.mem_append, List.mem_cons, not_or, not_or]
    exact ⟨plain, by decide, Guid.slash_notin_textChars var.vendor⟩
  · rw [toList_fileName, List.length_append, List.length_cons, Guid.length_textChars]
    omega

theorem zero_mem_fileName_iff {var : Variable} :
    '\x00' ∈ (fileName var).toList ↔ '\x00' ∈ var.name.toList := by
  have notDash : '\x00' ≠ '-' := by decide
  rw [toList_fileName]
  simp [notDash, Guid.zero_notin_textChars]

/-- Variables whose files have one place are one variable. -/
theorem eq_of_resolve_eq {store : Efivars} {var other : Variable} {place : FileTree.Path}
    (plain : var.IsPlain) (otherPlain : other.IsPlain)
    (resolved : store.tree.resolve (store.path var) = .ok place)
    (otherResolved : store.tree.resolve (store.path other) = .ok place) : var = other := by
  rcases FileTree.exists_directory_of_resolve (isEntry_fileName plain) resolved with
    ⟨parent, found, _, rfl⟩
  rcases FileTree.exists_directory_of_resolve (isEntry_fileName otherPlain) otherResolved with
    ⟨otherParent, otherFound, _, samePlace⟩
  cases found.symm.trans otherFound
  exact fileName_inj (by simpa using samePlace)

@[simp]
theorem valueOfFile_fileOfValue (value : Value) :
    valueOfFile? (fileOfValue value) = some value := by
  simp [valueOfFile?, fileOfValue]

/-- A file with room for attributes holds a value. -/
theorem exists_value {content : Bytes} (room : 4 ≤ content.length) :
    ∃ value, content = fileOfValue value := by
  match content, room with
  | b0 :: b1 :: b2 :: b3 :: data, _ =>
    refine ⟨⟨⟨LittleEndian.word32 b0 b1 b2 b3⟩, data⟩, ?_⟩
    rw [fileOfValue, LittleEndian.ofUInt32_word32]
    rfl

/-- A write that succeeds has written the file. -/
theorem exists_written {store after : Efivars} {var : Variable} {value : Value}
    (written : store.write var value = .ok after) :
    ∃ tree, store.tree.write (store.path var) (fileOfValue value) = .ok tree ∧
      after = { store with tree } := by
  rw [write_eq] at written
  split at written
  · rename_i tree replaced
    cases written
    exact ⟨tree, replacement_eq_ok_iff.mp replaced, rfl⟩
  · cases written

/-- A deletion that succeeds has removed the file, unless there was none. -/
theorem removed_or_missing {store after : Efivars} {var : Variable} {was : Bool}
    (deleted : store.delete var = .ok (was, after)) :
    (∃ tree, store.tree.remove (store.path var) = .ok tree ∧ after = { store with tree }) ∨
      after = store ∧ store.tree.lookup (store.path var) = .error .notFound := by
  rw [delete_eq] at deleted
  split at deleted
  · rename_i found tree removes
    cases deleted
    rcases removal_eq_ok_iff.mp removes with ⟨_, removed⟩ | ⟨_, missing, rfl⟩
    · exact .inl ⟨tree, removed, rfl⟩
    · exact .inr ⟨rfl, missing⟩
  · cases deleted

section Changing

variable {store : Efivars} {var : Variable} {place : FileTree.Path}

/-- A variable can be written where no directory is in the way. -/
theorem exists_written_of_resolve (resolved : store.tree.resolve (store.path var) = .ok place)
    (notDirectory : store.tree.node? place ≠ some .directory) (value : Value) :
    ∃ tree, store.write var value = .ok { store with tree } ∧
      FileTree.ChangesOnly place store.tree tree ∧
      tree.node? place = some (.file (fileOfValue value)) := by
  have wrote : store.tree.write (store.path var) (fileOfValue value) =
      .ok (store.tree.withFile place (fileOfValue value)) :=
    FileTree.write_eq_ok_iff.mpr ⟨place, resolved, notDirectory, rfl⟩
  refine ⟨store.tree.withFile place (fileOfValue value), ?_,
    FileTree.changesOnly_withFile notDirectory _,
    FileTree.node?_withFile (FileTree.ne_nil_of_not_directory notDirectory) _⟩
  rw [write_eq, replacement_of_write wrote]

/-- A variable that has a file can be deleted, whatever is in it. -/
theorem exists_deleted_of_file {content : Bytes}
    (found : store.tree.lookup (store.path var) = .ok (.file content)) :
    ∃ tree place, store.delete var = .ok (true, { store with tree }) ∧
      store.tree.resolve (store.path var) = .ok place ∧
      FileTree.ChangesOnly place store.tree tree ∧ tree.node? place = none := by
  rcases FileTree.lookup_eq_ok_iff.mp found with ⟨place, resolved, isFile⟩
  rcases FileTree.exists_removed resolved isFile with ⟨tree, removed⟩
  rcases FileTree.changesOnly_of_remove removed with ⟨samePlace, resolvedToo, changes, gone⟩
  refine ⟨tree, samePlace, ?_, resolvedToo, changes, gone⟩
  rw [delete_eq, removal_of_remove removed]

end Changing

section Reading

variable {store : Efivars} {var other : Variable}

theorem read_of_file {value : Value}
    (found : store.tree.lookup (store.path var) = .ok (.file (fileOfValue value))) :
    VariableStore.read store var = .ok (some value) := by
  change store.read var = _
  rw [read_eq, valueAt_of_file found, valueOfFile_fileOfValue]

theorem read_of_missing (missing : store.tree.lookup (store.path var) = .error .notFound) :
    VariableStore.read store var = .ok none := by
  change store.read var = _
  rw [read_eq, valueAt_of_missing missing]

/-- Where the path leads to nothing, a deletion does nothing. -/
theorem delete_of_missing (missing : store.tree.lookup (store.path var) = .error .notFound) :
    store.delete var = .ok (false, store) := by
  rw [delete_eq, removal_of_missing missing]

/-- What is read depends on what is found at the path. -/
theorem read_congr {tree : FileTree}
    (same : tree.lookup (store.path var) = store.tree.lookup (store.path var)) :
    VariableStore.read { store with tree } var = VariableStore.read store var := by
  have samePath : path { store with tree } var = store.path var := rfl
  change read { store with tree } var = store.read var
  rw [read_eq, read_eq, samePath]
  unfold valueAt
  rw [same]

/-- A change of the file of one variable does not affect the others. -/
theorem read_of_changesOnly {tree : FileTree} {place : FileTree.Path} (plain : var.IsPlain)
    (otherPlain : other.IsPlain) (different : other ≠ var)
    (resolved : store.tree.resolve (store.path var) = .ok place)
    (changes : FileTree.ChangesOnly place store.tree tree) :
    VariableStore.read { store with tree } other = VariableStore.read store other :=
  read_congr (changes.lookup_join (isEntry_fileName plain) (isEntry_fileName otherPlain)
    (fun same => different (fileName_inj same)) resolved)

end Reading

theorem read_of_written {store after : Efivars} {var : Variable} {value : Value}
    (written : VariableStore.write store var value = .ok after) :
    VariableStore.read after var = .ok (some value) := by
  rcases exists_written written with ⟨tree, wrote, rfl⟩
  rcases FileTree.changesOnly_of_write wrote with ⟨place, resolved, changes, isFile⟩
  exact read_of_file (FileTree.lookup_eq_ok_iff.mpr ⟨place, changes.resolve resolved, isFile⟩)

theorem read_of_deleted {store after : Efivars} {var : Variable} {was : Bool}
    (deleted : VariableStore.delete store var = .ok (was, after)) :
    VariableStore.read after var = .ok none := by
  rcases removed_or_missing deleted with ⟨tree, removed, rfl⟩ | ⟨rfl, missing⟩
  · rcases FileTree.changesOnly_of_remove removed with ⟨place, resolved, changes, gone⟩
    exact read_of_missing (FileTree.lookup_eq_of_nothing (changes.resolve resolved) gone)
  · exact read_of_missing missing

instance : LawfulStore Efivars where
  read_written _ _ written := read_of_written written
  read_other_written plain otherPlain different written := by
    rcases exists_written written with ⟨tree, wrote, rfl⟩
    rcases FileTree.changesOnly_of_write wrote with ⟨place, resolved, changes, _⟩
    exact read_of_changesOnly plain otherPlain different resolved changes
  read_deleted _ _ deleted := read_of_deleted deleted
  read_other_deleted plain otherPlain different deleted := by
    rcases removed_or_missing deleted with ⟨tree, removed, rfl⟩ | ⟨rfl, _⟩
    · rcases FileTree.changesOnly_of_remove removed with ⟨place, resolved, changes, _⟩
      exact read_of_changesOnly plain otherPlain different resolved changes
    · rfl

instance : TransparentStore Efivars where
  read_of_written _ written := read_of_written written
  read_of_deleted _ deleted := read_of_deleted deleted

end OwnerKeys.Efivars
