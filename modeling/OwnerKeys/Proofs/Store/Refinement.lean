import OwnerKeys.Proofs.Request.Services
import OwnerKeys.Proofs.Store.Efivars

/-!
# Variables in files are as good as variables in memory

A memory mirrors a directory of files if it holds, for every variable that is used, what the file of
the variable holds. Every call of the store is matched in memory, so the mirror stays a mirror, and
whatever is done through such calls has the same replies on files as in memory.
-/

namespace OwnerKeys

namespace Efivars

/-- The value that the file of a variable holds: its attributes in the first four bytes, the least
significant byte first, and then the data. -/
def stored (store : Efivars) (var : Variable) : Option Value :=
  match store.tree.lookup (store.path var) with
  | .ok (.file content) => valueOfFile? content
  | _ => none

/-- The path of a variable leads to nothing, or to a file with room for attributes. -/
def Usable (store : Efivars) (var : Variable) : Prop :=
  store.tree.lookup (store.path var) = .error .notFound ∨
    ∃ content, store.tree.lookup (store.path var) = .ok (.file content) ∧ 4 ≤ content.length

/-- A memory holds what the files in an existing directory hold, as far as variables are used. -/
structure Mirrored (root : String) (used : Variable → Prop) (store : Efivars) (memory : Memory) :
    Prop where
  root_eq : store.root = root
  isDirectory : store.tree.lookup store.root = .ok .directory
  usable : ∀ var, used var → store.Usable var
  get?_eq : ∀ var, used var → memory.get? var = store.stored var

/-- The path of a variable leads to nothing if and only if the operating system takes it and finds
nothing there: the name has no zero byte and at most 218 bytes, the path as a whole is not too long,
and nothing in the directory has the name of the file. -/
theorem lookup_eq_notFound_iff {store : Efivars} {var : Variable} {parent : FileTree.Path}
    (plain : var.IsPlain) (isDirectory : store.tree.lookup store.root = .ok .directory)
    (found : store.tree.directoryPlace store.root = .ok parent) :
    store.tree.lookup (store.path var) = .error .notFound ↔
      '\x00' ∉ var.name.toList ∧ var.name.utf8ByteSize ≤ 218 ∧
        (store.path var).utf8ByteSize ≤ FileTree.maxPathLength ∧
        store.tree.node? (parent ++ [fileName var]) = none := by
  have zero : '\x00' ∉ (store.path var).toList ↔ '\x00' ∉ var.name.toList := by
    have notinRoot := FileTree.zero_notin_of_lookup isDirectory (by simp)
    rw [path, FileTree.mem_join_iff store.root (isEntry_fileName plain) (by decide),
      zero_mem_fileName_iff]
    simp [notinRoot]
  have size : (fileName var).utf8ByteSize = var.name.utf8ByteSize + 37 := by
    have dash : "-".utf8ByteSize = 1 := by decide
    rw [fileName, String.utf8ByteSize_append, String.utf8ByteSize_append, dash,
      Guid.utf8ByteSize_text]
  have nameFits : (fileName var).utf8ByteSize ≤ FileTree.maxNameLength ↔
      var.name.utf8ByteSize ≤ 218 := by
    rw [size, FileTree.maxNameLength]
    omega
  rcases FileTree.exists_directoryPlace isDirectory with ⟨samePlace, foundToo, parentDirectory⟩
  cases found.symm.trans foundToo
  have missing := FileTree.lookup_join_eq_notFound_iff (isEntry_fileName plain) found
    parentDirectory
  rw [← zero, ← nameFits]
  constructor
  · intro nothing
    rcases missing.mp nothing with ⟨noZero, short, shortName, gone⟩
    exact ⟨noZero, shortName, short, gone⟩
  · rintro ⟨noZero, shortName, short, gone⟩
    exact missing.mpr ⟨noZero, short, shortName, gone⟩

section Stored

variable {store : Efivars} {var : Variable}

theorem stored_of_missing (missing : store.tree.lookup (store.path var) = .error .notFound) :
    store.stored var = none := by
  delta stored
  simp only [missing]

theorem stored_of_file {value : Value}
    (found : store.tree.lookup (store.path var) = .ok (.file (fileOfValue value))) :
    store.stored var = some value := by
  delta stored
  simp only [found, valueOfFile_fileOfValue]

/-- A variable that can be used has no file, or a file with a value. -/
theorem Usable.missing_or_file (usable : store.Usable var) :
    store.tree.lookup (store.path var) = .error .notFound ∨
      ∃ value, store.tree.lookup (store.path var) = .ok (.file (fileOfValue value)) := by
  rcases usable with missing | ⟨content, found, room⟩
  · exact .inl missing
  · rcases exists_value room with ⟨value, rfl⟩
    exact .inr ⟨value, found⟩

theorem usable_of_file {value : Value}
    (found : store.tree.lookup (store.path var) = .ok (.file (fileOfValue value))) :
    store.Usable var := by
  refine .inr ⟨_, found, ?_⟩
  rw [fileOfValue, List.length_append, LittleEndian.length_ofUInt32]
  omega

theorem Usable.read_eq (usable : store.Usable var) :
    VariableStore.read store var = .ok (store.stored var) := by
  rcases usable.missing_or_file with missing | ⟨value, found⟩
  · rw [read_of_missing missing, stored_of_missing missing]
  · rw [read_of_file found, stored_of_file found]

theorem Usable.exists_place (usable : store.Usable var) (plain : var.IsPlain)
    (isDirectory : store.tree.lookup store.root = .ok .directory) :
    ∃ place, store.tree.resolve (store.path var) = .ok place ∧
      (store.tree.node? place = none ∨
        ∃ content, store.tree.node? place = some (.file content)) := by
  rcases usable with missing | ⟨content, found, _⟩
  · rcases FileTree.exists_place_of_missing (isEntry_fileName plain) isDirectory missing with
      ⟨place, resolved, nothing⟩
    exact ⟨place, resolved, .inl nothing⟩
  · rcases FileTree.lookup_eq_ok_iff.mp found with ⟨place, resolved, isFile⟩
    exact ⟨place, resolved, .inr ⟨content, isFile⟩⟩

/-- A variable that can be used can be written. -/
theorem Usable.exists_written (usable : store.Usable var) (plain : var.IsPlain)
    (isDirectory : store.tree.lookup store.root = .ok .directory) (value : Value) :
    ∃ tree place, store.write var value = .ok { store with tree } ∧
      store.tree.resolve (store.path var) = .ok place ∧
      FileTree.ChangesOnly place store.tree tree ∧
      tree.node? place = some (.file (fileOfValue value)) := by
  rcases usable.exists_place plain isDirectory with ⟨place, resolved, nothing⟩
  have notDirectory : store.tree.node? place ≠ some .directory := by
    rcases nothing with nothing | ⟨content, isFile⟩
    · simp [nothing]
    · simp [isFile]
  rcases exists_written_of_resolve resolved notDirectory value with ⟨tree, written, changes, isFile⟩
  exact ⟨tree, place, written, resolved, changes, isFile⟩

end Stored

namespace Mirrored

variable {root : String} {used : Variable → Prop} {store : Efivars} {memory after : Memory}
  {var : Variable}

/-- When the file of a variable has changed, the others are mirrored as before. -/
theorem of_changesOnly (mirrored : Mirrored root used store memory)
    (plain : ∀ var, used var → var.IsPlain) (inUse : used var) {tree : FileTree}
    {place : FileTree.Path} (resolved : store.tree.resolve (store.path var) = .ok place)
    (changes : FileTree.ChangesOnly place store.tree tree)
    (others : ∀ other, other ≠ var → after.get? other = memory.get? other)
    (usable : Usable { store with tree } var)
    (own : after.get? var = stored { store with tree } var) :
    Mirrored root used { store with tree } after := by
  have sameLookup (other : Variable) (otherInUse : used other) (different : other ≠ var) :
      tree.lookup (path { store with tree } other) = store.tree.lookup (store.path other) :=
    changes.lookup_join (isEntry_fileName (plain var inUse))
      (isEntry_fileName (plain other otherInUse)) (fun same => different (fileName_inj same))
      resolved
  constructor
  · exact mirrored.root_eq
  · rcases FileTree.lookup_eq_ok_iff.mp mirrored.isDirectory with ⟨rootPlace, walked, isDirectory⟩
    exact FileTree.lookup_eq_ok_iff.mpr
      ⟨rootPlace, changes.resolve walked, changes.directory isDirectory⟩
  · intro other otherInUse
    by_cases same : other = var
    · rwa [same]
    · unfold Usable
      rw [sameLookup other otherInUse same]
      exact mirrored.usable other otherInUse
  · intro other otherInUse
    by_cases same : other = var
    · rwa [same]
    · rw [others other same, mirrored.get?_eq other otherInUse]
      unfold stored
      rw [sameLookup other otherInUse same]

end Mirrored

/-- Files answer like the memory that mirrors them. -/
theorem simulation {root : String} {used : Variable → Prop}
    (plain : ∀ var, used var → var.IsPlain) : Simulation used (Mirrored root used) where
  read_eq {store memory var} inUse mirrored := by
    rw [(mirrored.usable var inUse).read_eq, Memory.read_eq, mirrored.get?_eq var inUse]
  write {store memory var} inUse mirrored value := by
    rcases (mirrored.usable var inUse).exists_written (plain var inUse) mirrored.isDirectory
      value with
      ⟨tree, place, written, resolved, changes, isFile⟩
    have found : tree.lookup (path { store with tree } var) = .ok (.file (fileOfValue value)) :=
      FileTree.lookup_eq_ok_iff.mpr ⟨place, changes.resolve resolved, isFile⟩
    change Alike _ (store.write var value) _
    rw [written, Memory.write_eq]
    refine .ok (mirrored.of_changesOnly plain inUse resolved changes ?_ (usable_of_file found) ?_)
    · intro other different
      rw [Memory.get?_insert, if_neg different]
    · rw [Memory.get?_insert, if_pos rfl, stored_of_file found]
  delete {store memory var} inUse mirrored := by
    have others : ∀ other, other ≠ var → (memory.erase var).get? other = memory.get? other := by
      intro other different
      rw [Memory.get?_erase, if_neg different]
    change Alike _ (store.delete var) _
    rw [Memory.delete_eq, mirrored.get?_eq var inUse]
    rcases (mirrored.usable var inUse).missing_or_file with missing | ⟨value, found⟩
    · rw [delete_of_missing missing, stored_of_missing missing]
      refine .ok ⟨rfl, mirrored.root_eq, mirrored.isDirectory, mirrored.usable, ?_⟩
      intro other otherInUse
      by_cases same : other = var
      · rw [same, Memory.get?_erase, if_pos rfl, stored_of_missing missing]
      · rw [others other same, mirrored.get?_eq other otherInUse]
    · rcases exists_deleted_of_file found with ⟨tree, place, deleted, resolved, changes, gone⟩
      have missing : tree.lookup (path { store with tree } var) = .error .notFound :=
        FileTree.lookup_eq_of_nothing (changes.resolve resolved) gone
      rw [deleted, stored_of_file found]
      refine .ok ⟨rfl,
        mirrored.of_changesOnly plain inUse resolved changes others (.inl missing) ?_⟩
      rw [Memory.get?_erase, if_pos rfl, stored_of_missing missing]

/-- Whatever is done about variables that are used, with whatever the operator answers, has the same
replies, asks the same and calls the store in the same way on files as in memory, and the memory
still mirrors the files afterwards. In no directory do different variables share a file. -/
theorem run_eq_memory {root : String} {used : Variable → Prop}
    (plain : ∀ var, used var → var.IsPlain) {services : List Service}
    (inUse : ∀ service ∈ services, ∀ var ∈ service.touched, used var) {files : Machine Efivars}
    {memory : Machine Memory} (inStep : Machine.InStep (Mirrored root used) files memory) :
    ((Service.run files services).1 = (Service.run memory services).1 ∧
        Machine.InStep (Mirrored root used) (Service.run files services).2
          (Service.run memory services).2) ∧
      ∀ (store : Efivars) (var other : Variable) (place : FileTree.Path), var.IsPlain →
        other.IsPlain → store.tree.resolve (store.path var) = .ok place →
        store.tree.resolve (store.path other) = .ok place → var = other :=
  ⟨Service.run_agrees (simulation plain) inUse inStep,
    fun _ _ _ _ varPlain otherPlain => eq_of_resolve_eq varPlain otherPlain⟩

/-- The value of a variable. -/
def exportedValue : Value :=
  ⟨.standard, [1, 2, 3]⟩

/-- A directory with the file of one variable. -/
def exported : Efivars where
  root := "efivars"
  tree := (FileTree.blank ["home"]).plant ["home", "efivars", fileName .pendingEnrollment]
    (.file (fileOfValue exportedValue))

/-- A shorter value is written over the one in the file; the variable is deleted, a key is staged in
its place, and the request is taken back. -/
def chores : List Service :=
  [.write .pendingEnrollment ⟨.standard, [4]⟩, .read .pendingEnrollment,
    .delete .pendingEnrollment, .request (.issue .enroll [⟨"key", [1]⟩]),
    .request (.revoke .enroll)]

/-- The directory and the memory with the same variable cannot be told apart. -/
theorem run_eq_memory_exported :
    let used (var : Variable) : Prop := var ∈ Query.trustedLists ∨ var = .enrollmentTag
    let answers : List Answer := [.line "password", .line "password"]
    let files : Machine Efivars := ⟨exported, answers, []⟩
    let memory : Machine Memory :=
      ⟨Memory.empty.insert .pendingEnrollment exportedValue, answers, []⟩
    (∀ var, used var → var.IsPlain) ∧
      (∀ service ∈ chores, ∀ var ∈ service.touched, used var) ∧
      Machine.InStep (Mirrored "efivars" used) files memory ∧
      (Service.run files chores).1 = (Service.run memory chores).1 := by
  intro used answers files memory
  have plain : ∀ var, used var → var.IsPlain := by
    rintro var (listed | rfl)
    · revert var
      decide
    · decide
  have inUse : ∀ service ∈ chores, ∀ var ∈ service.touched, used var := by
    decide
  have missing : ∀ var, used var → var ≠ .pendingEnrollment →
      exported.tree.lookup (exported.path var) = .error .notFound := by
    rintro var (listed | rfl)
    · revert var
      decide +kernel
    · decide +kernel
  have found : exported.tree.lookup (exported.path .pendingEnrollment) =
      .ok (.file (fileOfValue exportedValue)) := by
    decide +kernel
  have mirrored : Mirrored "efivars" used exported memory.store := by
    constructor
    · rfl
    · decide +kernel
    · intro var varInUse
      by_cases hasFile : var = .pendingEnrollment
      · rw [hasFile]
        exact usable_of_file found
      · exact .inl (missing var varInUse hasFile)
    · intro var varInUse
      by_cases hasFile : var = .pendingEnrollment
      · rw [hasFile, stored_of_file found, Memory.get?_insert, if_pos rfl]
      · rw [stored_of_missing (missing var varInUse hasFile), Memory.get?_insert, if_neg hasFile]
        rfl
  have inStep : Machine.InStep (Mirrored "efivars" used) files memory := ⟨mirrored, rfl, rfl⟩
  exact ⟨plain, inUse, inStep, (run_eq_memory plain inUse inStep).1.1⟩

end Efivars

end OwnerKeys
