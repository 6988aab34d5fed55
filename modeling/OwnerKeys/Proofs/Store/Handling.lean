import OwnerKeys.Proofs.Store.Restoring

/-!
# Variables in files, whatever is found there

The root of the files need not be a directory, and what is found at the path of a variable need not
be a file that a store has written. The way to a variable leads to the root first, so what is found
at the root, together with what is found of its name there, tells what an operation meets: nothing,
a file, a directory or a refusal. Only nothing counts as an absent variable. A path that is too long
is a refusal of its own, so absence is promised for paths of a certain size only.

The device on which the files are may refuse any call. An operation that fails has then changed
nothing, save for a write: where the file was opened already, it can be new, or hold the front of
the new value before the rest of the old one. `absent_and_intact_fail` shows that neither exception
can be left out.
-/

namespace OwnerKeys

namespace FileTree

/-! ## A file in the directory -/

section Files

variable {tree : FileTree} {directory name : String} {refusal : Refusal}

/-- What stops the way to a file stops whoever opens it. -/
theorem lookup_join_of_stopped (entry : IsEntry name)
    (noZero : '\x00' ∉ (join directory name).toList)
    (short : (join directory name).utf8ByteSize ≤ maxPathLength)
    (stops : (tree.directoryPlace directory).bind (tree.follow · name) = .error refusal) :
    tree.lookup (join directory name) = .error refusal := by
  unfold lookup
  rw [resolve_join tree directory entry, if_neg (by simpa using noZero),
    join_ne_empty directory entry, if_neg Bool.false_ne_true, if_neg (Nat.not_lt.mpr short), stops]
  rfl

/-- If the way is not stopped by a missing name, opening the file does not fail for one either,
whatever else is wrong with the path. -/
theorem exists_lookup_join_of_stopped (entry : IsEntry name)
    (stops : (tree.directoryPlace directory).bind (tree.follow · name) = .error refusal)
    (notMissing : refusal ≠ .notFound) :
    ∃ other, other ≠ .notFound ∧ tree.lookup (join directory name) = .error other := by
  unfold lookup
  rw [resolve_join tree directory entry, join_ne_empty directory entry,
    if_neg Bool.false_ne_true, stops]
  split
  · exact ⟨.zeroByte, by decide, rfl⟩
  · split
    · exact ⟨.nameTooLong, by decide, rfl⟩
    · exact ⟨refusal, notMissing, rfl⟩

/-- A path is no shorter than those of which it is made. -/
theorem size_le_size_join (directory : String) (entry : IsEntry name) :
    directory.utf8ByteSize + name.utf8ByteSize ≤ (join directory name).utf8ByteSize := by
  simp only [join, entry.not_isAbsolute, Bool.false_eq_true, false_or]
  split
  · rename_i empty
    have nothing : directory.utf8ByteSize = 0 := by simp [String.isEmpty_iff.mp empty]
    omega
  · split
    · exact Nat.le_of_eq String.utf8ByteSize_append.symm
    · rw [String.utf8ByteSize_append, String.utf8ByteSize_append]
      omega

theorem follow_of_nothing {place : Path} (nothing : tree.node? place = none) :
    tree.follow place name = .error .notFound := by
  simp only [follow, nothing]

theorem follow_of_file {place : Path} {content : Bytes}
    (isFile : tree.node? place = some (.file content)) :
    tree.follow place name = .error .notDirectory := by
  simp only [follow, isFile]

theorem exists_content_of_remove {after : FileTree} {path : String}
    (removed : tree.remove path = .ok after) :
    ∃ content, tree.lookup path = .ok (.file content) := by
  unfold remove at removed
  split at removed
  · cases removed
  · rename_i place resolved
    split at removed
    · rename_i content isFile
      exact ⟨content, lookup_eq_ok_iff.mpr ⟨place, resolved, isFile⟩⟩
    · cases removed
    · cases removed

end Files

end FileTree

namespace Efivars

open FileTree (directoryText DirectoryLookup)

/-! ## What stands in the way of a variable -/

/-- There is no root, or the root is a directory in which a variable has no file. -/
inductive NoFile (root : String) (tree : FileTree) (var : Variable) : Prop where
  /-- The root does not exist. -/
  | noRoot (missing : tree.lookup (directoryText root) = .error .notFound)
  /-- The directory has no such entry, though it could have one. -/
  | noEntry {place : FileTree.Path} (resolved : tree.resolve (directoryText root) = .ok place)
      (isDirectory : tree.node? place = some .directory)
      (shortName : (fileName var).utf8ByteSize ≤ FileTree.maxNameLength)
      (nothing : tree.node? (place ++ [fileName var]) = none)

/-- The root is a file, or something on the way to it is. -/
def Blocked (root : String) (tree : FileTree) : Prop :=
  (∃ content, tree.lookup (directoryText root) = .ok (.file content)) ∨
    tree.lookup (directoryText root) = .error .notDirectory

section Root

variable {root : String} {tree : FileTree} {var : Variable}

theorem zero_notin_path (plain : var.IsPlain) (noZero : '\x00' ∉ var.name.toList)
    {found : Except Refusal FileTree.Node} (looked : tree.lookup (directoryText root) = found)
    (noZeroRoot : found ≠ .error .zeroByte) :
    '\x00' ∉ (FileTree.join root (fileName var)).toList := by
  have inText := FileTree.zero_notin_of_lookup looked noZeroRoot
  rw [FileTree.mem_join_iff root (isEntry_fileName plain) (by decide), zero_mem_fileName_iff,
    not_or]
  refine ⟨?_, noZero⟩
  by_cases empty : root.isEmpty
  · simp [String.isEmpty_iff.mp empty]
  · rwa [directoryText, if_neg empty] at inText

/-- A variable without a file is not found. -/
theorem NoFile.lookup_eq (noFile : NoFile root tree var) (plain : var.IsPlain)
    (noZero : '\x00' ∉ var.name.toList)
    (short : (FileTree.join root (fileName var)).utf8ByteSize ≤ FileTree.maxPathLength) :
    tree.lookup (FileTree.join root (fileName var)) = .error .notFound := by
  have entry := isEntry_fileName plain
  cases noFile with
  | noRoot missing =>
      have noZeroPath := zero_notin_path plain noZero missing (by decide)
      refine FileTree.lookup_join_of_stopped entry noZeroPath short ?_
      cases FileTree.directoryLookup missing (by decide) (by decide) with
      | stopped stops =>
          rw [stops]
          rfl
      | missing leads nothing =>
          rw [leads]
          exact FileTree.follow_of_nothing nothing
  | @noEntry place resolved isDirectory shortName nothing =>
      have looked : tree.lookup (directoryText root) = .ok .directory :=
        FileTree.lookup_eq_ok_iff.mpr ⟨place, resolved, isDirectory⟩
      have noZeroPath := zero_notin_path plain noZero looked (by simp)
      cases FileTree.directoryLookup looked (by simp) (by simp) with
      | directory leads isDirectoryToo resolvedToo =>
          cases resolved.symm.trans resolvedToo
          exact (FileTree.lookup_join_eq_notFound_iff entry leads isDirectory).mpr
            ⟨noZeroPath, short, shortName, nothing⟩

/-- Below a file there is no other one, and that is not the same as a missing one. -/
theorem Blocked.exists_lookup_eq (blocked : Blocked root tree) (plain : var.IsPlain) :
    ∃ refusal, refusal ≠ .notFound ∧
      tree.lookup (FileTree.join root (fileName var)) = .error refusal := by
  have stops : (tree.directoryPlace root).bind (tree.follow · (fileName var)) =
      .error .notDirectory := by
    rcases blocked with ⟨content, isFile⟩ | onTheWay
    · cases FileTree.directoryLookup isFile (by simp) (by simp) with
      | file leads found =>
          rw [leads]
          exact FileTree.follow_of_file found
    · cases FileTree.directoryLookup onTheWay (by decide) (by decide) with
      | stopped stops =>
          rw [stops]
          rfl
      | slashed leads found =>
          rw [leads]
          exact FileTree.follow_of_file found
  exact FileTree.exists_lookup_join_of_stopped (isEntry_fileName plain) stops (by decide)

end Root

/-! ## What the operations come to -/

section Operations

variable {tree : FileTree} {path : String} {store : Efivars} {var : Variable}

theorem valueOfFile?_of_short {content : Bytes} (short : content.length < 4) :
    valueOfFile? content = none := by
  match content, short with
  | [], _ | [_], _ | [_, _], _ | [_, _, _], _ => rfl

theorem short_of_valueOfFile? {content : Bytes} (noValue : valueOfFile? content = none) :
    content.length < 4 := by
  by_contra room
  rcases exists_value (Nat.le_of_not_lt room) with ⟨value, rfl⟩
  cases noValue.symm.trans (valueOfFile_fileOfValue value)

/-- What stops the way to a place is not that nothing is there. -/
theorem unresolved_of_refused {refusal : Refusal} (notMissing : refusal ≠ .notFound)
    (refused : tree.lookup path = .error refusal) (place : FileTree.Path) :
    tree.resolve path ≠ .ok place := by
  intro resolved
  cases found : tree.node? place with
  | none =>
      cases (FileTree.lookup_eq_of_nothing resolved found).symm.trans refused
      exact notMissing rfl
  | some node =>
      cases (FileTree.lookup_eq_ok_iff.mpr ⟨place, resolved, found⟩).symm.trans refused

end Operations

/-! ## All together -/

/-- From one tree to another, nothing has changed but what is found at the path of a variable. -/
def ChangesVariable (root : String) (var : Variable) (before after : FileTree) : Prop :=
  ∃ place, before.resolve (FileTree.join root (fileName var)) = .ok place ∧
    FileTree.ChangesOnly place before after

/-- The file of a variable has a content. -/
def HasFile (root : String) (var : Variable) (tree : FileTree) (content : Bytes) : Prop :=
  tree.lookup (FileTree.join root (fileName var)) = .ok (.file content)

/-- From one tree to another, nothing has changed but the file of a variable, which was not written
to the end: it has a front part of the content, and behind that part what was there before. -/
def TearsVariable (root : String) (var : Variable) (content : Bytes) (before after : FileTree) :
    Prop :=
  ∃ place, before.resolve (FileTree.join root (fileName var)) = .ok place ∧
    FileTree.ChangesOnly place before after ∧
    ∃ count ≤ content.length, after.node? place =
      some (.file (content.take count ++ (before.contentAt place).drop count))

section Endings

variable (device : Device) (root : String) (tree : FileTree) (var : Variable)

/-- What reading a variable, and asking whether it exists, come to. -/
structure ReadHandled (read : Except StoreError (Option Value) × FileTree)
    (contained : Except StoreError Bool × FileTree) : Prop where
  read_tree : read.2 = tree
  contained_tree : contained.2 = tree
  /-- Whether a variable exists is told by reading it. -/
  contained_eq : contained.1 = read.1.map Option.isSome
  /-- Reading fails for a file without room for attributes, and otherwise as a load. -/
  read_failed : ∀ error, read.1 = .error error → (∃ fault, error = .load fault) ∨
    ∃ content, HasFile root var tree content ∧ content.length < 4 ∧
      error = .tooShort content.length

/-- What writing a variable comes to. -/
structure WriteHandled (value : Value) (written : Except StoreError Unit × FileTree) : Prop where
  /-- A write that fails leaves the tree alone, unless the device stops it when the file is open. -/
  write_failed : ∀ error, written.1 = .error error → (∃ fault, error = .commit fault) ∧
    (written.2 = tree ∨ ¬device.Completes (FileTree.join root (fileName var)) ∧
      TearsVariable root var (fileOfValue value) tree written.2)
  /-- A write that succeeds leaves the four bytes of the attributes and the data, and nothing else
  has changed. -/
  write_done : written.1 = .ok () → ChangesVariable root var tree written.2 ∧
    HasFile root var written.2 (LittleEndian.ofUInt32 value.attributes.bits ++ value.data)

/-- What deleting a variable comes to. -/
structure DeleteHandled (deleted : Except StoreError Bool × FileTree) : Prop where
  /-- A deletion that fails leaves the tree alone. -/
  delete_failed : ∀ error, deleted.1 = .error error →
    deleted.2 = tree ∧ ∃ fault, error = .remove fault
  /-- A deletion that finds the variable has removed its file, and nothing else has changed. -/
  delete_found : deleted.1 = .ok true → (∃ content, HasFile root var tree content) ∧
    ChangesVariable root var tree deleted.2 ∧
    deleted.2.lookup (FileTree.join root (fileName var)) = .error .notFound
  /-- A deletion that does not find the variable leaves the tree alone. -/
  delete_missing : deleted.1 = .ok false → deleted.2 = tree

/-- What the operations on a variable come to where the device refuses nothing. -/
structure SpareHandled (read : Except StoreError (Option Value) × FileTree)
    (contained : Except StoreError Bool × FileTree)
    (written : Value → Except StoreError Unit × FileTree)
    (deleted : Except StoreError Bool × FileTree) : Prop where
  /-- They are those of the store. -/
  read_eq : read = (VariableStore.read (⟨root, tree⟩ : Efivars) var, tree)
  contained_eq : contained = (VariableStore.contains (⟨root, tree⟩ : Efivars) var, tree)
  written_eq : ∀ value, written value =
    match VariableStore.write (⟨root, tree⟩ : Efivars) var value with
    | .ok after => (.ok (), after.tree)
    | .error error => (.error error, tree)
  deleted_eq : deleted = match VariableStore.delete (⟨root, tree⟩ : Efivars) var with
    | .ok (found, after) => (.ok found, after.tree)
    | .error error => (.error error, tree)
  /-- A variable without a file is absent, if the operating system takes its path. -/
  absent : NoFile root tree var →
    (FileTree.join root (fileName var)).utf8ByteSize ≤ FileTree.maxPathLength →
    read.1 = .ok none ∧ contained.1 = .ok false ∧ deleted.1 = .ok false
  /-- A file without room for attributes cannot be read; it can be replaced and removed. -/
  short : ∀ content, HasFile root var tree content → content.length < 4 →
    read.1 = .error (.tooShort content.length) ∧
      contained.1 = .error (.tooShort content.length) ∧
      (∀ value, (written value).1 = .ok ()) ∧ deleted.1 = .ok true

/-- What the operations on a variable come to, call by call, on whatever tree and device. -/
structure Handled (read : Except StoreError (Option Value) × FileTree)
    (contained : Except StoreError Bool × FileTree)
    (written : Value → Except StoreError Unit × FileTree)
    (deleted : Except StoreError Bool × FileTree) : Prop extends
    ReadHandled root tree var read contained, DeleteHandled root tree var deleted where
  writing : ∀ value, WriteHandled device root tree var value (written value)
  spared : device.Spares (FileTree.join root (fileName var)) →
    SpareHandled root tree var read contained written deleted
  /-- A root that is a file makes everything fail. -/
  blocked : Blocked root tree → (∃ fault, read.1 = .error (.load fault)) ∧
    (∃ fault, contained.1 = .error (.load fault)) ∧
    (∀ value, ∃ fault, (written value).1 = .error (.commit fault)) ∧
    ∃ fault, deleted.1 = .error (.remove fault)

end Endings

section Handling

variable (device : Device) (root : String) (tree : FileTree) (var : Variable)

theorem readHandled : ReadHandled root tree var ((Steps.read root var).outcome device tree)
    ((Steps.contains root var).outcome device tree) := by
  rcases Steps.readOutcome device tree root var with ⟨result, ran, reads⟩
  rw [Steps.outcome_contains, ran]
  refine ⟨rfl, rfl, rfl, fun error failed => ?_⟩
  cases reads with
  | stopped _ =>
      cases failed
      exact .inl ⟨_, rfl⟩
  | absent _ => cases failed
  | found _ _ => cases failed
  | short isFile noValue =>
      cases failed
      exact .inr ⟨_, isFile, short_of_valueOfFile? noValue, rfl⟩

theorem writeHandled (value : Value) : WriteHandled device root tree var value
    ((Steps.write root var value).outcome device tree) := by
  have writes := Steps.writeOutcome device tree (FileTree.join root (fileName var))
    (fileOfValue value)
  rw [Steps.write, FileTree.Step.outcome_mapError]
  generalize (Steps.replace _ _).outcome device tree = ending at writes ⊢
  constructor
  · intro error failed
    cases writes with
    | written _ => cases failed
    | stopped _ =>
        cases failed
        exact ⟨⟨_, rfl⟩, .inl rfl⟩
    | @interrupted place _ count resolved notDirectory incomplete fits =>
        cases failed
        have notRoot := FileTree.ne_nil_of_not_directory notDirectory
        exact ⟨⟨_, rfl⟩, .inr ⟨incomplete, place, resolved,
          FileTree.changesOnly_withFile notDirectory _, count, fits,
          FileTree.node?_withFile notRoot _⟩⟩
  · intro succeeded
    cases writes with
    | written wrote =>
        rcases FileTree.changesOnly_of_write wrote with ⟨place, resolved, changes, isFile⟩
        exact ⟨⟨place, resolved, changes⟩,
          FileTree.lookup_eq_ok_iff.mpr ⟨place, changes.resolve resolved, isFile⟩⟩
    | stopped _ => cases succeeded
    | interrupted _ _ _ _ => cases succeeded

theorem deleteHandled :
    DeleteHandled root tree var ((Steps.delete root var).outcome device tree) := by
  have deletes := Steps.deleteOutcome device tree (FileTree.join root (fileName var))
  rw [Steps.delete, FileTree.Step.outcome_mapError]
  generalize (Steps.remove _).outcome device tree = ending at deletes ⊢
  constructor
  · intro error failed
    cases deletes with
    | removed _ => cases failed
    | missing _ => cases failed
    | stopped _ =>
        cases failed
        exact ⟨rfl, _, rfl⟩
  · intro succeeded
    cases deletes with
    | removed removed =>
        rcases FileTree.changesOnly_of_remove removed with ⟨place, resolved, changes, gone⟩
        exact ⟨FileTree.exists_content_of_remove removed, ⟨place, resolved, changes⟩,
          FileTree.lookup_eq_of_nothing (changes.resolve resolved) gone⟩
    | missing _ => cases succeeded
    | stopped _ => cases succeeded
  · intro succeeded
    cases deletes with
    | removed _ => cases succeeded
    | missing _ => rfl
    | stopped _ => rfl

variable {device root tree var}

theorem spareHandled (store : Efivars) (plain : var.IsPlain) (noZero : '\x00' ∉ var.name.toList)
    (spares : device.Spares (store.path var)) :
    SpareHandled store.root store.tree var ((Steps.read store.root var).outcome device store.tree)
      ((Steps.contains store.root var).outcome device store.tree)
      (fun value => (Steps.write store.root var value).outcome device store.tree)
      ((Steps.delete store.root var).outcome device store.tree) := by
  rw [Steps.outcome_contains, outcome_read_eq spares, outcome_delete_eq spares]
  refine ⟨rfl, rfl, fun value => outcome_write_eq spares, rfl, fun noFile fits => ?_,
    fun content isFile short => ?_⟩
  · have missing : store.tree.lookup (store.path var) = .error .notFound :=
      noFile.lookup_eq plain noZero fits
    have reads : store.read var = .ok none := read_of_missing missing
    rw [reads, delete_of_missing missing]
    exact ⟨rfl, rfl, rfl⟩
  · have reads : store.read var = .error (.tooShort content.length) := by
      rw [read_eq, path, valueAt_of_file isFile, valueOfFile?_of_short short]
    rcases FileTree.lookup_eq_ok_iff.mp isFile with ⟨place, resolved, found⟩
    rcases exists_deleted_of_file isFile with ⟨tree, _, deleted, _⟩
    rw [reads, deleted]
    refine ⟨rfl, rfl, fun value => ?_, rfl⟩
    rcases exists_written_of_resolve resolved (by simp [found]) value with ⟨tree, written, _⟩
    rw [outcome_write_eq spares, written]

/-- What stops the way to a variable makes everything fail, whatever the device does. -/
theorem fails_of_refused {refusal : Refusal} (notMissing : refusal ≠ .notFound)
    (refused : tree.lookup (FileTree.join root (fileName var)) = .error refusal) :
    (∃ fault, ((Steps.read root var).outcome device tree).1 = .error (.load fault)) ∧
      (∃ fault, ((Steps.contains root var).outcome device tree).1 = .error (.load fault)) ∧
      (∀ value, ∃ fault,
        ((Steps.write root var value).outcome device tree).1 = .error (.commit fault)) ∧
      ∃ fault, ((Steps.delete root var).outcome device tree).1 = .error (.remove fault) := by
  have reads : ∃ fault, ((Steps.read root var).outcome device tree).1 = .error (.load fault) := by
    rcases Steps.readOutcome device tree root var with ⟨result, ran, reads⟩
    rw [ran]
    cases reads with
    | stopped _ => exact ⟨_, rfl⟩
    | absent missing =>
        cases missing.symm.trans refused
        exact absurd rfl notMissing
    | found isFile _ => cases isFile.symm.trans refused
    | short isFile _ => cases isFile.symm.trans refused
  refine ⟨reads, ?_, fun value => ?_, ?_⟩
  · rcases reads with ⟨fault, failed⟩
    rw [Steps.outcome_contains, failed]
    exact ⟨fault, rfl⟩
  · have writes := Steps.writeOutcome device tree (FileTree.join root (fileName var))
      (fileOfValue value)
    rw [Steps.write, FileTree.Step.outcome_mapError]
    generalize (Steps.replace _ _).outcome device tree = ending at writes ⊢
    cases writes with
    | written wrote =>
        rcases FileTree.changesOnly_of_write wrote with ⟨place, resolved, _⟩
        exact absurd resolved (unresolved_of_refused notMissing refused place)
    | stopped _ => exact ⟨_, rfl⟩
    | interrupted _ _ _ _ => exact ⟨_, rfl⟩
  · have deletes := Steps.deleteOutcome device tree (FileTree.join root (fileName var))
    rw [Steps.delete, FileTree.Step.outcome_mapError]
    generalize (Steps.remove _).outcome device tree = ending at deletes ⊢
    cases deletes with
    | removed removed =>
        rcases FileTree.changesOnly_of_remove removed with ⟨place, resolved, _⟩
        exact absurd resolved (unresolved_of_refused notMissing refused place)
    | missing missing =>
        cases missing.symm.trans refused
        exact absurd rfl notMissing
    | stopped _ => exact ⟨_, rfl⟩

end Handling

/-- Whatever is found in a file tree, and whatever the device refuses, an operation on a variable
that fails does so in its own way. It has changed nothing, save for a write that the device has
stopped when the file was open. One that succeeds has changed the file of the variable at most. What
is found at the root and at the path of the variable tells which of these it is, where the device
refuses nothing. -/
theorem handled (device : Device) (root : String) (tree : FileTree) {var : Variable}
    (plain : var.IsPlain) (noZero : '\x00' ∉ var.name.toList) :
    Handled device root tree var ((Steps.read root var).outcome device tree)
      ((Steps.contains root var).outcome device tree)
      (fun value => (Steps.write root var value).outcome device tree)
      ((Steps.delete root var).outcome device tree) where
  toReadHandled := readHandled device root tree var
  toDeleteHandled := deleteHandled device root tree var
  writing := writeHandled device root tree var
  spared := spareHandled ⟨root, tree⟩ plain noZero
  blocked stops := by
    rcases stops.exists_lookup_eq plain with ⟨refusal, notMissing, refused⟩
    exact fails_of_refused notMissing refused

/-- A directory with a file of two bytes. -/
def shortFileTree : FileTree :=
  (FileTree.blank ["home"]).plant ["home", "efivars", fileName .pendingEnrollment] (.file [1, 2])

/-- A disk with room for a few bytes. -/
def crowdedDisk (room : Nat) : Device :=
  { Device.sound with room? := fun _ => some (room, "disk full") }

/-- The file cannot be read; it can be replaced. Where there is room for three bytes, the front of
the new value is left. -/
theorem handled_shortFile :
    let value : Value := ⟨.standard, [8]⟩
    let write := (Steps.write "efivars" .pendingEnrollment value).outcome
    let error : StoreError := .commit (.file
      ⟨.writeFile, "efivars/" ++ fileName .pendingEnrollment, .device "disk full"⟩)
    Variable.pendingEnrollment.IsPlain ∧ '\x00' ∉ Variable.pendingEnrollment.name.toList ∧
      ((Steps.read "efivars" .pendingEnrollment).outcome .sound shortFileTree).1 =
        .error (.tooShort 2) ∧
      HasFile "efivars" .pendingEnrollment (write .sound shortFileTree).2 (fileOfValue value) ∧
      (write (crowdedDisk 3) shortFileTree).1 = .error error ∧
      TearsVariable "efivars" .pendingEnrollment (fileOfValue value) shortFileTree
        (write (crowdedDisk 3) shortFileTree).2 := by
  intro value write error
  have plain : Variable.pendingEnrollment.IsPlain := by decide
  have noZero : '\x00' ∉ Variable.pendingEnrollment.name.toList := by decide
  have isFile : HasFile "efivars" .pendingEnrollment shortFileTree [1, 2] := by
    unfold HasFile
    decide +kernel
  have handles (device : Device) := handled device "efivars" shortFileTree plain noZero
  have short := ((handles .sound).spared (Device.sound_spares _)).short [1, 2] isFile (by decide)
  have written := (((handles .sound).writing value).write_done (short.2.2.1 value)).2
  have failed : (write (crowdedDisk 3) shortFileTree).1 = .error error := by decide +kernel
  rcases (((handles (crowdedDisk 3)).writing value).write_failed error failed).2 with
    same | ⟨_, torn⟩
  · have changed : ((write (crowdedDisk 3) shortFileTree).2.node?
        ["home", "efivars", fileName .pendingEnrollment]) ≠
          shortFileTree.node? ["home", "efivars", fileName .pendingEnrollment] := by
      decide +kernel
    rw [same] at changed
    exact absurd rfl changed
  · exact ⟨plain, noZero, short.1, written, failed, torn⟩

/-! ## Paths that are too long -/

/-- A path with slashes at its end. -/
def slashed (count : Nat) : String :=
  "efivars" ++ String.ofList (List.replicate count '/')

/-- An empty directory. -/
def emptyTree : FileTree :=
  (FileTree.blank ["home"]).plant ["home", "efivars"] .directory

theorem toList_slashed (count : Nat) :
    (slashed count).toList = "efivars".toList ++ List.replicate count '/' :=
  String.toList_append.trans (congrArg ("efivars".toList ++ ·) String.toList_ofList)

theorem utf8ByteSize_slashed (count : Nat) : (slashed count).utf8ByteSize = 7 + count := by
  have single : ∀ char ∈ List.replicate count '/', char.utf8Size = 1 := by
    intro char mem
    rw [List.eq_of_mem_replicate mem]
    decide
  rw [slashed, String.utf8ByteSize_append, utf8ByteSize_ofList single, List.length_replicate]
  rfl

theorem splitSlashes_replicate (count : Nat) :
    FileTree.splitSlashes (List.replicate count '/') = List.replicate (count + 1) [] := by
  induction count with
  | zero => rfl
  | succ count ih =>
      rw [List.replicate_succ, FileTree.splitSlashes, if_pos rfl, ih]
      rfl

/-- Every slash at the end stands for an empty name behind it. -/
theorem names_slashed (count : Nat) :
    FileTree.names (slashed count) = "efivars" :: List.replicate count "" := by
  have single : FileTree.splitSlashes "efivars".toList = ["efivars".toList] :=
    FileTree.splitSlashes_of_notin (by decide)
  rw [FileTree.names, toList_slashed]
  cases count with
  | zero =>
      rw [List.replicate_zero, List.append_nil, single]
      rfl
  | succ count =>
      rw [List.replicate_succ, FileTree.splitSlashes_append_slash, single, splitSlashes_replicate,
        List.map_append, List.map_replicate]
      rfl

theorem followAll_replicate {tree : FileTree} {place : FileTree.Path}
    (isDirectory : tree.node? place = some .directory) (count : Nat) :
    tree.followAll place (List.replicate count "") = .ok place := by
  induction count with
  | zero => rfl
  | succ count ih =>
      rw [List.replicate_succ, FileTree.followAll, FileTree.follow_here (.inl rfl), isDirectory]
      exact ih

theorem directoryText_slashed (count : Nat) : directoryText (slashed count) = slashed count := by
  refine if_neg fun empty => ?_
  have size := utf8ByteSize_slashed count
  rw [String.isEmpty_iff.mp empty, String.utf8ByteSize_empty] at size
  omega

theorem zero_notin_slashed (count : Nat) : '\x00' ∉ (slashed count).toList := by
  rw [toList_slashed, List.mem_append, not_or]
  exact ⟨by decide, fun mem => absurd (List.eq_of_mem_replicate mem) (by decide)⟩

theorem resolve_slashed {count : Nat} (fits : 7 + count ≤ FileTree.maxPathLength) :
    emptyTree.resolve (directoryText (slashed count)) = .ok ["home", "efivars"] := by
  have notEmpty := FileTree.directoryText_ne_empty (slashed count)
  rw [directoryText_slashed] at notEmpty ⊢
  have noZero : ¬(slashed count).toList.contains '\x00' = true := by
    simpa using zero_notin_slashed count
  have notAbsolute : FileTree.isAbsolute (slashed count) = false := by
    rw [FileTree.isAbsolute, toList_slashed]
    rfl
  have enters : emptyTree.follow emptyTree.home "efivars" = .ok ["home", "efivars"] := by
    decide +kernel
  rw [FileTree.resolve, if_neg noZero, notEmpty, if_neg Bool.false_ne_true,
    utf8ByteSize_slashed, if_neg (Nat.not_lt.mpr fits), notAbsolute, if_neg Bool.false_ne_true,
    names_slashed, FileTree.followAll, enters]
  exact followAll_replicate (by decide +kernel) count

/-- The path of an absent variable is not too long. -/
theorem size_le_of_absent {root : String} {tree : FileTree} {var : Variable} (plain : var.IsPlain)
    (absent : ((Steps.read root var).outcome .sound tree).1 = .ok none) :
    root.utf8ByteSize + (fileName var).utf8ByteSize ≤ FileTree.maxPathLength := by
  let store : Efivars := ⟨root, tree⟩
  have reads : store.read var = .ok none := absent
  have entry := isEntry_fileName plain
  have fits := (FileTree.resolve_of_lookup (FileTree.join_ne_empty _ entry)
    (read_eq_none_iff.mp reads) (by decide) (by decide)).1
  exact Nat.le_trans (FileTree.size_le_size_join root entry) fits

/-- Without the conditions on paths and devices, neither is true: that a variable without a file is
absent, and that a write that fails leaves the tree alone. On a full disk it leaves a new file. -/
theorem absent_and_intact_fail :
    (¬∀ (root : String) (tree : FileTree) (var : Variable), var.IsPlain →
      '\x00' ∉ var.name.toList → NoFile root tree var →
      ((Steps.read root var).outcome .sound tree).1 = .ok none) ∧
    ¬∀ (device : Device) (root : String) (tree : FileTree) (var : Variable) (value : Value)
      (error : StoreError), var.IsPlain → '\x00' ∉ var.name.toList →
      ((Steps.write root var value).outcome device tree).1 = .error error →
      ((Steps.write root var value).outcome device tree).2 = tree := by
  constructor
  · intro always
    have noFile : NoFile (slashed 4080) emptyTree .enrolledKeys :=
      .noEntry (resolve_slashed (by decide)) (by decide +kernel) (by decide) (by decide +kernel)
    have fits := size_le_of_absent (by decide)
      (always (slashed 4080) emptyTree .enrolledKeys (by decide) (by decide) noFile)
    rw [utf8ByteSize_slashed] at fits
    exact absurd fits (by decide)
  · intro intact
    let ending := (Steps.write "efivars" .enrolledKeys ⟨.standard, []⟩).outcome (crowdedDisk 0)
      emptyTree
    have failed : ending.1 = .error (.commit (.file
        ⟨.writeFile, "efivars/" ++ fileName .enrolledKeys, .device "disk full"⟩)) := by
      decide +kernel
    have created : ending.2.node? ["home", "efivars", fileName .enrolledKeys] =
        some (.file []) := by
      decide +kernel
    rw [intact _ _ _ _ _ _ (by decide) (by decide) failed] at created
    exact absurd created (by decide +kernel)

end Efivars

end OwnerKeys
