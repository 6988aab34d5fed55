import OwnerKeys.Proofs.Store.Calls
import OwnerKeys.Store.Efivars

/-!
# Operations on variables, call by call

An operation on a variable leaves the file tree alone until it opens the file for writing or removes
it. On a device that refuses nothing for the path of the variable, what is found in the tree decides
about everything, and the operations are those of the store.
-/

namespace OwnerKeys

namespace Efivars

/-! ## What is found in the tree -/

/-- What reading a variable at a path gives, if no device refuses it. -/
def valueAt (tree : FileTree) (path : String) : Except StoreError (Option Value) :=
  match tree.lookup path with
  | .error .notFound => .ok none
  | .error refusal => .error (.load (.file ⟨.openFile, path, refusal⟩))
  | .ok .directory => .error (.load (.file ⟨.readFile, path, .isDirectory⟩))
  | .ok (.file content) =>
    match valueOfFile? content with
    | some value => .ok (some value)
    | none => .error (.tooShort content.length)

/-- Whether the file at a path can be opened in order to clear a mark, if there is one and no device
refuses it. -/
def unprotected (tree : FileTree) (path : String) : Except StoreFault Unit :=
  match tree.lookup path with
  | .ok _ | .error .notFound => .ok ()
  | .error refusal => .error (.file ⟨.openFile, path, refusal⟩)

/-- The tree with a content at a path, if no device refuses it. -/
def replacement (tree : FileTree) (path : String) (content : Bytes) :
    Except StoreFault FileTree := do
  unprotected tree path
  (tree.write path content).mapError .file

/-- The tree without the file at a path, and whether there was one, if no device refuses it. -/
def removal (tree : FileTree) (path : String) : Except StoreFault (Bool × FileTree) := do
  unprotected tree path
  match tree.remove path with
  | .ok after => .ok (true, after)
  | .error error => if error.refusal = .notFound then .ok (false, tree) else .error (.file error)

section Found

-- Unfolding by equations would first have to prove them, which is slow for nested matches; so these
-- are the equations that are needed.
variable {tree : FileTree} {path : String} {refusal : Refusal} {content : Bytes}

theorem valueAt_of_missing (missing : tree.lookup path = .error .notFound) :
    valueAt tree path = .ok none := by
  delta valueAt
  simp only [missing]

theorem valueAt_of_refused (notMissing : refusal ≠ .notFound)
    (refused : tree.lookup path = .error refusal) :
    valueAt tree path = .error (.load (.file ⟨.openFile, path, refusal⟩)) := by
  delta valueAt
  cases refusal with
  | notFound => exact absurd rfl notMissing
  | _ => simp only [refused]

theorem valueAt_of_directory (isDirectory : tree.lookup path = .ok .directory) :
    valueAt tree path = .error (.load (.file ⟨.readFile, path, .isDirectory⟩)) := by
  delta valueAt
  simp only [isDirectory]

theorem valueAt_of_file (isFile : tree.lookup path = .ok (.file content)) :
    valueAt tree path = match valueOfFile? content with
      | some value => .ok (some value)
      | none => .error (.tooShort content.length) := by
  delta valueAt
  simp only [isFile]

theorem unprotected_of_ok {node : FileTree.Node} (found : tree.lookup path = .ok node) :
    unprotected tree path = .ok () := by
  delta unprotected
  simp only [found]

theorem unprotected_of_missing (missing : tree.lookup path = .error .notFound) :
    unprotected tree path = .ok () := by
  delta unprotected
  simp only [missing]

theorem unprotected_of_refused (notMissing : refusal ≠ .notFound)
    (refused : tree.lookup path = .error refusal) :
    unprotected tree path = .error (.file ⟨.openFile, path, refusal⟩) := by
  delta unprotected
  cases refusal with
  | notFound => exact absurd rfl notMissing
  | _ => simp only [refused]

theorem unprotected_of_resolve {place : FileTree.Path} (resolved : tree.resolve path = .ok place) :
    unprotected tree path = .ok () := by
  cases found : tree.node? place with
  | none => exact unprotected_of_missing (FileTree.lookup_eq_of_nothing resolved found)
  | some node =>
      exact unprotected_of_ok (FileTree.lookup_eq_ok_iff.mpr ⟨place, resolved, found⟩)

/-- Where a file can be written, clearing a mark is no obstacle. -/
theorem replacement_of_write {after : FileTree} (wrote : tree.write path content = .ok after) :
    replacement tree path content = .ok after := by
  rcases FileTree.write_eq_ok_iff.mp wrote with ⟨place, resolved, _⟩
  rw [replacement, unprotected_of_resolve resolved, wrote]
  rfl

theorem replacement_eq_ok_iff {after : FileTree} :
    replacement tree path content = .ok after ↔ tree.write path content = .ok after := by
  refine ⟨fun replaced => ?_, replacement_of_write⟩
  unfold replacement at replaced
  cases clears : unprotected tree path with
  | error fault =>
      rw [clears] at replaced
      cases replaced
  | ok done =>
      rw [clears] at replaced
      cases wrote : tree.write path content with
      | error error =>
          rw [wrote] at replaced
          cases replaced
      | ok written =>
          rw [wrote] at replaced
          cases replaced
          rfl

theorem removal_of_remove {after : FileTree} (removed : tree.remove path = .ok after) :
    removal tree path = .ok (true, after) := by
  rcases FileTree.changesOnly_of_remove removed with ⟨place, resolved, _⟩
  rw [removal, unprotected_of_resolve resolved, removed]
  rfl

theorem removal_of_missing (missing : tree.lookup path = .error .notFound) :
    removal tree path = .ok (false, tree) := by
  rw [removal, unprotected_of_missing missing, FileTree.remove_eq_of_missing missing]
  rfl

theorem removal_eq_ok_iff {found : Bool} {after : FileTree} :
    removal tree path = .ok (found, after) ↔
      found = true ∧ tree.remove path = .ok after ∨
        found = false ∧ tree.lookup path = .error .notFound ∧ after = tree := by
  constructor
  · intro removes
    unfold removal at removes
    cases clears : unprotected tree path with
    | error fault =>
        rw [clears] at removes
        cases removes
    | ok done =>
        rw [clears] at removes
        cases removed : tree.remove path with
        | ok without =>
            rw [removed] at removes
            cases removes
            exact .inl ⟨rfl, rfl⟩
        | error error =>
            rw [removed] at removes
            by_cases missing : error.refusal = .notFound
            · cases (if_pos missing).symm.trans removes
              exact .inr ⟨rfl, FileTree.lookup_eq_of_not_removed removed missing, rfl⟩
            · cases (if_neg missing).symm.trans removes
  · rintro (⟨rfl, removed⟩ | ⟨rfl, missing, rfl⟩)
    · exact removal_of_remove removed
    · exact removal_of_missing missing

end Found

/-! ## Operations on any device -/

namespace Steps

open FileTree (Step)
open FileTree.Step

variable {device : Device} {tree : FileTree} {root path : String} {var : Variable}

/-- The ways in which reading a variable can end. -/
inductive ReadOutcome (device : Device) (path : String) (tree : FileTree) :
    Except StoreError (Option Value) → Prop where
  /-- The file could not be read. -/
  | stopped {fault : StoreFault}
      (refused : device.Spares path → valueAt tree path = .error (.load fault)) :
      ReadOutcome device path tree (.error (.load fault))
  /-- There is no file. -/
  | absent (missing : tree.lookup path = .error .notFound) : ReadOutcome device path tree (.ok none)
  /-- The file has a value. -/
  | found {content : Bytes} {value : Value} (isFile : tree.lookup path = .ok (.file content))
      (isValue : valueOfFile? content = some value) :
      ReadOutcome device path tree (.ok (some value))
  /-- The file has no room for attributes. -/
  | short {content : Bytes} (isFile : tree.lookup path = .ok (.file content))
      (noValue : valueOfFile? content = none) :
      ReadOutcome device path tree (.error (.tooShort content.length))

/-- On a device that refuses nothing, what is read is what is there. -/
theorem ReadOutcome.eq_valueAt {result : Except StoreError (Option Value)}
    (reads : ReadOutcome device path tree result) (spares : device.Spares path) :
    result = valueAt tree path := by
  cases reads with
  | stopped refused => exact (refused spares).symm
  | absent missing => exact (valueAt_of_missing missing).symm
  | found isFile isValue => rw [valueAt_of_file isFile, isValue]
  | short isFile noValue => rw [valueAt_of_file isFile, noValue]

theorem readOutcome (device : Device) (tree : FileTree) (root : String) (var : Variable) :
    ∃ result, outcome (read root var) device tree = (result, tree) ∧
      ReadOutcome device (FileTree.join root (fileName var)) tree result := by
  unfold read
  generalize FileTree.join root (fileName var) = path
  rcases looked : device.lookup tree path with refusal | node
  · by_cases missing : refusal = .notFound
    · subst missing
      rw [outcome_bind_ok (mapError_of_ok (openIfExists_of_missing looked) _)]
      exact ⟨_, rfl, .absent (Device.lookup_eq_of_missing looked)⟩
    · have stops := openIfExists_of_refused missing looked
      rw [outcome_bind_error (mapError_of_error stops _)]
      refine ⟨_, rfl, .stopped fun spares => ?_⟩
      rw [spares.lookup_eq] at looked
      exact valueAt_of_refused missing looked
  · have found := Device.lookup_eq_of_ok looked
    rw [outcome_bind_ok (mapError_of_ok (openIfExists_of_ok looked) _)]
    rcases readToEnd_cases device tree path node with
      ⟨content, rfl, reads⟩ | ⟨error, fails, refused⟩
    · rw [outcome_bind_ok (mapError_of_ok reads _)]
      cases isValue : valueOfFile? content with
      | some value => exact ⟨_, rfl, .found found isValue⟩
      | none => exact ⟨_, rfl, .short found isValue⟩
    · rw [outcome_bind_error (mapError_of_error fails _)]
      refine ⟨_, rfl, .stopped fun spares => ?_⟩
      rcases refused spares with ⟨rfl, rfl⟩
      exact valueAt_of_directory found

theorem outcome_contains (device : Device) (tree : FileTree) (root : String) (var : Variable) :
    outcome (contains root var) device tree =
      ((outcome (read root var) device tree).1.map Option.isSome, tree) := by
  rcases readOutcome device tree root var with ⟨error | value, ran, _⟩
  · rw [ran]
    exact outcome_bind_error ran _
  · rw [ran]
    exact outcome_bind_ok ran _

/-- Clearing a mark leaves the tree alone. -/
theorem unprotect_cases (device : Device) (tree : FileTree) (path : String) :
    ∃ result, outcome (unprotect path) device tree = (result, tree) ∧
      (device.Spares path → result = unprotected tree path) := by
  unfold unprotect
  rcases looked : device.lookup tree path with refusal | node
  · by_cases missing : refusal = .notFound
    · subst missing
      rw [outcome_bind_ok (mapError_of_ok (openIfExists_of_missing looked) _)]
      refine ⟨_, rfl, fun _ => ?_⟩
      exact (unprotected_of_missing (Device.lookup_eq_of_missing looked)).symm
    · have stops := openIfExists_of_refused missing looked
      rw [outcome_bind_error (mapError_of_error stops _)]
      refine ⟨_, rfl, fun spares => ?_⟩
      rw [spares.lookup_eq] at looked
      exact (unprotected_of_refused missing looked).symm
  · rw [outcome_bind_ok (mapError_of_ok (openIfExists_of_ok looked) _),
      unprotected_of_ok (Device.lookup_eq_of_ok looked)]
    rcases unmark_cases device tree path with ⟨reason | done, ran, passes⟩
    · refine ⟨_, mapError_of_error ran _, fun spares => ?_⟩
      cases passes spares
    · exact ⟨_, mapError_of_ok ran _, fun _ => rfl⟩

/-- The ways in which writing a variable can end. -/
inductive WriteOutcome (device : Device) (path : String) (content : Bytes) (before : FileTree) :
    Except StoreFault Unit × FileTree → Prop where
  /-- The file has the content. -/
  | written {after : FileTree} (wrote : before.write path content = .ok after) :
      WriteOutcome device path content before (.ok (), after)
  /-- The file could not be opened, or its mark not be cleared. -/
  | stopped {fault : StoreFault}
      (refused : device.Spares path → replacement before path content = .error fault) :
      WriteOutcome device path content before (.error fault, before)
  /-- The file was opened, and then the device has refused something. -/
  | interrupted {place : FileTree.Path} {fault : StoreFault} {count : Nat}
      (resolved : before.resolve path = .ok place)
      (notDirectory : before.node? place ≠ some .directory) (incomplete : ¬device.Completes path)
      (fits : count ≤ content.length) :
      WriteOutcome device path content before (.error fault, torn before place content count)

theorem writeOutcome (device : Device) (tree : FileTree) (path : String) (content : Bytes) :
    WriteOutcome device path content tree (outcome (replace path content) device tree) := by
  unfold replace
  rcases unprotect_cases device tree path with ⟨fault | done, ran, agrees⟩
  · rw [outcome_bind_error ran]
    refine .stopped fun spares => ?_
    rw [replacement, ← agrees spares]
    rfl
  · have writes := FileTree.Step.writeOutcome device path content tree
    rw [outcome_bind_ok ran, outcome_mapError]
    generalize outcome _ device tree = ending at writes ⊢
    cases writes with
    | written wrote => exact .written wrote
    | stopped refused =>
        refine .stopped fun spares => ?_
        rw [replacement, ← agrees spares, refused spares]
        rfl
    | interrupted resolved notDirectory incomplete fits =>
        exact .interrupted resolved notDirectory incomplete fits

/-- On a device that refuses nothing, what is found in the tree decides. -/
theorem WriteOutcome.eq_replacement {content : Bytes} {ending : Except StoreFault Unit × FileTree}
    (writes : WriteOutcome device path content tree ending) (spares : device.Spares path) :
    ending = match replacement tree path content with
      | .ok after => (.ok (), after)
      | .error fault => (.error fault, tree) := by
  cases writes with
  | written wrote => rw [replacement_of_write wrote]
  | stopped refused => rw [refused spares]
  | interrupted _ _ incomplete _ => exact absurd spares.completes incomplete

/-- The ways in which deleting a variable can end. -/
inductive DeleteOutcome (device : Device) (path : String) (before : FileTree) :
    Except StoreFault Bool × FileTree → Prop where
  /-- The file was removed. -/
  | removed {after : FileTree} (removed : before.remove path = .ok after) :
      DeleteOutcome device path before (.ok true, after)
  /-- There is no file. -/
  | missing (missing : before.lookup path = .error .notFound) :
      DeleteOutcome device path before (.ok false, before)
  /-- The file could not be removed, or its mark not be cleared. -/
  | stopped {fault : StoreFault}
      (refused : device.Spares path → removal before path = .error fault) :
      DeleteOutcome device path before (.error fault, before)

theorem deleteOutcome (device : Device) (tree : FileTree) (path : String) :
    DeleteOutcome device path tree (outcome (remove path) device tree) := by
  unfold remove
  rcases unprotect_cases device tree path with ⟨fault | done, ran, agrees⟩
  · rw [outcome_bind_error ran]
    refine .stopped fun spares => ?_
    rw [removal, ← agrees spares]
    rfl
  · have removes := removeOutcome device path tree
    rw [outcome_bind_ok ran, outcome_mapError]
    generalize outcome _ device tree = ending at removes ⊢
    cases removes with
    | removed removed => exact .removed removed
    | missing missing => exact .missing missing
    | stopped notMissing refused =>
        refine .stopped fun spares => ?_
        rw [removal, ← agrees spares, refused spares]
        exact if_neg notMissing

/-- On a device that refuses nothing, what is found in the tree decides. -/
theorem DeleteOutcome.eq_removal {ending : Except StoreFault Bool × FileTree}
    (deletes : DeleteOutcome device path tree ending) (spares : device.Spares path) :
    ending = match removal tree path with
      | .ok (found, after) => (.ok found, after)
      | .error fault => (.error fault, tree) := by
  cases deletes with
  | removed removed => rw [removal_of_remove removed]
  | missing missing => rw [removal_of_missing missing]
  | stopped refused => rw [refused spares]

/-! Devices that refuse nothing for the path of a variable are all alike. -/

section Spared

variable (spares : device.Spares (FileTree.join root (fileName var)))

include spares

theorem outcome_read_of_spares :
    outcome (read root var) device tree =
      (valueAt tree (FileTree.join root (fileName var)), tree) := by
  rcases readOutcome device tree root var with ⟨result, ran, reads⟩
  rw [ran, reads.eq_valueAt spares]

theorem outcome_write_of_spares (value : Value) :
    outcome (write root var value) device tree =
      match replacement tree (FileTree.join root (fileName var)) (fileOfValue value) with
      | .ok after => (.ok (), after)
      | .error fault => (.error (.commit fault), tree) := by
  have writes := writeOutcome device tree (FileTree.join root (fileName var)) (fileOfValue value)
  rw [write, outcome_mapError, writes.eq_replacement spares]
  cases replacement tree (FileTree.join root (fileName var)) (fileOfValue value) with
  | ok after => rfl
  | error fault => rfl

theorem outcome_delete_of_spares :
    outcome (delete root var) device tree =
      match removal tree (FileTree.join root (fileName var)) with
      | .ok (found, after) => (.ok found, after)
      | .error fault => (.error (.remove fault), tree) := by
  have deletes := deleteOutcome device tree (FileTree.join root (fileName var))
  rw [delete, outcome_mapError, deletes.eq_removal spares]
  cases removal tree (FileTree.join root (fileName var)) with
  | ok result => rfl
  | error fault => rfl

end Spared

end Steps

/-! ## The store of files -/

section Store

variable (store : Efivars) (var : Variable) (value : Value) {device : Device}

theorem read_eq : store.read var = valueAt store.tree (store.path var) := by
  rw [read, Steps.outcome_read_of_spares (Device.sound_spares _), path]

theorem write_eq :
    store.write var value = match replacement store.tree (store.path var) (fileOfValue value) with
      | .ok tree => .ok { store with tree }
      | .error fault => .error (.commit fault) := by
  rw [write, Steps.outcome_write_of_spares (Device.sound_spares _), path]
  cases replacement store.tree (FileTree.join store.root (fileName var)) (fileOfValue value) with
  | ok tree => rfl
  | error fault => rfl

theorem delete_eq :
    store.delete var = match removal store.tree (store.path var) with
      | .ok (found, tree) => .ok (found, { store with tree })
      | .error fault => .error (.remove fault) := by
  rw [delete, Steps.outcome_delete_of_spares (Device.sound_spares _), path]
  cases removal store.tree (FileTree.join store.root (fileName var)) with
  | ok result => rfl
  | error fault => rfl

variable {store var value}

/-! On such a device the operations are those of the store. -/

theorem outcome_read_eq (spares : device.Spares (store.path var)) :
    (Steps.read store.root var).outcome device store.tree = (store.read var, store.tree) := by
  rw [Steps.outcome_read_of_spares spares, read_eq, path]

theorem outcome_write_eq (spares : device.Spares (store.path var)) :
    (Steps.write store.root var value).outcome device store.tree =
      match store.write var value with
      | .ok after => (.ok (), after.tree)
      | .error error => (.error error, store.tree) := by
  rw [Steps.outcome_write_of_spares spares, write_eq, path]
  cases replacement store.tree (FileTree.join store.root (fileName var)) (fileOfValue value) with
  | ok tree => rfl
  | error fault => rfl

theorem outcome_delete_eq (spares : device.Spares (store.path var)) :
    (Steps.delete store.root var).outcome device store.tree =
      match store.delete var with
      | .ok (found, after) => (.ok found, after.tree)
      | .error error => (.error error, store.tree) := by
  rw [Steps.outcome_delete_of_spares spares, delete_eq, path]
  cases removal store.tree (FileTree.join store.root (fileName var)) with
  | ok result => rfl
  | error fault => rfl

end Store

end Efivars

end OwnerKeys
