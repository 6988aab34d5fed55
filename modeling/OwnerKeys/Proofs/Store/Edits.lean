import OwnerKeys.Proofs.Store.Efivars
import OwnerKeys.Proofs.Store.Independence

/-!
# Variables in files are independent

A change of a variable in files comes to an edit of one file, or to none. Which edit that is, and
whether the change fails, depends on nothing but what is found at the path of the variable, so it is
the same before and after other variables are changed. Edits of different files can be made in
either order, and so can changes of different variables.
-/

namespace OwnerKeys

namespace FileTree

/-- What becomes of a file tree. -/
inductive Edit where
  /-- Nothing. -/
  | keep
  /-- A file is created or replaced. -/
  | put (place : Path) (content : Bytes)
  /-- A file is removed. -/
  | remove (place : Path)

namespace Edit

/-- The place of the file, if there is one. -/
def place? : Edit → Option Path
  | keep => none
  | put place _ | remove place => some place

/-- The tree after an edit. -/
def apply (tree : FileTree) : Edit → FileTree
  | keep => tree
  | put place content => tree.withFile place content
  | remove place => { tree with nodes := tree.nodes.erase place }

/-- Edits of different files can be made in either order. -/
theorem apply_comm (tree : FileTree) {edit other : Edit}
    (different : ∀ place, edit.place? = some place → other.place? ≠ some place) :
    other.apply (edit.apply tree) = edit.apply (other.apply tree) := by
  have placesDiffer {place otherPlace : Path} (isPlace : edit.place? = some place)
      (isOther : other.place? = some otherPlace) : place ≠ otherPlace := by
    rintro rfl
    exact different place isPlace isOther
  cases edit with
  | keep => rfl
  | put place content =>
      cases other with
      | keep => rfl
      | put otherPlace otherContent =>
          exact congrArg (FileTree.mk · tree.home)
            (tree.nodes.insert_comm (placesDiffer rfl rfl) _ _)
      | remove otherPlace =>
          exact congrArg (FileTree.mk · tree.home)
            (tree.nodes.erase_insert_comm (placesDiffer rfl rfl).symm _).symm
  | remove place =>
      cases other with
      | keep => rfl
      | put otherPlace otherContent =>
          exact congrArg (FileTree.mk · tree.home)
            (tree.nodes.erase_insert_comm (placesDiffer rfl rfl) _)
      | remove otherPlace =>
          exact congrArg (FileTree.mk · tree.home) (tree.nodes.erase_comm place otherPlace)

/-- Where there is no directory, an edit changes nothing but its file. -/
theorem changesOnly {tree : FileTree} {edit : Edit} {place : Path}
    (isPlace : edit.place? = some place) (notDirectory : tree.node? place ≠ some .directory) :
    ChangesOnly place tree (edit.apply tree) := by
  cases edit with
  | keep => cases isPlace
  | put place content =>
      cases isPlace
      exact changesOnly_withFile notDirectory content
  | remove place =>
      cases isPlace
      refine ⟨rfl, notDirectory, fun other different => ?_⟩
      simp only [apply, node?, SortedMap.get?_erase, if_neg different]

end Edit

end FileTree

namespace Efivars

open FileTree (Edit)

/-- The edit that a change comes to, by the path of the variable and what is found there. -/
def editAt (path : String) (found : Except Refusal (FileTree.Path × Option FileTree.Node)) :
    Change → Except StoreError Edit
  | .write _ value =>
    match found with
    | .error refusal => .error (.commit (.file ⟨.openFile, path, refusal⟩))
    | .ok (_, some .directory) => .error (.commit (.file ⟨.openFile, path, .isDirectory⟩))
    | .ok (place, _) => .ok (.put place (fileOfValue value))
  | .delete _ =>
    match found with
    | .error .notFound | .ok (_, none) => .ok .keep
    | .error refusal => .error (.remove (.file ⟨.openFile, path, refusal⟩))
    | .ok (_, some .directory) => .error (.remove (.file ⟨.removeFile, path, .isDirectory⟩))
    | .ok (place, some (.file _)) => .ok (.remove place)

/-- The edit that a change comes to. -/
def editOf (store : Efivars) (change : Change) : Except StoreError Edit :=
  editAt (store.path change.var) (store.tree.find (store.path change.var)) change

/-- The store after an edit. -/
def edited (store : Efivars) (edit : Edit) : Efivars :=
  { store with tree := edit.apply store.tree }

theorem unprotected_eq_find (tree : FileTree) (path : String) :
    unprotected tree path = match tree.find path with
      | .ok _ | .error .notFound => .ok ()
      | .error refusal => .error (.file ⟨.openFile, path, refusal⟩) := by
  delta unprotected
  rw [FileTree.lookup_eq_find]
  rcases tree.find path with refusal | ⟨place, _ | node⟩
  · cases refusal <;> rfl
  · rfl
  · rfl

theorem write_eq_edited (store : Efivars) (var : Variable) (value : Value) :
    store.write var value = (store.editOf (.write var value)).map store.edited := by
  rw [write_eq, replacement, unprotected_eq_find]
  unfold editOf editAt FileTree.write FileTree.find Change.var
  cases store.tree.resolve (store.path var) with
  | error refusal => cases refusal <;> rfl
  | ok place =>
      simp only [Except.map]
      rcases store.tree.node? place with _ | ⟨content | _⟩
      · rfl
      · rfl
      · rfl

/-- A variable did not exist if deleting it comes to no edit. -/
theorem delete_eq_edited (store : Efivars) (var : Variable) :
    store.delete var = (store.editOf (.delete var)).map fun edit =>
      (edit.place?.isSome, store.edited edit) := by
  rw [delete_eq, removal, unprotected_eq_find]
  unfold editOf editAt FileTree.remove FileTree.find Change.var
  cases store.tree.resolve (store.path var) with
  | error refusal => cases refusal <;> rfl
  | ok place =>
      simp only [Except.map]
      rcases store.tree.node? place with _ | ⟨content | _⟩
      · rfl
      · rfl
      · rfl

theorem apply_eq_ok_iff {store after : Efivars} {change : Change} :
    change.apply store = .ok after ↔
      ∃ edit, store.editOf change = .ok edit ∧ after = store.edited edit := by
  have applied : change.apply store = (store.editOf change).map store.edited := by
    cases change with
    | write var value => exact write_eq_edited store var value
    | delete var =>
        change (store.delete var).map (·.2) = _
        rw [delete_eq_edited]
        cases store.editOf (.delete var) with
        | error error => rfl
        | ok edit => rfl
  rw [applied]
  cases store.editOf change with
  | error error => simp [Except.map]
  | ok edit => simp [Except.map, eq_comm]

section Edits

variable {store : Efivars} {change other : Change} {edit otherEdit : Edit}

/-- The file that is edited is the file of the variable, and no directory. -/
theorem resolve_of_editOf (planned : store.editOf change = .ok edit) {place : FileTree.Path}
    (isPlace : edit.place? = some place) :
    store.tree.resolve (store.path change.var) = .ok place ∧
      store.tree.node? place ≠ some .directory := by
  rcases found : store.tree.find (store.path change.var) with refusal | ⟨resolvedPlace, node⟩
  · rw [editOf, found] at planned
    cases change with
    | write var value => cases planned
    | delete var =>
        cases refusal with
        | notFound =>
            cases planned
            cases isPlace
        | _ => cases planned
  · rcases FileTree.find_eq_ok_iff.mp found with ⟨resolved, atPlace⟩
    rw [editOf, found] at planned
    have editPlace : resolvedPlace = place ∧ node ≠ some .directory := by
      rcases node with _ | ⟨content | _⟩
      · cases change with
        | write var value =>
            cases planned
            exact ⟨Option.some.inj isPlace, by simp⟩
        | delete var =>
            cases planned
            cases isPlace
      · cases change with
        | write var value =>
            cases planned
            exact ⟨Option.some.inj isPlace, by simp⟩
        | delete var =>
            cases planned
            exact ⟨Option.some.inj isPlace, by simp⟩
      · cases change <;> cases planned
    rcases editPlace with ⟨rfl, notDirectory⟩
    rw [atPlace]
    exact ⟨resolved, notDirectory⟩

variable (plain : change.var.IsPlain) (otherPlain : other.var.IsPlain)
  (different : other.var ≠ change.var)

include plain otherPlain different

/-- A change comes to the same edit after another variable was changed. -/
theorem editOf_edited (planned : store.editOf change = .ok edit) :
    (store.edited edit).editOf other = store.editOf other := by
  cases isPlace : edit.place? with
  | none =>
      cases edit with
      | keep => rfl
      | put place content => cases isPlace
      | remove place => cases isPlace
  | some place =>
      rcases resolve_of_editOf planned isPlace with ⟨resolved, notDirectory⟩
      have sameFind := (FileTree.Edit.changesOnly isPlace notDirectory).find_join
        (isEntry_fileName plain) (isEntry_fileName otherPlain)
        (fun same => different (fileName_inj same)) resolved
      exact congrArg (editAt (store.path other.var) · other) sameFind

/-- Edits for different variables can be made in either order. -/
theorem edited_comm (planned : store.editOf change = .ok edit)
    (otherPlanned : store.editOf other = .ok otherEdit) :
    (store.edited edit).edited otherEdit = (store.edited otherEdit).edited edit := by
  refine congrArg (Efivars.mk store.root) (FileTree.Edit.apply_comm store.tree ?_)
  intro place isPlace isOther
  have resolved := (resolve_of_editOf planned isPlace).1
  have otherResolved := (resolve_of_editOf otherPlanned isOther).1
  exact different (eq_of_resolve_eq otherPlain plain otherResolved resolved)

/-- The one change can still be made after the other one, and leads to the same. -/
theorem apply_edited (planned : store.editOf change = .ok edit)
    (otherPlanned : store.editOf other = .ok otherEdit) :
    change.apply (store.edited otherEdit) = .ok ((store.edited edit).edited otherEdit) := by
  refine apply_eq_ok_iff.mpr ⟨edit, ?_, edited_comm plain otherPlain different planned otherPlanned⟩
  rw [editOf_edited otherPlain plain different.symm otherPlanned, planned]

end Edits

instance : IndependentStore Efivars where
  simulation {change} plain := by
    constructor
    · rintro before after other ⟨otherPlain, different⟩ changed
      exact (LawfulStore.apart plain otherPlain different rfl changed).symm
    · rintro before after other ⟨otherPlain, different⟩ changed value
      rcases apply_eq_ok_iff.mp changed with ⟨edit, planned, rfl⟩
      have otherPlainToo : (Change.write other value).var.IsPlain := otherPlain
      change Alike _ (before.write other value) ((before.edited edit).write other value)
      rw [write_eq_edited, write_eq_edited, editOf_edited plain otherPlainToo different planned]
      cases otherPlanned : before.editOf (.write other value) with
      | error error => exact .error error
      | ok otherEdit =>
          exact .ok (apply_edited plain otherPlainToo different planned otherPlanned)
    · rintro before after other ⟨otherPlain, different⟩ changed
      rcases apply_eq_ok_iff.mp changed with ⟨edit, planned, rfl⟩
      have otherPlainToo : (Change.delete other).var.IsPlain := otherPlain
      change Alike _ (before.delete other) ((before.edited edit).delete other)
      rw [delete_eq_edited, delete_eq_edited, editOf_edited plain otherPlainToo different planned]
      cases otherPlanned : before.editOf (.delete other) with
      | error error => exact .error error
      | ok otherEdit =>
          exact .ok ⟨rfl, apply_edited plain otherPlainToo different planned otherPlanned⟩

end Efivars

end OwnerKeys
