import OwnerKeys.Proofs.Store.Edits

/-!
# Stores that come back to what they were

A store is faithful if it holds nothing but the values that are read of it, as far as changes go:
changes after which every variable has its old value again leave the very same store behind. In
memory that is so because a sorted map is told by what is found in it. For variables in files it
rests on three facts: a change never adds or removes a directory, so the places of all files stay
the same; it leaves all other files alone; and the bytes of a file with a value are those of the
value.
-/

namespace OwnerKeys

/-- A store that holds nothing but what is read of it. -/
class FaithfulStore (Store : Type) [VariableStore Store] : Prop extends TransparentStore Store where
  /-- A deletion tells whether the variable existed. -/
  found_iff {store after : Store} {var : Variable} {found : Bool} (plain : var.IsPlain)
    (deleted : VariableStore.delete store var = .ok (found, after)) :
    found = true ↔ VariableStore.read store var ≠ .ok none
  /-- Deleting a variable that does not exist changes nothing. -/
  delete_of_absent {store : Store} {var : Variable} (plain : var.IsPlain)
    (absent : VariableStore.read store var = .ok none) :
    VariableStore.delete store var = .ok (false, store)
  /-- Changes that leave every variable with its old value leave the old store. -/
  eq_of_applyAll {before after : Store} {changes : List Change}
    (plain : ∀ change ∈ changes, change.var.IsPlain)
    (changed : Change.applyAll before changes = .ok after)
    (restored : ∀ change ∈ changes, ∃ value?,
      VariableStore.read before change.var = .ok value? ∧
        VariableStore.read after change.var = .ok value?) :
    after = before

/-! ## Memory -/

namespace Memory

theorem ext_get? {left right : Memory} (same : ∀ var, left.get? var = right.get? var) :
    left = right :=
  congrArg Memory.mk (SortedMap.ext_get? same)

theorem erase_of_absent {memory : Memory} {var : Variable} (absent : memory.get? var = none) :
    memory.erase var = memory := by
  refine ext_get? fun other => ?_
  rw [get?_erase]
  split
  · rename_i isVar
    rw [isVar, absent]
  · rfl

instance : FaithfulStore Memory where
  found_iff {store after var found} _ deleted := by
    rw [delete_eq, Except.ok.injEq, Prod.mk.injEq] at deleted
    rw [← deleted.1, read_eq]
    cases store.get? var with
    | none => simp
    | some value => simp
  delete_of_absent {store var} _ absent := by
    rw [read_eq, Except.ok.injEq] at absent
    rw [delete_eq, absent, erase_of_absent absent]
    rfl
  eq_of_applyAll {before after changes} _ changed restored := by
    refine ext_get? fun var => Except.ok.inj (?_ : VariableStore.read after var = _)
    by_cases touched : ∃ change ∈ changes, change.var = var
    · rcases touched with ⟨change, mem, rfl⟩
      rcases restored change mem with ⟨value?, readBefore, readAfter⟩
      rw [readAfter, ← readBefore, read_eq]
    · refine VariableStore.read_eq_of_applyAll (fun change mem => Memory.apart ?_) changed
      rintro rfl
      exact touched ⟨change, mem, rfl⟩

end Memory

/-! ## Files -/

theorem FileTree.Edit.get?_apply_of_ne {tree : FileTree} {edit : Edit} {other : Path}
    (elsewhere : edit.place? ≠ some other) :
    (edit.apply tree).nodes.get? other = tree.nodes.get? other := by
  cases edit with
  | keep => rfl
  | put place content =>
      have different : other ≠ place := by
        rintro rfl
        exact elsewhere rfl
      simp only [apply, withFile, SortedMap.get?_insert, if_neg different]
  | remove place =>
      have different : other ≠ place := by
        rintro rfl
        exact elsewhere rfl
      simp only [apply, SortedMap.get?_erase, if_neg different]

namespace Efivars

open FileTree (Edit)

theorem valueOfFile?_eq_some_iff {content : Bytes} {value : Value} :
    valueOfFile? content = some value ↔ content = fileOfValue value := by
  constructor
  · intro holds
    rcases Option.map_eq_some_iff.mp holds with ⟨⟨bits, data⟩, read, rfl⟩
    exact LittleEndian.eq_of_read32 read
  · rintro rfl
    exact valueOfFile_fileOfValue value

section Reading

variable {store : Efivars} {var : Variable}

/-- A variable does not exist if and only if nothing is found at its path. -/
theorem read_eq_none_iff :
    VariableStore.read store var = .ok none ↔
      store.tree.lookup (store.path var) = .error .notFound := by
  constructor
  · intro absent
    change store.read var = _ at absent
    rw [read_eq] at absent
    delta valueAt at absent
    split at absent
    · assumption
    · cases absent
    · cases absent
    · split at absent
      · cases absent
      · cases absent
  · exact read_of_missing

/-- A deletion that succeeds has removed a file, if the path led to anything. -/
theorem found_iff_lookup {after : Efivars} {found : Bool}
    (deleted : store.delete var = .ok (found, after)) :
    found = true ↔ store.tree.lookup (store.path var) ≠ .error .notFound := by
  simp only [delete_eq_edited, editOf, Change.var] at deleted
  rw [FileTree.lookup_eq_find]
  generalize store.tree.find (store.path var) = leadsTo at deleted ⊢
  rcases leadsTo with refusal | ⟨place, _ | ⟨content | _⟩⟩
  · cases refusal with
    | notFound =>
        cases deleted
        simp [Edit.place?]
    | _ => cases deleted
  · cases deleted
    simp [Edit.place?]
  · cases deleted
    simp [Edit.place?]
  · cases deleted

/-- A variable that can be read has no file, or the file of its value. -/
theorem node?_of_read {place : FileTree.Path} {value? : Option Value}
    (resolved : store.tree.resolve (store.path var) = .ok place)
    (readable : VariableStore.read store var = .ok value?) :
    store.tree.node? place = value?.map fun value => .file (fileOfValue value) := by
  have found := store.tree.lookup_eq_find (store.path var)
  simp only [FileTree.find, resolved, Except.map] at found
  change store.read var = _ at readable
  rw [read_eq] at readable
  delta valueAt at readable
  rw [found] at readable
  rcases node : store.tree.node? place with _ | ⟨content | _⟩
  · rw [node] at readable
    cases readable
    rfl
  · rw [node] at readable
    dsimp only at readable
    split at readable
    · rename_i value holds
      cases readable
      rw [valueOfFile?_eq_some_iff.mp holds]
      rfl
    · cases readable
  · rw [node] at readable
    cases readable

end Reading

/-- From one store to another, files were changed at the places of chosen variables only. -/
structure Reaches (touched : Variable → Prop) (before after : Efivars) : Prop where
  root_eq : after.root = before.root
  home_eq : after.tree.home = before.tree.home
  resolve_eq : ∀ var, var.IsPlain →
    after.tree.resolve (after.path var) = before.tree.resolve (before.path var)
  get?_eq : ∀ place,
    (∀ var, touched var → before.tree.resolve (before.path var) ≠ .ok place) →
    after.tree.nodes.get? place = before.tree.nodes.get? place

namespace Reaches

variable {touched : Variable → Prop} {before middle after : Efivars}

theorem refl (store : Efivars) : Reaches touched store store :=
  ⟨rfl, rfl, fun _ _ => rfl, fun _ _ => rfl⟩

theorem trans (plain : ∀ var, touched var → var.IsPlain) (first : Reaches touched before middle)
    (second : Reaches touched middle after) : Reaches touched before after where
  root_eq := second.root_eq.trans first.root_eq
  home_eq := second.home_eq.trans first.home_eq
  resolve_eq var isPlain := (second.resolve_eq var isPlain).trans (first.resolve_eq var isPlain)
  get?_eq place elsewhere := by
    rw [second.get?_eq place, first.get?_eq place elsewhere]
    intro var isTouched
    rw [first.resolve_eq var (plain var isTouched)]
    exact elsewhere var isTouched

theorem of_apply {change : Change} (plain : change.var.IsPlain) (isTouched : touched change.var)
    (changed : change.apply before = .ok after) : Reaches touched before after := by
  rcases apply_eq_ok_iff.mp changed with ⟨edit, planned, rfl⟩
  cases isPlace : edit.place? with
  | none =>
      cases edit with
      | keep => exact refl before
      | put place content => cases isPlace
      | remove place => cases isPlace
  | some place =>
      rcases resolve_of_editOf planned isPlace with ⟨resolved, notDirectory⟩
      have changes := Edit.changesOnly isPlace notDirectory
      rcases FileTree.exists_directory_of_resolve (isEntry_fileName plain) resolved with
        ⟨parent, found, isDirectory, _⟩
      refine ⟨rfl, changes.home_eq, fun var isPlain => ?_, fun other elsewhere => ?_⟩
      · exact changes.resolve_join_eq (isEntry_fileName isPlain) found isDirectory
      · apply Edit.get?_apply_of_ne
        rw [isPlace]
        intro same
        cases same
        exact elsewhere change.var isTouched resolved

theorem of_applyAll {changes : List Change} (plain : ∀ var, touched var → var.IsPlain)
    (allTouched : ∀ change ∈ changes, touched change.var)
    (changed : Change.applyAll before changes = .ok after) : Reaches touched before after := by
  induction changes generalizing before with
  | nil =>
      rw [Change.applyAll_nil_eq_ok_iff.mp changed]
      exact refl after
  | cons change later ih =>
      rcases Change.applyAll_cons_eq_ok_iff.mp changed with ⟨middle, first, rest⟩
      have isTouched := allTouched change List.mem_cons_self
      refine trans plain (of_apply (plain _ isTouched) isTouched first) (ih ?_ rest)
      exact fun other mem => allTouched other (List.mem_cons_of_mem _ mem)

/-- If all variables with a changed file have their old values, the files are the old ones. -/
theorem eq_of_read (plain : ∀ var, touched var → var.IsPlain)
    (reaches : Reaches touched before after)
    (restored : ∀ var, touched var → ∃ value?, VariableStore.read before var = .ok value? ∧
      VariableStore.read after var = .ok value?) : after = before := by
  have nodes : after.tree.nodes = before.tree.nodes := by
    refine SortedMap.ext_get? fun place => ?_
    by_cases elsewhere : ∀ var, touched var → before.tree.resolve (before.path var) ≠ .ok place
    · exact reaches.get?_eq place elsewhere
    · push Not at elsewhere
      rcases elsewhere with ⟨var, isTouched, resolved⟩
      have isPlain := plain var isTouched
      have resolvedAfter := (reaches.resolve_eq var isPlain).trans resolved
      rcases restored var isTouched with ⟨value?, readBefore, readAfter⟩
      rcases FileTree.exists_directory_of_resolve (isEntry_fileName isPlain) resolved with
        ⟨parent, _, _, isPlace⟩
      have notRoot : place ≠ [] := by simp [isPlace]
      rw [← FileTree.node?_eq_get notRoot, ← FileTree.node?_eq_get notRoot,
        node?_of_read resolvedAfter readAfter, node?_of_read resolved readBefore]
  rcases before with ⟨root, ⟨nodesBefore, home⟩⟩
  rcases after with ⟨rootAfter, ⟨nodesAfter, homeAfter⟩⟩
  cases reaches.root_eq
  cases reaches.home_eq
  cases nodes
  rfl

end Reaches

instance : FaithfulStore Efivars where
  found_iff _ deleted := (found_iff_lookup deleted).trans (not_congr read_eq_none_iff).symm
  delete_of_absent _ absent := delete_of_missing (read_eq_none_iff.mp absent)
  eq_of_applyAll {before after changes} plain changed restored := by
    have touchedPlain : ∀ var, (∃ change ∈ changes, change.var = var) → var.IsPlain := by
      rintro _ ⟨change, mem, rfl⟩
      exact plain change mem
    have reaches := Reaches.of_applyAll touchedPlain (fun change mem => ⟨change, mem, rfl⟩) changed
    refine reaches.eq_of_read touchedPlain ?_
    rintro _ ⟨change, mem, rfl⟩
    exact restored change mem

end Efivars

end OwnerKeys
