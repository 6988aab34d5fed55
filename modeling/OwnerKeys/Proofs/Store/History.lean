import Mathlib.Data.List.Induction
import OwnerKeys.Proofs.Store.Changes
import OwnerKeys.Proofs.Store.SortedMap
import OwnerKeys.Proofs.Text.GuidOrder

/-!
# Memory after a history of calls

What a store in memory holds is told by the calls that were made since it was empty: a variable has
the value of the last write to it, unless it was deleted or everything was removed after that. A
last call more decides about the variables that it affects and about no others, and so the whole
history does. The entries are those values, each once, and in the order of the variables.
-/

namespace OwnerKeys

namespace Variable

/-- What variables are compared by: the bytes of the name, then the parts of the vendor. -/
def orderKey (var : Variable) : Bytes × UInt32 × UInt16 × UInt16 × Bytes :=
  (var.nameBytes, var.vendor.data1, var.vendor.data2, var.vendor.data3, var.vendor.data4.toList)

/-- One variable precedes another if its name does so byte by byte. For equal names the first part
in which the vendors differ decides: three numbers, and then eight bytes. -/
def Precedes (left right : Variable) : Prop :=
  Prod.Lex (· < ·) (Prod.Lex (· < ·) (Prod.Lex (· < ·) (Prod.Lex (· < ·) (· < ·))))
    left.orderKey right.orderKey

theorem lt_iff_precedes {left right : Variable} : left < right ↔ left.Precedes right := by
  have bytes (data other : Bytes) : data.map UInt8.toNat < other.map UInt8.toNat ↔ data < other :=
    map_lt_map_iff (fun _ _ => UInt8.lt_iff_toNat_lt.symm) fun _ _ => UInt8.toNat_inj.mp
  show (left.nameBytes < right.nameBytes ∨
    left.nameBytes = right.nameBytes ∧ left.vendor.parts < right.vendor.parts) ↔ _
  simp only [Precedes, orderKey, Prod.lex_def, Guid.parts, List.cons_lt_cons_iff, bytes,
    UInt32.lt_iff_toNat_lt, UInt16.lt_iff_toNat_lt, UInt32.toNat_inj, UInt16.toNat_inj]

end Variable

namespace Memory

variable {memory : Memory} {var : Variable} {value : Value}

/-- A call that can change what a store in memory holds. -/
inductive Call where
  /-- One variable is written or deleted. -/
  | alter (change : Change)
  /-- All variables are removed. -/
  | clear

namespace Call

/-- A call affects the variable that it changes, or all of them. -/
def Affects (var : Variable) : Call → Prop
  | alter change => change.var = var
  | clear => True

/-- The store after a call. -/
def apply (memory : Memory) : Call → Except StoreError Memory
  | alter change => change.apply memory
  | clear => .ok memory.clear

/-- The store after calls that are made one after another. -/
def applyAll (memory : Memory) (history : List Call) : Except StoreError Memory :=
  history.foldlM apply memory

/-- The last call of a history that affects a variable has written it. -/
def LastWritten (history : List Call) (var : Variable) (value : Value) : Prop :=
  ∃ earlier later, history = earlier ++ .alter (.write var value) :: later ∧
    ∀ call ∈ later, ¬call.Affects var

/-! ## A last call more -/

theorem not_lastWritten_nil : ¬LastWritten [] var value := by
  rintro ⟨earlier, later, history, _⟩
  simp at history

/-- The last call has written a variable itself, or else it leaves the variable to those before. -/
theorem lastWritten_concat_iff {history : List Call} {last : Call} :
    LastWritten (history ++ [last]) var value ↔
      last = .alter (.write var value) ∨ ¬last.Affects var ∧ LastWritten history var value := by
  constructor
  · rintro ⟨earlier, later, whole, unaffected⟩
    rcases List.eq_nil_or_concat later with rfl | ⟨others, final, rfl⟩
    · exact .inl (List.cons.inj (List.append_inj_right' whole rfl)).1
    · rw [List.concat_eq_append, ← List.cons_append, ← List.append_assoc] at whole
      rw [List.concat_eq_append] at unaffected
      rcases List.append_inj' whole rfl with ⟨rfl, same⟩
      cases same
      refine .inr ⟨unaffected last (by simp), earlier, others, rfl, fun call mem => ?_⟩
      exact unaffected call (List.mem_append_left _ mem)
  · rintro (rfl | ⟨notLast, earlier, later, rfl, unaffected⟩)
    · exact ⟨history, [], rfl, nofun⟩
    · refine ⟨earlier, later ++ [last], by simp, fun call mem => ?_⟩
      rcases List.mem_append.mp mem with before | isLast
      · exact unaffected call before
      · rwa [List.mem_singleton.mp isLast]

/-- A call succeeds. Afterwards a variable has the value that the call has written, or else, if the
call does not affect the variable, the value from before. -/
theorem exists_apply (memory : Memory) (call : Call) :
    ∃ after, call.apply memory = .ok after ∧ ∀ var value, after.get? var = some value ↔
      call = .alter (.write var value) ∨ ¬call.Affects var ∧ memory.get? var = some value := by
  cases call with
  | alter change =>
      cases change with
      | write written new =>
          refine ⟨memory.insert written new, rfl, fun var value => ?_⟩
          rw [get?_insert]
          by_cases same : var = written
          · simp [same, Affects, Change.var]
          · simp [same, Ne.symm same, Affects, Change.var]
      | delete deleted =>
          refine ⟨memory.erase deleted, rfl, fun var value => ?_⟩
          rw [get?_erase]
          by_cases same : var = deleted
          · simp [same, Affects, Change.var]
          · simp [same, Ne.symm same, Affects, Change.var]
  | clear =>
      refine ⟨empty, rfl, fun var value => ?_⟩
      simp [Affects, get?, empty, SortedMap.get?, SortedMap.empty]

/-- A last call is made in the store that the others have left. -/
theorem applyAll_concat {history : List Call} {last : Call} {first middle after : Memory}
    (applied : applyAll first history = .ok middle) (appliedLast : last.apply middle = .ok after) :
    applyAll first (history ++ [last]) = .ok after := by
  rw [applyAll] at applied
  rw [applyAll, List.foldlM_append, applied]
  change (last.apply middle >>= pure) = _
  rw [appliedLast]
  rfl

/-- All calls of a history succeed, and what is found afterwards is what was written last. -/
theorem exists_applyAll (history : List Call) :
    ∃ memory, applyAll empty history = .ok memory ∧
      ∀ var value, memory.get? var = some value ↔ LastWritten history var value := by
  -- From the end, as the last call decides which of those before still matter.
  induction history using List.reverseRecOn with
  | nil =>
      refine ⟨empty, rfl, fun var value => iff_of_false ?_ not_lastWritten_nil⟩
      simp [get?, empty, SortedMap.get?, SortedMap.empty]
  | append_singleton history last ih =>
      rcases ih with ⟨memory, applied, found⟩
      rcases exists_apply memory last with ⟨after, appliedLast, foundAfter⟩
      refine ⟨after, applyAll_concat applied appliedLast, fun var value => ?_⟩
      rw [foundAfter, found, lastWritten_concat_iff]

end Call

/-! ## The store as a finite map -/

theorem mem_toList_iff : (var, value) ∈ memory.toList ↔ memory.get? var = some value :=
  SortedMap.mem_iff_lookup memory.values.sorted

theorem nodup_toList (memory : Memory) : (memory.toList.map Prod.fst).Nodup := by
  refine List.pairwise_map.mpr (memory.values.sorted.imp fun below same => ?_)
  exact LinearKey.irrefl _ (same ▸ below)

/-- A store is the finite map that a history of calls has made. -/
structure Recalls (history : List Call) (memory : Memory) : Prop where
  /-- Attributes and data are read as they were written last. -/
  read_eq_some_iff (var : Variable) (value : Value) :
    VariableStore.read memory var = .ok (some value) ↔ Call.LastWritten history var value
  /-- Nothing is read if the variable was never written, or was deleted or removed after that. -/
  read_eq_none_iff (var : Variable) :
    VariableStore.read memory var = .ok none ↔ ¬∃ value, Call.LastWritten history var value
  /-- Deleting says whether there was something to delete. -/
  exists_delete (var : Variable) : ∃ found after,
    VariableStore.delete memory var = .ok (found, after) ∧
      (found = true ↔ ∃ value, Call.LastWritten history var value)
  /-- A variable exists if something is read. -/
  exists_contains (var : Variable) : ∃ found, VariableStore.contains memory var = .ok found ∧
    (found = true ↔ ∃ value, VariableStore.read memory var = .ok (some value))
  /-- Variables of another name, or of another vendor, are read as before. -/
  read_other (change : Change) (after : Memory) (other : Variable) :
    change.apply memory = .ok after →
      (other.name ≠ change.var.name ∨ other.vendor ≠ change.var.vendor) →
        VariableStore.read after other = VariableStore.read memory other
  /-- The entries are what was written last. -/
  mem_entries_iff (var : Variable) (value : Value) :
    (var, value) ∈ memory.toList ↔ Call.LastWritten history var value
  /-- No variable is listed twice. -/
  nodup_entries : (memory.toList.map Prod.fst).Nodup
  /-- The entries are in the order of their variables. -/
  ordered : memory.toList.Pairwise fun left right => left.1.Precedes right.1

/-- Whatever calls are made from the empty store on, they succeed, and the store is the sorted
finite map of what was written last. -/
theorem recalls_history (history : List Call) :
    ∃ memory, Call.applyAll empty history = .ok memory ∧ Recalls history memory := by
  rcases Call.exists_applyAll history with ⟨memory, applied, found⟩
  have isSome (var : Variable) : (memory.get? var).isSome = true ↔
      ∃ value, Call.LastWritten history var value := by
    simp only [Option.isSome_iff_exists, found]
  refine ⟨memory, applied, ?_⟩
  exact {
    read_eq_some_iff := fun var value => by rw [read_eq, Except.ok.injEq, found]
    read_eq_none_iff := fun var => by
      rw [read_eq, Except.ok.injEq, ← isSome, Option.not_isSome_iff_eq_none]
    exists_delete := fun var => ⟨_, _, delete_eq memory var, isSome var⟩
    exists_contains := fun var => ⟨_, rfl, by simp [Option.isSome_iff_exists]⟩
    read_other := fun change after other changed different => by
      refine apart ?_ rfl changed
      rintro rfl
      rcases different with name | vendor
      · exact name rfl
      · exact vendor rfl
    mem_entries_iff := fun var value => mem_toList_iff.trans (found var value)
    nodup_entries := nodup_toList memory
    ordered := memory.values.sorted.imp Variable.lt_iff_precedes.mp }

/-- Vendors are compared as numbers: in memory the lower one of these has the higher first byte. -/
example :
    let low : Variable := ⟨"ключ", ⟨0x00ff, 0, 0, default⟩⟩
    let high : Variable := ⟨"ключ", ⟨0x0100, 0, 0, default⟩⟩
    (Call.applyAll empty [.alter (.write high default), .alter (.write low default)]).toOption.map
      (·.toList.map Prod.fst) = some [low, high] := by
  decide +kernel

end Memory

end OwnerKeys
