import OwnerKeys.Store

/-!
# Variables in memory

A store that keeps the values of the variables in a sorted finite map. Its operations never fail.
-/

namespace OwnerKeys

/-- A store in memory. -/
structure Memory where
  /-- The value of every variable that exists. -/
  values : SortedMap Variable Value

namespace Memory

/-- The store without variables. -/
def empty : Memory :=
  ⟨SortedMap.empty⟩

instance : Inhabited Memory := ⟨empty⟩

/-- The value of a variable. -/
def get? (memory : Memory) (var : Variable) : Option Value :=
  memory.values.get? var

/-- The variables that exist with their values, in the order of the variables. -/
def toList (memory : Memory) : List (Variable × Value) :=
  memory.values.entries

/-- The store after all variables were removed. -/
def clear (_memory : Memory) : Memory :=
  empty

instance : VariableStore Memory where
  read memory var := .ok (memory.get? var)
  write memory var value := .ok ⟨memory.values.insert var value⟩
  delete memory var := .ok ((memory.get? var).isSome, ⟨memory.values.erase var⟩)

/-- The store in which a variable has a value, whatever was there before. -/
def insert (memory : Memory) (var : Variable) (value : Value) : Memory :=
  ⟨memory.values.insert var value⟩

/-- The store without a variable. -/
def erase (memory : Memory) (var : Variable) : Memory :=
  ⟨memory.values.erase var⟩

/-- A written variable has its new value; the others keep theirs. -/
theorem get?_insert (memory : Memory) (var other : Variable) (value : Value) :
    (memory.insert var value).get? other = if other = var then some value else memory.get? other :=
  SortedMap.get?_insert memory.values var other value

/-- A deleted variable has no value; the others keep theirs. -/
theorem get?_erase (memory : Memory) (var other : Variable) :
    (memory.erase var).get? other = if other = var then none else memory.get? other :=
  SortedMap.get?_erase memory.values var other

@[simp]
theorem read_eq (memory : Memory) (var : Variable) :
    VariableStore.read memory var = .ok (memory.get? var) := rfl

@[simp]
theorem write_eq (memory : Memory) (var : Variable) (value : Value) :
    VariableStore.write memory var value = .ok (memory.insert var value) := rfl

@[simp]
theorem delete_eq (memory : Memory) (var : Variable) :
    VariableStore.delete memory var = .ok ((memory.get? var).isSome, memory.erase var) := rfl

end Memory

end OwnerKeys
