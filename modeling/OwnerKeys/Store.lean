import OwnerKeys.FileTree
import OwnerKeys.Variable
import OwnerKeys.Variable.Attributes

/-!
# Variable stores

A variable store holds the values of firmware variables. Reading, writing and deleting can fail;
reading never changes the store, and a failed operation has no store to continue with, so whoever
calls it keeps the store from before.
-/

namespace OwnerKeys

/-- What lies behind the failure of a store. -/
inductive StoreFault where
  /-- The failure of an action on a file. -/
  | file (error : FileError)
  /-- A failure of another kind, in its own words. -/
  | other (message : String)
deriving DecidableEq, Repr

/-- The wording of what lies behind a failure. -/
def StoreFault.message : StoreFault → String
  | file error => error.message
  | other message => message

/-- The failure of an operation of a store. -/
inductive StoreError where
  /-- The stored value has no room for its attributes. -/
  | tooShort (size : Nat)
  /-- The value could not be loaded. -/
  | load (fault : StoreFault)
  /-- The value could not be stored. -/
  | commit (fault : StoreFault)
  /-- The value could not be removed. -/
  | remove (fault : StoreFault)
deriving DecidableEq, Repr

namespace StoreError

/-- The wording of a failure. -/
def message : StoreError → String
  | tooShort size => s!"variable payload of {size} bytes is too short to contain attributes"
  | load _ => "error loading variable from storage"
  | commit _ => "error committing variable to storage"
  | remove _ => "error removing variable from storage"

/-- The wordings of the deeper causes of a failure. -/
def sources : StoreError → List String
  | tooShort _ => []
  | load fault | commit fault | remove fault => [fault.message]

end StoreError

/-- The operations of a store. -/
inductive StoreOperation where
  /-- Reading a variable. -/
  | read
  /-- Writing a variable. -/
  | write
  /-- Deleting a variable. -/
  | delete
deriving DecidableEq, Repr

namespace StoreOperation

/-- The name of an operation. -/
def name : StoreOperation → String
  | read => "read"
  | write => "write"
  | delete => "delete"

/-- The failure of an operation for a given reason. -/
def failure : StoreOperation → StoreFault → StoreError
  | read => .load
  | write => .commit
  | delete => .remove

end StoreOperation

/-- What holds firmware variables. -/
class VariableStore (Store : Type) where
  /-- The value of a variable, or nothing if the variable does not exist. -/
  read : Store → Variable → Except StoreError (Option Value)
  /-- The store with the value of a variable created or replaced. -/
  write : Store → Variable → Value → Except StoreError Store
  /-- The store without a variable, and whether the variable existed. -/
  delete : Store → Variable → Except StoreError (Bool × Store)

/-- Whether a variable exists. -/
def VariableStore.contains {Store : Type} [VariableStore Store] (store : Store) (var : Variable) :
    Except StoreError Bool :=
  (VariableStore.read store var).map Option.isSome

end OwnerKeys
