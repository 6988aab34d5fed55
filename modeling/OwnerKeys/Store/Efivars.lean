import OwnerKeys.FileTree.Steps
import OwnerKeys.Guid.Text
import OwnerKeys.Store

/-!
# Variables in files

The operating system shows firmware variables as files in one directory. The file of a variable is
named by the variable's name, a dash and the vendor; it holds the attributes as four bytes and then
the data. A file that does not exist is a variable that does not exist.

Before a file is written or removed it is opened for reading, in order to clear a mark that would
protect it. So whatever stops the file from being opened, save that it does not exist, stops the
operation.

`Steps` says what an operation does call by call, on whatever device. A write that the device stops
after the file was opened may leave a new file behind, or one with bytes of two values. A store of
variables has no such failures, so its files are those on a device that refuses nothing.
-/

namespace OwnerKeys

/-- A store whose variables are files. -/
structure Efivars where
  /-- The directory of the files, as the operator wrote it. -/
  root : String
  /-- The file tree in which the directory lies. -/
  tree : FileTree

namespace Efivars

/-- The name of the file of a variable. -/
def fileName (var : Variable) : String :=
  var.name ++ "-" ++ var.vendor.text

/-- The path of the file of a variable. -/
def path (store : Efivars) (var : Variable) : String :=
  FileTree.join store.root (fileName var)

/-- The bytes of a file with a value. -/
def fileOfValue (value : Value) : Bytes :=
  LittleEndian.ofUInt32 value.attributes.bits ++ value.data

/-- The value in the bytes of a file, if there is room for attributes. -/
def valueOfFile? (content : Bytes) : Option Value :=
  (LittleEndian.read32? content).map fun (bits, data) => ⟨⟨bits⟩, data⟩

namespace Steps

open FileTree (Step)

/-- Opens a file in order to clear a mark that would protect it. -/
def unprotect (path : String) : Step StoreFault Unit := do
  if let some _ ← Step.mapError .file (Step.openIfExists path) then
    Step.mapError .other (Step.unmark path)

/-- Gives a file a content. The file is not emptied when it is opened; bytes of an old content that
are left over behind the new one are cut off in the end. -/
def replace (path : String) (content : Bytes) : Step StoreFault Unit := do
  unprotect path
  Step.mapError .file do
    Step.replace path (← Step.openToWrite path) content

/-- Removes a file, and says whether it existed. -/
def remove (path : String) : Step StoreFault Bool := do
  unprotect path
  Step.mapError .file (Step.removeIfExists path)

section Operations

variable (root : String) (var : Variable)

/-- Reads a variable. -/
def read : Step StoreError (Option Value) := do
  let path := FileTree.join root (fileName var)
  match ← Step.mapError (.load ∘ .file) (Step.openIfExists path) with
  | none => return none
  | some node =>
    let content ← Step.mapError (.load ∘ .file) (Step.readToEnd path node)
    match valueOfFile? content with
    | some value => return some value
    | none => throw (.tooShort content.length)

/-- Whether a variable exists. -/
def contains : Step StoreError Bool := do
  return (← read root var).isSome

/-- Writes a variable. -/
def write (value : Value) : Step StoreError Unit :=
  Step.mapError .commit (replace (FileTree.join root (fileName var)) (fileOfValue value))

/-- Deletes a variable, and says whether it existed. -/
def delete : Step StoreError Bool :=
  Step.mapError .remove (remove (FileTree.join root (fileName var)))

end Operations

end Steps

/-- The value of a variable, on a device that refuses nothing. -/
def read (store : Efivars) (var : Variable) : Except StoreError (Option Value) :=
  ((Steps.read store.root var).outcome .sound store.tree).1

/-- The store with the file of a variable created or replaced, on a device that refuses nothing. -/
def write (store : Efivars) (var : Variable) (value : Value) : Except StoreError Efivars :=
  let (result, tree) := (Steps.write store.root var value).outcome .sound store.tree
  result.map fun () => { store with tree }

/-- The store without the file of a variable, and whether the file existed, on a device that refuses
nothing. -/
def delete (store : Efivars) (var : Variable) : Except StoreError (Bool × Efivars) :=
  let (result, tree) := (Steps.delete store.root var).outcome .sound store.tree
  result.map fun found => (found, { store with tree })

instance : VariableStore Efivars where
  read := read
  write := write
  delete := delete

end Efivars

end OwnerKeys
