import OwnerKeys.Listing
import OwnerKeys.Store.Efivars

/-!
# Export of keys

The certificates of a list are written to files that are numbered like the keys in a listing.
Digests have no form in which they could be written and are left out, but they keep their numbers.
-/

namespace OwnerKeys

/-- What has a file tree in reach. -/
class HasFiles (World : Type) where
  /-- The file tree. -/
  files : World → FileTree
  /-- The world with another file tree. -/
  withFiles : World → FileTree → World

instance : HasFiles FileTree where
  files tree := tree
  withFiles _ tree := tree

instance : HasFiles Efivars where
  files store := store.tree
  withFiles store tree := { store with tree }

/-- A variable store beside a file tree. -/
structure Hosted (Store : Type) where
  /-- The variable store. -/
  store : Store
  /-- The file tree. -/
  tree : FileTree

namespace Hosted

variable {Store : Type}

instance : HasFiles (Hosted Store) where
  files world := world.tree
  withFiles world tree := { world with tree }

instance [VariableStore Store] : VariableStore (Hosted Store) where
  read world := VariableStore.read world.store
  write world var value :=
    (VariableStore.write world.store var value).map fun store => { world with store }
  delete world var :=
    (VariableStore.delete world.store var).map fun (found, store) => (found, { world with store })

end Hosted

namespace Export

/-- The failure to write the file of a key. -/
structure ExportError where
  /-- The number of the key. -/
  index : Nat
  /-- Why its file could not be written. -/
  error : FileError
deriving DecidableEq, Repr

namespace ExportError

/-- The wording of a failure. -/
def message (error : ExportError) : String :=
  s!"failed to export key {error.index}"

/-- The wordings of the deeper causes of a failure. -/
def sources (error : ExportError) : List String :=
  [error.error.message]

end ExportError

variable {Store : Type} [HasFiles Store]

/-- The digits of a number, with zeros in front up to four digits. -/
def fourDigits (number : Nat) : String :=
  let digits := Nat.toDigits 10 number
  String.ofList (List.replicate (4 - digits.length) '0' ++ digits)

/-- The name of the file of a key. -/
def fileName (index : Nat) : String :=
  "MOK-" ++ fourDigits index ++ ".der"

/-- Writes a file. When that fails after the file was opened, the file is empty or holds the front
of the content. -/
def writeFile (device : Device) (path : String) (content : Bytes) :
    Action Store (Except FileError Unit) :=
  modifyGet fun machine =>
    let (result, tree) :=
      (FileTree.Step.create path content).outcome device (HasFiles.files machine.store)
    (result, { machine with store := HasFiles.withFiles machine.store tree })

/-- Writes the files of keys that are numbered upwards from a given number. Gives the paths of the
files. -/
def exportEntries (device : Device) (directory : String) (index : Nat) :
    List SignatureList.Entry → Attempt Store ExportError (List String)
  | [] => return []
  | entry :: later => do
    if entry.kind = .x509 then
      let path := FileTree.join directory (fileName index)
      match ← perform (writeFile device path entry.payload) with
      | .error error => throw ⟨index, error⟩
      | .ok () => return path :: (← exportEntries device directory (index + 1) later)
    else
      perform (Action.note (.hashNotExported index))
      exportEntries device directory (index + 1) later

/-- Writes every certificate of a list to a file in a directory. Gives the paths of the files. -/
def exportKeys (device : Device) (list : Bytes) (directory : String) :
    Attempt Store ExportError (List String) := do
  let decoded ← perform (Listing.decodeNoted list)
  exportEntries device directory 1 decoded.entries

end Export

end OwnerKeys
