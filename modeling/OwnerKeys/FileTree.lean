import OwnerKeys.Bytes
import OwnerKeys.SortedMap

/-!
# File trees

A file tree holds files and directories by their paths from the root. File names are texts; a path
that is written down is resolved name by name, from the root or from the working directory, and
every name but the last must lead to a directory. The root is its own parent.

Operations fail with the reason that the operating system gives, and with the action and the path
that the operator is told about. Reasons that do not lie in the tree, such as the rights of the
program or the state of the disk, come from the device on which the files are.
-/

namespace OwnerKeys

/-- The reasons for which the operating system refuses an operation on a file. -/
inductive Refusal where
  /-- A name does not exist. -/
  | notFound
  /-- A directory stands where a file is needed. -/
  | isDirectory
  /-- A file stands where a directory is needed. -/
  | notDirectory
  /-- A name, or a path as a whole, has too many bytes. -/
  | nameTooLong
  /-- The path has a zero byte, so it cannot be passed on. -/
  | zeroByte
  /-- The device refuses, for a reason in the words of the operating system. -/
  | device (reason : String)
deriving DecidableEq, Repr

/-- The wording of a reason. -/
def Refusal.message : Refusal → String
  | notFound => "No such file or directory (os error 2)"
  | isDirectory => "Is a directory (os error 21)"
  | notDirectory => "Not a directory (os error 20)"
  | nameTooLong => "File name too long (os error 36)"
  | zeroByte => "file name contained an unexpected NUL byte"
  | device reason => reason

/-- What was tried on a file. -/
inductive FileAction where
  /-- Opening it. -/
  | openFile
  /-- Reading it after it was opened. -/
  | readFile
  /-- Writing to it after it was opened. -/
  | writeFile
  /-- Asking for its size. -/
  | queryFile
  /-- Setting its size. -/
  | resizeFile
  /-- Removing it. -/
  | removeFile
deriving DecidableEq, Repr

/-- The failure of an action on the file at a path. -/
structure FileError where
  /-- What was tried. -/
  action : FileAction
  /-- The path as it was written. -/
  path : String
  /-- Why it failed. -/
  refusal : Refusal
deriving DecidableEq, Repr

/-- The wording of a failure. -/
def FileError.message (error : FileError) : String :=
  let action := match error.action with
    | .openFile => "failed to open file"
    | .readFile => "failed to read from file"
    | .writeFile => "failed to write to file"
    | .queryFile => "failed to query metadata of file"
    | .resizeFile => "failed to set length of file"
    | .removeFile => "failed to remove file"
  action ++ " `" ++ error.path ++ "`: " ++ error.refusal.message

namespace FileTree

/-- The names that lead from the root to a place in the tree. -/
abbrev Path := List String

/-- What is found at a place. -/
inductive Node where
  /-- A file with its content. -/
  | file (content : Bytes)
  /-- A directory. -/
  | directory
deriving DecidableEq, Repr

end FileTree

/-- Files and directories. -/
structure FileTree where
  /-- Every file and directory but the root, by its path. -/
  nodes : SortedMap FileTree.Path FileTree.Node
  /-- The working directory. -/
  home : FileTree.Path
deriving Inhabited

namespace FileTree

/-- What is found at a path. The root is a directory. -/
def node? (tree : FileTree) (path : Path) : Option Node :=
  if path = [] then some .directory else tree.nodes.get? path

/-- The greatest number of bytes in a name. -/
def maxNameLength : Nat := 255

/-- The greatest number of bytes in a path that is passed on. -/
def maxPathLength : Nat := 4095

/-- The pieces of a text between its slashes. -/
def splitSlashes : List Char → List (List Char)
  | [] => [[]]
  | char :: rest =>
    if char = '/' then
      [] :: splitSlashes rest
    else
      match splitSlashes rest with
      | [] => [[char]]
      | piece :: later => (char :: piece) :: later

/-- The names in a written path. -/
def names (path : String) : List String :=
  (splitSlashes path.toList).map String.ofList

/-- Whether a written path starts at the root of the file system. -/
def isAbsolute (path : String) : Bool :=
  path.toList.head? == some '/'

/-- A name inside a directory, both as written. An absolute name stands alone. -/
def join (directory name : String) : String :=
  if isAbsolute name ∨ directory.isEmpty then name
  else if directory.toList.getLast? = some '/' then directory ++ name
  else directory ++ "/" ++ name

/-- Follows one name from a place, which must be a directory. What the name leads to need not
exist. -/
def follow (tree : FileTree) (place : Path) (name : String) : Except Refusal Path :=
  match tree.node? place with
  | none => .error .notFound
  | some (.file _) => .error .notDirectory
  | some .directory =>
    if name = "" ∨ name = "." then .ok place
    else if name = ".." then .ok place.dropLast
    else if maxNameLength < name.utf8ByteSize then .error .nameTooLong
    else .ok (place ++ [name])

/-- Follows names one after another. -/
def followAll (tree : FileTree) (place : Path) : List String → Except Refusal Path
  | [] => .ok place
  | name :: later => do
    let next ← tree.follow place name
    tree.followAll next later

/-- The place to which a written path leads. -/
def resolve (tree : FileTree) (path : String) : Except Refusal Path :=
  if path.toList.contains '\x00' then .error .zeroByte
  else if path.isEmpty then .error .notFound
  else if maxPathLength < path.utf8ByteSize then .error .nameTooLong
  else tree.followAll (if isAbsolute path then [] else tree.home) (names path)

/-- What a written path leads to, as it is found when the file is opened for reading. -/
def lookup (tree : FileTree) (path : String) : Except Refusal Node := do
  match tree.node? (← tree.resolve path) with
  | some node => .ok node
  | none => .error .notFound

/-- Whether a written path leads to a directory. -/
def isDirectory (tree : FileTree) (path : String) : Bool :=
  match tree.lookup path with
  | .ok .directory => true
  | _ => false

/-- The content of the file at a place; where there is no file, nothing. -/
def contentAt (tree : FileTree) (place : Path) : Bytes :=
  match tree.node? place with
  | some (.file content) => content
  | _ => []

/-- The tree in which there is a file at a place. -/
def withFile (tree : FileTree) (place : Path) (content : Bytes) : FileTree :=
  { tree with nodes := tree.nodes.insert place (.file content) }

/-- Opens the file at a written path for writing, and gives its place. It is created if it does not
exist; otherwise it keeps its content. -/
def openToWrite (tree : FileTree) (path : String) : Except FileError (Path × FileTree) :=
  match tree.resolve path with
  | .error refusal => .error ⟨.openFile, path, refusal⟩
  | .ok place =>
    match tree.node? place with
    | some .directory => .error ⟨.openFile, path, .isDirectory⟩
    | some (.file _) => .ok (place, tree)
    | none => .ok (place, tree.withFile place [])

/-- The tree with bytes written over the front of a file; what the file holds behind them stays. -/
def overwrite (tree : FileTree) (place : Path) (bytes : Bytes) : FileTree :=
  tree.withFile place (bytes ++ (tree.contentAt place).drop bytes.length)

/-- The tree with a file cut down to a number of bytes. -/
def cut (tree : FileTree) (place : Path) (size : Nat) : FileTree :=
  tree.withFile place ((tree.contentAt place).take size)

/-- The tree without the file at a written path. -/
def remove (tree : FileTree) (path : String) : Except FileError FileTree :=
  match tree.resolve path with
  | .error refusal => .error ⟨.removeFile, path, refusal⟩
  | .ok place =>
    match tree.node? place with
    | some (.file _) => .ok { tree with nodes := tree.nodes.erase place }
    | some .directory => .error ⟨.removeFile, path, .isDirectory⟩
    | none => .error ⟨.removeFile, path, .notFound⟩

/-- The tree with a node at a path, and with the directories that lead to it. -/
def plant (tree : FileTree) (path : Path) (node : Node) : FileTree :=
  let addDirectory (nodes : SortedMap Path Node) (count : Nat) : SortedMap Path Node :=
    let ancestor := path.take (count + 1)
    if (nodes.get? ancestor).isSome then nodes else nodes.insert ancestor .directory
  let grown := (List.range (path.length - 1)).foldl addDirectory tree.nodes
  if path = [] then tree else { tree with nodes := grown.insert path node }

/-- The tree in which there is nothing but the working directory. -/
def blank (home : Path) : FileTree :=
  plant ⟨SortedMap.empty, home⟩ home .directory

/-- The nodes below a path, by their paths from there. -/
def below (tree : FileTree) (path : Path) : List (Path × Node) :=
  tree.nodes.entries.filterMap fun (place, node) =>
    if path.isPrefixOf place ∧ place ≠ path then some (place.drop path.length, node) else none

end FileTree

end OwnerKeys
