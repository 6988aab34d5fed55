import OwnerKeys.FileTree

/-!
# Calls on files

What the program does to files is made of calls, and a sequence of calls leaves a file tree behind
whether it fails or not: a file can be created and then not be written, or only in part. A call
fails for what is found in the tree, or because the device refuses it. About a device nothing is
known but what it refuses: the program may lack a right, the disk may be full or broken.

Some devices let files bear a mark that protects them. Marks are not in the file tree, so nothing
is changed there when one is taken off.
-/

namespace OwnerKeys

/-- The calls that a device can refuse as a whole. -/
inductive FileCall where
  | openToRead
  | readToEnd
  | readMark
  | clearMark
  | openToWrite
  | querySize
  | resize
  | remove
deriving DecidableEq, Repr

/-- What decides about calls on files besides the file tree. -/
structure Device where
  /-- Why a call on the file at a path is refused, if it is. -/
  refusal? : FileCall → String → Option String
  /-- How many bytes can be written to the file at a path, and why no more, if there is a limit. -/
  room? : String → Option (Nat × String)
  /-- Whether the file at a path is marked, if files can be. -/
  mark? : String → Option Bool

/-- The device that refuses nothing. -/
def Device.sound : Device :=
  ⟨fun _ _ => none, fun _ => none, fun _ => none⟩

namespace FileTree

/-- A computation with files. -/
abbrev Step (Error Result : Type) := ExceptT Error (ReaderT Device (StateM FileTree)) Result

namespace Step

variable {Error Other Result : Type}

/-- The result of a computation on a device, or its error, and the file tree that it leaves
behind. -/
def outcome (step : Step Error Result) (device : Device) (tree : FileTree) :
    Except Error Result × FileTree :=
  (step.run.run device).run tree

/-- A computation with a known outcome for every device and tree. -/
def ofOutcome (outcome : Device → FileTree → Except Error Result × FileTree) : Step Error Result :=
  ExceptT.mk outcome

/-- Changes the error of a computation. -/
def mapError (change : Error → Other) (step : Step Error Result) : Step Other Result :=
  ofOutcome fun device tree =>
    let (result, after) := step.outcome device tree
    (result.mapError change, after)

/-- The attempt of an action on the file at a path, which the device may refuse. -/
def attempt (call : FileCall) (action : FileAction) (path : String)
    (outcome : FileTree → Except FileError Result × FileTree) : Step FileError Result :=
  ofOutcome fun device tree =>
    match device.refusal? call path with
    | some reason => (.error ⟨action, path, .device reason⟩, tree)
    | none => outcome tree

/-- Opens a file for reading, and gives what was opened. -/
def openToRead (path : String) : Step FileError Node :=
  attempt .openToRead .openFile path fun tree =>
    ((tree.lookup path).mapError (⟨.openFile, path, ·⟩), tree)

/-- Opens a file for reading, if there is one. -/
def openIfExists (path : String) : Step FileError (Option Node) :=
  tryCatch (some <$> openToRead path) fun error =>
    if error.refusal = .notFound then return none else throw error

/-- Reads what was opened to the end. -/
def readToEnd (path : String) (node : Node) : Step FileError Bytes :=
  attempt .readToEnd .readFile path fun tree =>
    match node with
    | .file content => (.ok content, tree)
    | .directory => (.error ⟨.readFile, path, .isDirectory⟩, tree)

/-- Reads a file. -/
def readFile (path : String) : Step FileError Bytes := do
  readToEnd path (← openToRead path)

/-- Whether what was opened is marked, if it can be. The error is not one that names the file. -/
def mark? (path : String) : Step String (Option Bool) :=
  ofOutcome fun device tree =>
    match device.refusal? .readMark path with
    | some reason => (.error reason, tree)
    | none => (.ok (device.mark? path), tree)

/-- Takes the mark off what was opened. -/
def clearMark (path : String) : Step String Unit :=
  ofOutcome fun device tree =>
    match device.refusal? .clearMark path with
    | some reason => (.error reason, tree)
    | none => (.ok (), tree)

/-- Takes the mark off what was opened, if there is one. -/
def unmark (path : String) : Step String Unit := do
  if (← mark? path) = some true then
    clearMark path

/-- Opens a file for writing, and gives its place. It is created if it does not exist; otherwise it
keeps its content. -/
def openToWrite (path : String) : Step FileError Path :=
  attempt .openToWrite .openFile path fun tree =>
    match tree.openToWrite path with
    | .ok (place, opened) => (.ok place, opened)
    | .error error => (.error error, tree)

/-- Opens a file for writing, and gives its place. It is created or emptied. -/
def openEmpty (path : String) : Step FileError Path :=
  attempt .openToWrite .openFile path fun tree =>
    match tree.openToWrite path with
    | .ok (place, opened) => (.ok place, opened.withFile place [])
    | .error error => (.error error, tree)

/-- Writes over the front of the file at a place. If the device has no room for all of the bytes,
those for which it has are written. -/
def writeAll (path : String) (place : Path) (bytes : Bytes) : Step FileError Unit :=
  ofOutcome fun device tree =>
    match device.room? path with
    | none => (.ok (), tree.overwrite place bytes)
    | some (room, reason) =>
      if bytes.length ≤ room then
        (.ok (), tree.overwrite place bytes)
      else
        (.error ⟨.writeFile, path, .device reason⟩, tree.overwrite place (bytes.take room))

/-- The size of the file at a place. -/
def querySize (path : String) (place : Path) : Step FileError Nat :=
  attempt .querySize .queryFile path fun tree =>
    (.ok (tree.contentAt place).length, tree)

/-- Cuts the file at a place down to a number of bytes. -/
def cut (path : String) (place : Path) (size : Nat) : Step FileError Unit :=
  attempt .resize .resizeFile path fun tree => (.ok (), tree.cut place size)

/-- Cuts the file at a place down to a number of bytes, if it has more. -/
def trim (path : String) (place : Path) (size : Nat) : Step FileError Unit := do
  if size < (← querySize path place) then
    cut path place size

/-- Replaces the content of the file at a place. Bytes that are left over behind the new ones are
cut off in the end. -/
def replace (path : String) (place : Path) (content : Bytes) : Step FileError Unit := do
  writeAll path place content
  trim path place content.length

/-- Creates a file with a content. A file that exists is emptied first. -/
def create (path : String) (content : Bytes) : Step FileError Unit := do
  writeAll path (← openEmpty path) content

/-- Removes a file. -/
def remove (path : String) : Step FileError Unit :=
  attempt .remove .removeFile path fun tree =>
    match tree.remove path with
    | .ok after => (.ok (), after)
    | .error error => (.error error, tree)

/-- Removes a file, and says whether it existed. -/
def removeIfExists (path : String) : Step FileError Bool :=
  tryCatch (do remove path; return true) fun error =>
    if error.refusal = .notFound then return false else throw error

end Step

end FileTree

/-- What reading the file at a path gives. -/
def Device.read (device : Device) (tree : FileTree) (path : String) : Except FileError Bytes :=
  ((FileTree.Step.readFile path).outcome device tree).1

end OwnerKeys
