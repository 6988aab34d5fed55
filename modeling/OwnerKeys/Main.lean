import OwnerKeys.CommandLine.Conversation

/-!
# The program

The outer layer: it copies the files at which a command may look into a file tree, shows what
happens, passes on the lines that the operator enters, and carries the changes of the file tree out.
-/

namespace OwnerKeys.Terminal

open CommandLine

/-- The path of a place in a file tree. -/
def pathText (place : FileTree.Path) : String :=
  "/" ++ "/".intercalate place

/-- The file tree with what the system has at a place. -/
def discover (tree : FileTree) (place : FileTree.Path) : IO FileTree := do
  if (tree.node? place).isSome then
    return tree
  if ← (IO.FS.DirEntry.mk (pathText place) ".").path.isDir then
    return tree.plant place .directory
  try
    let content ← IO.FS.readBinFile (pathText place)
    return tree.plant place (.file content.data.toList)
  catch _ =>
    return tree

/-- The file tree with what the system has along a written path. -/
def survey (tree : FileTree) (path : String) : IO FileTree := do
  let mut found := tree
  let mut place := if FileTree.isAbsolute path then [] else tree.home
  for name in FileTree.names path do
    match found.follow place name with
    | .error _ => return found
    | .ok next =>
      found ← discover found next
      place := next
  return found

/-- The file tree with the files of keys that the system has in a directory. -/
def surveyKeys (tree : FileTree) (directory : String) : IO FileTree := do
  let entries ← try (IO.FS.DirEntry.mk directory ".").path.readDir catch _ => pure #[]
  let names := entries.toList.map (·.fileName)
  (names.filter (·.startsWith "MOK-")).foldlM (fun found name =>
    survey found (FileTree.join directory name)) tree

/-- The file tree at which a run of the program may look. -/
def surveyAll (home : FileTree.Path) (invocation : Arguments.Invocation) : IO FileTree := do
  let tree ← (pathsOf invocation).foldlM survey (FileTree.blank home)
  match exportDirectory? invocation.command with
  | some directory => surveyKeys tree directory
  | none => return tree

/-- Carries the changes of a file tree out. -/
def commit (before after : FileTree) : IO Unit := do
  for (place, node) in after.nodes.entries do
    if before.node? place ≠ some node then
      if let .file content := node then
        IO.FS.writeBinFile (pathText place) ⟨content.toArray⟩
  for (place, _) in before.nodes.entries do
    if (after.node? place).isNone then
      IO.FS.removeFile (pathText place)

/-- Shows what happened. -/
def present (events : List Event) : IO Unit := do
  for event in events do
    IO.print (outputOf event)
    (← IO.getStdout).flush
    (remarksOf event).forM fun remark => IO.eprintln remark

/-- The bytes of the next line, with the line end if there is one. -/
partial def nextLine (input : IO.FS.Stream) (start : Bytes) : IO Bytes := do
  let byte ← input.read 1
  let line := start ++ byte.data.toList
  if byte.isEmpty || byte.data.toList == [10] then return line else nextLine input line

/-- Runs the program, and asks the operator for a line wherever a prompt has no answer yet. A number
of events has been shown before. -/
partial def converse (world : World) (shown : Nat) : IO Outcome := do
  let outcome := execute world
  let (events, waits) := outcome.untilPrompt world.input
  present (events.drop shown)
  if waits then
    let line ← nextLine (← IO.getStdin) []
    if !line.isEmpty then
      return ← converse { world with input := world.input ++ line } events.length
  present (outcome.trace.drop events.length)
  return outcome

/-- The working directory. -/
def workingDirectory : IO FileTree.Path := do
  return (FileTree.names (← IO.currentDir).toString).filter (· ≠ "")

end OwnerKeys.Terminal

open OwnerKeys Terminal

/-- The whole program. -/
def main (arguments : List String) : IO UInt32 := do
  let environment ← IO.getEnv "MOKUTIL_EFIVARS_PATH"
  let (modern, former) := Arguments.modernize arguments
  if former then
    IO.eprintln CommandLine.formerGrammarWarning
  match Arguments.parse environment modern with
  | .error .help =>
    IO.print Arguments.reminder
    return 0
  | .error .usage =>
    IO.eprint Arguments.reminder
    return 2
  | .ok invocation =>
    let files ← surveyAll (← workingDirectory) invocation
    let outcome ← converse ⟨arguments, environment, files, [], .willing⟩ 0
    commit files outcome.files
    outcome.closing.forM fun line => IO.eprintln line
    return UInt32.ofNat outcome.exitCode
