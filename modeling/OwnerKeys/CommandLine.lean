import OwnerKeys.CommandLine.Arguments
import OwnerKeys.Export
import OwnerKeys.Request.Policy
import OwnerKeys.Request.Staging
import OwnerKeys.Text.Lines

/-!
# The command line

`run` carries out a command on any store beside a file tree, whatever the output and the device
refuse. `execute` is the whole program: it takes the arguments, makes sure that the directory of the
variables exists, carries out the command and says what was written and with which status the
program ends. Its files are on a device that refuses nothing.
-/

namespace OwnerKeys

/-- The failure of a command. -/
inductive CommandError where
  /-- The directory of the variables does not exist. -/
  | unsupported (path : String)
  /-- A key file could not be read. -/
  | keyFile (error : FileError)
  /-- What was to be printed was refused. -/
  | output (reason : String)
  /-- The keys could not be exported. -/
  | exporting (error : Export.ExportError)
  /-- A key that was tested is enrolled already. -/
  | alreadyEnrolled (name : String)
  /-- A request failed. -/
  | request (error : RequestError)
  /-- The request to forget all keys failed. -/
  | reset (error : RequestError)
deriving DecidableEq, Repr

namespace CommandError

/-- The wording of a failure. -/
def message : CommandError → String
  | unsupported path =>
    "EFI variables are not supported on this system (" ++ path ++ " is not a directory)"
  | keyFile _ => "Key file IO"
  | output _ => "Writing to STDOUT"
  | exporting _ => "Exporting keys"
  | alreadyEnrolled name => name ++ " is already enrolled"
  | request _ => "MOK request"
  | reset _ => "Failed to issue a reset request"

/-- The wordings of the deeper causes of a failure. -/
def sources : CommandError → List String
  | keyFile error => [error.message]
  | output reason => [reason]
  | exporting error => error.message :: error.sources
  | request error | reset error => error.message :: error.sources
  | unsupported _ | alreadyEnrolled _ => []

end CommandError

/-- The ways in which the program can fail, as scripts see them. -/
inductive ExitStatus where
  /-- Any failure without a status of its own. -/
  | error
  /-- The password of a pending request was not given. -/
  | authentication
  /-- The operator gave up. -/
  | aborted
  /-- A key that was tested is enrolled. -/
  | enrolled
  /-- A variable does not exist. -/
  | notFound
deriving DecidableEq, Repr

namespace ExitStatus

/-- The number of a status. -/
def code : ExitStatus → Nat
  | error => 1
  | authentication => 2
  | aborted => 3
  | enrolled => 4
  | notFound => 5

/-- The name of a status. -/
def name : ExitStatus → String
  | error => "Error"
  | authentication => "ErrorAuthentication"
  | aborted => "ErrorAborted"
  | enrolled => "ErrorEnrolled"
  | notFound => "ErrorNotFound"

/-- The status of a failed request. -/
def ofRequestError : RequestError → ExitStatus
  | .authenticationFailed _ => authentication
  | .userAborted => aborted
  | .notFound _ => notFound
  | .read .. | .write .. | .delete .. | .prompt _ | .encode _ => error

/-- The status of a failed command. -/
def ofCommandError : CommandError → ExitStatus
  | .alreadyEnrolled _ => enrolled
  | .request cause | .reset cause => ofRequestError cause
  | .unsupported _ | .keyFile _ | .output _ | .exporting _ => error

end ExitStatus

namespace CommandLine

/-- What decides about a command besides the store, the files and the answers. -/
structure Conditions where
  /-- What decides about what is printed. -/
  output : Output := .willing
  /-- What decides about calls on key files. -/
  device : Device := .sound

variable {Store : Type}

/-- Changes the error of an attempt. -/
def mapError {Error Other Result : Type} (change : Error → Other)
    (attempt : Attempt Store Error Result) : Attempt Store Other Result :=
  ExceptT.mk do return (← attempt.run).mapError change

/-- Prints a text. -/
def print (output : Output) (text : String) : Attempt Store CommandError Unit :=
  mapError .output (Attempt.print output text)

/-- Shows a file name. -/
def skipLine (name : String) : String :=
  "Skip " ++ name ++ "\n"

section Files

variable [HasFiles Store]

/-- The content of a key file. -/
def readKeyFile (device : Device) (path : String) : Attempt Store CommandError Bytes := do
  match device.read (HasFiles.files (← get).store) path with
  | .ok content => return content
  | .error error => throw (.keyFile error)

/-- The keys in files, in the order of the files. -/
def readCandidates (device : Device) : List String → Attempt Store CommandError (List Candidate)
  | [] => return []
  | path :: later => do
    let data ← readKeyFile device path
    return ⟨path, data⟩ :: (← readCandidates device later)

end Files

section Commands

variable [VariableStore Store]

/-- Shows the key list in a variable. -/
def list (output : Output) (var : Variable) : Attempt Store CommandError Unit := do
  let bytes ← mapError .request (Query.readExistingList var)
  let _ ← mapError .output (Listing.listKeys output bytes)

/-- Takes a pending request back. -/
def revoke (kind : RequestKind) : Attempt Store CommandError Unit := do
  if !(← mapError .request (Staging.revoke kind)) then
    perform (Action.note (.nothingPending kind.pendingVariable))

/-- The word for what the firmware says about verified booting. -/
def stateWord : Policy.SecureBootState → String
  | .enabled => "enabled"
  | .disabled => "disabled"
  | .unknown => "unknown"

/-- Shows whether the firmware verifies what it boots. -/
def showSecureBoot (output : Output) : Attempt Store CommandError Unit := do
  let state ← mapError .request Policy.secureBootState
  print output ("SecureBoot " ++ stateWord state ++ "\n")

variable [HasFiles Store]

/-- Stages the keys in files. -/
def stage (conditions : Conditions) (kind : RequestKind) (files : List String) :
    Attempt Store CommandError Unit := do
  let candidates ← readCandidates conditions.device files
  let report ← mapError .request (Staging.issue kind candidates)
  report.skipped.forM fun name => print conditions.output (skipLine name)

/-- Writes the enrolled certificates to files. -/
def exportEnrolled (device : Device) (directory : String) : Attempt Store CommandError Unit := do
  let bytes ← mapError .request (Query.readExistingList .enrolledKeys)
  let written ← mapError .exporting (Export.exportKeys device bytes directory)
  perform (Action.note (.keysExported written.length directory))

/-- The line about a key that was tested. -/
def testLine (file : String) (enrolled : Bool) : String :=
  file ++ if enrolled then " is already enrolled\n" else " is not enrolled\n"

/-- Shows whether the key in a file is enrolled, and fails if it is. -/
def testKey (conditions : Conditions) (file : String) : Attempt Store CommandError Unit := do
  let key ← readKeyFile conditions.device file
  let enrolled ← perform (Query.isEnrolled key)
  print conditions.output (testLine file enrolled)
  if enrolled then
    throw (.alreadyEnrolled file)

/-- Carries out a command. -/
def run (command : Command) (conditions : Conditions := {}) : Attempt Store CommandError Unit :=
  match command with
  | .listEnrolled => list conditions.output .enrolledKeys
  | .listNew => list conditions.output .pendingEnrollment
  | .listDelete => list conditions.output .pendingDeletion
  | .importKeys files => stage conditions .enroll files
  | .deleteKeys files => stage conditions .delete files
  | .revoke => revoke .enroll
  | .revokeDelete => revoke .delete
  | .exportKeys directory => exportEnrolled conditions.device directory
  | .password => mapError .request Policy.setPassword
  | .disableValidation => mapError .request (Policy.setValidation .disable)
  | .enableValidation => mapError .request (Policy.setValidation .enable)
  | .secureBootState => showSecureBoot conditions.output
  | .testKey file => testKey conditions file
  | .reset => mapError .reset (Staging.reset .enroll)

end Commands

/-- What an event writes to the output. -/
def outputOf : Event → String
  | .prompted prompt => prompt.text
  | .answered => "\n"
  | .printed text => text
  | .called .. | .reported _ | .noted _ | .entered _ => ""

/-- What an event writes for the operator's eyes, as whole lines. -/
def remarksOf : Event → List String
  | .reported report => [report.text]
  | .noted notice => [notice.line]
  | .called .. | .prompted _ | .answered | .printed _ | .entered _ => []

/-- The lines that explain a failure. -/
def failureLines (error : CommandError) : List String :=
  let status := ExitStatus.ofCommandError error
  s!"EXIT CODE: {status.code} ({status.name})" :: ("ERROR: " ++ error.message) ::
    error.sources.map ("- " ++ ·)

/-- What can be seen of a run of the program. -/
structure Outcome where
  /-- The number with which the program ends. -/
  exitCode : Nat
  /-- Whether the arguments were not understood. -/
  usageError : Bool
  /-- The lines for the operator's eyes that come before all else. -/
  opening : List String
  /-- What happened. -/
  trace : List Event
  /-- The lines for the operator's eyes that come after all else. -/
  closing : List String
  /-- The file tree afterwards. -/
  files : FileTree

namespace Outcome

/-- The output. -/
def output (outcome : Outcome) : String :=
  String.join (outcome.trace.map outputOf)

/-- The lines for the operator's eyes. -/
def remarks (outcome : Outcome) : List String :=
  outcome.opening ++ outcome.trace.flatMap remarksOf ++ outcome.closing

end Outcome

/-- The world in which the program runs. -/
structure World where
  /-- The arguments. -/
  arguments : List String
  /-- The directory of the variables, as the environment gives it. -/
  environment : Option String
  /-- The file tree. -/
  files : FileTree
  /-- The bytes that can be read from the operator. -/
  input : Bytes
  /-- What decides about what is printed. -/
  output : Output := .willing

/-- The answers that lines of input give. -/
def answerOfLine : Lines.Line → Answer
  | .text content => .line content
  | .invalid => .failure Lines.invalidMessage

/-- The line that warns about the older grammar. -/
def formerGrammarWarning : String :=
  "Warning: Using legacy arguments. Please migrate to the new syntax."

/-- Carries out a command on the variables in a directory. Gives the error, if the command failed,
and the machine afterwards. -/
def invoke (world : World) (invocation : Arguments.Invocation) :
    Option CommandError × Machine Efivars :=
  let machine : Machine Efivars :=
    ⟨⟨invocation.efivarsPath, world.files⟩, (Lines.all world.input).map answerOfLine, []⟩
  if world.files.isDirectory invocation.efivarsPath then
    match (run invocation.command { output := world.output }).run machine with
    | (.ok (), after) => (none, after)
    | (.error error, after) => (some error, after)
  else
    (some (.unsupported invocation.efivarsPath), machine)

/-- The whole program. -/
def execute (world : World) : Outcome :=
  let (arguments, former) := Arguments.modernize world.arguments
  let warning := if former then [formerGrammarWarning] else []
  match Arguments.parse world.environment arguments with
  | .error .usage => ⟨2, true, warning, [], [], world.files⟩
  | .error .help => ⟨0, false, warning, [], [], world.files⟩
  | .ok invocation =>
    let (failure, machine) := invoke world invocation
    let (code, lines) := match failure with
      | none => (0, [])
      | some error => ((ExitStatus.ofCommandError error).code, failureLines error)
    ⟨code, false, warning, machine.trace, lines, machine.store.tree⟩

end CommandLine

end OwnerKeys
