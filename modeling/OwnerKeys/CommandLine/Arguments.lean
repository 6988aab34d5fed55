import OwnerKeys.CommandLine.Command

/-!
# Arguments

The arguments of the program are a command with its options and operands. The directory of the
variables can be given before the command or after it; the later place wins over the earlier, and
both win over the environment. An option takes its value after an equals sign or from the next
argument, which may not look like an option itself. Two dashes alone end the options.

Arguments are taken from the left, and the first that is not understood makes the whole command line
a usage error, while a request for help before it is granted.

An older grammar named the commands by options. `modernize` puts the first argument into the grammar
of today.
-/

namespace OwnerKeys.Arguments

/-- Why no command comes out of arguments. -/
inductive Stop where
  /-- The arguments are not understood. -/
  | usage
  /-- The operator asks for help. -/
  | help
deriving DecidableEq, Repr

/-- How many operands a command has. -/
inductive Arity where
  /-- None. -/
  | none
  /-- Exactly one. -/
  | one
  /-- At least one. -/
  | many
deriving DecidableEq, Repr

/-- What may follow the name of a command. -/
structure Shape where
  /-- The number of operands. -/
  arity : Arity
  /-- Whether the command writes files to a directory of the operator's choice. -/
  writesFiles : Bool
deriving DecidableEq, Repr

/-- What was given after the name of a command. -/
structure Given where
  /-- The directory of the variables. -/
  efivarsPath : Option String
  /-- The directory for files. -/
  exportDirectory : Option String
  /-- The operands. -/
  operands : List String
deriving DecidableEq, Repr

/-- An argument as an option with a long name, whose value may follow an equals sign. -/
def longOption? (argument : String) : Option (String × Option String) :=
  match argument.toList with
  | '-' :: '-' :: body =>
    let name := body.takeWhile (· ≠ '=')
    match body.dropWhile (· ≠ '=') with
    | [] => some (String.ofList name, none)
    | _ :: value => some (String.ofList name, some (String.ofList value))
  | _ => none

/-- Whether an argument looks like an option. A dash alone does not. -/
def looksLikeOption (argument : String) : Bool :=
  match argument.toList with
  | '-' :: _ :: _ => true
  | _ => false

/-- The value of an option, from behind its equals sign or from the next argument, and the arguments
after it. No value is empty. -/
def takeValue (inline : Option String) (rest : List String) :
    Except Stop (String × List String) :=
  match inline, rest with
  | some value, rest => if value.isEmpty then .error .usage else .ok (value, rest)
  | none, value :: rest =>
    if value.isEmpty ∨ looksLikeOption value then .error .usage else .ok (value, rest)
  | none, [] => .error .usage

theorem length_of_takeValue {inline : Option String} {arguments rest : List String}
    {value : String} (taken : takeValue inline arguments = .ok (value, rest)) :
    rest.length ≤ arguments.length := by
  unfold takeValue at taken
  split at taken
  · split at taken
    · cases taken
    · cases taken
      exact Nat.le_refl _
  · split at taken
    · cases taken
    · cases taken
      exact Nat.le_succ _
  · cases taken

/-- What one short option stands for. Only the first letter counts. -/
def shortOption (argument : String) : Stop :=
  match argument.toList with
  | _ :: 'h' :: _ => .help
  | _ => .usage

/-- An option that may occur once. -/
def setOnce (slot : Option String) (value : String) : Except Stop (Option String) :=
  if slot.isSome then .error .usage else .ok (some value)

/-- Adds an operand, if there is room for it. -/
def addOperand (shape : Shape) (given : Given) (operand : String) : Except Stop Given :=
  let full := match shape.arity with
    | .none => true
    | .one => !given.operands.isEmpty
    | .many => false
  if full || operand.isEmpty then .error .usage
  else .ok { given with operands := given.operands ++ [operand] }

/-- Takes the arguments after the name of a command. -/
def scanCommand (shape : Shape) (given : Given) (arguments : List String) :
    Except Stop Given :=
  match arguments with
  | [] => .ok given
  | "--" :: operands => operands.foldlM (addOperand shape) given
  | argument :: rest =>
    match longOption? argument with
    | some ("help", none) => .error .help
    | some ("efivars-path", inline) =>
      match _taken : takeValue inline rest with
      | .error stop => .error stop
      | .ok (value, later) =>
        match setOnce given.efivarsPath value with
        | .error stop => .error stop
        | .ok efivarsPath => scanCommand shape { given with efivarsPath } later
    | some ("export-dir", inline) =>
      if shape.writesFiles then
        match _taken : takeValue inline rest with
        | .error stop => .error stop
        | .ok (value, later) =>
          match setOnce given.exportDirectory value with
          | .error stop => .error stop
          | .ok exportDirectory => scanCommand shape { given with exportDirectory } later
      else
        .error .usage
    | some _ => .error .usage
    | none =>
      if looksLikeOption argument then
        .error (shortOption argument)
      else
        match addOperand shape given argument with
        | .error stop => .error stop
        | .ok given => scanCommand shape given rest
termination_by arguments.length
decreasing_by
  all_goals simp only [List.length_cons]
  · have shorter := length_of_takeValue _taken
    omega
  · have shorter := length_of_takeValue _taken
    omega
  · omega

/-- The commands by their names, each with its shape and with what its operands make of it. -/
def commands : List (String × Shape × (Given → Option Command)) :=
  let plain (command : Command) : Shape × (Given → Option Command) :=
    (⟨.none, false⟩, fun _ => some command)
  let ofFiles (command : List String → Command) : Shape × (Given → Option Command) :=
    (⟨.many, false⟩, fun given =>
      if given.operands.isEmpty then none else some (command given.operands))
  [("list-enrolled", plain .listEnrolled),
    ("list-new", plain .listNew),
    ("list-delete", plain .listDelete),
    ("import", ofFiles .importKeys),
    ("delete", ofFiles .deleteKeys),
    ("revoke", plain .revoke),
    ("revoke-delete", plain .revokeDelete),
    ("export", ⟨.none, true⟩, fun given => some (.exportKeys (given.exportDirectory.getD "."))),
    ("password", plain .password),
    ("disable-validation", plain .disableValidation),
    ("enable-validation", plain .enableValidation),
    ("sb-state", plain .secureBootState),
    ("test-key", ⟨.one, false⟩, fun given => given.operands.head?.map .testKey),
    ("reset", plain .reset)]

/-- The names that can be asked about after the command for help. -/
def helpTopics : List String :=
  "help" :: commands.map (·.1)

/-- A reminder of the grammar. -/
def reminder : String :=
  "Usage: [--efivars-path <DIRECTORY>] <COMMAND>\n\nCommands:\n" ++
    String.join (helpTopics.map fun topic => "  " ++ topic ++ "\n")

/-- The answer to the command for help with its operands. -/
def helpFor (topics : List String) : Stop :=
  match topics with
  | [] => .help
  | [topic] => if topic ∈ helpTopics then .help else .usage
  | _ => .usage

/-- The directory of the variables where nothing else is said. -/
def defaultEfivarsPath : String := "/sys/firmware/efi/efivars"

/-- The directory of the variables, from what was given before and after the name of the command
and from the environment. A place where nothing was given turns to the environment, whose value may
not be empty then. -/
def settlePath (before after environment : Option String) : Except Stop String :=
  if environment = some "" ∧ (before = none ∨ after = none) then
    .error .usage
  else
    .ok (((after.or before).or environment).getD defaultEfivarsPath)

/-- A command and the directory of the variables. -/
structure Invocation where
  /-- The directory of the variables. -/
  efivarsPath : String
  /-- The command. -/
  command : Command
deriving DecidableEq, Repr

/-- What a command name with the arguments after it asks for. -/
def parseCommand (environment before : Option String) (name : String) (rest : List String) :
    Except Stop Invocation :=
  if name = "help" then
    .error (helpFor rest)
  else
    match commands.lookup name with
    | none => .error .usage
    | some (shape, build) => do
      let given ← scanCommand shape ⟨none, none, []⟩ rest
      match build given with
      | none => .error .usage
      | some command =>
        return ⟨← settlePath before given.efivarsPath environment, command⟩

/-- Takes the arguments from the first one on. -/
def scan (environment before : Option String) (arguments : List String) :
    Except Stop Invocation :=
  match arguments with
  | [] => .error .usage
  | argument :: rest =>
    match longOption? argument with
    | some ("help", none) => .error .help
    | some ("efivars-path", inline) =>
      match _taken : takeValue inline rest with
      | .error stop => .error stop
      | .ok (value, later) =>
        match setOnce before value with
        | .error stop => .error stop
        | .ok before => scan environment before later
    | some _ => .error .usage
    | none =>
      if looksLikeOption argument then
        .error (shortOption argument)
      else
        parseCommand environment before argument rest
termination_by arguments.length
decreasing_by
  have shorter := length_of_takeValue _taken
  simp only [List.length_cons]
  omega

/-- What the arguments ask for, given the environment's directory of the variables. -/
def parse (environment : Option String) (arguments : List String) : Except Stop Invocation :=
  scan environment none arguments

/-- The options of the older grammar with the commands that they name. -/
def formerNames : List (String × String) :=
  [("--list-enrolled", "list-enrolled"), ("--list-new", "list-new"),
    ("--list-delete", "list-delete"), ("-i", "import"), ("--import", "import"),
    ("-d", "delete"), ("--delete", "delete"), ("--revoke", "revoke"),
    ("--revoke-import", "revoke"), ("--revoke-delete", "revoke-delete"), ("-x", "export"),
    ("--export", "export"), ("-p", "password"), ("--password", "password"),
    ("--disable-validation", "disable-validation"),
    ("--enable-validation", "enable-validation"), ("--sb-state", "sb-state"),
    ("-t", "test-key"), ("--test-key", "test-key"), ("--reset", "reset")]

/-- The arguments in the grammar of today, and whether they were in the older one. -/
def modernize (arguments : List String) : List String × Bool :=
  match arguments with
  | [] => ([], false)
  | first :: rest =>
    match formerNames.lookup first with
    | some name => (name :: rest, true)
    | none => (arguments, false)

end OwnerKeys.Arguments
