import OwnerKeys.Notice
import OwnerKeys.Store

/-!
# The machine at work

Everything the program does to the world around it is one of a few things: it calls the variable
store, it asks the operator for a line, it shows something. A `Machine` is the world as the program
sees it: the store, the answers that the operator will give, and a trace of what has happened.

An `Action` is a computation on a machine that never fails; an `Attempt` is one that can end with
an error. Both keep the machine in every case, so what happened before an error is not lost.

What is printed can be refused: the disk is full, or nobody reads any more. Prompts can as well, and
the program takes that as an answer that cannot be read. A text that is refused may be out in part;
the trace does not tell.

Remarks for the operator's eyes are taken to be shown. Where they cannot be, the program is torn
down without a status of its own, and that is left out here. So is the terminal, which does not echo
what the operator enters.
-/

namespace OwnerKeys

/-- What the operator does when asked for a line. -/
inductive Answer where
  /-- The operator enters a line. -/
  | line (text : String)
  /-- The input has ended. -/
  | endOfInput
  /-- The input cannot be read. -/
  | failure (message : String)
deriving DecidableEq, Repr

/-- What the operator is asked for. -/
inductive Prompt where
  /-- A new password. -/
  | newPassword
  /-- The new password once more. -/
  | confirmation
  /-- The password of the request that is pending. -/
  | oldPassword
deriving DecidableEq, Repr

/-- The text of a prompt. -/
def Prompt.text : Prompt → String
  | newPassword => "input password (8~16 characters): "
  | confirmation => "input password again: "
  | oldPassword => "input old password: "

/-- What the operator is told about the line that was entered. -/
inductive Report where
  /-- A new password has too few or too many characters. -/
  | badLength
  /-- The second entry differs from the first. -/
  | mismatch
  /-- An old password cannot be right, for it has too few or too many characters. -/
  | invalid
deriving DecidableEq, Repr

/-- The text of a report. -/
def Report.text : Report → String
  | badLength => "password should be 8~16 characters"
  | mismatch => "password doesn't match"
  | invalid => "invalid password"

/-- The progress of a request. -/
inductive Phase where
  /-- Nothing has been done. -/
  | start
  /-- The eligible candidates are known. -/
  | candidatesValidated
  /-- The operator knows the password of the pending request. -/
  | priorRequestAuthenticated
  /-- There is no pending request. -/
  | priorRequestAbsent
  /-- The new list is complete. -/
  | merged
  /-- The tag of the new list is known. -/
  | signed
  /-- The new list and its tag are stored. -/
  | committed
  /-- The request failed. -/
  | aborted
deriving DecidableEq, Repr

/-- What can be seen to happen. -/
inductive Event where
  /-- An operation of the store was called on a variable. -/
  | called (operation : StoreOperation) (var : Variable)
  /-- A prompt was shown. -/
  | prompted (prompt : Prompt)
  /-- The line that a prompt asked for was read, or the input was found to have ended. -/
  | answered
  /-- The operator was told about the line. -/
  | reported (report : Report)
  /-- The operator was told about the work. -/
  | noted (notice : Notice)
  /-- Output was written. -/
  | printed (text : String)
  /-- A request reached a phase. -/
  | entered (phase : Phase)
deriving DecidableEq, Repr

/-- The world as the program sees it. -/
structure Machine (Store : Type) where
  /-- The variable store. -/
  store : Store
  /-- The answers that the operator has not given yet. -/
  answers : List Answer
  /-- What has happened, from the first event to the last. -/
  trace : List Event := []

/-- What decides about the texts that are printed. -/
structure Output where
  /-- Why a text is refused after some events, if it is. -/
  refusal? : List Event → String → Option String

/-- The output that takes every text. -/
def Output.willing : Output :=
  ⟨fun _ _ => none⟩

/-- A computation on a machine that never fails. -/
abbrev Action (Store : Type) := StateM (Machine Store)

/-- A computation on a machine that can end with an error. -/
abbrev Attempt (Store Error : Type) := ExceptT Error (StateM (Machine Store))

/-- An action as a part of a computation that can fail. -/
def perform {Store Error Result : Type} (action : Action Store Result) :
    Attempt Store Error Result :=
  ExceptT.lift action

namespace Machine

variable {Store : Type}

/-- The machine after an event. -/
def record (machine : Machine Store) (event : Event) : Machine Store :=
  { machine with trace := machine.trace ++ [event] }

/-- The calls of the store among the events. -/
def calls (machine : Machine Store) : List (StoreOperation × Variable) :=
  machine.trace.filterMap fun
    | .called operation var => some (operation, var)
    | _ => none

/-- The phase that a request reached last. -/
def phase (machine : Machine Store) : Phase :=
  (machine.trace.filterMap fun
    | .entered phase => some phase
    | _ => none).getLast?.getD .start

end Machine

namespace Action

variable {Store : Type}

/-- Lets an event happen. -/
def emit (event : Event) : Action Store Unit :=
  modify (·.record event)

/-- Tells the operator about the work. -/
def note (notice : Notice) : Action Store Unit :=
  emit (.noted notice)

/-- Takes the next answer of the operator. When there is none left, the input has ended. -/
def takeAnswer : Action Store Answer :=
  modifyGet fun machine =>
    match machine.answers with
    | [] => (.endOfInput, machine)
    | answer :: later => (answer, { machine with answers := later })

/-- Shows a prompt and waits for the answer. -/
def ask (prompt : Prompt) : Action Store Answer := do
  emit (.prompted prompt)
  let answer ← takeAnswer
  match answer with
  | .line _ | .endOfInput => emit .answered
  | .failure _ => pure ()
  return answer

variable [VariableStore Store]

/-- Reads a variable. -/
def readVariable (var : Variable) : Action Store (Except StoreError (Option Value)) := do
  emit (.called .read var)
  return VariableStore.read (← get).store var

/-- Whether a variable exists. -/
def variableExists (var : Variable) : Action Store (Except StoreError Bool) := do
  emit (.called .read var)
  return VariableStore.contains (← get).store var

/-- Writes a variable. When that fails the store stays as it is. -/
def writeVariable (var : Variable) (value : Value) : Action Store (Except StoreError Unit) := do
  emit (.called .write var)
  match VariableStore.write (← get).store var value with
  | .ok store =>
    modify ({ · with store })
    return .ok ()
  | .error error => return .error error

/-- Deletes a variable, and says whether it existed. When that fails the store stays as it is. -/
def deleteVariable (var : Variable) : Action Store (Except StoreError Bool) := do
  emit (.called .delete var)
  match VariableStore.delete (← get).store var with
  | .ok (found, store) =>
    modify ({ · with store })
    return .ok found
  | .error error => return .error error

end Action

/-- Prints a text. One that is refused does not become an event, although the front of it may have
got through. -/
def Attempt.print {Store : Type} (output : Output) (text : String) : Attempt Store String Unit := do
  match output.refusal? (← get).trace text with
  | some reason => throw reason
  | none => perform (Action.emit (.printed text))

end OwnerKeys
