import OwnerKeys.CommandLine

/-!
# Conversations

An operator wants to see what has happened up to a prompt before answering it. A run of the program
on the answers that were given so far shows that much: what happens before the first prompt without
an answer does not depend on later answers.
-/

namespace OwnerKeys.CommandLine

/-- The events up to the first prompt for which there is no answer among a number of answers, and
whether there is such a prompt. -/
def untilPrompt (answers : Nat) : List Event → List Event × Bool
  | [] => ([], false)
  | .prompted prompt :: later =>
    match answers with
    | 0 => ([.prompted prompt], true)
    | fewer + 1 =>
      let (events, waits) := untilPrompt fewer later
      (.prompted prompt :: events, waits)
  | event :: later =>
    let (events, waits) := untilPrompt answers later
    (event :: events, waits)

/-- The events of a run up to the first prompt that the input does not answer, and whether there is
such a prompt. -/
def Outcome.untilPrompt (outcome : Outcome) (input : Bytes) : List Event × Bool :=
  CommandLine.untilPrompt (Lines.all input).length outcome.trace

/-- The key files that a command reads. -/
def keyFiles : Command → List String
  | .importKeys files | .deleteKeys files => files
  | .testKey file => [file]
  | .listEnrolled | .listNew | .listDelete | .revoke | .revokeDelete | .exportKeys _ | .password
  | .disableValidation | .enableValidation | .secureBootState | .reset => []

/-- The directory to which a command writes keys. -/
def exportDirectory? : Command → Option String
  | .exportKeys directory => some directory
  | _ => none

/-- The written paths at which a run of the program may look. -/
def pathsOf (invocation : Arguments.Invocation) : List String :=
  invocation.efivarsPath ::
    Variable.wellKnown.map (FileTree.join invocation.efivarsPath ∘ Efivars.fileName) ++
    keyFiles invocation.command ++ (exportDirectory? invocation.command).toList

end OwnerKeys.CommandLine
