import Mathlib.Tactic.Common
import OwnerKeys.Machine

/-!
# Outcomes of computations

The outcome of a computation is its result together with the machine that it leaves behind. This
file says what the outcome of every building block is, so that the outcome of a composed computation
is found by rewriting. What a block does to a machine is said with `Machine.advance`: the store may
be another one, and events have been added to the trace.
-/

namespace OwnerKeys

variable {Store Error Result Other : Type}

namespace Machine

/-- The machine with a given store after some more events. -/
def advance (machine : Machine Store) (store : Store) (events : List Event) : Machine Store :=
  ⟨store, machine.answers, machine.trace ++ events⟩

@[simp]
theorem store_advance (machine : Machine Store) (store : Store) (events : List Event) :
    (machine.advance store events).store = store := rfl

@[simp]
theorem answers_advance (machine : Machine Store) (store : Store) (events : List Event) :
    (machine.advance store events).answers = machine.answers := rfl

@[simp]
theorem trace_advance (machine : Machine Store) (store : Store) (events : List Event) :
    (machine.advance store events).trace = machine.trace ++ events := rfl

@[simp]
theorem advance_advance (machine : Machine Store) (earlier later : Store)
    (first second : List Event) :
    (machine.advance earlier first).advance later second =
      machine.advance later (first ++ second) := by
  simp [advance]

/-- The answer that the next prompt gets. When there is none left it is as if the input had
ended. -/
def nextAnswer (machine : Machine Store) : Answer :=
  machine.answers.headD .endOfInput

/-- The machine after a prompt and its answer. -/
def asked (machine : Machine Store) (prompt : Prompt) : Machine Store :=
  ⟨machine.store, machine.answers.tail,
    machine.trace ++ .prompted prompt :: match machine.nextAnswer with
      | .line _ | .endOfInput => [.answered]
      | .failure _ => []⟩

@[simp]
theorem store_asked (machine : Machine Store) (prompt : Prompt) :
    (machine.asked prompt).store = machine.store := rfl

@[simp]
theorem answers_asked (machine : Machine Store) (prompt : Prompt) :
    (machine.asked prompt).answers = machine.answers.tail := rfl

end Machine

namespace Action

/-- The result of an action and the machine that it leaves behind. -/
def outcome (action : Action Store Result) (machine : Machine Store) : Result × Machine Store :=
  action.run machine

@[simp]
theorem outcome_pure (result : Result) (machine : Machine Store) :
    outcome (pure result) machine = (result, machine) := rfl

@[simp]
theorem outcome_bind (action : Action Store Result) (next : Result → Action Store Other)
    (machine : Machine Store) :
    outcome (action >>= next) machine =
      outcome (next (action.outcome machine).1) (action.outcome machine).2 := rfl

@[simp]
theorem outcome_map (change : Result → Other) (action : Action Store Result)
    (machine : Machine Store) :
    outcome (change <$> action) machine =
      (change (action.outcome machine).1, (action.outcome machine).2) := rfl

@[simp]
theorem outcome_get (machine : Machine Store) :
    outcome get machine = (machine, machine) := rfl

@[simp]
theorem outcome_modify (change : Machine Store → Machine Store) (machine : Machine Store) :
    outcome (modify change) machine = ((), change machine) := rfl

@[simp]
theorem outcome_emit (event : Event) (machine : Machine Store) :
    outcome (emit event) machine = ((), machine.advance machine.store [event]) := rfl

@[simp]
theorem outcome_note (notice : Notice) (machine : Machine Store) :
    outcome (note notice) machine = ((), machine.advance machine.store [.noted notice]) := rfl

theorem outcome_takeAnswer (machine : Machine Store) :
    outcome takeAnswer machine =
      (machine.nextAnswer, ⟨machine.store, machine.answers.tail, machine.trace⟩) := by
  rcases machine with ⟨store, answers, trace⟩
  cases answers with
  | nil => rfl
  | cons answer later => rfl

theorem outcome_ask (prompt : Prompt) (machine : Machine Store) :
    outcome (ask prompt) machine = (machine.nextAnswer, machine.asked prompt) := by
  have same : (machine.advance machine.store [.prompted prompt]).nextAnswer =
      machine.nextAnswer := rfl
  simp only [ask, Machine.asked, outcome_bind, outcome_emit, outcome_takeAnswer, same]
  cases machine.nextAnswer with
  | line text => simp [Machine.advance]
  | endOfInput => simp [Machine.advance]
  | failure message => simp [Machine.advance]

section Calls

variable [VariableStore Store]

@[simp]
theorem outcome_readVariable (var : Variable) (machine : Machine Store) :
    outcome (readVariable var) machine =
      (VariableStore.read machine.store var,
        machine.advance machine.store [.called .read var]) := rfl

theorem outcome_writeVariable (var : Variable) (value : Value) (machine : Machine Store) :
    outcome (writeVariable var value) machine =
      match VariableStore.write machine.store var value with
      | .ok written => (.ok (), machine.advance written [.called .write var])
      | .error error => (.error error, machine.advance machine.store [.called .write var]) := by
  cases written : VariableStore.write machine.store var value with
  | ok store => simp [writeVariable, written, Machine.advance]
  | error error => simp [writeVariable, written]

theorem outcome_deleteVariable (var : Variable) (machine : Machine Store) :
    outcome (deleteVariable var) machine =
      match VariableStore.delete machine.store var with
      | .ok (found, deleted) => (.ok found, machine.advance deleted [.called .delete var])
      | .error error => (.error error, machine.advance machine.store [.called .delete var]) := by
  cases deleted : VariableStore.delete machine.store var with
  | ok result => simp [deleteVariable, deleted, Machine.advance]
  | error error => simp [deleteVariable, deleted]

end Calls

end Action

namespace Attempt

/-- The result of an attempt, or its error, and the machine that it leaves behind. -/
def outcome (attempt : Attempt Store Error Result) (machine : Machine Store) :
    Except Error Result × Machine Store :=
  attempt.run.run machine

@[simp]
theorem outcome_pure (result : Result) (machine : Machine Store) :
    outcome (pure result : Attempt Store Error Result) machine = (.ok result, machine) := rfl

@[simp]
theorem outcome_throw (error : Error) (machine : Machine Store) :
    outcome (throw error : Attempt Store Error Result) machine = (.error error, machine) := rfl

@[simp]
theorem outcome_perform (action : Action Store Result) (machine : Machine Store) :
    outcome (perform action : Attempt Store Error Result) machine =
      (.ok (action.outcome machine).1, (action.outcome machine).2) := rfl

/-- What follows a look at the machine is given the machine. -/
theorem outcome_get_bind (next : Machine Store → Attempt Store Error Result)
    (machine : Machine Store) :
    outcome (get >>= next) machine = outcome (next machine) machine := rfl

/-- What follows an action goes on from where the action ends. -/
@[simp]
theorem outcome_perform_bind (action : Action Store Result)
    (next : Result → Attempt Store Error Other) (machine : Machine Store) :
    outcome (perform action >>= next) machine =
      outcome (next (action.outcome machine).1) (action.outcome machine).2 := rfl

/-- What follows a success goes on from where the success ends. -/
theorem outcome_bind_ok {attempt : Attempt Store Error Result} {machine after : Machine Store}
    {result : Result} (success : attempt.outcome machine = (.ok result, after))
    (next : Result → Attempt Store Error Other) :
    outcome (attempt >>= next) machine = outcome (next result) after := by
  unfold outcome at success
  unfold outcome
  rw [ExceptT.run_bind, StateT.run_bind, success]
  rfl

/-- Nothing follows a failure. -/
theorem outcome_bind_error {attempt : Attempt Store Error Result} {machine after : Machine Store}
    {error : Error} (failure : attempt.outcome machine = (.error error, after))
    (next : Result → Attempt Store Error Other) :
    outcome (attempt >>= next) machine = (.error error, after) := by
  unfold outcome at failure
  unfold outcome
  rw [ExceptT.run_bind, StateT.run_bind, failure]
  rfl

@[simp]
theorem outcome_map (change : Result → Other) (attempt : Attempt Store Error Result)
    (machine : Machine Store) :
    outcome (change <$> attempt) machine =
      ((attempt.outcome machine).1.map change, (attempt.outcome machine).2) := by
  rcases ran : attempt.outcome machine with ⟨error | result, after⟩
  · exact outcome_bind_error ran _
  · exact outcome_bind_ok ran _

/-- There is nothing to handle after a success. -/
theorem outcome_tryCatch_ok {attempt : Attempt Store Error Result} {machine after : Machine Store}
    {result : Result} (success : attempt.outcome machine = (.ok result, after))
    (handler : Error → Attempt Store Error Result) :
    outcome (tryCatch attempt handler) machine = (.ok result, after) := by
  unfold outcome at success
  unfold outcome
  rw [ExceptT.run_tryCatch, StateT.run_bind, success]
  rfl

/-- A failure is handled from where it happened. -/
theorem outcome_tryCatch_error {attempt : Attempt Store Error Result}
    {machine after : Machine Store} {error : Error}
    (failure : attempt.outcome machine = (.error error, after))
    (handler : Error → Attempt Store Error Result) :
    outcome (tryCatch attempt handler) machine = outcome (handler error) after := by
  unfold outcome at failure
  unfold outcome
  rw [ExceptT.run_tryCatch, StateT.run_bind, failure]
  rfl

end Attempt

end OwnerKeys
