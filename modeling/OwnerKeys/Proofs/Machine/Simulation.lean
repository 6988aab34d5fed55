import Mathlib.Logic.Relation
import OwnerKeys.Proofs.Machine.Outcome

/-!
# Two machines in step

If two stores answer alike and stay alike, nobody who works on them can tell them apart. A
computation agrees with another one if, from machines that differ in nothing but such stores, both
have the same result, ask for the same answers, leave the same trace, and leave machines that again
differ in nothing but such stores. A sequence agrees if its parts do, so for a whole computation it
is enough that it calls the stores for the same variables.
-/

namespace OwnerKeys

variable {First Second Error Result Other : Type}

/-- Two results are the same error, or successes that are related. -/
inductive Alike {Left Right : Type} (related : Left → Right → Prop) :
    Except Error Left → Except Error Right → Prop where
  | error (error : Error) : Alike related (.error error) (.error error)
  | ok {left : Left} {right : Right} (results : related left right) :
      Alike related (.ok left) (.ok right)

/-- Related stores answer alike for the variables that are used, and what becomes of them when one
of these is written or deleted is related, too. -/
structure Simulation [VariableStore First] [VariableStore Second] (used : Variable → Prop)
    (related : First → Second → Prop) : Prop where
  read_eq {first : First} {second : Second} {var : Variable} (inUse : used var)
    (stores : related first second) :
    VariableStore.read first var = VariableStore.read second var
  write {first : First} {second : Second} {var : Variable} (inUse : used var)
    (stores : related first second) (value : Value) :
    Alike related (VariableStore.write first var value) (VariableStore.write second var value)
  delete {first : First} {second : Second} {var : Variable} (inUse : used var)
    (stores : related first second) :
    Alike (fun left right => left.1 = right.1 ∧ related left.2 right.2)
      (VariableStore.delete first var) (VariableStore.delete second var)

theorem Alike.refl {related : First → First → Prop} (reflexive : ∀ result, related result result)
    (result : Except Error First) : Alike related result result := by
  cases result with
  | error error => exact .error error
  | ok value => exact .ok (reflexive value)

theorem Alike.mono {related other : First → Second → Prop} {left : Except Error First}
    {right : Except Error Second} (alike : Alike related left right)
    (weaker : ∀ left right, related left right → other left right) : Alike other left right := by
  cases alike with
  | error error => exact .error error
  | ok results => exact .ok (weaker _ _ results)

theorem Alike.comp {Third : Type} {related : First → Second → Prop}
    {further : Second → Third → Prop} {left : Except Error First} {middle : Except Error Second}
    {right : Except Error Third} (begins : Alike related left middle)
    (ends : Alike further middle right) : Alike (Relation.Comp related further) left right := by
  cases begins with
  | error error =>
      cases ends
      exact .error error
  | ok results =>
      cases ends with
      | ok furtherResults => exact .ok ⟨_, results, furtherResults⟩

namespace Simulation

variable {Third : Type} [VariableStore First] [VariableStore Second] [VariableStore Third]
  {used : Variable → Prop} {related : First → Second → Prop}

/-- A store answers like itself. -/
theorem identity (used : Variable → Prop) : Simulation used (Eq : First → First → Prop) where
  read_eq := by
    rintro first _ var _ rfl
    rfl
  write := by
    rintro first _ var _ rfl value
    exact .refl (fun _ => rfl) _
  delete := by
    rintro first _ var _ rfl
    exact .refl (fun _ => ⟨rfl, rfl⟩) _

/-- Answering alike carries over from store to store. -/
theorem comp {further : Second → Third → Prop} (begins : Simulation used related)
    (ends : Simulation used further) : Simulation used (Relation.Comp related further) where
  read_eq := by
    rintro first third var inUse ⟨second, earlier, later⟩
    rw [begins.read_eq inUse earlier, ends.read_eq inUse later]
  write := by
    rintro first third var inUse ⟨second, earlier, later⟩ value
    exact (begins.write inUse earlier value).comp (ends.write inUse later value)
  delete := by
    rintro first third var inUse ⟨second, earlier, later⟩
    refine ((begins.delete inUse earlier).comp (ends.delete inUse later)).mono ?_
    rintro left right ⟨middle, ⟨sameFound, earlierStores⟩, sameFoundToo, laterStores⟩
    exact ⟨sameFound.trans sameFoundToo, middle.2, earlierStores, laterStores⟩

theorem mono {fewer : Variable → Prop} (simulation : Simulation used related)
    (inUse : ∀ var, fewer var → used var) : Simulation fewer related where
  read_eq inFewer stores := simulation.read_eq (inUse _ inFewer) stores
  write inFewer stores value := simulation.write (inUse _ inFewer) stores value
  delete inFewer stores := simulation.delete (inUse _ inFewer) stores

end Simulation

/-- Two machines differ in nothing but their stores, and these are related. -/
structure Machine.InStep (related : First → Second → Prop) (first : Machine First)
    (second : Machine Second) : Prop where
  stores : related first.store second.store
  answers_eq : first.answers = second.answers
  trace_eq : first.trace = second.trace

/-- From machines in step, two actions have the same result and leave machines in step. -/
def Action.Agrees (related : First → Second → Prop) (left : Action First Result)
    (right : Action Second Result) : Prop :=
  ∀ ⦃first second⦄, Machine.InStep related first second →
    (left.outcome first).1 = (right.outcome second).1 ∧
      Machine.InStep related (left.outcome first).2 (right.outcome second).2

/-- From machines in step, two attempts have the same result or the same error, and leave machines
in step. -/
def Attempt.Agrees (related : First → Second → Prop) (left : Attempt First Error Result)
    (right : Attempt Second Error Result) : Prop :=
  ∀ ⦃first second⦄, Machine.InStep related first second →
    (left.outcome first).1 = (right.outcome second).1 ∧
      Machine.InStep related (left.outcome first).2 (right.outcome second).2

variable {related : First → Second → Prop}

namespace Machine.InStep

variable {first : Machine First} {second : Machine Second}

theorem advance (inStep : InStep related first second) {left : First} {right : Second}
    (stores : related left right) (events : List Event) :
    InStep related (first.advance left events) (second.advance right events) where
  stores := stores
  answers_eq := inStep.answers_eq
  trace_eq := congrArg (· ++ events) inStep.trace_eq

theorem nextAnswer_eq (inStep : InStep related first second) :
    first.nextAnswer = second.nextAnswer := by
  unfold nextAnswer
  rw [inStep.answers_eq]

theorem asked (inStep : InStep related first second) (prompt : Prompt) :
    InStep related (first.asked prompt) (second.asked prompt) where
  stores := inStep.stores
  answers_eq := congrArg List.tail inStep.answers_eq
  trace_eq := by
    unfold Machine.asked
    rw [inStep.nextAnswer_eq, inStep.trace_eq]

end Machine.InStep

namespace Action

theorem agrees_pure (result : Result) :
    Agrees related (pure result : Action First Result) (pure result : Action Second Result) :=
  fun _ _ inStep => ⟨rfl, inStep⟩

theorem Agrees.bind {left : Action First Result} {right : Action Second Result}
    {leftNext : Result → Action First Other} {rightNext : Result → Action Second Other}
    (begins : Agrees related left right)
    (continues : ∀ result, Agrees related (leftNext result) (rightNext result)) :
    Agrees related (left >>= leftNext) (right >>= rightNext) := by
  intro first second inStep
  rcases begins inStep with ⟨sameResult, inStepAfter⟩
  rw [outcome_bind, outcome_bind, sameResult]
  exact continues _ inStepAfter

theorem agrees_emit (event : Event) :
    Agrees related (emit event : Action First Unit) (emit event : Action Second Unit) :=
  fun _ _ inStep => ⟨rfl, inStep.advance inStep.stores [event]⟩

theorem agrees_note (notice : Notice) :
    Agrees related (note notice : Action First Unit) (note notice : Action Second Unit) :=
  agrees_emit (.noted notice)

theorem agrees_ask (prompt : Prompt) :
    Agrees related (ask prompt : Action First Answer) (ask prompt : Action Second Answer) := by
  intro first second inStep
  rw [outcome_ask, outcome_ask]
  exact ⟨inStep.nextAnswer_eq, inStep.asked prompt⟩

section Calls

variable [VariableStore First] [VariableStore Second] {used : Variable → Prop} {var : Variable}

theorem agrees_readVariable (simulation : Simulation used related) (inUse : used var) :
    Agrees related (readVariable var : Action First _) (readVariable var : Action Second _) := by
  intro first second inStep
  rw [outcome_readVariable, outcome_readVariable]
  exact ⟨simulation.read_eq inUse inStep.stores, inStep.advance inStep.stores _⟩

theorem agrees_variableExists (simulation : Simulation used related) (inUse : used var) :
    Agrees related (variableExists var : Action First _)
      (variableExists var : Action Second _) := by
  intro first second inStep
  have sameRead := simulation.read_eq inUse inStep.stores
  refine ⟨?_, inStep.advance inStep.stores [.called .read var]⟩
  exact congrArg (Except.map Option.isSome) sameRead

theorem agrees_writeVariable (simulation : Simulation used related) (inUse : used var)
    (value : Value) :
    Agrees related (writeVariable var value : Action First _)
      (writeVariable var value : Action Second _) := by
  intro first second inStep
  have written := simulation.write inUse inStep.stores value
  rw [outcome_writeVariable, outcome_writeVariable]
  generalize VariableStore.write first.store var value = left at written ⊢
  generalize VariableStore.write second.store var value = right at written ⊢
  cases written with
  | error error => exact ⟨rfl, inStep.advance inStep.stores _⟩
  | ok stores => exact ⟨rfl, inStep.advance stores _⟩

theorem agrees_deleteVariable (simulation : Simulation used related) (inUse : used var) :
    Agrees related (deleteVariable var : Action First _)
      (deleteVariable var : Action Second _) := by
  intro first second inStep
  have deleted := simulation.delete inUse inStep.stores
  rw [outcome_deleteVariable, outcome_deleteVariable]
  generalize VariableStore.delete first.store var = left at deleted ⊢
  generalize VariableStore.delete second.store var = right at deleted ⊢
  cases deleted with
  | error error => exact ⟨rfl, inStep.advance inStep.stores _⟩
  | ok results => exact ⟨congrArg Except.ok results.1, inStep.advance results.2 _⟩

end Calls

end Action

namespace Attempt

theorem agrees_pure (result : Result) :
    Agrees related (pure result : Attempt First Error Result)
      (pure result : Attempt Second Error Result) :=
  fun _ _ inStep => ⟨rfl, inStep⟩

theorem agrees_throw (error : Error) :
    Agrees related (throw error : Attempt First Error Result)
      (throw error : Attempt Second Error Result) :=
  fun _ _ inStep => ⟨rfl, inStep⟩

theorem agrees_perform {left : Action First Result} {right : Action Second Result}
    (agrees : Action.Agrees related left right) :
    Agrees related (perform left : Attempt First Error Result)
      (perform right : Attempt Second Error Result) := by
  intro first second inStep
  rcases agrees inStep with ⟨sameResult, inStepAfter⟩
  exact ⟨congrArg Except.ok sameResult, inStepAfter⟩

/-- Both attempts succeed, or both fail. -/
theorem Agrees.outcomes {left : Attempt First Error Result} {right : Attempt Second Error Result}
    (agrees : Agrees related left right) {first : Machine First} {second : Machine Second}
    (inStep : Machine.InStep related first second) :
    ∃ result firstAfter secondAfter, left.outcome first = (result, firstAfter) ∧
      right.outcome second = (result, secondAfter) ∧
      Machine.InStep related firstAfter secondAfter := by
  rcases agrees inStep with ⟨sameResult, inStepAfter⟩
  exact ⟨_, _, _, rfl, Prod.ext sameResult.symm rfl, inStepAfter⟩

theorem Agrees.bind {left : Attempt First Error Result} {right : Attempt Second Error Result}
    {leftNext : Result → Attempt First Error Other}
    {rightNext : Result → Attempt Second Error Other} (begins : Agrees related left right)
    (continues : ∀ result, Agrees related (leftNext result) (rightNext result)) :
    Agrees related (left >>= leftNext) (right >>= rightNext) := by
  intro first second inStep
  rcases begins.outcomes inStep with ⟨error | result, _, _, ran, ranToo, inStepAfter⟩
  · rw [outcome_bind_error ran, outcome_bind_error ranToo]
    exact ⟨rfl, inStepAfter⟩
  · rw [outcome_bind_ok ran, outcome_bind_ok ranToo]
    exact continues result inStepAfter

theorem Agrees.map {left : Attempt First Error Result} {right : Attempt Second Error Result}
    (agrees : Agrees related left right) (change : Result → Other) :
    Agrees related (change <$> left) (change <$> right) := by
  intro first second inStep
  rcases agrees inStep with ⟨sameResult, inStepAfter⟩
  rw [outcome_map, outcome_map, sameResult]
  exact ⟨rfl, inStepAfter⟩

theorem Agrees.tryCatch {left : Attempt First Error Result} {right : Attempt Second Error Result}
    {leftHandler : Error → Attempt First Error Result}
    {rightHandler : Error → Attempt Second Error Result} (agrees : Agrees related left right)
    (handles : ∀ error, Agrees related (leftHandler error) (rightHandler error)) :
    Agrees related (MonadExcept.tryCatch left leftHandler)
      (MonadExcept.tryCatch right rightHandler) := by
  intro first second inStep
  rcases agrees.outcomes inStep with ⟨error | result, _, _, ran, ranToo, inStepAfter⟩
  · rw [outcome_tryCatch_error ran, outcome_tryCatch_error ranToo]
    exact handles error inStepAfter
  · rw [outcome_tryCatch_ok ran, outcome_tryCatch_ok ranToo]
    exact ⟨rfl, inStepAfter⟩

end Attempt

end OwnerKeys
