import OwnerKeys.Proofs.Request.Footprint
import OwnerKeys.Proofs.Store.Edits

/-!
# Requests of different kinds are independent

Two computations do not get in each other's way if neither uses a variable that the other may
change. Then each of them does the same before and after the other one, and in either order the same
store is left, even where the store refuses something or the operator gives up. Requests for
enrollment, requests for deletion, new passwords and changes of the validation state are such
computations: requests of both kinds read the enrolled keys, but neither changes them.
-/

namespace OwnerKeys

namespace Attempt

variable {Store Error OtherError Result OtherResult : Type}

/-- A computation on a store with an operator of its own: its result and the machine afterwards. -/
def runOn (attempt : Attempt Store Error Result) (store : Store) (answers : List Answer) :
    Except Error Result × Machine Store :=
  attempt.outcome ⟨store, answers, []⟩

/-- Two runs end in the same way: with the same result, the same answers left over, and the same
trace of prompts, notices and calls. -/
structure SameRun (one other : Except Error Result × Machine Store) : Prop where
  result_eq : one.1 = other.1
  answers_eq : one.2.answers = other.2.answers
  trace_eq : one.2.trace = other.2.trace

/-- Two computations, each with an operator of its own, are run on a store in either order: each
does the same whether it is the first or the second, and what is left in the end is the same. -/
structure Commutes (one : Attempt Store Error Result) (other : Attempt Store OtherError OtherResult)
    (store : Store) (answers otherAnswers : List Answer) : Prop where
  /-- The one does the same after the other. -/
  one_same : SameRun (one.runOn store answers)
    (one.runOn (other.runOn store otherAnswers).2.store answers)
  /-- The other does the same after the one. -/
  other_same : SameRun (other.runOn store otherAnswers)
    (other.runOn (one.runOn store answers).2.store otherAnswers)
  /-- The same store is left. -/
  store_eq : (other.runOn (one.runOn store answers).2.store otherAnswers).2.store =
    (one.runOn (other.runOn store otherAnswers).2.store answers).2.store

variable [VariableStore Store]

/-- A computation calls the store for no variables but those that are used, and changes no variables
but those of a footprint. -/
structure Confined (used footprint : List Variable) (attempt : Attempt Store Error Result) :
    Prop where
  /-- Stores that answer alike for the variables that are used cannot be told apart. -/
  agrees : ∀ related : Store → Store → Prop, Simulation (· ∈ used) related →
    attempt.Agrees related attempt
  /-- The footprint is not left. -/
  within : attempt.Keeps (Machine.Within footprint)
  /-- Variables that may be changed are used. -/
  subset : footprint ⊆ used
  /-- The names of the variables are not paths. -/
  plain : ∀ var ∈ used, var.IsPlain

namespace Confined

/-- What is left is left by changes of the footprint. -/
theorem exists_changes {attempt : Attempt Store Error Result} {used footprint : List Variable}
    (confined : attempt.Confined used footprint) (store : Store) (answers : List Answer) :
    ∃ changes : List Change, (∀ change ∈ changes, change.var ∈ footprint) ∧
      (∀ change ∈ changes, change.var.IsPlain) ∧
      Change.applyAll store changes = .ok (attempt.runOn store answers).2.store := by
  rcases (confined.within ⟨store, answers, []⟩).exists_changes with ⟨changes, inFootprint, leads⟩
  refine ⟨changes, inFootprint, fun change mem => ?_, leads⟩
  exact confined.plain change.var (confined.subset (inFootprint change mem))

variable [IndependentStore Store] {one : Attempt Store Error Result}
  {other : Attempt Store OtherError OtherResult} {used otherUsed footprint : List Variable}

/-- Changes of variables that are not used make no difference: the computation does the same after
them, and they lead from the store that it leaves without them to the one that it leaves after
them. -/
theorem sameRun_of_changes (confined : one.Confined used footprint) {changes : List Change}
    (plain : ∀ change ∈ changes, change.var.IsPlain)
    (unused : ∀ change ∈ changes, change.var ∉ used) {store changed : Store}
    (leads : Change.applyAll store changes = .ok changed) (answers : List Answer) :
    SameRun (one.runOn store answers) (one.runOn changed answers) ∧
      Change.applyAll (one.runOn store answers).2.store changes =
        .ok (one.runOn changed answers).2.store := by
  have simulation : Simulation (· ∈ used)
      (fun before after : Store => Change.applyAll before changes = .ok after) := by
    refine Change.simulation_applyAll plain fun var inUse => ⟨confined.plain var inUse, ?_⟩
    rintro change mem rfl
    exact unused change mem inUse
  have inStep : Machine.InStep
      (fun before after : Store => Change.applyAll before changes = .ok after)
      ⟨store, answers, []⟩ ⟨changed, answers, []⟩ := ⟨leads, rfl, rfl⟩
  rcases confined.agrees _ simulation inStep with ⟨sameResult, inStepAfter⟩
  exact ⟨⟨sameResult, inStepAfter.answers_eq, inStepAfter.trace_eq⟩, inStepAfter.stores⟩

/-- Computations that do not use what the other one may change can be run in either order. -/
theorem commutes {otherFootprint : List Variable} (confined : one.Confined used footprint)
    (otherConfined : other.Confined otherUsed otherFootprint)
    (apart : ∀ var ∈ otherFootprint, var ∉ used) (otherApart : ∀ var ∈ footprint, var ∉ otherUsed)
    (store : Store) (answers otherAnswers : List Answer) :
    Commutes one other store answers otherAnswers := by
  rcases confined.exists_changes store answers with ⟨changes, inFootprint, plain, leads⟩
  rcases otherConfined.exists_changes store otherAnswers with
    ⟨otherChanges, inOtherFootprint, otherPlain, otherLeads⟩
  have oneAfter := confined.sameRun_of_changes otherPlain
    (fun change mem => apart change.var (inOtherFootprint change mem)) otherLeads answers
  have otherAfter := otherConfined.sameRun_of_changes plain
    (fun change mem => otherApart change.var (inFootprint change mem)) leads otherAnswers
  refine ⟨oneAfter.1, otherAfter.1, ?_⟩
  -- The changes of the one, made after those of the other, lead to where these lead after them.
  have simulation : Simulation (· ∈ footprint)
      (fun before after : Store => Change.applyAll before otherChanges = .ok after) := by
    refine Change.simulation_applyAll otherPlain fun var mem => ?_
    refine ⟨confined.plain var (confined.subset mem), ?_⟩
    rintro change changeMem rfl
    exact apart change.var (inOtherFootprint change changeMem) (confined.subset mem)
  rcases Change.exists_applyAll simulation otherLeads inFootprint leads with
    ⟨last, leadsAfterOther, otherLeadsAfterOne⟩
  have oneLast := Except.ok.inj (oneAfter.2.symm.trans otherLeadsAfterOne)
  have otherLast := Except.ok.inj (otherAfter.2.symm.trans leadsAfterOther)
  rw [oneLast, otherLast]

end Confined

end Attempt

/-! ## Groups of services -/

/-- The requests that have variables of their own. -/
inductive RequestGroup where
  /-- Requests about keys, of one kind. -/
  | keys (kind : RequestKind)
  /-- Requests for a new password. -/
  | password
  /-- Requests for a change of the validation state. -/
  | validation

namespace RequestGroup

/-- The variables that the requests of a group may change. -/
def footprint : RequestGroup → List Variable
  | keys kind => kind.footprint
  | password => [.pendingPassword]
  | validation => [.pendingValidation]

/-- The variables that the requests of a group may call the store for. -/
def used : RequestGroup → List Variable
  | keys kind => kind.footprint ++ Query.consulted kind
  | password => [.pendingPassword]
  | validation => [.pendingValidation]

theorem footprint_subset_used (group : RequestGroup) : group.footprint ⊆ group.used := by
  rcases group with (_ | _) | _ | _ <;> decide

theorem plain_of_mem_used (group : RequestGroup) : ∀ var ∈ group.used, var.IsPlain := by
  rcases group with (_ | _) | _ | _ <;> decide

/-- No request uses what a request of another group may change. -/
theorem not_mem_used_of_ne {group other : RequestGroup} (different : group ≠ other) :
    ∀ var ∈ group.footprint, var ∉ other.used := by
  rcases group with (_ | _) | _ | _ <;> rcases other with (_ | _) | _ | _ <;>
    first
    | exact absurd rfl different
    | decide

end RequestGroup

namespace Service

/-- The group of a request. -/
def group? : Service → Option RequestGroup
  | request operation => some (.keys operation.kind)
  | setPassword => some .password
  | setValidation _ => some .validation
  | _ => none

variable {Store : Type} [VariableStore Store]

/-- A request of a group is confined to the variables of the group. -/
theorem confined {service : Service} {group : RequestGroup}
    (grouped : service.group? = some group) :
    (service.attempt : Attempt Store RequestError Reply).Confined group.used group.footprint := by
  refine ⟨fun related simulation => ?_, ?_, group.footprint_subset_used, group.plain_of_mem_used⟩
  · refine service.agrees simulation fun var touched => ?_
    cases service with
    | request operation =>
        cases grouped
        cases operation with
        | issue kind candidates => exact touched
        | reset kind => exact List.mem_append_left _ touched
        | revoke kind => exact List.mem_append_left _ touched
    | setPassword =>
        cases grouped
        exact touched
    | setValidation state =>
        cases grouped
        exact touched
    | _ => cases grouped
  · cases service with
    | request operation =>
        cases grouped
        exact operation.within.map _
    | setPassword =>
        cases grouped
        exact Policy.within_setPassword.map _
    | setValidation state =>
        cases grouped
        exact (Policy.within_setValidation state).map _
    | _ => cases grouped

/-- Requests of different groups can be made in either order. -/
theorem commutes_of_group_ne [IndependentStore Store] {service other : Service}
    {group otherGroup : RequestGroup} (grouped : service.group? = some group)
    (otherGrouped : other.group? = some otherGroup) (different : group ≠ otherGroup)
    (store : Store) (answers otherAnswers : List Answer) :
    Attempt.Commutes (service.attempt : Attempt Store RequestError Reply)
      (other.attempt : Attempt Store RequestError Reply) store answers otherAnswers :=
  (confined grouped).commutes (confined otherGrouped)
    (RequestGroup.not_mem_used_of_ne different.symm) (RequestGroup.not_mem_used_of_ne different)
    store answers otherAnswers

/-- A store in which one key is enrolled, and in which the tag of a deletion is refused. -/
def refusingDeletion : Faulty Memory where
  inner := Memory.empty.insert .enrolledKeys
    ⟨.standard, (SignatureList.x509 .zero [1]).toRecord.toBytes⟩
  faults := [⟨.write, .deletionTag, "no space left"⟩]

/-- A request for enrollment and one for deletion can be made in either order, although the one for
deletion stores its list, has its tag refused and removes the list again. -/
theorem commutes_of_group_ne_refusingDeletion :
    let enrollment : Service := .request (.issue .enroll [⟨"new", [2]⟩])
    let deletion : Service := .request (.issue .delete [⟨"old", [1]⟩])
    let answers : List Answer := [.line "password", .line "password"]
    (enrollment.group? = some (.keys .enroll) ∧ deletion.group? = some (.keys .delete) ∧
        RequestGroup.keys .enroll ≠ .keys .delete) ∧
      (enrollment.attempt.runOn refusingDeletion answers).1.isOk = true ∧
      (deletion.attempt.runOn refusingDeletion answers).1.isOk = false ∧
      Attempt.Commutes enrollment.attempt deletion.attempt refusingDeletion answers answers := by
  intro enrollment deletion answers
  have grouped : enrollment.group? = some (.keys .enroll) := rfl
  have otherGrouped : deletion.group? = some (.keys .delete) := rfl
  have different : RequestGroup.keys .enroll ≠ .keys .delete := by simp
  refine ⟨⟨grouped, otherGrouped, different⟩, by decide +kernel, by decide +kernel, ?_⟩
  exact commutes_of_group_ne grouped otherGrouped different refusingDeletion answers answers

end Service

end OwnerKeys
