import OwnerKeys.Proofs.Machine.Footprint
import OwnerKeys.Proofs.Request.Services
import OwnerKeys.Proofs.Request.Staging

/-!
# What requests may change

Requests about keys change the pending list of their kind and its tag, a new password and a change
of the validation state have a variable each, and everything else that the program is asked for only
looks. That holds of every run, whatever the store refuses and the operator answers.
-/

namespace OwnerKeys

variable {Store : Type} [VariableStore Store]

namespace RequestKind

/-- The variables of the requests of a kind. -/
def footprint (kind : RequestKind) : List Variable :=
  [kind.pendingVariable, kind.tagVariable]

theorem pendingVariable_mem_footprint (kind : RequestKind) :
    kind.pendingVariable ∈ kind.footprint :=
  List.mem_cons_self

theorem tagVariable_mem_footprint (kind : RequestKind) : kind.tagVariable ∈ kind.footprint :=
  List.mem_cons_of_mem _ List.mem_cons_self

end RequestKind

/-- A computation that tries nothing stays within every footprint. -/
theorem Attempt.within_of_quiet {Error Result : Type} {attempt : Attempt Store Error Result}
    (quiet : attempt.Keeps Machine.Quiet) (footprint : List Variable) :
    attempt.Keeps (Machine.Within footprint) :=
  quiet.mono fun _ _ => Machine.Within.of_quiet

theorem Attempt.within_emit {Error : Type} {event : Event} (quiet : ¬event.IsChange)
    (footprint : List Variable) :
    (perform (Action.emit event) : Attempt Store Error Unit).Keeps (Machine.Within footprint) :=
  within_of_quiet (keeps_perform (Action.quiet_emit quiet)) footprint

namespace Query

theorem quiet_readVariable (var : Variable) :
    (perform (Action.readVariable var) : Attempt Store RequestError _).Keeps Machine.Quiet :=
  Attempt.keeps_perform ((looks_readVariable var).mono fun _ _ => Machine.Looks.quiet)

theorem quiet_readExistingList (var : Variable) :
    (readExistingList var : Attempt Store RequestError Bytes).Keeps Machine.Quiet := by
  refine (quiet_readVariable var).bind fun found => ?_
  split
  · exact Attempt.keeps_pure _
  · exact Attempt.keeps_throw _
  · exact Attempt.keeps_throw _

end Query

namespace Dialogue

theorem within_newPassword (footprint : List Variable) :
    (newPassword : Attempt Store RequestError Password).Keeps (Machine.Within footprint) :=
  Attempt.within_of_quiet (fun _ => quiet_newPassword rfl) footprint

end Dialogue

namespace Staging

variable (kind : RequestKind)

theorem within_enter (phase : Phase) (footprint : List Variable) :
    (enter phase : Attempt Store RequestError Unit).Keeps (Machine.Within footprint) :=
  Attempt.within_emit (by simp [Event.IsChange]) footprint

theorem within_note (notice : Notice) (footprint : List Variable) :
    (perform (Action.note notice) : Attempt Store RequestError Unit).Keeps
      (Machine.Within footprint) :=
  Attempt.within_emit (by simp [Event.IsChange]) footprint

theorem within_abortOnFailure {Result : Type} {attempt : Attempt Store RequestError Result}
    {footprint : List Variable} (within : attempt.Keeps (Machine.Within footprint)) :
    (abortOnFailure attempt).Keeps (Machine.Within footprint) :=
  within.tryCatch fun _ => (within_enter .aborted footprint).bind fun _ => Attempt.keeps_throw _

theorem within_storeList (list : Option Bytes) :
    (storeList kind list : Attempt Store RequestError Unit).Keeps
      (Machine.Within kind.footprint) := by
  have mem := kind.pendingVariable_mem_footprint
  cases list with
  | some bytes =>
      refine (Attempt.keeps_perform (Action.within_writeVariable mem _)).bind fun written => ?_
      cases written with
      | ok done => exact Attempt.keeps_pure ()
      | error error => exact Attempt.keeps_throw _
  | none =>
      refine (Attempt.keeps_perform (Action.within_deleteVariable mem)).bind fun deleted => ?_
      cases deleted with
      | ok found => exact Attempt.keeps_pure ()
      | error error => exact Attempt.keeps_throw _

theorem within_storeTag (tag : AuthTag) :
    (storeTag kind tag : Attempt Store RequestError Unit).Keeps
      (Machine.Within kind.footprint) := by
  have listMem := kind.pendingVariable_mem_footprint
  have tagMem := kind.tagVariable_mem_footprint
  refine (Attempt.keeps_perform (Action.within_writeVariable tagMem _)).bind fun written => ?_
  cases written with
  | ok done => exact Attempt.keeps_pure ()
  | error error =>
      refine (Attempt.keeps_perform (Action.within_deleteVariable listMem)).bind fun deleted => ?_
      cases deleted with
      | ok found => exact Attempt.keeps_throw _
      | error failure => exact (within_note _ _).bind fun _ => Attempt.keeps_throw _

theorem within_signAndCommit (list : Option Bytes) :
    (signAndCommit kind list : Attempt Store RequestError Unit).Keeps
      (Machine.Within kind.footprint) := by
  refine (Dialogue.within_newPassword _).bind fun password => ?_
  refine (within_enter .signed _).bind fun _ => ?_
  refine (within_storeList kind list).bind fun _ => ?_
  refine (within_storeTag kind _).bind fun _ => ?_
  exact (within_enter .committed _).bind fun _ => within_note _ _

theorem quiet_authenticatePrior :
    (authenticatePrior kind : Attempt Store RequestError (Option Bytes)).Keeps Machine.Quiet :=
  fun machine => (authenticationOutcome kind machine).quiet

/-- Issuing changes the pending list and its tag at most. -/
theorem within_issue (candidates : List Candidate) :
    (issue kind candidates : Attempt Store RequestError RequestReport).Keeps
      (Machine.Within kind.footprint) := by
  have assesses : (perform (assess kind [] [] candidates) : Attempt Store RequestError _).Keeps
      Machine.Quiet :=
    Attempt.keeps_perform
      ((looks_assess kind [] [] candidates).mono fun _ _ => Machine.Looks.quiet)
  apply within_abortOnFailure
  refine (Attempt.within_of_quiet assesses _).bind fun assessed => ?_
  refine (within_enter .candidatesValidated _).bind fun _ => ?_
  split
  · exact (within_note .nothingToDo _).bind fun _ => Attempt.keeps_pure _
  · refine (Attempt.within_of_quiet (quiet_authenticatePrior kind) _).bind fun prior => ?_
    split
    · exact Attempt.keeps_throw _
    · refine (within_enter .merged _).bind fun _ => ?_
      exact (within_signAndCommit kind _).bind fun _ => Attempt.keeps_pure _

theorem within_reset :
    (reset kind : Attempt Store RequestError Unit).Keeps (Machine.Within kind.footprint) :=
  (within_enter .merged _).bind fun _ =>
    within_abortOnFailure (within_signAndCommit kind none)

theorem within_deleteExisting {var : Variable} {footprint : List Variable}
    (mem : var ∈ footprint) :
    (deleteExisting var : Attempt Store RequestError Bool).Keeps (Machine.Within footprint) := by
  refine (Attempt.keeps_perform (Action.within_deleteVariable mem)).bind fun deleted => ?_
  cases deleted with
  | ok found => exact Attempt.keeps_pure found
  | error error => exact Attempt.keeps_throw _

theorem within_revoke :
    (revoke kind : Attempt Store RequestError Bool).Keeps (Machine.Within kind.footprint) := by
  refine (within_deleteExisting kind.pendingVariable_mem_footprint).bind fun foundList => ?_
  exact (within_deleteExisting kind.tagVariable_mem_footprint).bind fun _ => Attempt.keeps_pure _

end Staging

theorem Operation.within (operation : Operation) :
    (operation.attempt : Attempt Store RequestError Reply).Keeps
      (Machine.Within operation.kind.footprint) := by
  cases operation with
  | issue kind candidates => exact (Staging.within_issue kind candidates).map _
  | reset kind => exact (Staging.within_reset kind).map _
  | revoke kind => exact (Staging.within_revoke kind).map _

namespace Policy

theorem within_store (var : Variable) (data : Bytes) :
    (store var data : Attempt Store RequestError Unit).Keeps (Machine.Within [var]) := by
  refine (Attempt.keeps_perform (Action.within_writeVariable List.mem_cons_self _)).bind
    fun written => ?_
  cases written with
  | ok done => exact Attempt.keeps_pure ()
  | error error => exact Attempt.keeps_throw _

theorem within_setPassword :
    (setPassword : Attempt Store RequestError Unit).Keeps (Machine.Within [.pendingPassword]) := by
  refine (Dialogue.within_newPassword _).bind fun password => ?_
  exact (within_store _ _).bind fun _ => Staging.within_note _ _

theorem within_setValidation (state : Validation) :
    (setValidation state : Attempt Store RequestError Unit).Keeps
      (Machine.Within [.pendingValidation]) := by
  refine (Dialogue.within_newPassword _).bind fun password => ?_
  exact (within_store _ _).bind fun _ => Staging.within_note _ _

theorem quiet_secureBootState :
    (secureBootState : Attempt Store RequestError SecureBootState).Keeps Machine.Quiet := by
  refine (Query.quiet_readVariable .secureBoot).bind fun found => ?_
  split
  · exact Attempt.keeps_pure _
  · exact Attempt.keeps_throw _
  · exact Attempt.keeps_throw _

end Policy

end OwnerKeys
