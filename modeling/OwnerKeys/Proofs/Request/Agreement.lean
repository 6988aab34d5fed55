import OwnerKeys.Proofs.Machine.Simulation
import OwnerKeys.Proofs.Request.Query
import OwnerKeys.Proofs.Request.Retrying
import OwnerKeys.Proofs.Request.Session
import OwnerKeys.Request.Policy

/-!
# What cannot tell stores apart

Everything that the program does about variables is done through the few calls of a store. So on two
stores that answer alike, each of its services gives the same reply, asks the same of the operator
and makes the same calls, as long as the stores answer alike for the variables that the service
uses. That carries over to services one after another.
-/

namespace OwnerKeys

variable {First Second : Type} {related : First → Second → Prop}

namespace Dialogue

theorem agrees_readLine (prompt : Prompt) :
    Attempt.Agrees related (readLine prompt) (readLine prompt) := by
  refine (Attempt.agrees_perform (Action.agrees_ask prompt)).bind fun answer => ?_
  cases answer with
  | line text => exact Attempt.agrees_pure text
  | endOfInput => exact Attempt.agrees_throw _
  | failure message => exact Attempt.agrees_throw _

theorem agrees_tell (report : Option Report) :
    Attempt.Agrees related (tell report) (tell report) := by
  cases report with
  | none => exact Attempt.agrees_pure ()
  | some report => exact Attempt.agrees_perform (Action.agrees_emit _)

/-- Asking a question is the same on every store. -/
theorem agrees_retry {Result : Type} (question : Question Result)
    (givenUp : Except RequestError Result) (attempts : Nat) :
    Attempt.Agrees related (retry question givenUp attempts)
      (retry question givenUp attempts) := by
  induction attempts with
  | zero => exact fun _ _ inStep => ⟨rfl, inStep⟩
  | succ attempts ih =>
      refine (agrees_readLine question.prompt).bind fun line => ?_
      cases question.judge line with
      | some result => exact Attempt.agrees_pure result
      | none => exact (agrees_tell _).bind fun _ => ih

theorem agrees_newPassword : Attempt.Agrees related newPassword newPassword := by
  simp only [newPassword, firstEntry_eq_retry, confirm_eq_retry]
  refine (agrees_retry _ _ maxAttempts).bind fun entry => ?_
  exact (agrees_retry _ _ maxAttempts).bind fun _ => Attempt.agrees_pure _

theorem agrees_challenge (stored : AuthTag) (list : Option Bytes) :
    Attempt.Agrees related (challenge stored list) (challenge stored list) := by
  simp only [challenge, challengeWithin_eq_retry]
  exact agrees_retry _ _ maxAttempts

end Dialogue

namespace Staging

theorem agrees_enter (phase : Phase) :
    Attempt.Agrees related (enter phase : Attempt First RequestError Unit) (enter phase) :=
  Attempt.agrees_perform (Action.agrees_emit _)

theorem agrees_note (notice : Notice) :
    Attempt.Agrees related (perform (Action.note notice) : Attempt First RequestError Unit)
      (perform (Action.note notice) : Attempt Second RequestError Unit) :=
  Attempt.agrees_perform (Action.agrees_note notice)

theorem agrees_abortOnFailure {Result : Type} {left : Attempt First RequestError Result}
    {right : Attempt Second RequestError Result} (agrees : Attempt.Agrees related left right) :
    Attempt.Agrees related (abortOnFailure left) (abortOnFailure right) := by
  refine agrees.tryCatch fun error => ?_
  exact (agrees_enter .aborted).bind fun _ => Attempt.agrees_throw error

end Staging

variable [VariableStore First] [VariableStore Second] {used : Variable → Prop}

namespace Query

theorem agrees_readList (simulation : Simulation used related) {var : Variable}
    (inUse : used var) :
    Action.Agrees related (readList var : Action First Bytes) (readList var) := by
  refine (Action.agrees_readVariable simulation inUse).bind fun found => ?_
  rcases found with error | _ | value
  · exact (Action.agrees_note _).bind fun _ => Action.agrees_pure []
  · exact Action.agrees_pure []
  · exact Action.agrees_pure value.data

theorem agrees_readExistingList (simulation : Simulation used related) {var : Variable}
    (inUse : used var) :
    Attempt.Agrees related (readExistingList var : Attempt First RequestError Bytes)
      (readExistingList var) := by
  refine (Attempt.agrees_perform (Action.agrees_readVariable simulation inUse)).bind
    fun found => ?_
  rcases found with error | _ | value
  · exact Attempt.agrees_throw _
  · exact Attempt.agrees_throw _
  · exact Attempt.agrees_pure value.data

theorem agrees_listContains (simulation : Simulation used related) {var : Variable}
    (inUse : used var) (key : Bytes) :
    Action.Agrees related (listContains var key : Action First Bool) (listContains var key) :=
  (agrees_readList simulation inUse).bind fun _ => Action.agrees_pure _

theorem agrees_anyListContains (simulation : Simulation used related) (key : Bytes)
    {lists : List Variable} (inUse : ∀ var ∈ lists, used var) :
    Action.Agrees related (anyListContains key lists : Action First Bool)
      (anyListContains key lists) := by
  induction lists with
  | nil => exact Action.agrees_pure false
  | cons var later ih =>
      have laterInUse : ∀ other ∈ later, used other :=
        fun other mem => inUse other (List.mem_cons_of_mem var mem)
      refine (agrees_listContains simulation (inUse var List.mem_cons_self) key).bind
        fun found => ?_
      cases found with
      | true => exact Action.agrees_pure true
      | false => exact ih laterInUse

theorem agrees_isEnrolled (simulation : Simulation used related)
    (inUse : ∀ var ∈ trustedLists, used var) (key : Bytes) :
    Action.Agrees related (isEnrolled key : Action First Bool) (isEnrolled key) :=
  agrees_anyListContains simulation key inUse

theorem agrees_isEligible (simulation : Simulation used related) (kind : RequestKind)
    (inUse : ∀ var ∈ consulted kind, used var) (key : Bytes) :
    Action.Agrees related (isEligible kind key : Action First Bool) (isEligible kind key) := by
  cases kind with
  | enroll =>
      exact (agrees_isEnrolled simulation inUse key).bind fun _ => Action.agrees_pure _
  | delete =>
      have enrolledInUse := inUse .enrolledKeys (by simp [consulted])
      have pendingInUse := inUse .pendingDeletion (by simp [consulted])
      refine (agrees_listContains simulation enrolledInUse key).bind fun enrolled => ?_
      cases enrolled with
      | true =>
          exact (agrees_listContains simulation pendingInUse key).bind
            fun _ => Action.agrees_pure _
      | false => exact Action.agrees_pure false

end Query

namespace Staging

theorem agrees_assess (simulation : Simulation used related) (kind : RequestKind)
    (inUse : ∀ var ∈ Query.consulted kind, used var) (accepted : List Candidate)
    (skipped : List String) (candidates : List Candidate) :
    Action.Agrees related (assess kind accepted skipped candidates : Action First _)
      (assess kind accepted skipped candidates) := by
  induction candidates generalizing accepted skipped with
  | nil => exact Action.agrees_pure _
  | cons candidate later ih =>
      unfold assess
      extract_lets judge judgeToo
      have judged (told : PUnit) : Action.Agrees related (judge told) (judgeToo told) := by
        unfold judge judgeToo
        by_cases repeated : (accepted.any (·.data == candidate.data)) = true
        · rw [if_pos repeated, if_pos repeated]
          exact ih _ _
        · rw [if_neg repeated, if_neg repeated]
          refine (Query.agrees_isEligible simulation kind inUse _).bind fun eligible => ?_
          cases eligible with
          | true => exact ih _ _
          | false => exact ih _ _
      by_cases doubtful : (!Certificate.isValid candidate.data) = true
      · rw [if_pos doubtful, if_pos doubtful]
        exact (Action.agrees_note _).bind judged
      · rw [if_neg doubtful, if_neg doubtful]
        exact judged ⟨⟩

theorem agrees_authenticatePrior (simulation : Simulation used related) {kind : RequestKind}
    (listInUse : used kind.pendingVariable) (tagInUse : used kind.tagVariable) :
    Attempt.Agrees related (authenticatePrior kind : Attempt First RequestError _)
      (authenticatePrior kind) := by
  refine (Attempt.agrees_perform (Action.agrees_readVariable simulation listInUse)).bind
    fun found => ?_
  rcases found with error | _ | pending
  · exact Attempt.agrees_throw _
  · exact (agrees_enter _).bind fun _ => Attempt.agrees_pure none
  · refine (Attempt.agrees_perform (Action.agrees_readVariable simulation tagInUse)).bind
      fun read => ?_
    cases read with
    | error error => exact Attempt.agrees_throw _
    | ok stored =>
        dsimp only
        cases stored.bind fun value => AuthTag.ofBytes? value.data with
        | none => exact (agrees_note _).bind fun _ => Attempt.agrees_throw _
        | some tag =>
            refine (Dialogue.agrees_challenge tag (some pending.data)).bind fun passed => ?_
            cases passed with
            | true => exact (agrees_enter _).bind fun _ => Attempt.agrees_pure _
            | false => exact Attempt.agrees_throw _

theorem agrees_storeList (simulation : Simulation used related) {kind : RequestKind}
    (inUse : used kind.pendingVariable) (list : Option Bytes) :
    Attempt.Agrees related (storeList kind list : Attempt First RequestError Unit)
      (storeList kind list) := by
  cases list with
  | some bytes =>
      refine (Attempt.agrees_perform (Action.agrees_writeVariable simulation inUse _)).bind
        fun written => ?_
      cases written with
      | ok done => exact Attempt.agrees_pure ()
      | error error => exact Attempt.agrees_throw _
  | none =>
      refine (Attempt.agrees_perform (Action.agrees_deleteVariable simulation inUse)).bind
        fun deleted => ?_
      cases deleted with
      | ok found => exact Attempt.agrees_pure ()
      | error error => exact Attempt.agrees_throw _

theorem agrees_storeTag (simulation : Simulation used related) {kind : RequestKind}
    (listInUse : used kind.pendingVariable) (tagInUse : used kind.tagVariable) (tag : AuthTag) :
    Attempt.Agrees related (storeTag kind tag : Attempt First RequestError Unit)
      (storeTag kind tag) := by
  refine (Attempt.agrees_perform (Action.agrees_writeVariable simulation tagInUse _)).bind
    fun written => ?_
  cases written with
  | ok done => exact Attempt.agrees_pure ()
  | error error =>
      refine (Attempt.agrees_perform (Action.agrees_deleteVariable simulation listInUse)).bind
        fun deleted => ?_
      cases deleted with
      | ok found => exact Attempt.agrees_throw _
      | error failure => exact (agrees_note _).bind fun _ => Attempt.agrees_throw _

theorem agrees_signAndCommit (simulation : Simulation used related) {kind : RequestKind}
    (listInUse : used kind.pendingVariable) (tagInUse : used kind.tagVariable)
    (list : Option Bytes) :
    Attempt.Agrees related (signAndCommit kind list : Attempt First RequestError Unit)
      (signAndCommit kind list) := by
  refine Dialogue.agrees_newPassword.bind fun password => ?_
  refine (agrees_enter .signed).bind fun _ => ?_
  refine (agrees_storeList simulation listInUse list).bind fun _ => ?_
  refine (agrees_storeTag simulation listInUse tagInUse _).bind fun _ => ?_
  exact (agrees_enter .committed).bind fun _ => agrees_note _

theorem agrees_issue (simulation : Simulation used related) {kind : RequestKind}
    (inUse : ∀ var ∈ Query.consulted kind, used var) (listInUse : used kind.pendingVariable)
    (tagInUse : used kind.tagVariable) (candidates : List Candidate) :
    Attempt.Agrees related (issue kind candidates : Attempt First RequestError RequestReport)
      (issue kind candidates) := by
  apply agrees_abortOnFailure
  refine (Attempt.agrees_perform (agrees_assess simulation kind inUse [] [] candidates)).bind
    fun assessed => ?_
  refine (agrees_enter .candidatesValidated).bind fun _ => ?_
  by_cases idle : assessed.1.isEmpty = true
  · rw [if_pos idle, if_pos idle]
    exact (agrees_note _).bind fun _ => Attempt.agrees_pure _
  · rw [if_neg idle, if_neg idle]
    refine (agrees_authenticatePrior simulation listInUse tagInUse).bind fun prior => ?_
    cases mergedList assessed.1 prior with
    | error error => exact Attempt.agrees_throw _
    | ok list =>
        refine (agrees_enter .merged).bind fun _ => ?_
        refine (agrees_signAndCommit simulation listInUse tagInUse (some list)).bind fun _ => ?_
        exact Attempt.agrees_pure _

theorem agrees_reset (simulation : Simulation used related) {kind : RequestKind}
    (listInUse : used kind.pendingVariable) (tagInUse : used kind.tagVariable) :
    Attempt.Agrees related (reset kind : Attempt First RequestError Unit) (reset kind) := by
  refine (agrees_enter .merged).bind fun _ => ?_
  exact agrees_abortOnFailure (agrees_signAndCommit simulation listInUse tagInUse none)

theorem agrees_deleteExisting (simulation : Simulation used related) {var : Variable}
    (inUse : used var) :
    Attempt.Agrees related (deleteExisting var : Attempt First RequestError Bool)
      (deleteExisting var) := by
  refine (Attempt.agrees_perform (Action.agrees_deleteVariable simulation inUse)).bind
    fun deleted => ?_
  cases deleted with
  | ok found => exact Attempt.agrees_pure found
  | error error => exact Attempt.agrees_throw _

theorem agrees_revoke (simulation : Simulation used related) {kind : RequestKind}
    (listInUse : used kind.pendingVariable) (tagInUse : used kind.tagVariable) :
    Attempt.Agrees related (revoke kind : Attempt First RequestError Bool) (revoke kind) := by
  refine (agrees_deleteExisting simulation listInUse).bind fun foundList => ?_
  exact (agrees_deleteExisting simulation tagInUse).bind fun _ => Attempt.agrees_pure _

end Staging

namespace Policy

theorem agrees_store (simulation : Simulation used related) {var : Variable} (inUse : used var)
    (data : Bytes) :
    Attempt.Agrees related (store var data : Attempt First RequestError Unit) (store var data) := by
  refine (Attempt.agrees_perform (Action.agrees_writeVariable simulation inUse _)).bind
    fun written => ?_
  cases written with
  | ok done => exact Attempt.agrees_pure ()
  | error error => exact Attempt.agrees_throw _

theorem agrees_setPassword (simulation : Simulation used related)
    (inUse : used .pendingPassword) :
    Attempt.Agrees related (setPassword : Attempt First RequestError Unit) setPassword := by
  refine Dialogue.agrees_newPassword.bind fun password => ?_
  exact (agrees_store simulation inUse _).bind fun _ => Staging.agrees_note _

theorem agrees_setValidation (simulation : Simulation used related)
    (inUse : used .pendingValidation) (state : Validation) :
    Attempt.Agrees related (setValidation state : Attempt First RequestError Unit)
      (setValidation state) := by
  refine Dialogue.agrees_newPassword.bind fun password => ?_
  exact (agrees_store simulation inUse _).bind fun _ => Staging.agrees_note _

theorem agrees_secureBootState (simulation : Simulation used related)
    (inUse : used .secureBoot) :
    Attempt.Agrees related (secureBootState : Attempt First RequestError SecureBootState)
      secureBootState := by
  refine (Attempt.agrees_perform (Action.agrees_readVariable simulation inUse)).bind
    fun found => ?_
  rcases found with error | _ | value
  · exact Attempt.agrees_throw _
  · exact Attempt.agrees_throw _
  · exact Attempt.agrees_pure _

end Policy

end OwnerKeys
