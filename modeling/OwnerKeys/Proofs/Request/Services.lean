import OwnerKeys.Proofs.Request.Agreement

/-!
# Services one after another

A service is something that can be asked of the program or of the store below it: a single call, a
query of a key list, an operation on requests, a change of policy. Services are done one after
another, with one operator and on one store. Where two stores answer alike for all variables that
the services use, nobody can tell from the outside on which of them the services are done.
-/

namespace OwnerKeys

/-- What can be asked for. -/
inductive Service where
  | read (var : Variable)
  | contains (var : Variable)
  | write (var : Variable) (value : Value)
  | delete (var : Variable)
  | list (var : Variable)
  | existingList (var : Variable)
  | listContains (var : Variable) (key : Bytes)
  | isEnrolled (key : Bytes)
  | isEligible (kind : RequestKind) (key : Bytes)
  | request (operation : Operation)
  | setPassword
  | setValidation (state : Validation)
  | secureBootState

/-- What comes back. A call of the store comes back with its failure; a service of another sort has
a failure of its own in place of a reply. -/
inductive Service.Reply where
  | read (found : Except StoreError (Option Value))
  | written (done : Except StoreError Unit)
  | found (answer : Except StoreError Bool)
  | list (bytes : Bytes)
  | verdict (holds : Bool)
  | requested (reply : OwnerKeys.Reply)
  | staged
  | state (secureBoot : Policy.SecureBootState)

/-- The kind of the requests that an operation is about. -/
def Operation.kind : Operation → RequestKind
  | issue kind _ | reset kind | revoke kind => kind

/-- The variables that an operation may call the store for. -/
def Operation.touched (operation : Operation) : List Variable :=
  let own := [operation.kind.pendingVariable, operation.kind.tagVariable]
  match operation with
  | issue kind _ => own ++ Query.consulted kind
  | reset _ | revoke _ => own

namespace Service

/-- The variables that a service may call the store for. -/
def touched : Service → List Variable
  | read var | contains var | write var _ | delete var => [var]
  | list var | existingList var | listContains var _ => [var]
  | isEnrolled _ => Query.trustedLists
  | isEligible kind _ => Query.consulted kind
  | request operation => operation.touched
  | setPassword => [.pendingPassword]
  | setValidation _ => [.pendingValidation]
  | secureBootState => [.secureBoot]

section

variable {Store : Type} [VariableStore Store]

/-- The computation behind a service. -/
def attempt : Service → Attempt Store RequestError Reply
  | read var => .read <$> perform (Action.readVariable var)
  | contains var => .found <$> perform (Action.variableExists var)
  | write var value => .written <$> perform (Action.writeVariable var value)
  | delete var => .found <$> perform (Action.deleteVariable var)
  | list var => .list <$> perform (Query.readList var)
  | existingList var => .list <$> Query.readExistingList var
  | listContains var key => .verdict <$> perform (Query.listContains var key)
  | isEnrolled key => .verdict <$> perform (Query.isEnrolled key)
  | isEligible kind key => .verdict <$> perform (Query.isEligible kind key)
  | request operation => .requested <$> operation.attempt
  | setPassword => (fun _ => .staged) <$> Policy.setPassword
  | setValidation state => (fun _ => .staged) <$> Policy.setValidation state
  | secureBootState => .state <$> Policy.secureBootState

/-- The replies to services that are done one after another, and the machine after the last one. -/
def run (machine : Machine Store) : List Service → List (Except RequestError Reply) × Machine Store
  | [] => ([], machine)
  | service :: later =>
    let (reply, next) := service.attempt.outcome machine
    let (replies, last) := run next later
    (reply :: replies, last)

end

end Service

variable {First Second : Type} [VariableStore First] [VariableStore Second]
  {used : Variable → Prop} {related : First → Second → Prop}

theorem Operation.agrees (simulation : Simulation used related) (operation : Operation)
    (inUse : ∀ var ∈ operation.touched, used var) :
    Attempt.Agrees related (operation.attempt : Attempt First RequestError OwnerKeys.Reply)
      operation.attempt := by
  have listInUse : used operation.kind.pendingVariable := by
    apply inUse
    cases operation <;> simp [touched]
  have tagInUse : used operation.kind.tagVariable := by
    apply inUse
    cases operation <;> simp [touched]
  cases operation with
  | issue kind candidates =>
      have consultedInUse : ∀ var ∈ Query.consulted kind, used var :=
        fun var mem => inUse var (List.mem_append_right _ mem)
      exact (Staging.agrees_issue simulation consultedInUse listInUse tagInUse candidates).map _
  | reset kind => exact (Staging.agrees_reset simulation listInUse tagInUse).map _
  | revoke kind => exact (Staging.agrees_revoke simulation listInUse tagInUse).map _

namespace Service

/-- A service cannot tell stores apart that answer alike for the variables which it uses. -/
theorem agrees (simulation : Simulation used related) (service : Service)
    (inUse : ∀ var ∈ service.touched, used var) :
    Attempt.Agrees related (service.attempt : Attempt First RequestError Reply)
      service.attempt := by
  cases service with
  | read var =>
      have varInUse := inUse var List.mem_cons_self
      exact (Attempt.agrees_perform (Action.agrees_readVariable simulation varInUse)).map _
  | contains var =>
      have varInUse := inUse var List.mem_cons_self
      exact (Attempt.agrees_perform (Action.agrees_variableExists simulation varInUse)).map _
  | write var value =>
      have varInUse := inUse var List.mem_cons_self
      exact (Attempt.agrees_perform
        (Action.agrees_writeVariable simulation varInUse value)).map _
  | delete var =>
      have varInUse := inUse var List.mem_cons_self
      exact (Attempt.agrees_perform (Action.agrees_deleteVariable simulation varInUse)).map _
  | list var =>
      have varInUse := inUse var List.mem_cons_self
      exact (Attempt.agrees_perform (Query.agrees_readList simulation varInUse)).map _
  | existingList var =>
      have varInUse := inUse var List.mem_cons_self
      exact (Query.agrees_readExistingList simulation varInUse).map _
  | listContains var key =>
      have varInUse := inUse var List.mem_cons_self
      exact (Attempt.agrees_perform (Query.agrees_listContains simulation varInUse key)).map _
  | isEnrolled key =>
      exact (Attempt.agrees_perform (Query.agrees_isEnrolled simulation inUse key)).map _
  | isEligible kind key =>
      exact (Attempt.agrees_perform (Query.agrees_isEligible simulation kind inUse key)).map _
  | request operation => exact (operation.agrees simulation inUse).map _
  | setPassword =>
      exact (Policy.agrees_setPassword simulation (inUse _ List.mem_cons_self)).map _
  | setValidation state =>
      exact (Policy.agrees_setValidation simulation (inUse _ List.mem_cons_self) state).map _
  | secureBootState =>
      exact (Policy.agrees_secureBootState simulation (inUse _ List.mem_cons_self)).map _

/-- Services one after another cannot tell such stores apart, either. -/
theorem run_agrees (simulation : Simulation used related) {services : List Service}
    (inUse : ∀ service ∈ services, ∀ var ∈ service.touched, used var)
    {first : Machine First} {second : Machine Second}
    (inStep : Machine.InStep related first second) :
    (run first services).1 = (run second services).1 ∧
      Machine.InStep related (run first services).2 (run second services).2 := by
  induction services generalizing first second with
  | nil => exact ⟨rfl, inStep⟩
  | cons service later ih =>
      have laterInUse : ∀ other ∈ later, ∀ var ∈ other.touched, used var :=
        fun other mem => inUse other (List.mem_cons_of_mem service mem)
      rcases (service.agrees simulation (inUse service List.mem_cons_self)).outcomes inStep with
        ⟨reply, firstNext, secondNext, ran, ranToo, inStepNext⟩
      rcases ih laterInUse inStepNext with ⟨sameReplies, inStepLast⟩
      simp only [run, ran, ranToo]
      exact ⟨congrArg (reply :: ·) sameReplies, inStepLast⟩

end Service

end OwnerKeys
