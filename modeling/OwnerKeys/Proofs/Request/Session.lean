import OwnerKeys.Proofs.Machine.Outcome
import OwnerKeys.Request.Staging
import OwnerKeys.Store.Faulty

/-!
# Sessions

A session is a sequence of calls that issue, reset or revoke requests. Each call has its own
operator, and its own faults of the store; what one call leaves in the store is there for the next.
-/

namespace OwnerKeys

/-- What can be done about requests. -/
inductive Operation where
  /-- Staging candidates. -/
  | issue (kind : RequestKind) (candidates : List Candidate)
  /-- Staging an empty list. -/
  | reset (kind : RequestKind)
  /-- Taking a pending request back. -/
  | revoke (kind : RequestKind)

/-- What is reported about an operation that succeeded. -/
inductive Reply where
  /-- Candidates were staged, as far as they are eligible. -/
  | issued (report : RequestReport)
  /-- An empty list was staged. -/
  | cleared
  /-- A pending request was taken back, if there was one. -/
  | revoked (found : Bool)
deriving DecidableEq, Repr

/-- The computation behind an operation. -/
def Operation.attempt {Store : Type} [VariableStore Store] :
    Operation → Attempt Store RequestError Reply
  | issue kind candidates => .issued <$> Staging.issue kind candidates
  | reset kind => (fun _ => .cleared) <$> Staging.reset kind
  | revoke kind => .revoked <$> Staging.revoke kind

/-- An operation, what the operator answers while it runs, and what is made to fail. -/
structure Call where
  /-- The operation. -/
  operation : Operation
  /-- The answers of the operator. -/
  answers : List Answer
  /-- The operations of the store that fail. -/
  faults : List Sabotage

namespace Call

/-- Whether an operation on a variable is made to fail during a call. -/
def Fails (call : Call) (operation : StoreOperation) (var : Variable) : Prop :=
  ∃ fault ∈ call.faults, fault.operation = operation ∧ fault.var = var

variable {Store : Type}

/-- The machine on which a call starts. -/
def start (call : Call) (store : Store) : Machine (Faulty Store) where
  store := ⟨store, call.faults⟩
  answers := call.answers

variable [VariableStore Store]

/-- The reply to a call, or its error, and the machine that it leaves behind. -/
def outcome (call : Call) (store : Store) : Except RequestError Reply × Machine (Faulty Store) :=
  call.operation.attempt.outcome (call.start store)

/-- What a call leaves in the store. -/
def after (call : Call) (store : Store) : Store :=
  (call.outcome store).2.store.inner

end Call

/-- What a session leaves in the store. -/
def afterSession {Store : Type} [VariableStore Store] (store : Store) (calls : List Call) :
    Store :=
  calls.foldl (fun current call => call.after current) store

end OwnerKeys
