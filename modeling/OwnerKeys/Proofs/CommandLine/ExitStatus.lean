import OwnerKeys.Proofs.CommandLine.Footprint
import OwnerKeys.Proofs.Request.CommitPoint
import OwnerKeys.Proofs.Request.Eligibility
import OwnerKeys.Proofs.SignatureList.Grammar

/-!
# What exit statuses promise

A status other than that of a plain failure says that the operator did not go through with a
request, that a variable does not exist, or that a key is enrolled. All of that is found out before
anything is changed, so scripts that see such a status can rely on the store being as it was. The
status of an enrolled key comes from testing a key and from nothing else. A test that finds a key
enrolled says so before it ends; where the output does not take that, it ends as a plain failure.
-/

namespace OwnerKeys

variable {Store Error Other Result OtherResult : Type}

namespace Attempt

/-- Whenever an attempt fails with a status of its own, it has left the store as it was. -/
def Spares (status : Error → ExitStatus) (attempt : Attempt Store Error Result) : Prop :=
  ∀ ⦃before after : Machine Store⦄ ⦃error : Error⦄,
    attempt.outcome before = (.error error, after) → status error ≠ .error →
      after.store = before.store

/-- An attempt fails in some ways only. Which ones these are may depend on what it leaves behind. -/
def FailsWith (allowed : Error → Machine Store → Prop) (attempt : Attempt Store Error Result) :
    Prop :=
  ∀ ⦃before after : Machine Store⦄ ⦃error : Error⦄,
    attempt.outcome before = (.error error, after) → allowed error after

/-- An attempt fails in no way that has a status of its own. -/
def FailsPlainly (status : Error → ExitStatus) (attempt : Attempt Store Error Result) : Prop :=
  attempt.FailsWith fun error _ => status error = .error

section Failing

variable {allowed : Error → Machine Store → Prop} {attempt : Attempt Store Error Result}
  {next : Result → Attempt Store Error OtherResult}

theorem failsWith_pure (result : Result) :
    (pure result : Attempt Store Error Result).FailsWith allowed := by
  intro before after error failed
  cases failed

theorem failsWith_throw {error : Error} (isAllowed : ∀ after, allowed error after) :
    (throw error : Attempt Store Error Result).FailsWith allowed := by
  intro before after other failed
  cases failed
  exact isAllowed before

theorem failsWith_perform (action : Action Store Result) :
    (perform action : Attempt Store Error Result).FailsWith allowed := by
  intro before after error failed
  rw [outcome_perform] at failed
  cases failed

theorem FailsWith.bind (first : attempt.FailsWith allowed)
    (second : ∀ result, (next result).FailsWith allowed) :
    (attempt >>= next).FailsWith allowed := by
  intro before after error failed
  rcases ran : attempt.outcome before with ⟨failure | result, middle⟩
  · rw [outcome_bind_error ran] at failed
    cases failed
    exact first ran
  · rw [outcome_bind_ok ran] at failed
    exact second result failed

end Failing

section Sparing

variable {status : Error → ExitStatus} {attempt : Attempt Store Error Result}
  {next : Result → Attempt Store Error OtherResult}

theorem spares_of_quiet (quiet : attempt.Keeps Machine.Quiet) : attempt.Spares status := by
  intro before after error failed _
  exact (quiet.of_outcome failed).store_eq

theorem FailsPlainly.spares (plain : attempt.FailsPlainly status) : attempt.Spares status := by
  intro before after error failed special
  exact absurd (plain failed) special

/-- What only looks may come first. -/
theorem Spares.after_quiet (quiet : attempt.Keeps Machine.Quiet)
    (spares : ∀ result, (next result).Spares status) : (attempt >>= next).Spares status := by
  intro before after error failed special
  rcases ran : attempt.outcome before with ⟨failure | result, middle⟩
  · rw [outcome_bind_error ran] at failed
    cases failed
    exact (quiet.of_outcome ran).store_eq
  · rw [outcome_bind_ok ran] at failed
    exact (spares result failed special).trans (quiet.of_outcome ran).store_eq

/-- What fails in no way with a status of its own may follow. -/
theorem Spares.before_plain (spares : attempt.Spares status)
    (plain : ∀ result, (next result).FailsPlainly status) :
    (attempt >>= next).Spares status := by
  intro before after error failed special
  rcases ran : attempt.outcome before with ⟨failure | result, middle⟩
  · rw [outcome_bind_error ran] at failed
    cases failed
    exact spares ran special
  · rw [outcome_bind_ok ran] at failed
    exact absurd (plain result failed) special

end Sparing

end Attempt

/-! ## Requests -/

section Requests

variable [VariableStore Store]

namespace Query

/-- A key is found in a list that can be read. -/
theorem mem_keysIn_iff {store : Store} {var : Variable} {key : Bytes} :
    key ∈ keysIn store var ↔ ∃ value, VariableStore.read store var = .ok (some value) ∧
      key ∈ (SignatureList.decode value.data).payloads := by
  have nothing : key ∉ (SignatureList.decode []).payloads := by
    simp [SignatureList.decode_nil, SignatureList.Decoded.payloads]
  unfold keysIn listIn
  rcases VariableStore.read store var with error | _ | value
  · simp [nothing]
  · simp [nothing]
  · simp

end Query

namespace Staging

/-- A failure with a status of its own is not the refusal of a write. -/
theorem ne_write_of_status {error : RequestError}
    (special : ExitStatus.ofRequestError error ≠ .error) (var : Variable) (failure : StoreError) :
    error ≠ .write var failure := by
  rintro rfl
  exact special rfl

omit [VariableStore Store] in
theorem store_abortedOn (result : Except RequestError Result) (machine : Machine Store) :
    (abortedOn result machine).store = machine.store :=
  (quiet_abortedOn result machine).store_eq

theorem spares_issue (kind : RequestKind) (candidates : List Candidate) :
    (issue kind candidates : Attempt Store RequestError RequestReport).Spares
      ExitStatus.ofRequestError := by
  intro before after error failed special
  rcases exists_issueOutcome kind candidates before with ⟨result, stopped, ending, ran⟩
  rw [failed, Prod.mk.injEq] at ran
  rcases ran with ⟨rfl, rfl⟩
  rw [store_abortedOn]
  exact ending.store_eq_of_error (ne_write_of_status special _)

theorem spares_reset (kind : RequestKind) :
    (reset kind : Attempt Store RequestError Unit).Spares ExitStatus.ofRequestError := by
  intro before after error failed special
  have ending := commitOutcome kind none (before.advance before.store [.entered .merged])
  rw [outcome_reset, Prod.mk.injEq] at failed
  rcases failed with ⟨failed, rfl⟩
  rw [store_abortedOn]
  rw [failed] at ending
  exact ending.store_eq_of_error (ne_write_of_status special _)

theorem failsPlainly_deleteExisting (var : Variable) :
    (deleteExisting var : Attempt Store RequestError Bool).FailsPlainly
      ExitStatus.ofRequestError := by
  refine (Attempt.failsWith_perform _).bind fun deleted => ?_
  cases deleted with
  | ok found => exact Attempt.failsWith_pure found
  | error error => exact Attempt.failsWith_throw fun _ => rfl

theorem failsPlainly_revoke (kind : RequestKind) :
    (revoke kind : Attempt Store RequestError Bool).FailsPlainly ExitStatus.ofRequestError :=
  (failsPlainly_deleteExisting _).bind fun _ =>
    (failsPlainly_deleteExisting _).bind fun _ => Attempt.failsWith_pure _

end Staging

namespace Policy

theorem failsPlainly_store (var : Variable) (data : Bytes) :
    (store var data : Attempt Store RequestError Unit).FailsPlainly ExitStatus.ofRequestError := by
  refine (Attempt.failsWith_perform _).bind fun written => ?_
  cases written with
  | ok done => exact Attempt.failsWith_pure ()
  | error error => exact Attempt.failsWith_throw fun _ => rfl

/-- A dialogue, a write that can be refused, and a notice. -/
theorem spares_storing (var : Variable) (dataOf : Password → Bytes) (notice : Notice) :
    (do
      let password ← Dialogue.newPassword
      store var (dataOf password)
      perform (Action.note notice) : Attempt Store RequestError Unit).Spares
      ExitStatus.ofRequestError := by
  have quiet : (Dialogue.newPassword : Attempt Store RequestError Password).Keeps Machine.Quiet :=
    fun machine => Dialogue.quiet_newPassword rfl
  refine Attempt.Spares.after_quiet quiet fun password => Attempt.FailsPlainly.spares ?_
  exact (failsPlainly_store _ _).bind fun _ => Attempt.failsWith_perform _

end Policy

end Requests

/-! ## Commands -/

namespace CommandLine

/-- The number with which the program ends after a command. -/
def exitCode : Except CommandError Unit → Nat
  | .ok () => 0
  | .error error => (ExitStatus.ofCommandError error).code

theorem spares_mapError {status : Error → ExitStatus} {otherStatus : Other → ExitStatus}
    {change : Error → Other} (same : ∀ error, otherStatus (change error) = status error)
    {attempt : Attempt Store Error Result} (spares : attempt.Spares status) :
    (mapError change attempt).Spares otherStatus := by
  intro before after error failed special
  rw [outcome_mapError] at failed
  rcases ran : attempt.outcome before with ⟨failure | result, stopped⟩
  · rw [ran] at failed
    cases failed
    exact spares ran (same failure ▸ special)
  · rw [ran] at failed
    cases failed

/-- A failed request has the same status as a failed command. -/
theorem spares_request {attempt : Attempt Store RequestError Result}
    (spares : attempt.Spares ExitStatus.ofRequestError) :
    (mapError .request attempt).Spares ExitStatus.ofCommandError :=
  spares_mapError (fun _ => rfl) spares

/-! ## How commands fail -/

theorem failsWith_mapError {allowed : Other → Machine Store → Prop} {change : Error → Other}
    (isAllowed : ∀ error after, allowed (change error) after)
    (attempt : Attempt Store Error Result) : (mapError change attempt).FailsWith allowed := by
  intro before after error failed
  rw [outcome_mapError] at failed
  rcases ran : attempt.outcome before with ⟨failure | result, stopped⟩
  · rw [ran] at failed
    cases failed
    exact isAllowed failure stopped
  · rw [ran] at failed
    cases failed

section Allowed

variable {allowed : CommandError → Machine Store → Prop} {output : Output}

section Showing

variable (refused : ∀ {after : Machine Store} {text reason : String},
  output.refusal? after.trace text = some reason → allowed (.output reason) after)

include refused

theorem failsWith_showing {showing : Attempt Store String Result} {result : Result}
    {events : List Event} (shows : showing.Shows output result events) :
    (mapError .output showing).FailsWith allowed := by
  intro before after error failed
  have ending := shows before
  rw [outcome_mapError] at failed
  generalize showing.outcome before = ran at ending failed
  cases ending with
  | shown _ => cases failed
  | refused _ _ refuses =>
      cases failed
      exact refused refuses

theorem failsWith_print (text : String) :
    (print output text : Attempt Store CommandError Unit).FailsWith allowed :=
  failsWith_showing refused (Attempt.shows_print text)

theorem failsWith_prints (lineOf : String → String) (names : List String) :
    (names.forM fun name => print output (lineOf name) : Attempt Store CommandError Unit).FailsWith
      allowed := by
  induction names with
  | nil => exact Attempt.failsWith_pure ()
  | cons name later ih => exact (failsWith_print refused _).bind fun _ => ih

end Showing

section Files

variable [HasFiles Store] (isAllowed : ∀ error after, allowed (.keyFile error) after)

include isAllowed

theorem failsWith_readKeyFile (device : Device) (path : String) :
    (readKeyFile device path : Attempt Store CommandError Bytes).FailsWith allowed := by
  intro before after error failed
  rw [outcome_readKeyFile] at failed
  cases read : device.read (HasFiles.files before.store) path with
  | ok content =>
      rw [read] at failed
      cases failed
  | error failure =>
      rw [read] at failed
      cases failed
      exact isAllowed failure _

theorem failsWith_readCandidates (device : Device) (paths : List String) :
    (readCandidates device paths : Attempt Store CommandError (List Candidate)).FailsWith
      allowed := by
  induction paths with
  | nil => exact Attempt.failsWith_pure []
  | cons path later ih =>
      exact (failsWith_readKeyFile isAllowed device path).bind fun _ => ih.bind fun _ =>
        Attempt.failsWith_pure _

end Files

/-- Some failures are allowed to a command: all those of requests, key files and exports, and those
of the output if it has refused a text. -/
structure Allows (output : Output) (allowed : CommandError → Machine Store → Prop) : Prop where
  request : ∀ error after, allowed (.request error) after
  reset : ∀ error after, allowed (.reset error) after
  keyFile : ∀ error after, allowed (.keyFile error) after
  exporting : ∀ error after, allowed (.exporting error) after
  refused : ∀ {after : Machine Store} {text reason : String},
    output.refusal? after.trace text = some reason → allowed (.output reason) after

variable [VariableStore Store] [HasFiles Store]

/-- A command fails as the request, the export or the output does of which it is made, or because a
key file cannot be read. Only a test of a key can fail in one more way. -/
theorem failsWith_run {conditions : Conditions} (allows : Allows conditions.output allowed)
    (command : Command)
    (tests : ∀ file, command = .testKey file → ∀ after, allowed (.alreadyEnrolled file) after) :
    (run command conditions : Attempt Store CommandError Unit).FailsWith allowed := by
  have requests {Result : Type} (attempt : Attempt Store RequestError Result) :
      (mapError .request attempt).FailsWith allowed := failsWith_mapError allows.request attempt
  have nothing : (pure () : Attempt Store CommandError Unit).FailsWith allowed :=
    Attempt.failsWith_pure ()
  have lists (var : Variable) :
      (list conditions.output var : Attempt Store CommandError Unit).FailsWith allowed :=
    (requests _).bind fun bytes =>
      (failsWith_showing allows.refused (Listing.shows_listKeys bytes)).bind fun _ => nothing
  have stages (kind : RequestKind) (files : List String) :
      (stage conditions kind files : Attempt Store CommandError Unit).FailsWith allowed :=
    (failsWith_readCandidates allows.keyFile _ files).bind fun _ =>
      (requests _).bind fun report => failsWith_prints allows.refused skipLine report.skipped
  have revokes (kind : RequestKind) :
      (revoke kind : Attempt Store CommandError Unit).FailsWith allowed := by
    refine (requests _).bind fun found => ?_
    split
    · exact Attempt.failsWith_perform _
    · exact nothing
  cases command with
  | listEnrolled => exact lists _
  | listNew => exact lists _
  | listDelete => exact lists _
  | importKeys files => exact stages .enroll files
  | deleteKeys files => exact stages .delete files
  | revoke => exact revokes .enroll
  | revokeDelete => exact revokes .delete
  | exportKeys directory =>
      exact (requests _).bind fun bytes =>
        (failsWith_mapError allows.exporting _).bind fun _ => Attempt.failsWith_perform _
  | password => exact requests _
  | disableValidation => exact requests _
  | enableValidation => exact requests _
  | secureBootState => exact (requests _).bind fun _ => failsWith_print allows.refused _
  | testKey file =>
      refine (failsWith_readKeyFile allows.keyFile _ file).bind fun key =>
        (Attempt.failsWith_perform _).bind fun enrolled =>
          (failsWith_print allows.refused _).bind fun _ => ?_
      split
      · exact Attempt.failsWith_throw (tests file rfl)
      · exact nothing
  | reset => exact failsWith_mapError allows.reset _

end Allowed

variable [VariableStore Store] [HasFiles Store]

/-! ## Statuses -/

/-- A command that fails with a status of its own has left the store as it was. -/
theorem spares_run (command : Command) (conditions : Conditions) :
    (run command conditions : Attempt Store CommandError Unit).Spares
      ExitStatus.ofCommandError := by
  have stages (kind : RequestKind) (files : List String) :
      (stage conditions kind files : Attempt Store CommandError Unit).Spares
        ExitStatus.ofCommandError := by
    refine Attempt.Spares.after_quiet (quiet_readCandidates _ files) fun candidates => ?_
    refine (spares_request (Staging.spares_issue kind candidates)).before_plain fun report => ?_
    exact failsWith_prints (fun _ => rfl) skipLine report.skipped
  have revokes (kind : RequestKind) :
      (revoke kind : Attempt Store CommandError Unit).Spares ExitStatus.ofCommandError := by
    have deletes : (Staging.revoke kind : Attempt Store RequestError Bool).Spares
        ExitStatus.ofRequestError :=
      (Staging.failsPlainly_revoke kind).spares
    refine (spares_request deletes).before_plain fun found => ?_
    split
    · exact Attempt.failsWith_perform _
    · exact Attempt.failsWith_pure ()
  cases command with
  | listEnrolled => exact Attempt.spares_of_quiet (quiet_list _ _)
  | listNew => exact Attempt.spares_of_quiet (quiet_list _ _)
  | listDelete => exact Attempt.spares_of_quiet (quiet_list _ _)
  | importKeys files => exact stages .enroll files
  | deleteKeys files => exact stages .delete files
  | revoke => exact revokes .enroll
  | revokeDelete => exact revokes .delete
  | exportKeys directory =>
      refine Attempt.Spares.after_quiet (keeps_mapError (Query.quiet_readExistingList _) _) ?_
      refine fun bytes => Attempt.FailsPlainly.spares ?_
      exact (failsWith_mapError (fun _ _ => rfl) _).bind fun _ => Attempt.failsWith_perform _
  | password => exact spares_request (Policy.spares_storing _ _ _)
  | disableValidation => exact spares_request (Policy.spares_storing _ _ _)
  | enableValidation => exact spares_request (Policy.spares_storing _ _ _)
  | secureBootState => exact Attempt.spares_of_quiet (quiet_showSecureBoot _)
  | testKey file => exact Attempt.spares_of_quiet (quiet_testKey conditions file)
  | reset => exact spares_mapError (fun _ => rfl) (Staging.spares_reset .enroll)

/-- No failed request has the status of an enrolled key. -/
theorem ofRequestError_ne_enrolled (error : RequestError) :
    ExitStatus.ofRequestError error ≠ .enrolled := by
  cases error <;> simp [ExitStatus.ofRequestError]

/-- Only testing a key has the status of an enrolled key. -/
theorem ne_enrolled_of_run {command : Command} (notTest : ∀ file, command ≠ .testKey file)
    (conditions : Conditions) :
    (run command conditions : Attempt Store CommandError Unit).FailsWith fun error _ =>
      ExitStatus.ofCommandError error ≠ .enrolled := by
  refine failsWith_run ?_ command fun file same => absurd same (notTest file)
  exact {
    request := fun error _ => ofRequestError_ne_enrolled error
    reset := fun error _ => ofRequestError_ne_enrolled error
    keyFile := fun _ _ => by simp [ExitStatus.ofCommandError]
    exporting := fun _ _ => by simp [ExitStatus.ofCommandError]
    refused := fun _ => by simp [ExitStatus.ofCommandError] }

/-- A command that fails because of the output has had a text refused. -/
theorem refused_of_run (command : Command) (conditions : Conditions) :
    (run command conditions : Attempt Store CommandError Unit).FailsWith fun error after =>
      ∀ reason, error = .output reason →
        ∃ text, conditions.output.refusal? after.trace text = some reason := by
  refine failsWith_run ?_ command fun _ _ _ _ other => nomatch other
  exact {
    request := fun _ _ _ other => nomatch other
    reset := fun _ _ _ other => nomatch other
    keyFile := fun _ _ _ other => nomatch other
    exporting := fun _ _ _ other => nomatch other
    refused := fun {after text reason} refuses _ same => by
      cases same
      exact ⟨text, refuses⟩ }

theorem exitCode_mem_iff {result : Except CommandError Unit} :
    exitCode result ∈ [2, 3, 4, 5] ↔
      ∃ error, result = .error error ∧ ExitStatus.ofCommandError error ≠ .error := by
  rcases result with error | done
  · cases status : ExitStatus.ofCommandError error <;> simp [exitCode, status, ExitStatus.code]
  · simp [exitCode]

theorem exitCode_eq_four_iff {result : Except CommandError Unit} :
    exitCode result = 4 ↔
      ∃ error, result = .error error ∧ ExitStatus.ofCommandError error = .enrolled := by
  rcases result with error | done
  · cases status : ExitStatus.ofCommandError error <;> simp [exitCode, status, ExitStatus.code]
  · simp [exitCode]

/-- Bytes are in a list that can be read, among those through which a key is trusted. -/
def Enrolled (store : Store) (key : Bytes) : Prop :=
  ∃ var ∈ [Variable.platformKey, .keyExchangeKeys, .signatureDatabase, .enrolledKeys,
      .pendingEnrollment],
    ∃ value, VariableStore.read store var = .ok (some value) ∧
      key ∈ (SignatureList.decode value.data).payloads

omit [HasFiles Store] in
theorem enrolled_iff {store : Store} {key : Bytes} :
    Enrolled store key ↔ ∃ var ∈ Query.trustedLists, key ∈ Query.keysIn store var := by
  simp only [Query.mem_keysIn_iff]
  rfl

/-- A command tests a key that can be read and that is enrolled. -/
def TestsEnrolled (command : Command) (device : Device) (before : Machine Store) : Prop :=
  ∃ file key, command = .testKey file ∧
    device.read (HasFiles.files before.store) file = .ok key ∧ Enrolled before.store key

/-- A key file that can be read is tested: the output is refused, or the result tells whether the
key is enrolled. -/
theorem result_testKey {conditions : Conditions} {file : String} {before : Machine Store}
    {key : Bytes} (read : conditions.device.read (HasFiles.files before.store) file = .ok key) :
    let result := (Attempt.outcome (testKey conditions file) before).1
    (∃ reason, result = .error (.output reason)) ∨
      Enrolled before.store key ∧ result = .error (.alreadyEnrolled file) ∨
      ¬Enrolled before.store key ∧ result = .ok () := by
  intro result
  have reading := outcome_readKeyFile conditions.device file before
  rw [read] at reading
  have isEnrolled : (Action.outcome (Query.isEnrolled key) before).1 = true ↔
      Enrolled before.store key :=
    Query.anyListContains_iff.trans enrolled_iff.symm
  unfold result testKey
  rw [Attempt.outcome_bind_ok reading, Attempt.outcome_perform_bind, ← isEnrolled]
  generalize Action.outcome (Query.isEnrolled key) before = looked
  rcases looked with ⟨answer, looked⟩
  rcases said : Attempt.outcome (print conditions.output (testLine file answer) :
    Attempt Store CommandError Unit) looked with ⟨error | done, after⟩
  · rw [Attempt.outcome_bind_error said]
    have onlyOutput : (print conditions.output (testLine file answer) :
        Attempt Store CommandError Unit).FailsWith fun error _ =>
          ∃ reason, error = .output reason :=
      failsWith_print (fun _ => ⟨_, rfl⟩) _
    rcases onlyOutput said with ⟨reason, rfl⟩
    exact .inl ⟨reason, rfl⟩
  · rw [Attempt.outcome_bind_ok said]
    cases answer with
    | true => exact .inr (.inl ⟨rfl, rfl⟩)
    | false => exact .inr (.inr ⟨by simp, rfl⟩)

theorem exitCode_testKey_eq_four_iff (conditions : Conditions) (file : String)
    (before : Machine Store) :
    let result := (Attempt.outcome (testKey conditions file) before).1
    exitCode result = 4 ↔ TestsEnrolled (.testKey file) conditions.device before ∧
      ∀ reason, result ≠ .error (.output reason) := by
  intro result
  cases read : conditions.device.read (HasFiles.files before.store) file with
  | error error =>
      have reading := outcome_readKeyFile conditions.device file before
      rw [read] at reading
      have failed : result = .error (.keyFile error) :=
        congrArg Prod.fst (Attempt.outcome_bind_error reading _)
      have notTested : ¬TestsEnrolled (.testKey file) conditions.device before := by
        simp [TestsEnrolled, read]
      simp [failed, notTested, exitCode, ExitStatus.ofCommandError, ExitStatus.code]
  | ok key =>
      have tests : TestsEnrolled (.testKey file) conditions.device before ↔
          Enrolled before.store key := by
        simp [TestsEnrolled, read]
      have ending := result_testKey read
      change (∃ reason, result = _) ∨ _ ∧ result = _ ∨ _ ∧ result = _ at ending
      rw [tests]
      rcases ending with ⟨reason, refused⟩ | ⟨enrolled, failed⟩ | ⟨fresh, passed⟩
      · simp [refused, exitCode, ExitStatus.ofCommandError, ExitStatus.code]
      · simp [failed, enrolled, exitCode, ExitStatus.ofCommandError, ExitStatus.code]
      · simp [passed, fresh, exitCode]

/-- A command ends with the status of an enrolled key exactly if it tests such a key and can say
so. -/
theorem exitCode_run_eq_four_iff (command : Command) (conditions : Conditions)
    (before : Machine Store) :
    let result := (Attempt.outcome (run command conditions) before).1
    exitCode result = 4 ↔ TestsEnrolled command conditions.device before ∧
      ∀ reason, result ≠ .error (.output reason) := by
  intro result
  by_cases test : ∃ file, command = .testKey file
  · rcases test with ⟨file, rfl⟩
    exact exitCode_testKey_eq_four_iff conditions file before
  · have notTest : ∀ file, command ≠ .testKey file := fun file same => test ⟨file, same⟩
    refine iff_of_false (fun four => ?_) fun both => ?_
    · rcases exitCode_eq_four_iff.mp four with ⟨error, failed, status⟩
      exact ne_enrolled_of_run notTest conditions (Prod.ext failed rfl) status
    · rcases both.1 with ⟨file, _, isTest, _⟩
      exact notTest file isTest

/-- What can be relied on after a command. -/
structure Promises (command : Command) (conditions : Conditions) (before : Machine Store)
    (ran : Except CommandError Unit × Machine Store) : Prop where
  /-- The store was not called to write or delete a variable outside of the footprint. -/
  calls : Machine.Calls command.footprint before ran.2
  /-- Changes of variables in the footprint lead to the store that is left, or exported files. -/
  effect : Effect command before ran.2
  /-- Unless files were exported, variables that are apart from the footprint are read as before. -/
  others : (∀ directory, command ≠ .exportKeys directory) →
    ∀ var, (∀ other ∈ command.footprint, VariableStore.Apart Store other var) →
      VariableStore.read ran.2.store var = VariableStore.read before.store var
  /-- If the key file of a request cannot be read, nothing has happened at all. -/
  keyFiles : ∀ files, command = .importKeys files ∨ command = .deleteKeys files →
    (∃ file ∈ files, ∀ content,
      conditions.device.read (HasFiles.files before.store) file ≠ .ok content) →
    ∃ error, ran = (.error (.keyFile error), before)
  /-- A status other than that of a plain failure says that the store is as it was. -/
  unchanged : exitCode ran.1 ∈ [2, 3, 4, 5] → ran.2.store = before.store
  /-- The status of an enrolled key says that the key that was tested is enrolled, and a test of
  such a key has no other, unless it cannot say so. -/
  enrolled : exitCode ran.1 = 4 ↔
    TestsEnrolled command conditions.device before ∧ ∀ reason, ran.1 ≠ .error (.output reason)
  /-- What cannot be said has been refused by the output. -/
  refused : ∀ reason, ran.1 = .error (.output reason) →
    ∃ text, conditions.output.refusal? ran.2.trace text = some reason

/-- The promises hold for every command, on every store, under all conditions and with every
operator. -/
theorem promises_run (command : Command) (conditions : Conditions) (before : Machine Store) :
    Promises command conditions before (Attempt.outcome (run command conditions) before) := by
  constructor
  · exact (effect_run command conditions before).calls
  · exact effect_run command conditions before
  · intro noExport var apart
    exact ((effect_run command conditions before).within noExport).read_eq apart
  · rintro files stages ⟨file, mem, unreadable⟩
    have stops (kind : RequestKind) : ∃ error,
        Attempt.outcome (stage conditions kind files) before =
          (.error (.keyFile error), before) := by
      rcases outcome_readCandidates conditions.device files before with
        ⟨_, _, readable⟩ | ⟨error, failed⟩
      · rcases readable file mem with ⟨content, read⟩
        exact absurd read (unreadable content)
      · exact ⟨error, Attempt.outcome_bind_error failed _⟩
    rcases stages with rfl | rfl
    · exact stops .enroll
    · exact stops .delete
  · intro special
    rcases exitCode_mem_iff.mp special with ⟨error, failed, status⟩
    exact spares_run command conditions (Prod.ext failed rfl) status
  · exact exitCode_run_eq_four_iff command conditions before
  · intro reason refused
    exact refused_of_run command conditions (Prod.ext refused rfl) reason rfl

/-! ## The program -/

/-- The machine on which the program carries out a command. -/
def World.start (world : World) (path : String) : Machine Efivars :=
  ⟨⟨path, world.files⟩, (Lines.all world.input).map answerOfLine, []⟩

/-- The command that the arguments ask for. -/
def World.invocation (world : World) : Except Arguments.Stop Arguments.Invocation :=
  Arguments.parse world.environment (Arguments.modernize world.arguments).1

theorem execute_of_error {world : World} {stop : Arguments.Stop}
    (stopped : world.invocation = .error stop) :
    (execute world).files = world.files ∧ (execute world).exitCode ≠ 4 := by
  rcases modern : Arguments.modernize world.arguments with ⟨arguments, former⟩
  rw [World.invocation, modern] at stopped
  cases stop with
  | usage => simp [execute, modern, stopped]
  | help => simp [execute, modern, stopped]

theorem execute_of_ok {world : World} {invocation : Arguments.Invocation}
    (parsed : world.invocation = .ok invocation) :
    (execute world).files = (invoke world invocation).2.store.tree ∧
      (execute world).exitCode = exitCode
        (match (invoke world invocation).1 with
        | none => .ok ()
        | some error => .error error) := by
  rcases modern : Arguments.modernize world.arguments with ⟨arguments, former⟩
  rw [World.invocation, modern] at parsed
  rcases invoked : invoke world invocation with ⟨_ | error, after⟩
  · simp [execute, modern, parsed, invoked, exitCode]
  · simp [execute, modern, parsed, invoked, exitCode]

/-- The program ends as the command does, if there is a directory of variables. -/
theorem execute_of_isDirectory {world : World} {invocation : Arguments.Invocation}
    (parsed : world.invocation = .ok invocation)
    (isDirectory : world.files.isDirectory invocation.efivarsPath = true) :
    let ran := Attempt.outcome (run invocation.command { output := world.output })
      (world.start invocation.efivarsPath)
    (execute world).files = ran.2.store.tree ∧ (execute world).exitCode = exitCode ran.1 := by
  intro ran
  rcases execute_of_ok parsed with ⟨files, code⟩
  have invoked : invoke world invocation =
      match ran with
      | (.ok (), after) => (none, after)
      | (.error error, after) => (some error, after) := if_pos isDirectory
  rw [files, code, invoked]
  rcases ran with ⟨error | done, after⟩
  · exact ⟨rfl, rfl⟩
  · exact ⟨rfl, rfl⟩

theorem execute_of_not_isDirectory {world : World} {invocation : Arguments.Invocation}
    (parsed : world.invocation = .ok invocation)
    (noDirectory : ¬world.files.isDirectory invocation.efivarsPath = true) :
    (execute world).files = world.files ∧ (execute world).exitCode ≠ 4 := by
  rcases execute_of_ok parsed with ⟨files, code⟩
  have invoked : invoke world invocation =
      (some (.unsupported invocation.efivarsPath), world.start invocation.efivarsPath) :=
    if_neg noDirectory
  rw [files, code, invoked]
  exact ⟨rfl, by simp [exitCode, ExitStatus.ofCommandError, ExitStatus.code]⟩

/-- Either the program does not come to a command, or it ends as the command does. -/
theorem execute_cases (world : World) :
    ((execute world).files = world.files ∧ (execute world).exitCode ≠ 4) ∨
      ∃ invocation : Arguments.Invocation, world.invocation = .ok invocation ∧
        world.files.isDirectory invocation.efivarsPath = true := by
  cases parsed : world.invocation with
  | error stop => exact .inl (execute_of_error parsed)
  | ok invocation =>
      by_cases isDirectory : world.files.isDirectory invocation.efivarsPath = true
      · exact .inr ⟨invocation, rfl, isDirectory⟩
      · exact .inl (execute_of_not_isDirectory parsed isDirectory)

/-- A status other than that of a plain failure says that no file has changed. -/
theorem files_execute_eq {world : World} (special : (execute world).exitCode ∈ [2, 3, 4, 5]) :
    (execute world).files = world.files := by
  rcases execute_cases world with ⟨files, _⟩ | ⟨invocation, parsed, isDirectory⟩
  · exact files
  · rcases execute_of_isDirectory parsed isDirectory with ⟨files, code⟩
    rw [code] at special
    rw [files, (promises_run _ _ _).unchanged special]
    rfl

/-- The arguments ask for the test of a key file, and there is a directory of variables in which the
key is enrolled. -/
def World.TestsEnrolled (world : World) : Prop :=
  ∃ path file key, world.invocation = .ok ⟨path, .testKey file⟩ ∧
    world.files.isDirectory path = true ∧ Device.sound.read world.files file = .ok key ∧
    Enrolled (⟨path, world.files⟩ : Efivars) key

/-- Only the test of an enrolled key lets the program end with the status of one. -/
theorem testsEnrolled_of_exitCode {world : World} (four : (execute world).exitCode = 4) :
    world.TestsEnrolled := by
  rcases execute_cases world with ⟨_, notFour⟩ | ⟨⟨path, command⟩, parsed, isDirectory⟩
  · exact absurd four notFour
  · rw [(execute_of_isDirectory parsed isDirectory).2] at four
    rcases (promises_run command _ (world.start path)).enrolled.mp four with
      ⟨⟨file, key, rfl, read, enrolled⟩, _⟩
    exact ⟨path, file, key, parsed, isDirectory, read, enrolled⟩

/-- Where the output takes everything, the test of an enrolled key ends with its status. -/
theorem exitCode_of_testsEnrolled {world : World} (tests : world.TestsEnrolled)
    (takes : ∀ earlier text, world.output.refusal? earlier text = none) :
    (execute world).exitCode = 4 := by
  rcases tests with ⟨path, file, key, parsed, isDirectory, read, enrolled⟩
  rw [(execute_of_isDirectory parsed isDirectory).2]
  have promises := promises_run (.testKey file) { output := world.output } (world.start path)
  refine promises.enrolled.mpr ⟨⟨file, key, rfl, read, enrolled⟩, fun reason cannotSay => ?_⟩
  rcases promises.refused reason cannotSay with ⟨text, refused⟩
  cases (takes _ text).symm.trans refused

/-- Commands keep their promises on every store and under all conditions. Where the output takes
everything, the status of an enrolled key tells exactly that such a key was tested. All of this
holds of the program, too, whose arguments may ask for no command at all. -/
theorem exitStatus_promises :
    (∀ (Store : Type) [VariableStore Store] [HasFiles Store] (command : Command)
        (conditions : Conditions) (before : Machine Store),
      let ran := Attempt.outcome (run command conditions) before
      Promises command conditions before ran ∧
        ((∀ earlier text, conditions.output.refusal? earlier text = none) →
          (exitCode ran.1 = 4 ↔ TestsEnrolled command conditions.device before))) ∧
    ∀ world : World,
      ((execute world).exitCode ∈ [2, 3, 4, 5] → (execute world).files = world.files) ∧
      ((execute world).exitCode = 4 → world.TestsEnrolled) ∧
      ((∀ earlier text, world.output.refusal? earlier text = none) →
        ((execute world).exitCode = 4 ↔ world.TestsEnrolled)) := by
  refine ⟨fun Store _ _ command conditions before => ?_, fun world => ?_⟩
  · have promises := promises_run command conditions before
    refine ⟨promises, fun takes => promises.enrolled.trans (and_iff_left ?_)⟩
    intro reason cannotSay
    rcases promises.refused reason cannotSay with ⟨text, refused⟩
    cases (takes _ text).symm.trans refused
  · exact ⟨files_execute_eq, testsEnrolled_of_exitCode, fun takes =>
      ⟨testsEnrolled_of_exitCode, fun tests => exitCode_of_testsEnrolled tests takes⟩⟩

/-- A key in a file, and a directory of variables in which the key is pending. -/
def pendingKey : FileTree :=
  let pending : Value := ⟨.standard, (SignatureList.x509 .zero [1]).toRecord.toBytes⟩
  ((FileTree.blank []).plant ["key.der"] (.file [1])).plant
    ["efivars", Efivars.fileName .pendingEnrollment] (.file (Efivars.fileOfValue pending))

/-- The arguments that ask for the test of the key. -/
def keyTest (output : Output) : World :=
  ⟨["--efivars-path", "efivars", "test-key", "key.der"], none, pendingKey, [], output⟩

/-- The test ends with the status of an enrolled key; where nothing is printed, it is a plain
failure. -/
theorem exitStatus_promises_keyTest :
    (execute (keyTest .willing)).exitCode = 4 ∧ (keyTest .willing).TestsEnrolled ∧
      (execute (keyTest ⟨fun _ _ => some "disk full"⟩)).exitCode = 1 := by
  have four : (execute (keyTest .willing)).exitCode = 4 := by decide +kernel
  have told := (exitStatus_promises.2 (keyTest .willing)).2.2 fun _ _ => rfl
  exact ⟨four, told.mp four, by decide +kernel⟩

end CommandLine

end OwnerKeys
