import OwnerKeys.Proofs.Request.Binding
import OwnerKeys.Proofs.Request.Committing
import OwnerKeys.Proofs.Store.Laws
import OwnerKeys.Request.Policy

/-!
# Validation requests and the password that is confirmed

A validation request is 40 bytes that can be read in one way, and all strings of 40 bytes are
requests. It has room for 16 units, and a password is cut to 16 units before anything is made of it.
So nothing more is cut when the password is put into the request, and the units in the request are
those that a tag of the password is made of, even where the cut has split a pair.
-/

namespace OwnerKeys

namespace ValidationRequest

variable {bytes rest : Bytes} {words : List UInt16} {count : Nat} {request : ValidationRequest}

/-! ## Reading and writing -/

theorem readUnits_succ {word : UInt16} {middle : Bytes}
    (first : LittleEndian.read16? bytes = some (word, middle))
    (others : readUnits? count middle = some (words, rest)) :
    readUnits? (count + 1) bytes = some (word :: words, rest) := by
  simp [readUnits?, first, others]

theorem readUnits_flatMap (words : List UInt16) (rest : Bytes) :
    readUnits? words.length (words.flatMap LittleEndian.ofUInt16 ++ rest) = some (words, rest) := by
  induction words with
  | nil => rfl
  | cons word later ih =>
      rw [List.flatMap_cons, List.append_assoc]
      exact readUnits_succ (LittleEndian.read16_ofUInt16 word _) ih

theorem eq_of_readUnits (read : readUnits? count bytes = some (words, rest)) :
    words.length = count ∧ bytes = words.flatMap LittleEndian.ofUInt16 ++ rest := by
  induction count generalizing bytes words with
  | zero =>
      cases read
      exact ⟨rfl, rfl⟩
  | succ count ih =>
      simp only [readUnits?, Option.bind_eq_bind, Option.bind_eq_some_iff, Prod.exists] at read
      rcases read with ⟨word, middle, first, later, final, others, made⟩
      cases made
      rcases ih others with ⟨length, rfl⟩
      rw [LittleEndian.eq_of_read16 first, List.length_cons, length, List.flatMap_cons,
        List.append_assoc]
      exact ⟨rfl, rfl⟩

theorem exists_readUnits (enough : 2 * count ≤ bytes.length) :
    ∃ words rest, readUnits? count bytes = some (words, rest) := by
  induction count generalizing bytes with
  | zero => exact ⟨[], bytes, rfl⟩
  | succ count ih =>
      have enoughForOne : 2 ≤ bytes.length := by omega
      rcases LittleEndian.exists_read16 enoughForOne with ⟨word, middle, first⟩
      have whole := congrArg List.length (LittleEndian.eq_of_read16 first)
      rw [List.length_append, LittleEndian.length_ofUInt16] at whole
      have enoughForOthers : 2 * count ≤ middle.length := by omega
      rcases ih enoughForOthers with ⟨later, rest, others⟩
      exact ⟨_, _, readUnits_succ first others⟩

@[simp]
theorem length_toBytes (request : ValidationRequest) : request.toBytes.length = size := by
  simp [toBytes, size]

/-- What was written is read. -/
theorem ofBytes_toBytes (request : ValidationRequest) :
    ofBytes? request.toBytes = some request := by
  rcases request with ⟨state, length, ⟨⟨slots⟩, full⟩⟩
  have read := readUnits_flatMap slots []
  rw [show slots.length = 16 from full, List.append_nil] at read
  simp [ofBytes?, toBytes, read, show slots.length = 16 from full]

/-- What is read has the bytes that it was read from. -/
theorem toBytes_of_ofBytes (read : ofBytes? bytes = some request) : request.toBytes = bytes := by
  simp only [ofBytes?, Option.bind_eq_bind, Option.bind_eq_some_iff, Prod.exists] at read
  rcases read with ⟨state, afterState, readState, length, afterLength, readLength, units, rest,
    readUnits, made⟩
  split at made
  · split at made
    · rename_i ended
      cases made
      rw [LittleEndian.eq_of_read32 readState, LittleEndian.eq_of_read32 readLength,
        (eq_of_readUnits readUnits).2, ended]
      simp [toBytes]
    · cases made
  · cases made

/-- All byte strings of the size of a request can be read. -/
theorem exists_ofBytes (fits : bytes.length = size) : ∃ request, ofBytes? bytes = some request := by
  rw [size] at fits
  have forState : 4 ≤ bytes.length := by omega
  rcases LittleEndian.exists_read32 forState with ⟨state, rest, readState⟩
  have afterState := LittleEndian.length_of_read32 readState
  have forLength : 4 ≤ rest.length := by omega
  rcases LittleEndian.exists_read32 forLength with ⟨length, slots, readLength⟩
  have afterLength := LittleEndian.length_of_read32 readLength
  have forSlots : 2 * 16 ≤ slots.length := by omega
  rcases exists_readUnits forSlots with ⟨units, left, readUnits⟩
  rcases eq_of_readUnits readUnits with ⟨all, whole⟩
  have nothingLeft : left = [] := by
    have sizes : slots.length = 16 * 2 + left.length := by
      rw [whole]
      simp [all]
    exact List.eq_nil_of_length_eq_zero (by omega)
  simp [ofBytes?, readState, readLength, readUnits, all, nothingLeft]

/-! ## What a new request holds -/

/-- The units of the password in a request. -/
def units (request : ValidationRequest) : List UInt16 :=
  request.slots.toList.take request.length.toNat

theorem length_new (state : Validation) (units : List UInt16) :
    (new state units).length.toNat = min units.length 16 :=
  UInt32.toNat_ofNat_of_lt' (Nat.lt_of_le_of_lt (Nat.min_le_right _ _) (by decide))

theorem slots_new (state : Validation) (units : List UInt16) :
    (new state units).slots.toList = units.take 16 ++ List.replicate (16 - units.length) 0 := by
  apply List.ext_getElem
  · simp
    omega
  · intro slot inSlots _
    have inRange : slot < 16 := by simpa using inSlots
    by_cases used : slot < units.length
    · simp [new, used, inRange]
    · simp [new, List.getElem_append, used]

theorem units_new (state : Validation) (units : List UInt16) :
    (new state units).units = units.take 16 := by
  rw [ValidationRequest.units, length_new, slots_new, List.take_left' (by simp [Nat.min_comm])]

/-- A request asks for a state with the password that a line gives: it has all units of it that are
hashed for a tag, and zeros behind them. -/
structure AsksWith (request : ValidationRequest) (state : Validation) (line : String) : Prop where
  state_eq : request.state = state.code
  length_ge : 8 ≤ request.length.toNat
  length_le : request.length.toNat ≤ 16
  unused_eq : request.slots.toList.drop request.length.toNat =
    List.replicate (16 - request.length.toNat) 0
  /-- The units are the first ones of the line. -/
  units_eq : request.units = (Utf16.ofString line).take 16
  /-- A tag is made of the bytes of these units, whatever the list. -/
  exists_password : ∃ password, Password.ofLine? line = some password ∧
    ∀ list, AuthTag.preimage list password =
      list.getD [] ++ request.units.flatMap LittleEndian.ofUInt16

/-- The password of a line is put into a request as it is. -/
theorem asksWith_new {line : String} {password : Password}
    (found : Password.ofLine? line = some password) (state : Validation) :
    (new state password.units).AsksWith state line := by
  have short := password.length_le
  have long := password.length_ge
  have length : (new state password.units).length.toNat = password.units.length := by
    rw [length_new, Nat.min_eq_left short]
  have units : (new state password.units).units = password.units := by
    rw [units_new, List.take_of_length_le short]
  exact {
    state_eq := rfl
    length_ge := length ▸ long
    length_le := length ▸ short
    unused_eq := by
      rw [length, slots_new, List.take_of_length_le short, List.drop_left]
    units_eq := by rw [units, Password.units_of_ofLine found, Password.maxLength]
    exists_password := ⟨password, found, fun list => by rw [units]; rfl⟩ }

end ValidationRequest

namespace Policy

variable {Store : Type} [VariableStore Store] {before asked : Machine Store}

theorem outcome_store (var : Variable) (data : Bytes) (machine : Machine Store) :
    Attempt.outcome (store var data) machine =
      match VariableStore.write machine.store var ⟨.standard, data⟩ with
      | .ok written => (.ok (), machine.advance written [.called .write var])
      | .error error =>
        (.error (.write var error), machine.advance machine.store [.called .write var]) := by
  simp only [store, Attempt.outcome_perform_bind, Action.outcome_writeVariable]
  cases VariableStore.write machine.store var ⟨.standard, data⟩ with
  | ok written => rfl
  | error error => rfl

/-- Once a password is agreed on, the request is written, and nothing else is done to the store. -/
theorem outcome_setValidation {password : Password}
    (agreed : Attempt.outcome Dialogue.newPassword before = (.ok password, asked))
    (state : Validation) :
    Attempt.outcome (setValidation state) before =
      match VariableStore.write before.store .pendingValidation
        ⟨.standard, (ValidationRequest.new state password.units).toBytes⟩ with
      | .ok written => (.ok (), asked.advance written
          [.called .write .pendingValidation, .noted (.validationStaged state)])
      | .error error => (.error (.write .pendingValidation error),
          asked.advance before.store [.called .write .pendingValidation]) := by
  have storing := outcome_store .pendingValidation
    (ValidationRequest.new state password.units).toBytes asked
  rw [(Dialogue.quiet_newPassword agreed).store_eq] at storing
  rw [setValidation, Attempt.outcome_bind_ok agreed]
  cases written : VariableStore.write before.store .pendingValidation
    ⟨.standard, (ValidationRequest.new state password.units).toBytes⟩ with
  | ok after =>
      rw [written] at storing
      rw [Attempt.outcome_bind_ok storing]
      simp
  | error error =>
      rw [written] at storing
      exact Attempt.outcome_bind_error storing _

/-- Without a password nothing is written. -/
theorem outcome_setValidation_error {error : RequestError}
    (failed : Attempt.outcome Dialogue.newPassword before = (.error error, asked))
    (state : Validation) :
    Attempt.outcome (setValidation state) before = (.error error, asked) :=
  Attempt.outcome_bind_error failed _

theorem store_eq_of_setValidation_error {error : RequestError} {state : Validation}
    {after : Machine Store}
    (ran : Attempt.outcome (setValidation state) before = (.error error, after)) :
    after.store = before.store := by
  rcases dialogue : Attempt.outcome Dialogue.newPassword before with ⟨failure | password, asked⟩
  · rw [outcome_setValidation_error dialogue] at ran
    cases ran
    exact (Dialogue.quiet_newPassword dialogue).store_eq
  · rw [outcome_setValidation dialogue] at ran
    split at ran
    · cases ran
    · cases ran
      rfl

theorem confirmed_of_setValidation {state : Validation} {after : Machine Store}
    (ran : Attempt.outcome (setValidation state) before = (.ok (), after)) :
    ∃ given password, before.answers = given ++ after.answers ∧
      Dialogue.Confirmed given password := by
  rcases dialogue : Attempt.outcome Dialogue.newPassword before with ⟨failure | password, asked⟩
  · rw [outcome_setValidation_error dialogue] at ran
    cases ran
  · rcases Dialogue.confirmed_of_newPassword dialogue with ⟨given, answers, confirmed⟩
    rw [outcome_setValidation dialogue] at ran
    split at ran
    · cases ran
      exact ⟨given, password, answers, confirmed⟩
    · cases ran

/-- How staging a validation state ends if a line was confirmed, by its result and the machine
afterwards. -/
inductive ValidationOutcome (state : Validation) (line : String) (before : Machine Store) :
    Except RequestError Unit → Machine Store → Prop where
  /-- The store has taken a request that asks with the line, and shows it if it shows anything that
  was written. -/
  | staged {data : Bytes} {request : ValidationRequest} {after : Machine Store}
      (parsed : ValidationRequest.ofBytes? data = some request)
      (asks : request.AsksWith state line)
      (written : VariableStore.write before.store .pendingValidation ⟨.standard, data⟩ =
        .ok after.store)
      (shown : TransparentStore Store →
        VariableStore.read after.store .pendingValidation = .ok (some ⟨.standard, data⟩)) :
      ValidationOutcome state line before (.ok ()) after
  /-- The store has refused such a request. -/
  | refused {data : Bytes} {request : ValidationRequest} {after : Machine Store}
      {error : StoreError} (parsed : ValidationRequest.ofBytes? data = some request)
      (asks : request.AsksWith state line)
      (failed : VariableStore.write before.store .pendingValidation ⟨.standard, data⟩ =
        .error error)
      (store_eq : after.store = before.store) :
      ValidationOutcome state line before (.error (.write .pendingValidation error)) after

/-- Whoever confirms a line has a request written that asks with it, if the store takes it. -/
theorem setValidation_of_confirmed {given later : List Answer} {password : Password}
    {line : String} (answers : before.answers = given ++ later)
    (confirmed : Dialogue.Confirmed given password)
    (isLast : given.getLast? = some (.line line)) (state : Validation) :
    ∃ result after, Attempt.outcome (setValidation state) before = (result, after) ∧
      ValidationOutcome state line before result after ∧ after.answers = later := by
  rcases confirmed.exists_getLast with ⟨wanted, wantedLast, found⟩
  cases wantedLast.symm.trans isLast
  rcases Dialogue.newPassword_succeeds confirmed answers with ⟨asked, agreed, left⟩
  have ran := outcome_setValidation agreed state
  have parsed := ValidationRequest.ofBytes_toBytes (.new state password.units)
  have asks := ValidationRequest.asksWith_new found state
  cases written : VariableStore.write before.store .pendingValidation
    ⟨.standard, (ValidationRequest.new state password.units).toBytes⟩ with
  | ok after =>
      rw [written] at ran
      have shown : TransparentStore Store → VariableStore.read after .pendingValidation =
          .ok (some ⟨.standard, (ValidationRequest.new state password.units).toBytes⟩) :=
        fun _ => TransparentStore.read_of_written (by decide) written
      exact ⟨_, _, ran, .staged parsed asks written shown, left⟩
  | error error =>
      rw [written] at ran
      exact ⟨_, _, ran, .refused parsed asks written rfl, left⟩

/-- What validation requests hold. A new one is 40 bytes, from which the code of the state, the
number of units and the units are read, at most 16 of them and with zeros in the other slots; and
whatever 40 bytes are read are written again. The request that is staged when a line is confirmed
holds all units of it that are hashed for a tag. If no line is confirmed or the store refuses the
request, then the store is left alone. -/
theorem validation_agrees_with_tag :
    (∀ state units, ∃ request,
      (ValidationRequest.new state units).toBytes.length = 40 ∧
      ValidationRequest.ofBytes? (ValidationRequest.new state units).toBytes = some request ∧
      request.state = state.code ∧ request.length.toNat = min units.length 16 ∧
      request.slots.toList = units.take 16 ++ List.replicate (16 - units.length) 0) ∧
    (∀ bytes : Bytes, bytes.length = 40 →
      ∃ request, ValidationRequest.ofBytes? bytes = some request ∧ request.toBytes = bytes) ∧
    ∀ (Store : Type) [VariableStore Store] (state : Validation) (before : Machine Store),
      (∀ given later password line, before.answers = given ++ later →
        Dialogue.Confirmed given password → given.getLast? = some (.line line) →
        ∃ result after, Attempt.outcome (setValidation state) before = (result, after) ∧
          ValidationOutcome state line before result after ∧ after.answers = later) ∧
      (∀ after, Attempt.outcome (setValidation state) before = (.ok (), after) →
        ∃ given password, before.answers = given ++ after.answers ∧
          Dialogue.Confirmed given password) ∧
      ∀ error after, Attempt.outcome (setValidation state) before = (.error error, after) →
        after.store = before.store := by
  refine ⟨fun state units => ?_, fun bytes fits => ?_, fun Store _ state before => ?_⟩
  · exact ⟨_, ValidationRequest.length_toBytes _, ValidationRequest.ofBytes_toBytes _, rfl,
      ValidationRequest.length_new state units, ValidationRequest.slots_new state units⟩
  · rcases ValidationRequest.exists_ofBytes fits with ⟨request, read⟩
    exact ⟨request, read, ValidationRequest.toBytes_of_ofBytes read⟩
  · exact ⟨fun _ _ _ _ answers confirmed isLast =>
      setValidation_of_confirmed answers confirmed isLast state,
      fun _ => confirmed_of_setValidation, fun _ _ => store_eq_of_setValidation_error⟩

/-- The last unit of this password is the first half of a pair. -/
example : (Password.ofLine? "abcdefg🔒🔒🔒🔒🔒🔒🔒🔒🔒").map
    (fun password => (ValidationRequest.new .enable password.units).units.getLast?) =
      some (some 0xd83d) := by
  decide +kernel

end Policy

end OwnerKeys
