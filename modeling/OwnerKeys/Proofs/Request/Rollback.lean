import OwnerKeys.Proofs.Request.Merging

/-!
# A tag that cannot be written

A list must not stay behind without the tag that belongs to it, so when the tag cannot be written
the list is removed again. That takes the keys away which were pending before, too, for they had
become part of the list; the tag that they had stays.
-/

namespace OwnerKeys.Staging

section Dropping

variable {Store : Type} [VariableStore Store] {kind : RequestKind} {candidates : List Candidate}
  {before after : Machine Store}

/-- The store takes a list and gives it up again, but no tag can be written beside it. -/
def RefusesTag (kind : RequestKind) (store : Store) : Prop :=
  ∀ bytes, ∃ listed,
    VariableStore.write store kind.pendingVariable ⟨.standard, bytes⟩ = .ok listed ∧
      (∀ tag : AuthTag, ∃ error,
        VariableStore.write listed kind.tagVariable ⟨.standard, tag.toBytes⟩ = .error error) ∧
      ∃ found removed, VariableStore.delete listed kind.pendingVariable = .ok (found, removed)

/-- The operator knows the password of the request that is pending, and then confirms a new one. -/
def Renews (kind : RequestKind) (machine : Machine Store) : Prop :=
  ∃ pending stored tag password old fresh later,
    VariableStore.read machine.store kind.pendingVariable = .ok (some pending) ∧
      VariableStore.read machine.store kind.tagVariable = .ok (some stored) ∧
      AuthTag.ofBytes? stored.data = some tag ∧
      machine.answers = old ++ fresh ++ later ∧
      Dialogue.Answered old tag (some pending.data) ∧ Dialogue.Confirmed fresh password

/-- The list of a request was removed because its tag could not be written; nothing else has
changed. -/
structure Dropped {Result : Type} (kind : RequestKind) (before : Store)
    (ran : Except RequestError Result × Machine Store) : Prop where
  /-- The failure is that of writing the tag. -/
  result_eq : ∃ error, ran.1 = .error (.write kind.tagVariable error)
  /-- The list is gone, and the other variables are found as before. -/
  read_eq : ∀ var : Variable, var.IsPlain → VariableStore.read ran.2.store var =
    if var = kind.pendingVariable then .ok none else VariableStore.read before var

variable [LawfulStore Store]

/-- A list that is stored and removed again is gone, and nothing else has changed. -/
theorem read_of_removed {store listed removed : Store} {bytes : Bytes} {found : Option Value}
    {was : Bool} (readable : VariableStore.read store kind.pendingVariable = .ok found)
    (listing : VariableStore.write store kind.pendingVariable ⟨.standard, bytes⟩ = .ok listed)
    (removal : VariableStore.delete listed kind.pendingVariable = .ok (was, removed))
    {var : Variable} (plain : var.IsPlain) :
    VariableStore.read removed var =
      if var = kind.pendingVariable then .ok none else VariableStore.read store var := by
  have plainList := kind.isPlain_pendingVariable
  split
  · rename_i isList
    subst isList
    have written := LawfulStore.read_written plainList readable listing
    exact LawfulStore.read_deleted plainList written removal
  · rename_i notList
    rw [LawfulStore.read_other_deleted plainList plain notList removal,
      LawfulStore.read_other_written plainList plain notList listing]

/-- Where the tag is refused, a list for which the operator has confirmed a password is dropped. -/
theorem CommitOutcome.dropped {bytes : Bytes} {result : Except RequestError Unit}
    {fresh later : List Answer} {password : Password} {found : Option Value}
    (ending : CommitOutcome kind (some bytes) before result after)
    (refuses : RefusesTag kind before.store)
    (readable : VariableStore.read before.store kind.pendingVariable = .ok found)
    (confirmed : Dialogue.Confirmed fresh password) (answers : before.answers = fresh ++ later) :
    Dropped kind before.store (result, after) := by
  -- The calls of the commit are those of which the store has promised how they end.
  rcases refuses bytes with ⟨listed, written, refused, was, removed, deleted⟩
  rcases Dialogue.newPassword_succeeds confirmed answers with ⟨_, entered, _⟩
  have lists {asked : Machine Store} {answer : Except RequestError Password}
      (asking : Attempt.outcome Dialogue.newPassword before = (answer, asked)) :
      withList kind (some bytes) asked.store = .ok listed := by
    rw [(Dialogue.quiet_newPassword asking).store_eq]
    exact withList_some_eq_ok_iff.mpr written
  cases ending with
  | unanswered asking => cases entered.symm.trans asking
  | listRefused asking listing => cases (lists asking).symm.trans listing
  | rolledBack asking listing tagging removal =>
      cases (lists asking).symm.trans listing
      exact ⟨⟨_, rfl⟩, fun _ plain => read_of_removed readable written removal plain⟩
  | leftBehind asking listing tagging removal =>
      cases (lists asking).symm.trans listing
      cases deleted.symm.trans removal
  | @committed signed _ _ _ asking listing tagging =>
      cases (lists asking).symm.trans listing
      rcases refused (AuthTag.derive (some bytes) signed) with ⟨error, failed⟩
      cases failed.symm.trans tagging

/-- Where the tag is refused, issuing eligible candidates to an operator who renews the password
comes as far as the commit, if the candidates fit in a list, and the list is dropped there. -/
theorem IssueOutcome.dropped {result : Except RequestError RequestReport}
    (ending : IssueOutcome kind candidates before result after)
    (refuses : RefusesTag kind before.store) (renews : Renews kind before)
    (eligible : ∃ candidate ∈ candidates, Query.Eligible before.store kind candidate.data) :
    Dropped kind before.store (result, after) ∨
      (∃ error, result = .error (.encode error)) ∧
        ∃ candidate ∈ candidates, ¬SignatureList.Fits candidate.data := by
  rcases renews with ⟨pending, stored, tag, password, old, fresh, later, reading, tagReading,
    usable, answers, answered, confirmed⟩
  have authenticates {looked authenticated : Machine Store}
      {prior : Except RequestError (Option Bytes)} (looks : Machine.Looks before looked)
      (authenticating : AuthenticationOutcome kind
        (looked.advance looked.store [.entered .candidatesValidated]) prior authenticated) :
      prior = .ok (some pending.data) ∧ authenticated.answers = fresh ++ later ∧
        authenticated.store = before.store := by
    have sameStore := authenticating.quiet.store_eq
    rw [Machine.store_advance, looks.store_eq] at sameStore
    have left : looked.answers = old ++ (fresh ++ later) := by
      rw [looks.answers_eq, answers, List.append_assoc]
    rw [← looks.store_eq] at reading tagReading
    have passed := authenticating.of_answered reading tagReading usable answered left
    exact ⟨passed.1, passed.2, sameStore⟩
  have drops {authenticated stopped : Machine Store} {bytes : Bytes}
      {committed : Except RequestError Unit} (left : authenticated.answers = fresh ++ later)
      (sameStore : authenticated.store = before.store)
      (committing : CommitOutcome kind (some bytes)
        (authenticated.advance authenticated.store [.entered .merged]) committed stopped) :
      Dropped kind before.store (committed, stopped) := by
    rw [← sameStore] at refuses reading ⊢
    exact committing.dropped refuses reading confirmed left
  cases ending with
  | nothingEligible assessing =>
      exact absurd rfl ((sifted_of_assess assessing).accepted_ne_nil_iff.mpr eligible)
  | notAuthenticated assessing _ authenticating =>
      cases (authenticates (looks_of_assess assessing) authenticating).1
  | @notEncoded accepted _ _ _ prior _ assessing _ _ merging =>
      -- The keys before the merge were encoded already, so it is an accepted key that does not fit.
      refine .inr ⟨⟨_, rfl⟩, ?_⟩
      by_contra allFit
      have fit : ∀ candidate ∈ accepted, SignatureList.Fits candidate.data := by
        intro candidate mem
        by_contra unfit
        exact allFit ⟨candidate, ((sifted_of_assess assessing).mem_and_eligible mem).1, unfit⟩
      rcases exists_mergedList fit prior with ⟨list, merged⟩
      cases merging.symm.trans merged
  | notCommitted assessing _ authenticating _ committing =>
      left
      rcases authenticates (looks_of_assess assessing) authenticating with ⟨_, left, sameStore⟩
      have dropped := drops left sameStore committing
      rcases dropped.result_eq with ⟨error, failed⟩
      cases failed
      exact ⟨⟨error, rfl⟩, dropped.read_eq⟩
  | committed assessing _ authenticating _ committing =>
      rcases authenticates (looks_of_assess assessing) authenticating with ⟨_, left, sameStore⟩
      rcases (drops left sameStore committing).result_eq with ⟨_, failed⟩
      cases failed

/-- Where the tag is refused, issuing eligible candidates to an operator who renews the password
fails with the tag, if the candidates fit in a list; and when it fails so, the pending list is gone,
while the tag and all other variables are found as before. -/
theorem issue_drops_pending (refuses : RefusesTag kind before.store) (renews : Renews kind before)
    (eligible : ∃ candidate ∈ candidates, Query.Eligible before.store kind candidate.data) :
    let issued := Attempt.outcome (issue kind candidates) before
    ((∀ candidate ∈ candidates, SignatureList.Fits candidate.data) →
        ∃ error, issued.1 = .error (.write kind.tagVariable error)) ∧
      ∀ error, issued.1 = .error (.write kind.tagVariable error) →
        ∀ var : Variable, var.IsPlain → VariableStore.read issued.2.store var =
          if var = kind.pendingVariable then .ok none
          else VariableStore.read before.store var := by
  rcases exists_issueOutcome kind candidates before with ⟨result, stopped, ending, ran⟩
  simp only [ran]
  rw [(quiet_abortedOn result stopped).store_eq]
  rcases ending.dropped refuses renews eligible with dropped | ⟨⟨error, failed⟩, unfit⟩
  · exact ⟨fun _ => dropped.result_eq, fun _ _ => dropped.read_eq⟩
  · constructor
    · intro allFit
      rcases unfit with ⟨candidate, mem, tooLarge⟩
      exact absurd (allFit candidate mem) tooLarge
    · intro tagError tagFailed
      cases failed.symm.trans tagFailed

end Dropping

/-- In memory it is enough that the tag is made to fail and that the calls on the list are not. -/
theorem refusesTag_of_fault {kind : RequestKind} {store : Faulty Memory}
    (tagFault : store.fault? .write kind.tagVariable ≠ none)
    (writable : store.fault? .write kind.pendingVariable = none)
    (removable : store.fault? .delete kind.pendingVariable = none) : RefusesTag kind store := by
  intro bytes
  let listed : Faulty Memory :=
    { store with inner := store.inner.insert kind.pendingVariable ⟨.standard, bytes⟩ }
  let removed : Faulty Memory := { store with inner := listed.inner.erase kind.pendingVariable }
  refine ⟨listed, Faulty.write_eq_ok_iff.mpr ⟨writable, rfl, rfl⟩, fun tag => ?_, _, removed,
    Faulty.delete_eq_ok_iff.mpr ⟨removable, Memory.delete_eq .., rfl⟩⟩
  rcases Option.ne_none_iff_exists'.mp tagFault with ⟨error, fault⟩
  have sameFault : listed.fault? .write kind.tagVariable = some error := fault
  exact ⟨error, by simp only [VariableStore.write, sameFault]⟩

/-- A list with one key. -/
def pendingKey : Bytes :=
  (SignatureList.x509 Variable.shimVendor [1]).toRecord.toBytes

/-- The password of that list. -/
def pendingPassword : Password :=
  (Password.ofLine? "password").get (by decide)

/-- A batch with another key. -/
def furtherKey : List Candidate :=
  [⟨"further", [2]⟩]

/-- The first key is pending, and of all calls of the store only that which writes a tag fails. -/
def tagRefused : Machine (Faulty Memory) where
  store := {
    inner := (Memory.empty.insert .pendingEnrollment ⟨.standard, pendingKey⟩).insert .enrollmentTag
      ⟨.standard, (AuthTag.derive (some pendingKey) pendingPassword).toBytes⟩
    faults := [⟨.write, .enrollmentTag, "no space"⟩] }
  answers := [.line "password", .line "new password", .line "new password"]

theorem tagRefused_refusesTag : RefusesTag .enroll tagRefused.store :=
  refusesTag_of_fault (by decide) (by decide) (by decide)

theorem tagRefused_renews : Renews .enroll tagRefused := by
  refine ⟨⟨.standard, pendingKey⟩,
    ⟨.standard, (AuthTag.derive (some pendingKey) pendingPassword).toBytes⟩,
    AuthTag.derive (some pendingKey) pendingPassword,
    (Password.ofLine? "new password").get (by decide), [.line "password"],
    [.line "new password", .line "new password"], [], rfl, rfl,
    AuthTag.ofBytes_toBytes _, rfl, ?_, ?_⟩
  · exact ⟨[], "password", rfl, by decide, by simp, pendingPassword, (Option.some_get _).symm, rfl⟩
  · exact ⟨[], "new password", [], rfl, by decide, by simp, by decide, by simp,
      (Option.some_get _).symm⟩

theorem tagRefused_eligible :
    ∃ candidate ∈ furtherKey, Query.Eligible tagRefused.store .enroll candidate.data := by
  refine ⟨_, List.mem_singleton_self _, ?_⟩
  unfold Query.Eligible
  decide +kernel

/-- The key that was pending is gone, and its tag is still there. -/
theorem issue_drops_pending_tagRefused :
    RefusesTag .enroll tagRefused.store ∧ Renews .enroll tagRefused ∧
      (∃ candidate ∈ furtherKey, Query.Eligible tagRefused.store .enroll candidate.data) ∧
      (let issued := Attempt.outcome (issue .enroll furtherKey) tagRefused
      (∃ error, issued.1 = .error (.write .enrollmentTag error)) ∧
        VariableStore.read issued.2.store .pendingEnrollment = .ok none ∧
        VariableStore.read issued.2.store .enrollmentTag =
          VariableStore.read tagRefused.store .enrollmentTag) := by
  refine ⟨tagRefused_refusesTag, tagRefused_renews, tagRefused_eligible, ?_⟩
  rcases issue_drops_pending tagRefused_refusesTag tagRefused_renews tagRefused_eligible with
    ⟨fails, drops⟩
  rcases fails (by unfold SignatureList.Fits; decide) with ⟨error, failed⟩
  exact ⟨⟨error, failed⟩, drops error failed .pendingEnrollment (by decide),
    drops error failed .enrollmentTag (by decide)⟩

/-- It is not so that the pending list and its tag are always found as before. -/
theorem pending_not_restored :
    ¬∀ (kind : RequestKind) (candidates : List Candidate) (before : Machine (Faulty Memory)),
      RefusesTag kind before.store → Renews kind before →
      (∃ candidate ∈ candidates, Query.Eligible before.store kind candidate.data) →
      let issued := Attempt.outcome (issue kind candidates) before
      ∀ error, issued.1 = .error (.write kind.tagVariable error) →
        VariableStore.read issued.2.store kind.pendingVariable =
            VariableStore.read before.store kind.pendingVariable ∧
          VariableStore.read issued.2.store kind.tagVariable =
            VariableStore.read before.store kind.tagVariable := by
  intro restores
  have failed : (Attempt.outcome (issue .enroll furtherKey) tagRefused).1 =
      .error (.write .enrollmentTag (StoreOperation.failure .write (.other "no space"))) := by
    decide +kernel
  have dropped : VariableStore.read (Attempt.outcome (issue .enroll furtherKey) tagRefused).2.store
      .pendingEnrollment = .ok none := by
    decide +kernel
  have pending : VariableStore.read tagRefused.store .pendingEnrollment =
      .ok (some ⟨.standard, pendingKey⟩) := rfl
  have kept := (restores .enroll furtherKey tagRefused tagRefused_refusesTag tagRefused_renews
    tagRefused_eligible _ failed).1
  cases dropped.symm.trans (kept.trans pending)

end OwnerKeys.Staging
