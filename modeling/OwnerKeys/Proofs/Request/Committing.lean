import OwnerKeys.Proofs.Request.Accounting

/-!
# Runs that commit

A run of issuing that commits a list has merged the fresh candidates with what was pending, has
asked for a new password last of all, and has written the list and the tag that it has under this
password. Where nothing is pending and the store takes what is written, every operator who confirms
a new password gets that far.
-/

namespace OwnerKeys

namespace Dialogue

/-- The last line of a dialogue is the one that was confirmed. -/
theorem Confirmed.exists_getLast {given : List Answer} {password : Password}
    (confirmed : Confirmed given password) :
    ∃ line, given.getLast? = some (.line line) ∧ Password.ofLine? line = some password := by
  rcases confirmed with ⟨refused, line, others, rfl, _, _, _, _, found⟩
  refine ⟨line, ?_, found⟩
  rw [← List.append_assoc, List.map_append, List.getLast?_append]
  rfl

/-- The first line that is accepted is among the first answers. -/
theorem Confirmed.exists_mem_take {given : List Answer} {password : Password}
    (confirmed : Confirmed given password) (later : List Answer) :
    ∃ line, .line line ∈ (given ++ later).take maxAttempts ∧
      Password.ofLine? line = some password := by
  rcases confirmed with ⟨refused, line, others, rfl, few, _, _, _, found⟩
  refine ⟨line, ?_, found⟩
  have atPlace : ((refused ++ [line] ++ (others ++ [line])).map Answer.line ++ later)[
      refused.length]? = some (.line line) := by
    simp
  rw [List.mem_iff_getElem?]
  exact ⟨refused.length, by rw [List.getElem?_take_of_lt few, atPlace]⟩

end Dialogue

namespace Staging

variable {Store : Type} [VariableStore Store]

/-- A run of issuing commits a list under a password. -/
structure Commits (kind : RequestKind) (candidates : List Candidate) (before after : Machine Store)
    (report : RequestReport) (list : Bytes) (password : Password) : Prop where
  /-- The list is made from the fresh candidates and from what was pending. -/
  merges : ∃ found, VariableStore.read before.store kind.pendingVariable = .ok found ∧
    mergedList (fresh (Query.Eligible before.store kind) candidates) (found.map (·.data)) =
      .ok list
  report_eq : report = ⟨(fresh (Query.Eligible before.store kind) candidates).map (·.name),
    (stale (Query.Eligible before.store kind) candidates).map (·.name), some list.length⟩
  /-- The list is written, and then its tag. -/
  writes : ∃ listed,
    VariableStore.write before.store kind.pendingVariable ⟨.standard, list⟩ = .ok listed ∧
      VariableStore.write listed kind.tagVariable
        ⟨.standard, (AuthTag.derive (some list) password).toBytes⟩ = .ok after.store
  /-- The password is confirmed by the last lines that are taken. -/
  confirms : ∃ earlier given, before.answers = earlier ++ given ++ after.answers ∧
    Dialogue.Confirmed given password

variable {kind : RequestKind} {candidates : List Candidate} {before after : Machine Store}

section Success

variable {report : RequestReport}

/-- A commit that succeeds has written the list and the tag that it has under the password that the
operator has confirmed. -/
theorem CommitOutcome.exists_confirmed {list : Bytes}
    (ending : CommitOutcome kind (some list) before (.ok ()) after) :
    ∃ password listed given,
      VariableStore.write before.store kind.pendingVariable ⟨.standard, list⟩ = .ok listed ∧
        VariableStore.write listed kind.tagVariable
          ⟨.standard, (AuthTag.derive (some list) password).toBytes⟩ = .ok after.store ∧
        before.answers = given ++ after.answers ∧ Dialogue.Confirmed given password := by
  cases ending with
  | committed asking listing tagging =>
      rw [withList_some_eq_ok_iff, (Dialogue.quiet_newPassword asking).store_eq] at listing
      rcases Dialogue.confirmed_of_newPassword asking with ⟨given, answers, confirmed⟩
      refine ⟨_, _, given, listing, tagging, ?_, confirmed⟩
      rwa [Machine.answers_advance]

/-- A reset that succeeds has removed the list and written the tag that none has under the password
that the operator has confirmed. -/
theorem CommitOutcome.exists_confirmed_reset
    (ending : CommitOutcome kind none before (.ok ()) after) :
    ∃ password was removed given,
      VariableStore.delete before.store kind.pendingVariable = .ok (was, removed) ∧
        VariableStore.write removed kind.tagVariable
          ⟨.standard, (AuthTag.derive none password).toBytes⟩ = .ok after.store ∧
        before.answers = given ++ after.answers ∧ Dialogue.Confirmed given password := by
  cases ending with
  | committed asking listing tagging =>
      rw [withList_none_eq_ok_iff, (Dialogue.quiet_newPassword asking).store_eq] at listing
      rcases listing with ⟨was, removal⟩
      rcases Dialogue.confirmed_of_newPassword asking with ⟨given, answers, confirmed⟩
      exact ⟨_, was, _, given, removal, tagging, answers, confirmed⟩

/-- A run of issuing that reports a committed list has committed it under a confirmed password. -/
theorem exists_commits
    (issued : Attempt.outcome (issue kind candidates) before = (.ok report, after))
    (committed : report.committedLength ≠ none) :
    ∃ list password, Commits kind candidates before after report list password := by
  rcases exists_issueOutcome kind candidates before with ⟨result, stopped, ending, ran⟩
  rw [issued, Prod.mk.injEq] at ran
  rcases ran with ⟨rfl, rfl⟩
  cases ending with
  | nothingEligible => exact absurd rfl committed
  | committed assessing _ authenticating merging committing =>
      have looks := looks_of_assess assessing
      have sameStore := authenticating.store_eq_of_looks looks
      rcases eq_fresh_stale_of_assess assessing with ⟨rfl, rfl⟩
      rcases authenticating.exists_read_of_looks looks with ⟨found, readable, rfl⟩
      rcases authenticating.suffix_answers with ⟨earlier, taken⟩
      rcases committing.exists_confirmed with
        ⟨password, listed, given, listing, tagging, answers, confirmed⟩
      rw [Machine.store_advance, sameStore] at listing
      rw [Machine.answers_advance, looks.answers_eq] at taken
      rw [Machine.answers_advance] at answers
      refine ⟨_, password, ⟨found, readable, merging⟩, rfl, ⟨listed, listing, tagging⟩,
        earlier, given, ?_, confirmed⟩
      rw [← taken, answers, List.append_assoc]

/-- A list that is committed where nothing was pending holds the eligible keys, each of them once
and where it occurs first, and nothing else; as long as all keys have bytes. -/
theorem Commits.decode_eq {list : Bytes} {password : Password}
    (commits : Commits kind candidates before after report list password)
    (absent : VariableStore.read before.store kind.pendingVariable = .ok none)
    (notEmpty : ∀ candidate ∈ candidates, candidate.data ≠ []) :
    SignatureList.decode list =
      ⟨(((candidates.map (·.data)).filter (Query.Eligible before.store kind ·)).eraseDups).map
        (⟨.x509, Variable.shimVendor, ·⟩), [], none⟩ := by
  rcases commits.merges with ⟨found, readable, merging⟩
  cases absent.symm.trans readable
  rcases mergedList_eq_ok_iff.mp merging with ⟨records, written, same⟩
  rw [Option.map_none, Option.getD_none, List.append_nil] at same
  subst same
  rw [map_data_fresh] at written
  apply SignatureList.decode_encode_eq written
  intro key mem
  rcases List.mem_map.mp (List.mem_filter.mp (List.mem_eraseDups.mp mem)).1 with
    ⟨candidate, inBatch, rfl⟩
  exact notEmpty candidate inBatch

end Success

/-! ## Runs that get as far as that -/

/-- The store takes any list of a request, and any tag beside it. -/
def TakesRequest (kind : RequestKind) (store : Store) : Prop :=
  ∀ bytes, ∃ listed,
    VariableStore.write store kind.pendingVariable ⟨.standard, bytes⟩ = .ok listed ∧
      ∀ tag : AuthTag, ∃ tagged,
        VariableStore.write listed kind.tagVariable ⟨.standard, tag.toBytes⟩ = .ok tagged

/-- An operator who confirms a password is asked no more, and the list is committed under it. -/
theorem CommitOutcome.succeeds {list : Bytes} {result : Except RequestError Unit}
    {given later : List Answer} {password : Password}
    (ending : CommitOutcome kind (some list) before result after)
    (takes : TakesRequest kind before.store) (confirmed : Dialogue.Confirmed given password)
    (answers : before.answers = given ++ later) :
    result = .ok () ∧ after.answers = later ∧ ∃ listed,
      VariableStore.write before.store kind.pendingVariable ⟨.standard, list⟩ = .ok listed ∧
        VariableStore.write listed kind.tagVariable
          ⟨.standard, (AuthTag.derive (some list) password).toBytes⟩ = .ok after.store := by
  rcases takes list with ⟨listed, written, tags⟩
  rcases Dialogue.newPassword_succeeds confirmed answers with ⟨_, entered, left⟩
  have lists {asked : Machine Store} {answer : Except RequestError Password}
      (asking : Attempt.outcome Dialogue.newPassword before = (answer, asked)) :
      withList kind (some list) asked.store = .ok listed := by
    rw [(Dialogue.quiet_newPassword asking).store_eq]
    exact withList_some_eq_ok_iff.mpr written
  have tagged {error : StoreError} (signed : Password)
      (tagging : VariableStore.write listed kind.tagVariable
        ⟨.standard, (AuthTag.derive (some list) signed).toBytes⟩ = .error error) : False := by
    rcases tags (AuthTag.derive (some list) signed) with ⟨_, done⟩
    cases done.symm.trans tagging
  cases ending with
  | unanswered asking => cases entered.symm.trans asking
  | listRefused asking listing => cases (lists asking).symm.trans listing
  | rolledBack asking listing tagging =>
      cases (lists asking).symm.trans listing
      exact (tagged _ tagging).elim
  | leftBehind asking listing tagging =>
      cases (lists asking).symm.trans listing
      exact (tagged _ tagging).elim
  | committed asking listing tagging =>
      cases (lists asking).symm.trans listing
      cases entered.symm.trans asking
      exact ⟨rfl, left, listed, written, tagging⟩

/-- Where nothing is pending, candidates that fit are committed under the password that the operator
confirms, if one of them is eligible and the store takes the request. -/
theorem IssueOutcome.commits_of_absent {result : Except RequestError RequestReport}
    {given later : List Answer} {password : Password}
    (ending : IssueOutcome kind candidates before result after)
    (absent : VariableStore.read before.store kind.pendingVariable = .ok none)
    (takes : TakesRequest kind before.store) (confirmed : Dialogue.Confirmed given password)
    (answers : before.answers = given ++ later)
    (eligible : ∃ candidate ∈ candidates, Query.Eligible before.store kind candidate.data)
    (fit : ∀ candidate ∈ candidates, SignatureList.Fits candidate.data) :
    ∃ report list, result = .ok report ∧
      Commits kind candidates before after report list password ∧ after.answers = later := by
  have authenticates {looked authenticated : Machine Store}
      {prior : Except RequestError (Option Bytes)} (looks : Machine.Looks before looked)
      (authenticating : AuthenticationOutcome kind
        (looked.advance looked.store [.entered .candidatesValidated]) prior authenticated) :
      prior = .ok none ∧ authenticated.answers = given ++ later ∧
        authenticated.store = before.store := by
    rw [← looks.store_eq] at absent
    rcases authenticating.of_absent absent with ⟨none, sameAnswers, sameStore⟩
    rw [Machine.answers_advance, looks.answers_eq] at sameAnswers
    rw [Machine.store_advance, looks.store_eq] at sameStore
    exact ⟨none, sameAnswers.trans answers, sameStore⟩
  have succeeds {authenticated stopped : Machine Store} {list : Bytes}
      {committed : Except RequestError Unit} (left : authenticated.answers = given ++ later)
      (sameStore : authenticated.store = before.store)
      (committing : CommitOutcome kind (some list)
        (authenticated.advance authenticated.store [.entered .merged]) committed stopped) :
      committed = .ok () ∧ stopped.answers = later ∧ ∃ listed,
        VariableStore.write before.store kind.pendingVariable ⟨.standard, list⟩ = .ok listed ∧
          VariableStore.write listed kind.tagVariable
            ⟨.standard, (AuthTag.derive (some list) password).toBytes⟩ = .ok stopped.store := by
    rw [← sameStore] at takes ⊢
    exact committing.succeeds takes confirmed left
  -- Each way to fail is excluded by one of the premises.
  cases ending with
  | nothingEligible assessing =>
      exact absurd rfl ((sifted_of_assess assessing).accepted_ne_nil_iff.mpr eligible)
  | notAuthenticated assessing _ authenticating =>
      cases (authenticates (looks_of_assess assessing) authenticating).1
  | @notEncoded accepted _ _ _ prior _ assessing _ _ merging =>
      have acceptedFit : ∀ candidate ∈ accepted, SignatureList.Fits candidate.data :=
        fun candidate mem => fit candidate ((sifted_of_assess assessing).mem_and_eligible mem).1
      rcases exists_mergedList acceptedFit prior with ⟨list, merged⟩
      cases merging.symm.trans merged
  | notCommitted assessing _ authenticating _ committing =>
      rcases authenticates (looks_of_assess assessing) authenticating with ⟨_, left, sameStore⟩
      cases (succeeds left sameStore committing).1
  | committed assessing _ authenticating merging committing =>
      rcases authenticates (looks_of_assess assessing) authenticating with ⟨none, left, sameStore⟩
      cases none
      rcases succeeds left sameStore committing with ⟨_, leftOver, writes⟩
      rcases eq_fresh_stale_of_assess assessing with ⟨rfl, rfl⟩
      refine ⟨_, _, rfl, ⟨⟨none, absent, merging⟩, rfl, writes, [], given, ?_, confirmed⟩, leftOver⟩
      rw [answers, leftOver, List.nil_append]

end Staging

end OwnerKeys
