import OwnerKeys.Proofs.Request.Committing

/-!
# A staged reset may be superseded

A reset leaves no list behind, only the tag of an empty one. Whether a request is pending is told by
its list, and so nobody is asked for the password of a reset: issuing goes on as on a store without
any request. It overwrites the tag of the reset once the operator has confirmed a new password, be
it the password of the reset or another one.
-/

namespace OwnerKeys.Staging

variable {Store : Type} [VariableStore Store]

/-- A reset is staged under a password: no list is pending, and the tag is that of an empty one. -/
structure ResetStaged (kind : RequestKind) (store : Store) (password : Password) : Prop where
  absent : VariableStore.read store kind.pendingVariable = .ok none
  exists_tag : ∃ stored, VariableStore.read store kind.tagVariable = .ok (some stored) ∧
    stored.data = (AuthTag.derive none password).toBytes

/-- A list is staged under a password: it is pending, and beside it is its tag. -/
structure ListStaged (kind : RequestKind) (store : Store) (list : Bytes) (password : Password) :
    Prop where
  read_pending : VariableStore.read store kind.pendingVariable = .ok (some ⟨.standard, list⟩)
  read_tag : VariableStore.read store kind.tagVariable =
    .ok (some ⟨.standard, (AuthTag.derive (some list) password).toBytes⟩)

variable {kind : RequestKind} {candidates : List Candidate} {before after : Machine Store}

/-! ## Whose password overwrites a tag -/

/-- A commit changes nothing before the operator has confirmed a password. -/
theorem CommitOutcome.quiet_or_confirmed {list : Option Bytes} {result : Except RequestError Unit}
    (ending : CommitOutcome kind list before result after) :
    Machine.Quiet before after ∨ ∃ given later password,
      before.answers = given ++ later ∧ Dialogue.Confirmed given password := by
  have confirmed {password : Password} {asked : Machine Store}
      (asking : Attempt.outcome Dialogue.newPassword before = (.ok password, asked)) :
      ∃ given later password, before.answers = given ++ later ∧
        Dialogue.Confirmed given password := by
    rcases Dialogue.confirmed_of_newPassword asking with ⟨given, answers, confirmed⟩
    exact ⟨given, _, password, answers, confirmed⟩
  cases ending with
  | unanswered asking => exact .inl (Dialogue.quiet_newPassword asking)
  | listRefused asking => exact .inr (confirmed asking)
  | rolledBack asking => exact .inr (confirmed asking)
  | leftBehind asking => exact .inr (confirmed asking)
  | committed asking => exact .inr (confirmed asking)

/-- Where no list is pending, issuing changes nothing before the operator has confirmed a password,
and takes no answer before those that confirm it. -/
theorem IssueOutcome.quiet_or_confirmed {result : Except RequestError RequestReport}
    (ending : IssueOutcome kind candidates before result after)
    (absent : VariableStore.read before.store kind.pendingVariable = .ok none) :
    Machine.Quiet before after ∨ before.trace <+: after.trace ∧ ∃ given later password,
      before.answers = given ++ later ∧ Dialogue.Confirmed given password := by
  rcases ending.quiet_or_commits with
    quiet | ⟨looked, authenticated, prior, list, committed, looks, authenticating, quiet,
      committing, _⟩
  · exact .inl quiet
  · rw [← looks.store_eq] at absent
    have sameAnswers := (authenticating.of_absent absent).2.1
    rw [Machine.answers_advance, looks.answers_eq] at sameAnswers
    rcases committing.quiet_or_confirmed with
      quietCommit | ⟨given, later, password, answers, entered⟩
    · exact .inl (quiet.trans quietCommit)
    · rw [Machine.answers_advance, sameAnswers] at answers
      exact .inr ⟨quiet.prefix_trace.trans committing.asksFirst.prefix_trace,
        given, later, password, answers, entered⟩

variable [LawfulStore Store]

/-- A commit that fails leaves the tag alone. -/
theorem CommitOutcome.read_tag_of_error {list : Bytes} {error : RequestError}
    (ending : CommitOutcome kind (some list) before (.error error) after) :
    VariableStore.read after.store kind.tagVariable =
      VariableStore.read before.store kind.tagVariable := by
  have lists {asked : Machine Store} {listed : Store} {password : Password}
      (asking : Attempt.outcome Dialogue.newPassword before = (.ok password, asked))
      (listing : withList kind (some list) asked.store = .ok listed) :
      VariableStore.read listed kind.tagVariable =
        VariableStore.read before.store kind.tagVariable := by
    rw [withList_some_eq_ok_iff, (Dialogue.quiet_newPassword asking).store_eq] at listing
    exact RequestKind.read_tag_of_listed listing
  cases ending with
  | unanswered asking => rw [(Dialogue.quiet_newPassword asking).store_eq]
  | listRefused asking => rw [Machine.store_advance, (Dialogue.quiet_newPassword asking).store_eq]
  | rolledBack asking listing _ removal =>
      rw [Machine.store_advance, RequestKind.read_tag_of_unlisted removal]
      exact lists asking listing
  | leftBehind asking listing => exact lists asking listing

/-- What a run has committed is staged, where it could be found out what was there before. -/
theorem Commits.listStaged {report : RequestReport} {list : Bytes} {password : Password}
    {found : Option Value} (commits : Commits kind candidates before after report list password)
    (readable : VariableStore.read before.store kind.tagVariable = .ok found) :
    ListStaged kind after.store list password := by
  rcases commits.writes with ⟨listed, listing, tagging⟩
  rcases commits.merges with ⟨pending, pendingReadable, _⟩
  rw [← RequestKind.read_tag_of_listed listing] at readable
  constructor
  · rw [RequestKind.read_pending_of_tagged tagging]
    exact LawfulStore.read_written kind.isPlain_pendingVariable pendingReadable listing
  · exact LawfulStore.read_written kind.isPlain_tagVariable readable tagging

/-- Issuing leaves a tag alone unless it succeeds in committing a list. -/
theorem IssueOutcome.read_tag_or_committed {result : Except RequestError RequestReport}
    (ending : IssueOutcome kind candidates before result after) :
    VariableStore.read after.store kind.tagVariable =
        VariableStore.read before.store kind.tagVariable ∨
      ∃ report, result = .ok report ∧ report.committedLength ≠ none := by
  cases ending with
  | nothingEligible assessing =>
      left
      rw [Machine.store_advance, (looks_of_assess assessing).store_eq]
  | notAuthenticated assessing _ authenticating =>
      left
      rw [authenticating.store_eq_of_looks (looks_of_assess assessing)]
  | notEncoded assessing _ authenticating _ =>
      left
      rw [authenticating.store_eq_of_looks (looks_of_assess assessing)]
  | notCommitted assessing _ authenticating _ committing =>
      left
      rw [committing.read_tag_of_error, Machine.store_advance,
        authenticating.store_eq_of_looks (looks_of_assess assessing)]
  | committed => exact .inr ⟨_, rfl, Option.some_ne_none _⟩

theorem CommitOutcome.resetStaged {found stored : Option Value}
    (ending : CommitOutcome kind none before (.ok ()) after)
    (readable : VariableStore.read before.store kind.pendingVariable = .ok found)
    (tagReadable : VariableStore.read before.store kind.tagVariable = .ok stored) :
    ∃ given password, before.answers = given ++ after.answers ∧
      Dialogue.Confirmed given password ∧ ResetStaged kind after.store password := by
  rcases ending.exists_confirmed_reset with
    ⟨password, was, removed, given, removal, tagging, answers, confirmed⟩
  rw [← RequestKind.read_tag_of_unlisted removal] at tagReadable
  refine ⟨given, password, answers, confirmed, ?_, ?_⟩
  · rw [RequestKind.read_pending_of_tagged tagging]
    exact LawfulStore.read_deleted kind.isPlain_pendingVariable readable removal
  · exact ⟨_, LawfulStore.read_written kind.isPlain_tagVariable tagReadable tagging, rfl⟩

/-- What a reset leaves that does not fail. -/
theorem resetStaged_of_reset {found stored : Option Value}
    (readable : VariableStore.read before.store kind.pendingVariable = .ok found)
    (tagReadable : VariableStore.read before.store kind.tagVariable = .ok stored)
    (done : Attempt.outcome (reset kind) before = (.ok (), after)) :
    ∃ given password, before.answers = given ++ after.answers ∧
      Dialogue.Confirmed given password ∧ ResetStaged kind after.store password := by
  have ending := commitOutcome kind none (before.advance before.store [.entered .merged])
  rcases ran : Attempt.outcome (signAndCommit kind none)
    (before.advance before.store [.entered .merged]) with ⟨result, stopped⟩
  rw [ran] at ending
  simp only [outcome_reset, ran, Prod.mk.injEq] at done
  rcases done with ⟨rfl, rfl⟩
  exact ending.resetStaged readable tagReadable

/-! ## Issuing over a staged reset -/

/-- Where a reset is staged, issuing overwrites its tag only if one of the first three answers is
accepted as a password, which the operator then confirms. The tag is the same afterwards, or it is
that of the list which has been committed; and everyone who confirms a password gets that far with
candidates that are eligible and fit, if the store takes the request. -/
theorem issue_supersedes_reset (candidates : List Candidate) {password : Password}
    (staged : ResetStaged kind before.store password) :
    let issued := Attempt.outcome (issue kind candidates) before
    (∃ events, issued.2.trace = before.trace ++ events ∧
        (.called .write kind.tagVariable ∈ events →
          ∃ given later renewed, before.answers = given ++ later ∧
            Dialogue.Confirmed given renewed ∧
            ∃ line, .line line ∈ before.answers.take 3 ∧
              Password.ofLine? line = some renewed)) ∧
      (VariableStore.read issued.2.store kind.tagVariable =
          VariableStore.read before.store kind.tagVariable ∨
        ∃ report list renewed, issued.1 = .ok report ∧
          Commits kind candidates before issued.2 report list renewed ∧
          ListStaged kind issued.2.store list renewed) ∧
      ∀ given later renewed, before.answers = given ++ later → Dialogue.Confirmed given renewed →
        TakesRequest kind before.store →
        (∃ candidate ∈ candidates, Query.Eligible before.store kind candidate.data) →
        (∀ candidate ∈ candidates, SignatureList.Fits candidate.data) →
        ∃ report list, issued.1 = .ok report ∧
          Commits kind candidates before issued.2 report list renewed ∧
          ListStaged kind issued.2.store list renewed := by
  rcases staged.exists_tag with ⟨stored, tagReadable, _⟩
  rcases exists_issueOutcome kind candidates before with ⟨result, stopped, ending, ran⟩
  have aborted := quiet_abortedOn result stopped
  simp only [ran]
  refine ⟨?_, ?_, ?_⟩
  · rcases ending.quiet_or_confirmed staged.absent with
      quiet | ⟨grown, given, later, renewed, answers, confirmed⟩
    · rcases (quiet.trans aborted).trace_eq with ⟨events, trace, quietEvents⟩
      exact ⟨events, trace, fun written => absurd True.intro (quietEvents _ written)⟩
    · rcases grown.trans aborted.prefix_trace with ⟨events, trace⟩
      rcases confirmed.exists_mem_take later with ⟨line, first, accepted⟩
      rw [← answers] at first
      exact ⟨events, trace.symm,
        fun _ => ⟨given, later, renewed, answers, confirmed, line, first, accepted⟩⟩
  · rcases ending.read_tag_or_committed with same | ⟨report, rfl, committed⟩
    · left
      rw [aborted.store_eq, same]
    · right
      rcases exists_commits ran committed with ⟨list, renewed, commits⟩
      exact ⟨report, list, renewed, rfl, commits, commits.listStaged tagReadable⟩
  · intro given later renewed answers confirmed takes eligible fit
    rcases ending.commits_of_absent staged.absent takes confirmed answers eligible fit with
      ⟨report, list, rfl, commits, _⟩
    exact ⟨report, list, rfl, commits, commits.listStaged tagReadable⟩

/-- A reset of enrollments that was staged under `password`, and an operator who confirms another
one. -/
def staleReset : Machine Memory where
  store := (Attempt.outcome (reset .enroll)
    ⟨Memory.empty, [.line "password", .line "password"], []⟩).2.store
  answers := [.line "new password", .line "new password"]

theorem resetStaged_staleReset :
    ResetStaged .enroll staleReset.store ((Password.ofLine? "password").get (by decide)) := by
  refine ⟨by decide +kernel, ⟨.standard, _⟩, ?_, rfl⟩
  decide +kernel

/-- The reset is superseded by a list with one key. -/
theorem issue_supersedes_reset_staleReset :
    let issued := Attempt.outcome (issue .enroll [⟨"key", [1]⟩]) staleReset
    let renewed := (Password.ofLine? "new password").get (by decide)
    ∃ list report, issued.1 = .ok report ∧ ListStaged .enroll issued.2.store list renewed := by
  have takes : TakesRequest .enroll staleReset.store := fun _ => ⟨_, rfl, fun _ => ⟨_, rfl⟩⟩
  have confirmed : Dialogue.Confirmed staleReset.answers
      ((Password.ofLine? "new password").get (by decide)) :=
    ⟨[], "new password", [], rfl, by decide, by decide, by decide, by decide,
      (Option.some_get _).symm⟩
  have eligible : ∃ candidate ∈ [(⟨"key", [1]⟩ : Candidate)],
      Query.Eligible staleReset.store .enroll candidate.data := by
    decide +kernel
  have fit : ∀ candidate ∈ [(⟨"key", [1]⟩ : Candidate)], SignatureList.Fits candidate.data := by
    unfold SignatureList.Fits
    decide
  have outcomes := issue_supersedes_reset [⟨"key", [1]⟩] resetStaged_staleReset
  rcases outcomes.2.2 _ [] _ (List.append_nil _).symm confirmed takes eligible fit with
    ⟨report, list, done, _, staged⟩
  exact ⟨list, report, done, staged⟩

/-- It is not so that the tag of a reset is overwritten only for someone who knows its password. -/
theorem reset_not_guarded :
    ¬∀ (kind : RequestKind) (candidates : List Candidate) (before : Machine Memory)
      (password : Password), ResetStaged kind before.store password →
      VariableStore.read (Attempt.outcome (issue kind candidates) before).2.store
          kind.tagVariable ≠ VariableStore.read before.store kind.tagVariable →
        ∃ line guess, .line line ∈ before.answers.take 3 ∧ Password.ofLine? line = some guess ∧
          AuthTag.derive none guess = AuthTag.derive none password := by
  intro guarded
  have overwritten : VariableStore.read
      (Attempt.outcome (issue .enroll [⟨"key", [1]⟩]) staleReset).2.store .enrollmentTag ≠
      VariableStore.read staleReset.store .enrollmentTag := by
    decide +kernel
  rcases guarded .enroll [⟨"key", [1]⟩] staleReset _ resetStaged_staleReset overwritten with
    ⟨line, guess, mem, found, sameTag⟩
  have same : line = "new password" := by
    simpa [staleReset] using mem
  subst same
  have other : AuthTag.derive none ((Password.ofLine? "new password").get (by decide)) ≠
      AuthTag.derive none ((Password.ofLine? "password").get (by decide)) := by
    decide +kernel
  rw [Option.get_of_eq_some _ found] at other
  exact other sameTag

end OwnerKeys.Staging
