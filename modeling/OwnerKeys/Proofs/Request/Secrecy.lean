import OwnerKeys.Proofs.Request.Binding
import OwnerKeys.Proofs.Request.Committing
import OwnerKeys.Proofs.Store.Changes

/-!
# What the lines of the operator can influence

Whatever lines the operator has entered on the way, a run of issuing that commits does the same
things to the store: it writes one list, which the store and the batch determine, and then a tag.
Into the tag goes the password that was confirmed in the end, and so only the first units of the
line that was confirmed. Nothing else that was typed leaves a trace in the store or in the report.
-/

namespace OwnerKeys.Staging

variable {Store : Type}

/-- The line that a run has confirmed as the new password is the last line that it has taken. -/
def ConfirmsLine (before after : Machine Store) (line : String) : Prop :=
  ∃ earlier given password, before.answers = earlier ++ given ++ after.answers ∧
    Dialogue.Confirmed given password ∧ given.getLast? = some (.line line)

variable [VariableStore Store]

/-- Two stores are the same but for the bytes of a variable: both come from one store by writing
it, and what does not depend on it is read from both alike. -/
structure AlikeBut (var : Variable) (one other : Store) : Prop where
  exists_origin : ∃ origin bytes otherBytes,
    VariableStore.write origin var ⟨.standard, bytes⟩ = .ok one ∧
      VariableStore.write origin var ⟨.standard, otherBytes⟩ = .ok other
  read_eq : ∀ seen, VariableStore.Apart Store var seen →
    VariableStore.read one seen = VariableStore.read other seen

theorem AlikeBut.of_writes {var : Variable} {origin one other : Store} {bytes otherBytes : Bytes}
    (written : VariableStore.write origin var ⟨.standard, bytes⟩ = .ok one)
    (writtenToo : VariableStore.write origin var ⟨.standard, otherBytes⟩ = .ok other) :
    AlikeBut var one other := by
  have leads : (Change.write var ⟨.standard, bytes⟩).apply origin = .ok one := written
  have leadsToo : (Change.write var ⟨.standard, otherBytes⟩).apply origin = .ok other := writtenToo
  refine ⟨⟨origin, bytes, otherBytes, written, writtenToo⟩, fun seen apart => ?_⟩
  rw [apart rfl leads, apart rfl leadsToo]

variable {kind : RequestKind} {candidates : List Candidate} {before after : Machine Store}
  {report : RequestReport}

namespace Commits

variable {list : Bytes} {password : Password}

theorem exists_confirmsLine
    (commits : Commits kind candidates before after report list password) :
    ∃ line, ConfirmsLine before after line := by
  rcases commits.confirms with ⟨earlier, given, answers, confirmed⟩
  rcases confirmed.exists_getLast with ⟨line, last, _⟩
  exact ⟨line, earlier, given, password, answers, confirmed, last⟩

/-- The password of the list is the one that the confirmed line gives. -/
theorem ofLine_of_confirmsLine
    (commits : Commits kind candidates before after report list password) {line : String}
    (confirms : ConfirmsLine before after line) : Password.ofLine? line = some password := by
  rcases commits.confirms with ⟨earlier, given, answers, confirmed⟩
  rcases confirmed.exists_getLast with ⟨wanted, wantedLast, found⟩
  rcases confirms with ⟨earlierToo, givenToo, _, answersToo, _, last⟩
  -- Both dialogues end where the answers that are left over begin.
  have taken : earlier ++ given = earlierToo ++ givenToo :=
    List.append_cancel_right (answers.symm.trans answersToo)
  have sameLast := congrArg List.getLast? taken
  rw [List.getLast?_append, List.getLast?_append, wantedLast, last] at sameLast
  simp only [Option.some_or, Option.some.injEq, Answer.line.injEq] at sameLast
  rwa [← sameLast]

variable {start final : Machine Store} {otherReport : RequestReport} {otherList : Bytes}
  {otherPassword : Password}

/-- Runs from one store commit the same list. -/
theorem list_eq (commits : Commits kind candidates before after report list password)
    (commitsToo : Commits kind candidates start final otherReport otherList otherPassword)
    (sameStore : start.store = before.store) : otherList = list := by
  rcases commits.merges with ⟨found, readable, merging⟩
  rcases commitsToo.merges with ⟨otherFound, otherReadable, otherMerging⟩
  rw [sameStore] at otherReadable otherMerging
  cases readable.symm.trans otherReadable
  exact Except.ok.inj (otherMerging.symm.trans merging)

end Commits

/-- Two runs of issuing that commit, from one store but with any answers, give the same report and
leave stores that are the same but for the tag. If the confirmed lines are the same in what is kept
of them, then so are the stores. -/
theorem issue_alike_but_tag {start final : Machine Store} {otherReport : RequestReport}
    (issued : Attempt.outcome (issue kind candidates) before = (.ok report, after))
    (issuedToo : Attempt.outcome (issue kind candidates) start = (.ok otherReport, final))
    (sameStore : start.store = before.store) (committed : report.committedLength ≠ none)
    (committedToo : otherReport.committedLength ≠ none) :
    otherReport = report ∧ AlikeBut kind.tagVariable after.store final.store ∧
      (∃ line, ConfirmsLine before after line) ∧ (∃ line, ConfirmsLine start final line) ∧
      ∀ line otherLine, ConfirmsLine before after line → ConfirmsLine start final otherLine →
        (Utf16.ofString line).take 16 = (Utf16.ofString otherLine).take 16 →
          final.store = after.store := by
  rcases exists_commits issued committed with ⟨list, password, commits⟩
  rcases exists_commits issuedToo committedToo with ⟨otherList, otherPassword, commitsToo⟩
  obtain rfl := commits.list_eq commitsToo sameStore
  rcases commits.writes with ⟨listed, listing, tagging⟩
  rcases commitsToo.writes with ⟨otherListed, otherListing, otherTagging⟩
  rw [sameStore, listing, Except.ok.injEq] at otherListing
  subst otherListing
  refine ⟨?_, .of_writes tagging otherTagging, commits.exists_confirmsLine,
    commitsToo.exists_confirmsLine, ?_⟩
  · rw [commits.report_eq, commitsToo.report_eq, sameStore]
  · intro line otherLine confirms confirmsToo sameUnits
    have samePassword : otherPassword = password := by
      rw [Password.eq_iff_units,
        Password.units_of_ofLine (commitsToo.ofLine_of_confirmsLine confirmsToo),
        Password.units_of_ofLine (commits.ofLine_of_confirmsLine confirms)]
      exact sameUnits.symm
    rw [samePassword, tagging, Except.ok.injEq] at otherTagging
    exact otherTagging.symm

/-- An operator who enters the damaged list's password and a new one at the first attempt. -/
def swiftAnswers : List Answer :=
  ["old password", AuthTag.longLine 'a', AuthTag.longLine 'a'].map .line

/-- An operator who fails as often as possible, and then confirms a line whose last character is a
different one. -/
def clumsyAnswers : List Answer :=
  ["tiny", "new password", "old password", "tiny", "a line that is much too long",
    AuthTag.longLine 'b', AuthTag.longLine 'a', "old password", AuthTag.longLine 'b'].map .line

/-- Both operators leave the same store. -/
theorem issue_alike_but_tag_clumsy :
    let swift := Attempt.outcome (issue .enroll mixedBatch) ⟨damaged.store, swiftAnswers, []⟩
    let clumsy := Attempt.outcome (issue .enroll mixedBatch) ⟨damaged.store, clumsyAnswers, []⟩
    let report : RequestReport := ⟨["new", "empty"], ["pending", "again"], some 136⟩
    swift.1 = .ok report ∧ clumsy.1 = .ok report ∧ clumsy.2.store = swift.2.store := by
  intro swift clumsy report
  -- Each run is evaluated once, for its result and the answers that it leaves.
  have ⟨issued, noneLeft⟩ : swift.1 = .ok report ∧ swift.2.answers = [] := by decide +kernel
  have ⟨issuedToo, noneLeftToo⟩ : clumsy.1 = .ok report ∧ clumsy.2.answers = [] := by
    decide +kernel
  have alike := issue_alike_but_tag (Prod.ext issued rfl) (Prod.ext issuedToo rfl) rfl (by decide)
    (by decide)
  rcases alike with ⟨_, _, _, _, sameStores⟩
  refine ⟨issued, issuedToo, ?_⟩
  apply sameStores (AuthTag.longLine 'a') (AuthTag.longLine 'b') _ _ (by decide)
  · have confirmed : Dialogue.Confirmed (swiftAnswers.drop 1)
        ((Password.ofLine? (AuthTag.longLine 'a')).get (by decide)) :=
      ⟨[], AuthTag.longLine 'a', [], by decide, by decide, by decide, by decide, by decide,
        (Option.some_get _).symm⟩
    refine ⟨swiftAnswers.take 1, _, _, ?_, confirmed, by decide⟩
    rw [noneLeft]
    rfl
  · have confirmed : Dialogue.Confirmed (clumsyAnswers.drop 3)
        ((Password.ofLine? (AuthTag.longLine 'b')).get (by decide)) :=
      ⟨["tiny", "a line that is much too long"], AuthTag.longLine 'b',
        [AuthTag.longLine 'a', "old password"], by decide, by decide, by decide, by decide,
        by decide, (Option.some_get _).symm⟩
    refine ⟨clumsyAnswers.take 3, _, _, ?_, confirmed, by decide⟩
    rw [noneLeftToo]
    rfl

end OwnerKeys.Staging
