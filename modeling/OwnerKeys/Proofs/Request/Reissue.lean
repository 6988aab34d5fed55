import OwnerKeys.Proofs.Request.Merging

/-!
# Issuing the same candidates again

Issuing candidates comes to nothing exactly if none of them is eligible. After issuing has
succeeded, that holds of every candidate whose key is found again, which is every candidate with
bytes. A key without bytes is not found in the list that it was written to; it stays eligible for
enrollment, and every further request writes it once more.
-/

namespace OwnerKeys

namespace Query

variable {Store : Type} [VariableStore Store] {store later : Store} {kind : RequestKind}
  {key : Bytes}

/-- A key that is pending already is not eligible. -/
theorem Eligible.not_mem_pending (eligible : Eligible store kind key) :
    key ∉ keysIn store kind.pendingVariable := by
  cases kind with
  | enroll => exact eligible _ (by decide)
  | delete => exact eligible.2

/-- A key that is eligible was so before, if the pending list has only gained keys since and no
other list has changed. -/
theorem Eligible.of_gained (eligible : Eligible later kind key)
    (gained : key ∈ keysIn store kind.pendingVariable → key ∈ keysIn later kind.pendingVariable)
    (others : ∀ var : Variable, var.IsPlain → var ≠ kind.pendingVariable →
      var ≠ kind.tagVariable → keysIn later var = keysIn store var) : Eligible store kind key := by
  cases kind with
  | enroll =>
      have plain : ∀ var ∈ trustedLists,
          var.IsPlain ∧ var ≠ RequestKind.enroll.tagVariable := by decide
      intro var mem found
      by_cases pending : var = RequestKind.enroll.pendingVariable
      · subst pending
        exact eligible _ mem (gained found)
      · rw [← others var (plain var mem).1 pending (plain var mem).2] at found
        exact eligible var mem found
  | delete =>
      refine ⟨?_, fun found => eligible.2 (gained found)⟩
      rw [← others .enrolledKeys (by decide) (by decide) (by decide)]
      exact eligible.1

end Query

namespace Event

/-- Whether an event belongs to a search: a look at the store, or the entry into a phase. -/
def IsSearch : Event → Prop
  | called .read _ | noted _ | entered _ => True
  | _ => False

theorem IsLook.isSearch {event : Event} (look : event.IsLook) : event.IsSearch := by
  cases event with
  | called operation var => cases operation <;> simp_all [IsLook, IsSearch]
  | noted notice => exact True.intro
  | _ => exact absurd look (by simp [IsLook])

theorem IsSearch.not_isChange_and_not_isPrompt {event : Event} (search : event.IsSearch) :
    ¬event.IsChange ∧ ¬event.IsPrompt := by
  cases event with
  | called operation var => cases operation <;> simp_all [IsSearch, IsChange, IsPrompt]
  | prompted prompt => exact absurd search (by simp [IsSearch])
  | _ => simp [IsChange, IsPrompt]

end Event

namespace Staging

variable {Store : Type} [VariableStore Store] {kind : RequestKind} {candidates : List Candidate}
  {before after machine : Machine Store}

/-- Issuing comes to nothing: all candidates are skipped and no list is committed, the operator is
asked nothing, and nothing is tried that could change the store. -/
structure Idles (kind : RequestKind) (candidates : List Candidate) (machine : Machine Store) :
    Prop where
  /-- All candidates are skipped, and no list is committed. -/
  result_eq : (Attempt.outcome (issue kind candidates) machine).1 =
    .ok ⟨[], candidates.map (·.name), none⟩
  /-- The store stays the same, without any call that could change it and without any prompt. -/
  adds : Machine.Adds (fun event => ¬event.IsChange ∧ ¬event.IsPrompt) machine
    (Attempt.outcome (issue kind candidates) machine).2
  /-- No answer is taken. -/
  answers_eq : (Attempt.outcome (issue kind candidates) machine).2.answers = machine.answers

omit [VariableStore Store] in
/-- Where nothing is to be done after the candidates were looked up, all has been a search. -/
theorem searches_of_looks {looked : Machine Store} (looks : Machine.Looks before looked) :
    Machine.Adds Event.IsSearch before
      (looked.advance looked.store [.entered .candidatesValidated, .noted .nothingToDo]) :=
  (looks.toAdds.mono fun _ => Event.IsLook.isSearch).trans_advance (by simp [Event.IsSearch])

/-- Where no candidate is eligible, issuing does no more than to look them up, and skips them. -/
theorem issue_of_not_eligible
    (unfit : ∀ candidate ∈ candidates, ¬Query.Eligible machine.store kind candidate.data) :
    ∃ after, Attempt.outcome (issue kind candidates) machine =
        (.ok ⟨[], candidates.map (·.name), none⟩, after) ∧
      Machine.Adds Event.IsSearch machine after ∧ after.answers = machine.answers := by
  have nothing {accepted : List Candidate} {skipped : List String} {looked : Machine Store}
      (assessing : Action.outcome (assess kind [] [] candidates) machine =
        ((accepted, skipped), looked)) : ¬accepted ≠ [] := by
    rw [(sifted_of_assess assessing).accepted_ne_nil_iff]
    rintro ⟨candidate, mem, eligible⟩
    exact unfit candidate mem eligible
  rcases exists_issueOutcome kind candidates machine with ⟨result, stopped, ending, issued⟩
  cases ending with
  | @nothingEligible _ looked assessing =>
      have looks := looks_of_assess assessing
      refine ⟨_, ?_, searches_of_looks looks, looks.answers_eq⟩
      rw [issued, (sifted_of_assess assessing).skipped_eq]
      rfl
  | notAuthenticated assessing eligible => exact absurd eligible (nothing assessing)
  | notEncoded assessing eligible => exact absurd eligible (nothing assessing)
  | notCommitted assessing eligible => exact absurd eligible (nothing assessing)
  | committed assessing eligible => exact absurd eligible (nothing assessing)

/-- Where no candidate is eligible, issuing comes to nothing. -/
theorem idles_of_not_eligible
    (none : ∀ candidate ∈ candidates, ¬Query.Eligible machine.store kind candidate.data) :
    Idles kind candidates machine := by
  rcases issue_of_not_eligible none with ⟨after, issued, searches, answers⟩
  constructor
  · rw [issued]
  · rw [issued]
    exact searches.mono fun _ => Event.IsSearch.not_isChange_and_not_isPrompt
  · rw [issued]
    exact answers

/-- Where issuing comes to nothing, no candidate is eligible. -/
theorem Idles.not_eligible (idles : Idles kind candidates machine) {candidate : Candidate}
    (mem : candidate ∈ candidates) : ¬Query.Eligible machine.store kind candidate.data := by
  intro eligible
  rcases exists_issueOutcome kind candidates machine with ⟨ended, stopped, ending, issued⟩
  have result := idles.result_eq
  rw [issued] at result
  cases ending with
  | nothingEligible assessing =>
      exact (sifted_of_assess assessing).accepted_ne_nil_iff.mpr ⟨candidate, mem, eligible⟩ rfl
  | notAuthenticated => cases result
  | notEncoded => cases result
  | notCommitted => cases result
  | committed => simp at result

variable [LawfulStore Store]

/-- After issuing has succeeded, no candidate is eligible any more, unless it has no bytes. -/
theorem IssueOutcome.not_eligible_after {report : RequestReport}
    (ending : IssueOutcome kind candidates before (.ok report) after) {candidate : Candidate}
    (mem : candidate ∈ candidates) (notEmpty : candidate.data ≠ []) :
    ¬Query.Eligible after.store kind candidate.data := by
  rcases ending.exists_merged with ⟨accepted, sifted, pendingKeys, otherKeys⟩
  intro eligibleAfter
  have notFound := eligibleAfter.not_mem_pending
  rw [pendingKeys, List.mem_append, not_or] at notFound
  have eligibleBefore : Query.Eligible before.store kind candidate.data :=
    eligibleAfter.of_gained (fun pending => absurd pending notFound.2) otherKeys
  have inAccepted := (sifted.mem_of_eligible mem eligibleBefore).resolve_left List.not_mem_nil
  exact notFound.1 (List.mem_filter.mpr ⟨inAccepted, by simpa using notEmpty⟩)

/-- After issuing has succeeded, issuing the same candidates again comes to nothing, whatever the
operator answers; except that candidates without bytes are enrolled again and again. -/
theorem issue_again_idles_iff {again : Machine Store} {report : RequestReport}
    (issued : Attempt.outcome (issue kind candidates) before = (.ok report, after))
    (sameStore : again.store = after.store) :
    Idles kind candidates again ↔
      (kind = .enroll → ∀ candidate ∈ candidates, candidate.data ≠ []) := by
  constructor
  · rintro idles rfl candidate mem empty
    apply idles.not_eligible mem
    rw [empty]
    exact Query.eligible_enroll_nil _
  · intro notEmpty
    apply idles_of_not_eligible
    intro candidate mem eligible
    rcases exists_issueOutcome kind candidates before with ⟨result, stopped, ending, ran⟩
    rw [issued, Prod.mk.injEq] at ran
    rcases ran with ⟨rfl, rfl⟩
    have hasBytes : candidate.data ≠ [] := by
      cases kind with
      | enroll => exact notEmpty rfl candidate mem
      | delete => exact eligible.ne_nil_of_delete
    rw [sameStore] at eligible
    exact ending.not_eligible_after mem hasBytes eligible

/-- An operator who confirms a password, before a store without variables. -/
def newcomer : Machine Memory where
  store := .empty
  answers := [.line "password", .line "password"]

/-- A key with a byte is staged once. -/
theorem issue_again_idles_key :
    let issued := Attempt.outcome (issue .enroll [⟨"key", [1]⟩]) newcomer
    issued.1 = .ok ⟨["key"], [], some 45⟩ ∧
      Idles .enroll [⟨"key", [1]⟩] ⟨issued.2.store, [.line "password"], []⟩ := by
  have issued : (Attempt.outcome (issue .enroll [⟨"key", [1]⟩]) newcomer).1 =
      .ok ⟨["key"], [], some 45⟩ := by decide +kernel
  refine ⟨issued, (issue_again_idles_iff (Prod.ext issued rfl) ?_).mpr ?_⟩
  · rfl
  · decide

/-- A key without bytes is staged for enrollment a second time. -/
theorem empty_key_issued_again :
    let issued := Attempt.outcome (issue .enroll [⟨"empty", []⟩]) newcomer
    let again : Machine Memory := ⟨issued.2.store,
      [.line "password", .line "new password", .line "new password"], []⟩
    issued.1 = .ok ⟨["empty"], [], some 44⟩ ∧
      (Attempt.outcome (issue .enroll [⟨"empty", []⟩]) again).1 = .ok ⟨["empty"], [], some 88⟩ := by
  decide +kernel

end Staging

end OwnerKeys
