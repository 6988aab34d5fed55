import OwnerKeys.Proofs.CommandLine.ExportedKeys
import OwnerKeys.Proofs.Request.Committing
import OwnerKeys.Proofs.Request.Lookups

/-!
# Testing a key and importing it

A key that a test reports as enrolled is one that an import skips. Both ask whether the key may be
enrolled, and an import of a key that may be enrolled either fails or takes a new password from the
operator. Whatever the commands print is taken here, and no key file is refused.
-/

namespace OwnerKeys

namespace Staging

variable {Store : Type} [VariableStore Store] {kind : RequestKind} {candidates : List Candidate}
  {before after : Machine Store}

/-- Issuing that does not fail, and for which the operator answers nothing, had nothing to issue. -/
theorem not_eligible_of_answers_eq {report : RequestReport}
    (issued : Attempt.outcome (issue kind candidates) before = (.ok report, after))
    (noneTaken : after.answers = before.answers) :
    ∀ candidate ∈ candidates, ¬Query.Eligible before.store kind candidate.data := by
  -- A commit comes after a dialogue for a new password, and that takes at least two answers.
  have uncommitted : report.committedLength = none := by
    by_contra committed
    rcases exists_commits issued committed with ⟨list, password, commits⟩
    rcases commits.confirms with ⟨earlier, given, answers, confirmed⟩
    rcases confirmed.exists_getLast with ⟨line, last, _⟩
    rw [noneTaken] at answers
    have lengths := congrArg List.length answers
    simp only [List.length_append] at lengths
    have nothing : given = [] := List.length_eq_zero_iff.mp (by omega)
    simp [nothing] at last
  intro candidate mem eligible
  rcases exists_issueOutcome kind candidates before with ⟨result, stopped, ending, ran⟩
  rw [issued, Prod.mk.injEq] at ran
  rcases ran with ⟨rfl, rfl⟩
  cases ending with
  | nothingEligible assessing =>
      exact (sifted_of_assess assessing).accepted_ne_nil_iff.mpr ⟨candidate, mem, eligible⟩ rfl
  | committed => cases uncommitted

end Staging

namespace CommandLine

variable {Store : Type} [VariableStore Store] [HasFiles Store]

/-- The test of the key in a file reports that the key is enrolled. -/
structure ReportsEnrolled (file : String) (machine : Machine Store)
    (ran : Except CommandError Unit × Machine Store) : Prop where
  result_eq : ran.1 = .error (.alreadyEnrolled file)
  exists_events : ∃ events, ran.2.trace = machine.trace ++ events ∧
    .printed (file ++ " is already enrolled\n") ∈ events

theorem reportsEnrolled_iff {file : String} {machine : Machine Store} :
    ReportsEnrolled file machine (Attempt.outcome (run (.testKey file)) machine) ↔
      ∃ key, Device.sound.read (HasFiles.files machine.store) file = .ok key ∧
        ¬Query.Eligible machine.store .enroll key := by
  change ReportsEnrolled file machine (Attempt.outcome (testKey {} file) machine) ↔ _
  have reading := outcome_readKeyFile .sound file machine
  unfold testKey
  cases read : Device.sound.read (HasFiles.files machine.store) file with
  | error error =>
      rw [read] at reading
      rw [Attempt.outcome_bind_error reading]
      constructor
      · intro reports
        cases reports.result_eq
      · rintro ⟨key, found, _⟩
        cases found
  | ok key =>
      rw [read] at reading
      rw [Attempt.outcome_bind_ok reading, Attempt.outcome_perform_bind]
      simp only [Except.ok.injEq, exists_eq_left', ← Query.isEligible_iff]
      have looks := Query.looks_anyListContains key Query.trustedLists machine
      change _ ↔ ¬(!(Action.outcome (Query.isEnrolled key) machine).1) = true
      change Machine.Looks machine (Action.outcome (Query.isEnrolled key) machine).2 at looks
      generalize Action.outcome (Query.isEnrolled key) machine = looked at looks
      rcases looked with ⟨enrolled, looked⟩
      cases enrolled with
      | true =>
          rcases looks.trace_eq with ⟨events, trace, _⟩
          refine iff_of_true ⟨rfl, events ++ [.printed (file ++ " is already enrolled\n")], ?_, ?_⟩
            (by simp)
          · rw [← List.append_assoc, ← trace]
            rfl
          · simp
      | false =>
          refine iff_of_false (fun reports => ?_) (by simp)
          cases reports.result_eq

/-- An import of a single key that succeeds without an answer is one of a key that may not be
enrolled. -/
theorem not_eligible_of_import {file : String} {machine after : Machine Store}
    (ran : Attempt.outcome (run (.importKeys [file])) machine = (.ok (), after))
    (noneTaken : after.answers = machine.answers) :
    ∃ key, Device.sound.read (HasFiles.files machine.store) file = .ok key ∧
      ¬Query.Eligible machine.store .enroll key := by
  change Attempt.outcome (stage {} .enroll [file]) machine = _ at ran
  rcases outcome_readCandidates .sound [file] machine with ⟨_, _, readable⟩ | ⟨error, unreadable⟩
  · rcases readable file List.mem_cons_self with ⟨key, read⟩
    have readAll : ∀ candidate ∈ [(⟨file, key⟩ : Candidate)],
        Device.sound.read (HasFiles.files machine.store) candidate.name = .ok candidate.data := by
      simpa using read
    have reading : Attempt.outcome (readCandidates .sound [file]) machine =
        (.ok [⟨file, key⟩], machine) :=
      outcome_readCandidates_of_read readAll
    refine ⟨key, read, ?_⟩
    rcases issued : Attempt.outcome (Staging.issue .enroll [⟨file, key⟩]) machine with
      ⟨error | report, staged⟩
    · have failed : Attempt.outcome (mapError CommandError.request
          (Staging.issue .enroll [⟨file, key⟩])) machine = (.error (.request error), staged) := by
        rw [outcome_mapError, issued]
        rfl
      rw [stage, Attempt.outcome_bind_ok reading, Attempt.outcome_bind_error failed] at ran
      cases ran
    · have staging := outcome_stage .enroll readAll issued
      cases staging.symm.trans ran
      exact Staging.not_eligible_of_answers_eq issued noneTaken _ List.mem_cons_self
  · rw [stage, Attempt.outcome_bind_error unreadable] at ran
    cases ran

/-- A key may be enrolled if it is in none of the trusted lists, of which `db` is the one of the
image databases, and deleted if it is enrolled and its deletion is not pending; it may never be
both. What the lists hold is what is found in them; a list that is missing or unreadable holds
nothing. The lists are read in their order and no further than the answer is open, and only looked
at. So the test of a key reports that it is enrolled exactly if an import of the key from the same
store skips it and asks nothing; that is, if the import succeeds without an answer. -/
theorem eligibility_and_keyTest (before : Machine Store) :
    (∀ key, ((Action.outcome (Query.isEligible .enroll key) before).1 = true ↔
      ∀ var ∈ [⟨"PK", Variable.globalVendor⟩, ⟨"KEK", Variable.globalVendor⟩,
          ⟨"db", Variable.imageSecurityVendor⟩, ⟨"MokListRT", Variable.shimVendor⟩,
          ⟨"MokNew", Variable.shimVendor⟩],
        key ∉ Query.keysIn before.store var)) ∧
    (∀ key, ((Action.outcome (Query.isEligible .delete key) before).1 = true ↔
      key ∈ Query.keysIn before.store ⟨"MokListRT", Variable.shimVendor⟩ ∧
        key ∉ Query.keysIn before.store ⟨"MokDel", Variable.shimVendor⟩)) ∧
    (∀ key, ¬((Action.outcome (Query.isEligible .enroll key) before).1 = true ∧
      (Action.outcome (Query.isEligible .delete key) before).1 = true)) ∧
    (∀ kind key, let looked := Action.outcome (Query.isEligible kind key) before
      (looked.1 = true ↔ Query.EligibleAmong (Query.keysIn before.store) key kind) ∧
      Machine.Looks before looked.2 ∧
      ∃ front, Query.ShortestSettling (Query.keysIn before.store) key kind front ∧
        looked.2.calls = before.calls ++ front.map (.read, ·)) ∧
    ∀ file (importer : Machine Store), importer.store = before.store →
      let tested := Attempt.outcome (run (.testKey file)) before
      let imported := Attempt.outcome (run (.importKeys [file])) importer
      (ReportsEnrolled file before tested ↔ SkipsAll [file] importer imported) ∧
      (ReportsEnrolled file before tested ↔
        imported.1 = .ok () ∧ imported.2.answers = importer.answers) := by
  refine ⟨fun key => Query.isEligible_iff, fun key => Query.isEligible_iff, fun key => ?_,
    fun kind key => ⟨Query.isEligible_iff.trans Query.eligible_iff_among,
      Query.looks_isEligible kind key before, Query.exists_read_isEligible kind key before⟩,
    fun file importer sameStore => ?_⟩
  · simp only [Query.isEligible_iff]
    exact Query.not_eligible_for_both
  · intro tested imported
    have skips (reports : ReportsEnrolled file before tested) :
        SkipsAll [file] importer imported := by
      rcases reportsEnrolled_iff.mp reports with ⟨key, read, unfit⟩
      rw [← sameStore] at read unfit
      have readable : ∀ candidate ∈ [(⟨file, key⟩ : Candidate)],
          Device.sound.read (HasFiles.files importer.store) candidate.name =
            .ok candidate.data := by
        simpa using read
      exact skipsAll_of_not_eligible .enroll readable (by simpa using unfit)
    have reports (succeeds : imported.1 = .ok ())
        (noneTaken : imported.2.answers = importer.answers) :
        ReportsEnrolled file before tested := by
      rw [reportsEnrolled_iff, ← sameStore]
      exact not_eligible_of_import (Prod.ext succeeds rfl) noneTaken
    constructor
    · exact ⟨skips, fun all => reports all.result_eq all.answers_eq⟩
    · exact ⟨fun enrolled => ⟨(skips enrolled).result_eq, (skips enrolled).answers_eq⟩,
        fun ⟨succeeds, noneTaken⟩ => reports succeeds noneTaken⟩

end CommandLine

end OwnerKeys
