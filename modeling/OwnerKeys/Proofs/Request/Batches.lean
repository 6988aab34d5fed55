import Mathlib.Data.List.Nodup
import Mathlib.Data.List.Perm.Basic
import OwnerKeys.Proofs.Request.Accounting
import OwnerKeys.Proofs.Request.Reissue
import OwnerKeys.Proofs.Store.Changes

/-!
# Batches may be split and reordered

What staging a batch brings to a store depends on nothing but the set of its keys: each of them that
is eligible is pending afterwards, once, and no other key is. Within a batch a repeated key is found
among the accepted candidates, and from one batch to the next it is found by decoding the pending
list, but both come to the same. So what two batches bring one after the other is what they bring as
one, and the order within a batch does not matter.
-/

namespace OwnerKeys

namespace Query

variable {Store : Type} [VariableStore Store] {store later : Store} {kind : RequestKind}
  {key : Bytes}

/-- When some keys have been put in front of a pending list and no other list has changed, the keys
that are still eligible are those that were so and were not put there. -/
theorem eligible_iff_of_prepended {news : List Bytes}
    (pendingKeys : keysIn later kind.pendingVariable =
      news ++ keysIn store kind.pendingVariable)
    (others : ∀ var : Variable, var.IsPlain → var ≠ kind.pendingVariable →
      var ≠ kind.tagVariable → keysIn later var = keysIn store var) :
    Eligible later kind key ↔ Eligible store kind key ∧ key ∉ news := by
  constructor
  · intro eligible
    have notFound := eligible.not_mem_pending
    rw [pendingKeys, List.mem_append, not_or] at notFound
    refine ⟨eligible.of_gained (fun found => ?_) others, notFound.1⟩
    exact absurd found notFound.2
  · rintro ⟨eligible, notNew⟩
    refine eligible.of_gained (fun found => ?_) fun var plain notList notTag =>
      (others var plain notList notTag).symm
    rw [pendingKeys] at found
    exact (List.mem_append.mp found).resolve_left notNew

end Query

namespace Staging

variable {Store : Type} [VariableStore Store]

/-- Staging a batch succeeds, whatever the operator is asked and answers, and leaves another
store. -/
def Issues (kind : RequestKind) (batch : List Candidate) (before after : Store) : Prop :=
  ∃ (start final : Machine Store) (report : RequestReport),
    Attempt.outcome (issue kind batch) start = (.ok report, final) ∧
      start.store = before ∧ final.store = after

theorem issues_of_outcome {kind : RequestKind} {batch : List Candidate} {start : Machine Store}
    {report : RequestReport} (issued : (Attempt.outcome (issue kind batch) start).1 = .ok report) :
    Issues kind batch start.store (Attempt.outcome (issue kind batch) start).2.store :=
  ⟨start, _, report, Prod.ext issued rfl, rfl, rfl⟩

/-- What has been brought to a store when some keys were wanted. -/
structure Brings (kind : RequestKind) (wanted : Bytes → Prop) (before after : Store) : Prop where
  /-- Each key that was wanted and eligible is in front of the pending keys, once. Only a key
  without bytes is not found there. -/
  exists_news : ∃ news : List Bytes, news.Nodup ∧
    (∀ key, key ∈ news ↔ (wanted key ∧ Query.Eligible before kind key) ∧ key ≠ []) ∧
    Query.keysIn after kind.pendingVariable = news ++ Query.keysIn before kind.pendingVariable
  /-- If there was such a key, there is a pending list. -/
  present : (∃ key, wanted key ∧ Query.Eligible before kind key) →
    VariableStore.contains after kind.pendingVariable = .ok true
  /-- If there was none, there is a pending list if there was one. -/
  kept : (¬∃ key, wanted key ∧ Query.Eligible before kind key) →
    VariableStore.contains after kind.pendingVariable =
      VariableStore.contains before kind.pendingVariable
  /-- What is read of other variables is the same. -/
  others : ∀ var : Variable, VariableStore.Apart Store kind.pendingVariable var →
    VariableStore.Apart Store kind.tagVariable var →
    VariableStore.read after var = VariableStore.read before var

/-- Two stores have the same keys pending, as many times each, if they have a pending list at all,
and the same is read of all variables other than the pending list and its tag. -/
structure SameStaged (kind : RequestKind) (one other : Store) : Prop where
  /-- Both have a pending list, or neither has one. -/
  contains_eq : VariableStore.contains one kind.pendingVariable =
    VariableStore.contains other kind.pendingVariable
  /-- The same keys are pending, as many times each. -/
  keys_perm : (Query.keysIn one kind.pendingVariable).Perm
    (Query.keysIn other kind.pendingVariable)
  /-- What is read of other variables is the same. -/
  others : ∀ var : Variable, VariableStore.Apart Store kind.pendingVariable var →
    VariableStore.Apart Store kind.tagVariable var →
    VariableStore.read one var = VariableStore.read other var

/-- The keys that are accepted are the eligible ones of the batch. -/
theorem Sifted.mem_accepted_iff {eligible : Bytes → Prop} {candidates accepted : List Candidate}
    {skipped : List String} (sifted : Sifted eligible [] candidates accepted skipped)
    {key : Bytes} :
    key ∈ accepted.map (·.data) ↔ key ∈ candidates.map (·.data) ∧ eligible key := by
  constructor
  · intro mem
    rcases List.mem_map.mp mem with ⟨candidate, inAccepted, rfl⟩
    rcases sifted.mem_and_eligible inAccepted with ⟨inBatch, fits⟩
    exact ⟨List.mem_map_of_mem inBatch, fits⟩
  · rintro ⟨mem, fits⟩
    rcases List.mem_map.mp mem with ⟨candidate, inBatch, rfl⟩
    exact (sifted.mem_of_eligible inBatch fits).resolve_left List.not_mem_nil

variable {kind : RequestKind} {batch : List Candidate}

/-- Issuing that does not fail either finds no eligible key and leaves the store as it is, or it
finds some, and writes the pending list and its tag. -/
theorem IssueOutcome.kept_or_written {before after : Machine Store} {report : RequestReport}
    (ending : IssueOutcome kind batch before (.ok report) after) :
    (¬∃ key, key ∈ batch.map (·.data) ∧ Query.Eligible before.store kind key) ∧
        after.store = before.store ∨
      (∃ key, key ∈ batch.map (·.data) ∧ Query.Eligible before.store kind key) ∧
        ∃ found list listed tag,
          VariableStore.read before.store kind.pendingVariable = .ok found ∧
          VariableStore.write before.store kind.pendingVariable list = .ok listed ∧
          VariableStore.write listed kind.tagVariable tag = .ok after.store := by
  cases ending with
  | nothingEligible assessing =>
      refine .inl ⟨?_, (looks_of_assess assessing).store_eq⟩
      rintro ⟨key, wanted⟩
      simpa using (sifted_of_assess assessing).mem_accepted_iff.mpr wanted
  | committed assessing accepts authenticating _ committing =>
      have looks := looks_of_assess assessing
      have sameStore := authenticating.store_eq_of_looks looks
      rcases authenticating.exists_read_of_looks looks with ⟨found, readable, _⟩
      rcases committing.exists_writes with ⟨listed, tag, listing, tagging⟩
      rw [Machine.store_advance, sameStore] at listing
      rcases List.exists_mem_of_ne_nil _ accepts with ⟨candidate, mem⟩
      have wanted := (sifted_of_assess assessing).mem_accepted_iff.mp (List.mem_map_of_mem mem)
      exact .inr ⟨⟨_, wanted⟩, found, _, listed, tag, readable, listing, tagging⟩

variable [LawfulStore Store]

/-- Staging a batch brings its keys. -/
theorem Issues.brings {before after : Store} (issues : Issues kind batch before after) :
    Brings kind (· ∈ batch.map (·.data)) before after := by
  rcases issues with ⟨start, final, report, issued, rfl, rfl⟩
  rcases exists_issueOutcome kind batch start with ⟨result, stopped, ending, ran⟩
  rw [issued, Prod.mk.injEq] at ran
  rcases ran with ⟨rfl, rfl⟩
  rcases ending.exists_merged with ⟨accepted, sifted, pendingKeys, _⟩
  have news : ∃ news : List Bytes, news.Nodup ∧
      (∀ key, key ∈ news ↔
        (key ∈ batch.map (·.data) ∧ Query.Eligible start.store kind key) ∧ key ≠ []) ∧
      Query.keysIn final.store kind.pendingVariable =
        news ++ Query.keysIn start.store kind.pendingVariable := by
    refine ⟨_, sifted.nodup.1.filter _, fun key => ?_, pendingKeys⟩
    rw [List.mem_filter, sifted.mem_accepted_iff, decide_eq_true_iff]
  rcases ending.kept_or_written with
    ⟨none, sameStore⟩ | ⟨some, found, list, listed, tag, readable, listing, tagging⟩
  · exact ⟨news, fun some => absurd some none, fun _ => congrArg₂ _ sameStore rfl,
      fun var _ _ => congrArg₂ _ sameStore rfl⟩
  · refine ⟨news, fun _ => ?_, fun none => absurd some none, fun var fromList fromTag => ?_⟩
    · have written := LawfulStore.read_written kind.isPlain_pendingVariable readable listing
      rw [VariableStore.contains, RequestKind.read_pending_of_tagged tagging, written]
      rfl
    · have written : (Change.write kind.pendingVariable list).apply start.store = .ok listed :=
        listing
      have tagged : (Change.write kind.tagVariable tag).apply listed = .ok final.store := tagging
      exact (fromTag rfl tagged).trans (fromList rfl written)

namespace Brings

variable {wanted alsoWanted : Bytes → Prop} {start before middle after one other : Store}

theorem keysIn_eq (brings : Brings kind wanted before after) (var : Variable)
    (plain : var.IsPlain) (notList : var ≠ kind.pendingVariable)
    (notTag : var ≠ kind.tagVariable) : Query.keysIn after var = Query.keysIn before var :=
  Query.keysIn_congr (brings.others var
    (LawfulStore.apart kind.isPlain_pendingVariable plain notList)
    (LawfulStore.apart kind.isPlain_tagVariable plain notTag))

/-- Keys that are brought after others have been are as good as brought together with them. -/
theorem trans (first : Brings kind wanted before middle)
    (second : Brings kind alsoWanted middle after) :
    Brings kind (fun key => wanted key ∨ alsoWanted key) before after := by
  rcases first.exists_news with ⟨earlier, earlierNodup, earlierMem, middleKeys⟩
  rcases second.exists_news with ⟨later, laterNodup, laterMem, afterKeys⟩
  have eligible_iff (key : Bytes) : Query.Eligible middle kind key ↔
      Query.Eligible before kind key ∧ key ∉ earlier :=
    Query.eligible_iff_of_prepended middleKeys first.keysIn_eq
  refine ⟨⟨later ++ earlier, ?_, fun key => ?_, ?_⟩, ?_, ?_, ?_⟩
  · refine laterNodup.append earlierNodup fun key inLater => ?_
    exact ((eligible_iff key).mp ((laterMem key).mp inLater).1.2).2
  · rw [List.mem_append, laterMem, eligible_iff, earlierMem]
    tauto
  · rw [afterKeys, middleKeys, List.append_assoc]
  · rintro ⟨key, isWanted, eligible⟩
    by_cases more : ∃ key, alsoWanted key ∧ Query.Eligible middle kind key
    · exact second.present more
    · rw [second.kept more]
      apply first.present
      rcases isWanted with inFirst | inSecond
      · exact ⟨key, inFirst, eligible⟩
      · have known : key ∈ earlier := by
          by_contra unknown
          exact more ⟨key, inSecond, (eligible_iff key).mpr ⟨eligible, unknown⟩⟩
        exact ⟨key, ((earlierMem key).mp known).1⟩
  · intro none
    have noneLater : ¬∃ key, alsoWanted key ∧ Query.Eligible middle kind key := by
      rintro ⟨key, isWanted, eligible⟩
      exact none ⟨key, .inr isWanted, ((eligible_iff key).mp eligible).1⟩
    have noneBefore : ¬∃ key, wanted key ∧ Query.Eligible before kind key := by
      rintro ⟨key, isWanted, eligible⟩
      exact none ⟨key, .inl isWanted, eligible⟩
    rw [second.kept noneLater, first.kept noneBefore]
  · intro var fromList fromTag
    rw [second.others var fromList fromTag, first.others var fromList fromTag]

omit [LawfulStore Store] in
/-- Stores to which the same keys were brought have the same staged. -/
theorem sameStaged (brings : Brings kind wanted start one)
    (bringsToo : Brings kind wanted start other) : SameStaged kind one other := by
  constructor
  · by_cases some : ∃ key, wanted key ∧ Query.Eligible start kind key
    · rw [brings.present some, bringsToo.present some]
    · rw [brings.kept some, bringsToo.kept some]
  · rcases brings.exists_news with ⟨news, nodup, mem, keys⟩
    rcases bringsToo.exists_news with ⟨otherNews, otherNodup, otherMem, otherKeys⟩
    rw [keys, otherKeys]
    refine ((List.perm_ext_iff_of_nodup nodup otherNodup).mpr fun key => ?_).append_right _
    rw [mem, otherMem]
  · intro var fromList fromTag
    rw [brings.others var fromList fromTag, bringsToo.others var fromList fromTag]

end Brings

/-- Where staging succeeds, it does not matter whether a batch is staged at once or in two parts one
after the other, nor in which order its candidates are. -/
theorem issue_split_or_permuted (kind : RequestKind) (start : Store) :
    (∀ (batch later : List Candidate) (whole middle split : Store),
        Issues kind (batch ++ later) start whole → Issues kind batch start middle →
          Issues kind later middle split → SameStaged kind whole split) ∧
      ∀ (batch permuted : List Candidate) (one other : Store), batch.Perm permuted →
        Issues kind batch start one → Issues kind permuted start other →
          SameStaged kind one other := by
  constructor
  · intro batch later whole middle split atOnce first second
    have brings := atOnce.brings
    simp only [List.map_append, List.mem_append] at brings
    exact brings.sameStaged (first.brings.trans second.brings)
  · intro batch permuted one other perm issues issuesToo
    have brings := issues.brings
    simp only [(perm.map _).mem_iff] at brings
    exact brings.sameStaged issuesToo.brings

/-- A key that was new in the mixed batch, and one that was not in it. -/
def laterBatch : List Candidate :=
  [⟨"again", [2]⟩, ⟨"late", [3]⟩]

/-- In front of the damaged list, the mixed batch and a later one are staged at once or one after
the other, and the mixed batch in its order or in reverse. -/
theorem issue_split_or_permuted_damaged :
    let whole := Attempt.outcome (issue .enroll (mixedBatch ++ laterBatch)) damaged
    let middle := Attempt.outcome (issue .enroll mixedBatch) damaged
    let newPassword : Answer := .line "new password"
    let split := Attempt.outcome (issue .enroll laterBatch)
      ⟨middle.2.store, [newPassword, newPassword, newPassword], []⟩
    let reversed := Attempt.outcome (issue .enroll mixedBatch.reverse) damaged
    (whole.1 = .ok ⟨["new", "empty", "late"], ["pending", "again", "again"], some 181⟩ ∧
        middle.1 = .ok ⟨["new", "empty"], ["pending", "again"], some 136⟩ ∧
        split.1 = .ok ⟨["late"], ["again"], some 181⟩ ∧
        reversed.1 = .ok ⟨["empty", "again"], ["new", "pending"], some 136⟩) ∧
      SameStaged .enroll whole.2.store split.2.store ∧
      SameStaged .enroll middle.2.store reversed.2.store := by
  intro whole middle newPassword split reversed
  have runs : whole.1 = .ok ⟨["new", "empty", "late"], ["pending", "again", "again"], some 181⟩ ∧
      middle.1 = .ok ⟨["new", "empty"], ["pending", "again"], some 136⟩ ∧
      split.1 = .ok ⟨["late"], ["again"], some 181⟩ ∧
      reversed.1 = .ok ⟨["empty", "again"], ["new", "pending"], some 136⟩ := by
    decide +kernel
  have first := issues_of_outcome runs.2.1
  refine ⟨runs, ?_, ?_⟩
  · exact (issue_split_or_permuted .enroll damaged.store).1 mixedBatch laterBatch _ _ _
      (issues_of_outcome runs.1) first (issues_of_outcome runs.2.2.1)
  · exact (issue_split_or_permuted .enroll damaged.store).2 mixedBatch mixedBatch.reverse _ _
      (List.reverse_perm _).symm first (issues_of_outcome runs.2.2.2)

end Staging

end OwnerKeys
