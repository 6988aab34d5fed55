import Mathlib.Data.List.FinRange
import OwnerKeys.Proofs.Request.Eligibility

/-!
# The candidates that a batch brings in

Told by their places, the candidates of a batch that are accepted are those that are eligible and
have no candidate with the same key before them. That is what sifting comes to, although sifting
never looks at a place: it compares a candidate with the ones it has accepted, and a candidate that
was not accepted was not eligible either.
-/

namespace OwnerKeys

namespace Query

variable {Store : Type} [VariableStore Store]

instance (store : Store) (kind : RequestKind) : DecidablePred (Eligible store kind) :=
  match kind with
  | .enroll => fun key => inferInstanceAs (Decidable (∀ var ∈ trustedLists, key ∉ keysIn store var))
  | .delete => fun key => inferInstanceAs
      (Decidable (key ∈ keysIn store .enrolledKeys ∧ key ∉ keysIn store .pendingDeletion))

end Query

namespace Staging

/-- The candidates of a batch at the places that are chosen, in the order of the batch. -/
def placed (candidates : List Candidate) (chosen : Fin candidates.length → Prop)
    [DecidablePred chosen] : List Candidate :=
  ((List.finRange candidates.length).filter (chosen ·)).map candidates.get

/-- The candidate at a place of a batch is eligible, and is the first with its key. -/
def IsFresh (eligible : Bytes → Prop) (candidates : List Candidate)
    (place : Fin candidates.length) : Prop :=
  eligible (candidates.get place).data ∧
    ∀ earlier < place, (candidates.get earlier).data ≠ (candidates.get place).data

instance (eligible : Bytes → Prop) [DecidablePred eligible] (candidates : List Candidate) :
    DecidablePred (IsFresh eligible candidates) :=
  fun place => inferInstanceAs (Decidable (eligible (candidates.get place).data ∧
    ∀ earlier < place, (candidates.get earlier).data ≠ (candidates.get place).data))

/-- The candidates of a batch that are eligible and the first with their keys. -/
def fresh (eligible : Bytes → Prop) [DecidablePred eligible] (candidates : List Candidate) :
    List Candidate :=
  placed candidates (IsFresh eligible candidates)

/-- The other candidates of a batch. -/
def stale (eligible : Bytes → Prop) [DecidablePred eligible] (candidates : List Candidate) :
    List Candidate :=
  placed candidates (¬IsFresh eligible candidates ·)

theorem placed_cons (candidate : Candidate) (later : List Candidate)
    (chosen : Fin (candidate :: later).length → Prop) [DecidablePred chosen] :
    placed (candidate :: later) chosen =
      (if chosen 0 then [candidate] else []) ++ placed later fun place => chosen place.succ := by
  have places : List.finRange (candidate :: later).length =
      0 :: (List.finRange later.length).map Fin.succ := List.finRange_succ
  simp only [placed, places, List.filter_cons, List.filter_map, decide_eq_true_eq]
  split
  · simp [Function.comp_def]
  · simp [Function.comp_def]

section Recursion

variable {eligible : Bytes → Prop} {candidate : Candidate} {later : List Candidate}

theorem isFresh_zero :
    IsFresh eligible (candidate :: later) (0 : Fin (later.length + 1)) ↔
      eligible candidate.data := by
  simp [IsFresh]

/-- Behind the first candidate a candidate is fresh if it is fresh among those behind, where the key
of the first one is no longer eligible. -/
theorem isFresh_succ {place : Fin later.length} :
    IsFresh eligible (candidate :: later) place.succ ↔
      IsFresh (fun key => eligible key ∧ key ≠ candidate.data) later place := by
  simp only [IsFresh, List.length_cons, Fin.forall_fin_succ, Fin.succ_pos, Fin.succ_lt_succ_iff,
    List.get_cons_zero, true_implies, and_assoc]
  exact and_congr_right fun _ => and_congr_left fun _ => ne_comm

variable [DecidablePred eligible]

theorem fresh_cons (candidate : Candidate) (later : List Candidate) :
    fresh eligible (candidate :: later) =
      (if eligible candidate.data then [candidate] else []) ++
        fresh (fun key => eligible key ∧ key ≠ candidate.data) later := by
  simp only [fresh, placed_cons, isFresh_zero, isFresh_succ]

theorem stale_cons (candidate : Candidate) (later : List Candidate) :
    stale eligible (candidate :: later) =
      (if eligible candidate.data then [] else [candidate]) ++
        stale (fun key => eligible key ∧ key ≠ candidate.data) later := by
  simp only [stale, placed_cons, isFresh_zero, isFresh_succ, ite_not]

/-- The keys of the fresh candidates are the eligible ones, each where it occurs first. -/
theorem map_data_fresh (candidates : List Candidate) :
    (fresh eligible candidates).map (·.data) =
      ((candidates.map (·.data)).filter (eligible ·)).eraseDups := by
  induction candidates generalizing eligible with
  | nil => rfl
  | cons candidate later ih =>
      have others : (later.map (·.data)).filter (fun key => eligible key ∧ key ≠ candidate.data) =
          ((later.map (·.data)).filter (eligible ·)).filter fun key => !key == candidate.data := by
        rw [List.filter_filter]
        apply List.filter_congr
        intro key _
        by_cases same : key = candidate.data
        · simp [same]
        · simp [same]
      rw [fresh_cons, List.map_append, ih, others, List.map_cons, List.filter_cons]
      by_cases fits : eligible candidate.data
      · simp [fits, List.eraseDups_cons]
      · have unfit : ((later.map (·.data)).filter (eligible ·)).filter
            (fun key => !key == candidate.data) = (later.map (·.data)).filter (eligible ·) := by
          rw [List.filter_eq_self]
          intro key mem
          have isEligible := (List.mem_filter.mp mem).2
          simp only [decide_eq_true_eq] at isEligible
          simp only [Bool.not_eq_true', beq_eq_false_iff_ne]
          rintro rfl
          exact fits isEligible
        simp [fits, unfit]

end Recursion

/-- Sifting accepts the fresh candidates and skips the others, where known keys are not eligible. -/
theorem Sifted.eq_fresh_stale {eligible : Bytes → Prop} [DecidablePred eligible]
    {known : List Bytes} {candidates accepted : List Candidate} {skipped : List String}
    (sifted : Sifted eligible known candidates accepted skipped) :
    accepted = fresh (fun key => eligible key ∧ key ∉ known) candidates ∧
      skipped = (stale (fun key => eligible key ∧ key ∉ known) candidates).map (·.name) := by
  induction sifted with
  | done => exact ⟨rfl, rfl⟩
  | @accept known candidate later accepted skipped fits unknown _ ih =>
      have same (key : Bytes) : (eligible key ∧ key ∉ known ++ [candidate.data]) ↔
          (eligible key ∧ key ∉ known) ∧ key ≠ candidate.data := by
        simp [and_assoc]
      simp only [same] at ih
      rw [fresh_cons, stale_cons, if_pos ⟨fits, unknown⟩, if_pos ⟨fits, unknown⟩, ← ih.1]
      exact ⟨rfl, ih.2⟩
  | @skip known candidate later accepted skipped unfit _ ih =>
      have refused : ¬(eligible candidate.data ∧ candidate.data ∉ known) := by
        rintro ⟨fits, unknown⟩
        exact unfit.elim unknown (absurd fits)
      -- A key that is not accepted need not be remembered: it is as unfit as before.
      have same (key : Bytes) : (eligible key ∧ key ∉ known) ∧ key ≠ candidate.data ↔
          eligible key ∧ key ∉ known := by
        constructor
        · exact And.left
        · intro fits
          refine ⟨fits, ?_⟩
          rintro rfl
          exact refused fits
      rw [fresh_cons, stale_cons, if_neg refused, if_neg refused]
      simp only [same]
      rw [List.map_append, ← ih.2]
      exact ⟨ih.1, rfl⟩

end Staging

end OwnerKeys
