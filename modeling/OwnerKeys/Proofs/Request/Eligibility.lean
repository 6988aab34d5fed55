import OwnerKeys.Proofs.Request.Query
import OwnerKeys.Proofs.Request.Staging
import OwnerKeys.Proofs.SignatureList.Entries

/-!
# Which candidates are accepted

The keys in a variable are those that decoding finds in its list; a list that does not exist, or
that cannot be read, has none. Whether a candidate is eligible depends on these keys alone. The
candidates of a batch are accepted in their order, save those that are not eligible and those whose
key was accepted before.
-/

namespace OwnerKeys

namespace Query

variable {Store : Type} [VariableStore Store]

/-- The key list in a variable. -/
def listIn (store : Store) (var : Variable) : Bytes :=
  match VariableStore.read store var with
  | .ok (some value) => value.data
  | _ => []

/-- The keys in a variable. -/
def keysIn (store : Store) (var : Variable) : List Bytes :=
  (SignatureList.decode (listIn store var)).payloads

/-- Whether a key may be part of a request: it may be enrolled if it is in none of the trusted
lists, and deleted if it is enrolled and its deletion is not pending. -/
def Eligible (store : Store) (kind : RequestKind) (key : Bytes) : Prop :=
  match kind with
  | .enroll => ∀ var ∈ trustedLists, key ∉ keysIn store var
  | .delete => key ∈ keysIn store .enrolledKeys ∧ key ∉ keysIn store .pendingDeletion

theorem listIn_congr {Other : Type} [VariableStore Other] {store : Store} {other : Other}
    {var : Variable} (same : VariableStore.read store var = VariableStore.read other var) :
    listIn store var = listIn other var := by
  simp only [listIn, same]

theorem keysIn_congr {Other : Type} [VariableStore Other] {store : Store} {other : Other}
    {var : Variable} (same : VariableStore.read store var = VariableStore.read other var) :
    keysIn store var = keysIn other var := by
  rw [keysIn, keysIn, listIn_congr same]

theorem outcome_readList (var : Variable) (machine : Machine Store) :
    (Action.outcome (readList var) machine).1 = listIn machine.store var := by
  simp only [readList, listIn, Action.outcome_bind, Action.outcome_readVariable]
  cases VariableStore.read machine.store var with
  | error error => rfl
  | ok found =>
      cases found with
      | none => rfl
      | some value => rfl

theorem listContains_iff {var : Variable} {key : Bytes} {machine : Machine Store} :
    (Action.outcome (listContains var key) machine).1 = true ↔ key ∈ keysIn machine.store var := by
  simp only [listContains, Action.outcome_bind, Action.outcome_pure, outcome_readList, keysIn,
    SignatureList.Decoded.contains, SignatureList.Decoded.payloads, List.any_eq_true, beq_iff_eq,
    List.mem_map]

theorem anyListContains_iff {key : Bytes} {lists : List Variable} {machine : Machine Store} :
    (Action.outcome (anyListContains key lists) machine).1 = true ↔
      ∃ var ∈ lists, key ∈ keysIn machine.store var := by
  induction lists generalizing machine with
  | nil => simp [anyListContains]
  | cons var later ih =>
      have looks := looks_listContains var key machine
      simp only [anyListContains, Action.outcome_bind, List.mem_cons, exists_eq_or_imp,
        ← listContains_iff]
      split
      · rename_i found
        simp [found]
      · rename_i missing
        rw [ih, looks.store_eq]
        simp [missing, listContains_iff]

/-- What the program finds out is whether the key is eligible. -/
theorem isEligible_iff {kind : RequestKind} {key : Bytes} {machine : Machine Store} :
    (Action.outcome (isEligible kind key) machine).1 = true ↔ Eligible machine.store kind key := by
  cases kind with
  | enroll =>
      simp only [isEligible, isEligibleForEnrollment, isEnrolled, Action.outcome_bind,
        Action.outcome_pure, Bool.not_eq_true', ← Bool.not_eq_true, anyListContains_iff, Eligible]
      constructor
      · intro nowhere var mem found
        exact nowhere ⟨var, mem, found⟩
      · rintro nowhere ⟨var, mem, found⟩
        exact nowhere var mem found
  | delete =>
      have looks := looks_listContains .enrolledKeys key machine
      simp only [isEligible, isEligibleForDeletion, Action.outcome_bind, Eligible,
        ← listContains_iff]
      split
      · rename_i found
        simp [found, ← Bool.not_eq_true, listContains_iff, looks.store_eq]
      · rename_i missing
        simp [missing]

/-- Decoding finds no key without bytes, so none is enrolled. -/
theorem eligible_enroll_nil (store : Store) : Eligible store .enroll [] :=
  fun _ _ found => SignatureList.payload_ne_nil found rfl

theorem Eligible.ne_nil_of_delete {store : Store} {key : Bytes}
    (eligible : Eligible store .delete key) : key ≠ [] :=
  SignatureList.payload_ne_nil eligible.1

end Query

namespace Staging

/-- The candidates of a batch, told apart one after another, where some keys are known from before:
a candidate is accepted if it is eligible and its key is not known, and skipped otherwise. Its key
is known from then on. Beside the candidates stand those that are accepted and the names of the
others. -/
inductive Sifted (eligible : Bytes → Prop) :
    List Bytes → List Candidate → List Candidate → List String → Prop where
  /-- There are no candidates left. -/
  | done {known : List Bytes} : Sifted eligible known [] [] []
  /-- A candidate is accepted. -/
  | accept {known : List Bytes} {candidate : Candidate} {later accepted : List Candidate}
      {skipped : List String} (fits : eligible candidate.data) (unknown : candidate.data ∉ known)
      (rest : Sifted eligible (known ++ [candidate.data]) later accepted skipped) :
      Sifted eligible known (candidate :: later) (candidate :: accepted) skipped
  /-- A candidate is skipped. -/
  | skip {known : List Bytes} {candidate : Candidate} {later accepted : List Candidate}
      {skipped : List String} (unfit : candidate.data ∈ known ∨ ¬eligible candidate.data)
      (rest : Sifted eligible known later accepted skipped) :
      Sifted eligible known (candidate :: later) accepted (candidate.name :: skipped)

namespace Sifted

variable {eligible : Bytes → Prop} {known : List Bytes} {candidates accepted : List Candidate}
  {skipped : List String}

/-- The key of every eligible candidate is accepted, unless it was known from before. -/
theorem mem_of_eligible (sifted : Sifted eligible known candidates accepted skipped)
    {candidate : Candidate} (mem : candidate ∈ candidates) (fits : eligible candidate.data) :
    candidate.data ∈ known ∨ candidate.data ∈ accepted.map (·.data) := by
  induction sifted with
  | done => simp at mem
  | @accept known first later accepted skipped _ _ _ ih =>
      rcases List.mem_cons.mp mem with rfl | inLater
      · simp
      · rcases ih inLater with inKnown | inAccepted
        · rcases List.mem_append.mp inKnown with before | isFirst
          · exact .inl before
          · right
            rw [List.mem_singleton.mp isFirst]
            simp
        · exact .inr (List.mem_cons_of_mem _ inAccepted)
  | skip unfit _ ih =>
      rcases List.mem_cons.mp mem with rfl | inLater
      · exact .inl (unfit.resolve_right (not_not_intro fits))
      · exact ih inLater

/-- Accepted candidates are from the batch, and eligible. -/
theorem mem_and_eligible (sifted : Sifted eligible known candidates accepted skipped)
    {candidate : Candidate} (mem : candidate ∈ accepted) :
    candidate ∈ candidates ∧ eligible candidate.data := by
  induction sifted with
  | done => simp at mem
  | accept fits _ _ ih =>
      rcases List.mem_cons.mp mem with rfl | inLater
      · exact ⟨List.mem_cons_self, fits⟩
      · exact ⟨List.mem_cons_of_mem _ (ih inLater).1, (ih inLater).2⟩
  | skip _ _ ih => exact ⟨List.mem_cons_of_mem _ (ih mem).1, (ih mem).2⟩

/-- No key is accepted twice, or when it was known from before. -/
theorem nodup (sifted : Sifted eligible known candidates accepted skipped) :
    (accepted.map (·.data)).Nodup ∧ ∀ key ∈ accepted.map (·.data), key ∉ known := by
  induction sifted with
  | done => simp
  | @accept known candidate later accepted skipped _ unknown _ ih =>
      rcases ih with ⟨distinct, news⟩
      rw [List.map_cons]
      constructor
      · refine List.nodup_cons.mpr ⟨fun repeated => ?_, distinct⟩
        exact news _ repeated (List.mem_append_right _ (List.mem_singleton_self _))
      · intro key mem
        rcases List.mem_cons.mp mem with rfl | inLater
        · exact unknown
        · exact fun before => news key inLater (List.mem_append_left _ before)
  | skip _ _ ih => exact ih

/-- Where nothing is accepted, all candidates are skipped. -/
theorem skipped_eq (sifted : Sifted eligible known candidates [] skipped) :
    skipped = candidates.map (·.name) := by
  generalize none : ([] : List Candidate) = accepted at sifted
  induction sifted with
  | done => rfl
  | accept => cases none
  | skip _ _ ih => rw [ih none, List.map_cons]

/-- Something is accepted if and only if something is eligible. -/
theorem accepted_ne_nil_iff (sifted : Sifted eligible [] candidates accepted skipped) :
    accepted ≠ [] ↔ ∃ candidate ∈ candidates, eligible candidate.data := by
  constructor
  · intro notNil
    rcases List.exists_mem_of_ne_nil accepted notNil with ⟨candidate, mem⟩
    exact ⟨candidate, sifted.mem_and_eligible mem⟩
  · rintro ⟨candidate, mem, fits⟩ rfl
    simpa using sifted.mem_of_eligible mem fits

end Sifted

variable {Store : Type} [VariableStore Store]

/-- Whether the first candidate of a batch is a certificate affects nothing but the notices. -/
theorem outcome_assess_cons (kind : RequestKind) (accepted : List Candidate)
    (skipped : List String) (candidate : Candidate) (later : List Candidate)
    (before : Machine Store) :
    ∃ warned : Machine Store, warned.store = before.store ∧
      Action.outcome (assess kind accepted skipped (candidate :: later)) before =
        Action.outcome (if accepted.any (·.data == candidate.data) then
            assess kind accepted (skipped ++ [candidate.name]) later
          else do
            if ← Query.isEligible kind candidate.data then
              assess kind (accepted ++ [candidate]) skipped later
            else
              assess kind accepted (skipped ++ [candidate.name]) later) warned := by
  rw [assess]
  by_cases doubtful : (!Certificate.isValid candidate.data) = true
  · rw [if_pos doubtful]
    exact ⟨before.advance before.store [.noted (.notCertificate candidate.name)], rfl, rfl⟩
  · rw [if_neg doubtful]
    exact ⟨before, rfl, rfl⟩

/-- The first candidate of a batch is skipped or accepted, and then the others are told apart on the
same store. -/
theorem assess_step (kind : RequestKind) (accepted : List Candidate) (skipped : List String)
    (candidate : Candidate) (later : List Candidate) (before : Machine Store) :
    ∃ looked, looked.store = before.store ∧
      ((candidate.data ∈ accepted.map (·.data) ∨
          ¬Query.Eligible before.store kind candidate.data) ∧
        Action.outcome (assess kind accepted skipped (candidate :: later)) before =
          Action.outcome (assess kind accepted (skipped ++ [candidate.name]) later) looked ∨
      (candidate.data ∉ accepted.map (·.data) ∧
          Query.Eligible before.store kind candidate.data) ∧
        Action.outcome (assess kind accepted skipped (candidate :: later)) before =
          Action.outcome (assess kind (accepted ++ [candidate]) skipped later) looked) := by
  rcases outcome_assess_cons kind accepted skipped candidate later before with
    ⟨warned, sameStore, ran⟩
  have looks := Query.looks_isEligible kind candidate.data warned
  rw [ran]
  split
  · rename_i repeated
    exact ⟨warned, sameStore, .inl ⟨.inl (by simpa using repeated), rfl⟩⟩
  · rename_i unknown
    refine ⟨_, looks.store_eq.trans sameStore, ?_⟩
    rw [← sameStore, Action.outcome_bind, ← Query.isEligible_iff]
    split
    · rename_i fits
      exact .inr ⟨⟨by simpa using unknown, fits⟩, rfl⟩
    · rename_i unfit
      exact .inl ⟨.inr unfit, rfl⟩

/-- A batch is sifted by what is eligible on the store. -/
theorem sifted_assess (kind : RequestKind) (accepted : List Candidate) (skipped : List String)
    (candidates : List Candidate) (before : Machine Store) :
    ∃ fresh others,
      (Action.outcome (assess kind accepted skipped candidates) before).1 =
        (accepted ++ fresh, skipped ++ others) ∧
      Sifted (Query.Eligible before.store kind) (accepted.map (·.data)) candidates fresh
        others := by
  induction candidates generalizing accepted skipped before with
  | nil => exact ⟨[], [], by simp [assess], .done⟩
  | cons candidate later ih =>
      rcases assess_step kind accepted skipped candidate later before with
        ⟨looked, sameStore, ⟨unfit, step⟩ | ⟨⟨unknown, fits⟩, step⟩⟩
      · rcases ih accepted (skipped ++ [candidate.name]) looked with
          ⟨fresh, others, result, sifted⟩
        rw [sameStore] at sifted
        exact ⟨fresh, candidate.name :: others, by simp [step, result], .skip unfit sifted⟩
      · rcases ih (accepted ++ [candidate]) skipped looked with ⟨fresh, others, result, sifted⟩
        rw [sameStore, List.map_append] at sifted
        exact ⟨candidate :: fresh, others, by simp [step, result], .accept fits unknown sifted⟩

theorem sifted_of_assess {kind : RequestKind} {candidates accepted : List Candidate}
    {skipped : List String} {before looked : Machine Store}
    (assessing : Action.outcome (assess kind [] [] candidates) before =
      ((accepted, skipped), looked)) :
    Sifted (Query.Eligible before.store kind) [] candidates accepted skipped := by
  rcases sifted_assess kind [] [] candidates before with ⟨fresh, others, result, sifted⟩
  rw [assessing] at result
  cases result
  exact sifted

end Staging

end OwnerKeys
