import OwnerKeys.Proofs.Request.Eligibility

/-!
# How far a lookup reads

Whether a key is eligible depends on a few lists, which are read in a fixed order. The reading stops
as soon as the lists that have been read leave no doubt about the answer, whatever the others hold;
and it does not stop before. A list that is missing, damaged or unreadable counts with the keys that
are found in it.
-/

namespace OwnerKeys

namespace Query

/-! ## The lists that settle the question -/

section Settling

/-- Whether a key may be part of a request if the lists hold the given keys. -/
def EligibleAmong (keys : Variable → List Bytes) (key : Bytes) : RequestKind → Prop
  | .enroll => ∀ var ∈ consulted .enroll, key ∉ keys var
  | .delete => key ∈ keys .enrolledKeys ∧ key ∉ keys .pendingDeletion

/-- What some lists hold settles whether a key is eligible, whatever the others hold. -/
def Settles (keys : Variable → List Bytes) (key : Bytes) (kind : RequestKind)
    (lists : List Variable) : Prop :=
  ∀ others : Variable → List Bytes, (∀ var ∈ lists, others var = keys var) →
    (EligibleAmong others key kind ↔ EligibleAmong keys key kind)

/-- The shortest front of the lists that settles whether a key is eligible. -/
structure ShortestSettling (keys : Variable → List Bytes) (key : Bytes) (kind : RequestKind)
    (front : List Variable) : Prop where
  is_front : front <+: consulted kind
  /-- The fronts that settle the question are this one and the longer ones. -/
  settles_iff : ∀ lists, lists <+: consulted kind →
    (Settles keys key kind lists ↔ front <+: lists)

variable {keys : Variable → List Bytes} {key : Bytes} {kind : RequestKind}
  {lists : List Variable}

theorem settles_of_consulted (all : ∀ var ∈ consulted kind, var ∈ lists) :
    Settles keys key kind lists := by
  intro others agree
  cases kind with
  | enroll =>
      refine forall₂_congr fun var trusted => ?_
      rw [agree var (all var trusted)]
  | delete =>
      unfold EligibleAmong
      rw [agree _ (all _ List.mem_cons_self), agree _ (all _ (by decide))]

/-- The question is open as long as it might be answered in either way. -/
theorem not_settles (yes no : Variable → List Bytes) (yesAgrees : ∀ var ∈ lists, yes var = keys var)
    (noAgrees : ∀ var ∈ lists, no var = keys var) (eligible : EligibleAmong yes key kind)
    (unfit : ¬EligibleAmong no key kind) : ¬Settles keys key kind lists :=
  fun settles => unfit ((settles no noAgrees).mpr ((settles yes yesAgrees).mp eligible))

theorem settles_enroll {var : Variable} (mem : var ∈ lists) (trusted : var ∈ consulted .enroll)
    (found : key ∈ keys var) : Settles keys key .enroll lists := by
  intro others agree
  have foundToo : key ∈ others var := by rwa [agree var mem]
  exact iff_of_false (fun eligible => eligible var trusted foundToo)
    fun eligible => eligible var trusted found

/-- Without it, no trusted list may be left out. -/
theorem not_settles_enroll {var : Variable} (missed : ∀ other ∈ lists, key ∉ keys other)
    (trusted : var ∈ consulted .enroll) (leftOut : var ∉ lists) :
    ¬Settles keys key .enroll lists := by
  -- The lists that are left out might all be empty, and they might all have the key.
  refine not_settles (fun other => if other ∈ lists then keys other else [])
    (fun other => if other ∈ lists then keys other else [key]) ?_ ?_ ?_ ?_
  · exact fun other mem => if_pos mem
  · exact fun other mem => if_pos mem
  · intro other _
    by_cases mem : other ∈ lists
    · simpa [mem] using missed other mem
    · simp [mem]
  · intro eligible
    exact eligible var trusted (by simp [leftOut])

theorem nodup_consulted (kind : RequestKind) : (consulted kind).Nodup := by
  cases kind <;> decide

/-- Trusted lists are read up to the first that has the key. -/
theorem shortestSettling_enroll {missed rest : List Variable}
    (split : consulted .enroll = missed ++ rest)
    (allMissed : ∀ var ∈ missed, key ∉ keys var) (found : ∀ var ∈ rest.head?, key ∈ keys var) :
    ShortestSettling keys key .enroll (missed ++ rest.take 1) := by
  have isFront : missed ++ rest.take 1 <+: consulted .enroll := by
    rw [split]
    exact (List.prefix_append_right_inj missed).mpr (List.take_prefix 1 rest)
  refine ⟨isFront, fun lists front => ⟨fun settles => ?_, fun longer => ?_⟩⟩
  · rcases List.prefix_or_prefix_of_prefix isFront front with longer | ⟨tail, same⟩
    · exact longer
    · cases tail with
      | nil => exact ⟨[], by rw [← same, List.append_nil, List.append_nil]⟩
      | cons var later =>
          -- A shorter front has only lists without the key, and there is one more to read.
          have trusted : var ∈ consulted .enroll := isFront.subset (by simp [← same])
          have leftOut : var ∉ lists := by
            have distinct := (nodup_consulted .enroll).sublist isFront.sublist
            rw [← same] at distinct
            exact fun mem => (List.nodup_append.mp distinct).2.2 var mem var List.mem_cons_self rfl
          have lengths := congrArg List.length same
          simp only [List.length_append, List.length_cons, List.length_take] at lengths
          have short : lists <+: missed :=
            List.prefix_of_prefix_length_le ⟨_, same⟩ (List.prefix_append _ _) (by omega)
          exact absurd settles (not_settles_enroll
            (fun other mem => allMissed other (short.subset mem)) trusted leftOut)
  · cases rest with
    | nil =>
        refine settles_of_consulted fun var trusted => longer.subset ?_
        rw [List.take_nil, ← split]
        exact trusted
    | cons var later =>
        refine settles_enroll (longer.subset (by simp)) ?_ (found var rfl)
        simp [split]

theorem front_delete_iff : lists <+: consulted .delete ↔
    lists = [] ∨ lists = [.enrolledKeys] ∨ lists = [.enrolledKeys, .pendingDeletion] := by
  simp only [consulted, List.prefix_cons_iff, List.prefix_nil]
  constructor
  · rintro (rfl | ⟨_, rfl, rfl | ⟨_, rfl, rfl⟩⟩) <;> simp
  · rintro (rfl | rfl | rfl) <;> simp

theorem not_settles_delete_nil : ¬Settles keys key .delete [] :=
  not_settles (fun var => if var = .enrolledKeys then [key] else []) (fun _ => []) (by simp)
    (by simp) ⟨List.mem_cons_self, List.not_mem_nil⟩ fun eligible => List.not_mem_nil eligible.1

theorem settles_delete (mem : .enrolledKeys ∈ lists) (missing : key ∉ keys .enrolledKeys) :
    Settles keys key .delete lists := by
  intro others agree
  have missingToo : key ∉ others .enrolledKeys := by rwa [agree _ mem]
  exact iff_of_false (fun eligible => missingToo eligible.1) fun eligible => missing eligible.1

/-- Where the key is not enrolled, the enrolled list is enough. -/
theorem shortestSettling_delete_of_not_mem (missing : key ∉ keys .enrolledKeys) :
    ShortestSettling keys key .delete [.enrolledKeys] := by
  refine ⟨front_delete_iff.mpr (.inr (.inl rfl)), fun lists front => ?_⟩
  rcases front_delete_iff.mp front with rfl | rfl | rfl
  · exact iff_of_false not_settles_delete_nil (by decide)
  · exact iff_of_true (settles_delete (by decide) missing) (by decide)
  · exact iff_of_true (settles_delete (by decide) missing) (by decide)

/-- Where the key is enrolled, it is also up to the list of pending deletions. -/
theorem shortestSettling_delete_of_mem (enrolled : key ∈ keys .enrolledKeys) :
    ShortestSettling keys key .delete [.enrolledKeys, .pendingDeletion] := by
  refine ⟨List.prefix_rfl, fun lists front => ?_⟩
  rcases front_delete_iff.mp front with rfl | rfl | rfl
  · exact iff_of_false not_settles_delete_nil (by decide)
  · refine iff_of_false ?_ (by decide)
    refine not_settles (fun var => if var = .enrolledKeys then keys var else [])
      (fun var => if var = .enrolledKeys then keys var else [key]) (by simp) (by simp) ?_ ?_
    · exact ⟨enrolled, List.not_mem_nil⟩
    · exact fun eligible => eligible.2 List.mem_cons_self
  · exact iff_of_true (settles_of_consulted fun _ mem => mem) (by decide)

end Settling

/-! ## The lists that are read -/

variable {Store : Type} [VariableStore Store]

theorem eligible_iff_among {store : Store} {kind : RequestKind} {key : Bytes} :
    Eligible store kind key ↔ EligibleAmong (keysIn store) key kind := by
  cases kind with
  | enroll => rfl
  | delete => rfl

theorem calls_readList (var : Variable) (machine : Machine Store) :
    (Action.outcome (readList var) machine).2.calls = machine.calls ++ [(.read, var)] := by
  simp only [readList, Action.outcome_bind, Action.outcome_readVariable]
  rcases VariableStore.read machine.store var with error | _ | value
  · simp [Machine.calls]
  · simp [Machine.calls]
  · simp [Machine.calls]

theorem calls_listContains (var : Variable) (key : Bytes) (machine : Machine Store) :
    (Action.outcome (listContains var key) machine).2.calls = machine.calls ++ [(.read, var)] :=
  calls_readList var machine

/-- Lists are read up to the first that has the key. -/
theorem exists_missed_anyListContains (key : Bytes) (lists : List Variable)
    (machine : Machine Store) :
    ∃ missed rest, lists = missed ++ rest ∧
      (∀ var ∈ missed, key ∉ keysIn machine.store var) ∧
      (∀ var ∈ rest.head?, key ∈ keysIn machine.store var) ∧
      (Action.outcome (anyListContains key lists) machine).2.calls =
        machine.calls ++ (missed ++ rest.take 1).map (.read, ·) := by
  induction lists generalizing machine with
  | nil => exact ⟨[], [], rfl, by simp, by simp, by simp [anyListContains]⟩
  | cons var later ih =>
      have looks := looks_listContains var key machine
      have calls := calls_listContains var key machine
      simp only [anyListContains, Action.outcome_bind]
      split
      · rename_i found
        refine ⟨[], var :: later, rfl, by simp, ?_, by simpa using calls⟩
        simpa using listContains_iff.mp found
      · rename_i missing
        rcases ih (Action.outcome (listContains var key) machine).2 with
          ⟨missed, rest, split, allMissed, found, ran⟩
        rw [looks.store_eq] at allMissed found
        refine ⟨var :: missed, rest, by rw [split, List.cons_append], ?_, found, ?_⟩
        · exact List.forall_mem_cons.mpr ⟨mt listContains_iff.mpr missing, allMissed⟩
        · rw [ran, calls]
          simp

/-- The lists that are read are the shortest front that settles whether the key is eligible. -/
theorem exists_read_isEligible (kind : RequestKind) (key : Bytes) (machine : Machine Store) :
    ∃ front, ShortestSettling (keysIn machine.store) key kind front ∧
      (Action.outcome (isEligible kind key) machine).2.calls =
        machine.calls ++ front.map (.read, ·) := by
  cases kind with
  | enroll =>
      rcases exists_missed_anyListContains key trustedLists machine with
        ⟨missed, rest, split, allMissed, found, calls⟩
      exact ⟨_, shortestSettling_enroll split allMissed found, calls⟩
  | delete =>
      have looks := looks_listContains .enrolledKeys key machine
      have calls := calls_listContains .enrolledKeys key machine
      simp only [isEligible, isEligibleForDeletion, Action.outcome_bind]
      split
      · rename_i found
        refine ⟨_, shortestSettling_delete_of_mem (listContains_iff.mp found), ?_⟩
        simp [calls_listContains, calls]
      · rename_i missing
        exact ⟨_, shortestSettling_delete_of_not_mem (mt listContains_iff.mpr missing),
          by simpa using calls⟩

/-- A key that is enrolled is not eligible for enrollment, and one that is not is not eligible for
deletion. -/
theorem not_eligible_for_both {store : Store} {key : Bytes} :
    ¬(Eligible store .enroll key ∧ Eligible store .delete key) :=
  fun ⟨enroll, delete⟩ => enroll .enrolledKeys (by decide) delete.1

end Query

end OwnerKeys
