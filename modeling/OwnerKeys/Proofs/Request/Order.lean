import Mathlib.Logic.Relation
import OwnerKeys.Proofs.Request.Merging

/-!
# Pending lists in order

A pending list is in order if no key occurs in it twice, every key in it has a reason to be there,
and the list can be decoded to its end. An operation changes the store in steps, each of which is a
single call. Every list that is stored is put together from a list in order and from keys that are
eligible, so each step keeps the pending lists of both kinds in order.
-/

namespace OwnerKeys

namespace Query

/-- The lists through which keys are trusted already. -/
def settledLists : List Variable :=
  [.platformKey, .keyExchangeKeys, .signatureDatabase, .enrolledKeys]

/-- Whether there is a reason for a request about a key: to enroll it, if no list trusts it, or to
delete it, if it is enrolled. -/
def Admissible {Store : Type} [VariableStore Store] (store : Store) (kind : RequestKind)
    (key : Bytes) : Prop :=
  match kind with
  | .enroll => ∀ var ∈ settledLists, key ∉ keysIn store var
  | .delete => key ∈ keysIn store .enrolledKeys

variable {Store Other : Type} [VariableStore Store] [VariableStore Other] {store : Store}
  {other : Other} {kind : RequestKind} {key : Bytes}

/-- A key is eligible if there is a reason for the request and it is not requested yet. -/
theorem eligible_iff_admissible :
    Eligible store kind key ↔
      Admissible store kind key ∧ key ∉ keysIn store kind.pendingVariable := by
  cases kind with
  | enroll =>
      have split : trustedLists = settledLists ++ [.pendingEnrollment] := rfl
      simp only [Eligible, Admissible, RequestKind.pendingVariable, split, List.forall_mem_append,
        List.forall_mem_singleton]
  | delete => rfl

theorem Admissible.congr (admissible : Admissible store kind key)
    (same : ∀ var ∈ settledLists, VariableStore.read store var = VariableStore.read other var) :
    Admissible other kind key := by
  cases kind with
  | enroll =>
      intro var mem
      rw [← keysIn_congr (same var mem)]
      exact admissible var mem
  | delete =>
      have enrolled : .enrolledKeys ∈ settledLists := by simp [settledLists]
      change key ∈ keysIn other .enrolledKeys
      rw [← keysIn_congr (same _ enrolled)]
      exact admissible

end Query

namespace RequestKind

/-- The lists of trusted keys are neither pending lists nor tags. -/
theorem settled_ne {var : Variable} (settled : var ∈ Query.settledLists) (kind : RequestKind) :
    var.IsPlain ∧ var ≠ kind.pendingVariable ∧ var ≠ kind.tagVariable := by
  revert var
  cases kind <;> decide

end RequestKind

namespace Staging

section

variable {Store Other : Type} [VariableStore Store] [VariableStore Other]

/-- A list that may be stored as the pending list. -/
structure Sound (kind : RequestKind) (store : Store) (list : Bytes) : Prop where
  nodup : (SignatureList.decode list).payloads.Nodup
  admissible : ∀ key ∈ (SignatureList.decode list).payloads, Query.Admissible store kind key
  wellFormed : (SignatureList.decode list).malformed = none

/-- The pending list can be read, and it is one that may be stored. -/
structure InOrder (store : Store) (kind : RequestKind) : Prop where
  readable : ∃ found, VariableStore.read store kind.pendingVariable = .ok found
  sound : Sound kind store (Query.listIn store kind.pendingVariable)

/-- A single call that changes something about the requests of a kind. -/
inductive Step (kind : RequestKind) (before : Store) : Store → Prop where
  | listed {bytes : Bytes} {after : Store} (sound : Sound kind before bytes)
      (written : VariableStore.write before kind.pendingVariable ⟨.standard, bytes⟩ = .ok after) :
      Step kind before after
  | unlisted {was : Bool} {after : Store}
      (deleted : VariableStore.delete before kind.pendingVariable = .ok (was, after)) :
      Step kind before after
  | tagged {tag : Value} {after : Store}
      (written : VariableStore.write before kind.tagVariable tag = .ok after) :
      Step kind before after
  | untagged {was : Bool} {after : Store}
      (deleted : VariableStore.delete before kind.tagVariable = .ok (was, after)) :
      Step kind before after

/-- Several such calls. -/
abbrev Steps (kind : RequestKind) : Store → Store → Prop :=
  Relation.ReflTransGen (Step kind)

variable {kind : RequestKind} {store : Store} {other : Other}

theorem sound_nil (kind : RequestKind) (store : Store) : Sound kind store [] := by
  constructor
  · rw [SignatureList.decode_nil]
    exact List.nodup_nil
  · rw [SignatureList.decode_nil]
    simp [SignatureList.Decoded.payloads]
  · rw [SignatureList.decode_nil]

theorem Sound.congr {list : Bytes} (sound : Sound kind store list)
    (same : ∀ var ∈ Query.settledLists,
      VariableStore.read store var = VariableStore.read other var) : Sound kind other list :=
  ⟨sound.nodup, fun key mem => (sound.admissible key mem).congr same, sound.wellFormed⟩

theorem InOrder.congr (inOrder : InOrder store kind)
    (sameList : VariableStore.read store kind.pendingVariable =
      VariableStore.read other kind.pendingVariable)
    (same : ∀ var ∈ Query.settledLists,
      VariableStore.read store var = VariableStore.read other var) : InOrder other kind := by
  constructor
  · rw [← sameList]
    exact inOrder.readable
  · rw [← Query.listIn_congr sameList]
    exact inOrder.sound.congr same

/-- A list that does not exist is in order. -/
theorem inOrder_of_absent (absent : VariableStore.read store kind.pendingVariable = .ok none) :
    InOrder store kind := by
  refine ⟨⟨none, absent⟩, ?_⟩
  simp only [Query.listIn, absent]
  exact sound_nil kind store

/-- Accepted keys in front of a pending list that is in order make a list that may be stored. -/
theorem sound_merged (inOrder : InOrder store kind) {candidates accepted : List Candidate}
    {skipped : List String} {found : Option Value} {list : Bytes}
    (sifted : Sifted (Query.Eligible store kind) [] candidates accepted skipped)
    (readable : VariableStore.read store kind.pendingVariable = .ok found)
    (merging : mergedList accepted (found.map (·.data)) = .ok list) : Sound kind store list := by
  have prior : (found.map (·.data)).getD [] = Query.listIn store kind.pendingVariable := by
    cases found with
    | none => simp [Query.listIn, readable]
    | some value => simp [Query.listIn, readable]
  have keys := payloads_mergedList merging
  rw [prior] at keys
  have eligible : ∀ key ∈ (accepted.map (·.data)).filter (· ≠ []),
      Query.Eligible store kind key := by
    intro key mem
    rcases List.mem_map.mp (List.mem_filter.mp mem).1 with ⟨candidate, inAccepted, rfl⟩
    exact (sifted.mem_and_eligible inAccepted).2
  constructor
  · rw [keys]
    refine List.nodup_append.mpr ⟨sifted.nodup.1.filter _, inOrder.sound.nodup, ?_⟩
    rintro key isNew _ isPending rfl
    exact (Query.eligible_iff_admissible.mp (eligible key isNew)).2 isPending
  · intro key mem
    rw [keys] at mem
    rcases List.mem_append.mp mem with isNew | isPending
    · exact (Query.eligible_iff_admissible.mp (eligible key isNew)).1
    · exact inOrder.sound.admissible key isPending
  · rcases mergedList_eq_ok_iff.mp merging with ⟨records, written, rfl⟩
    rw [prior, (SignatureList.decode_encode_append written _).2]
    exact inOrder.sound.wellFormed

end

section Preservation

variable {Store : Type} [VariableStore Store] [LawfulStore Store] {kind : RequestKind}
  {before after : Store}

/-- A step leaves the variables of other purposes alone. -/
theorem Step.read_eq (step : Step kind before after) {var : Variable} (plain : var.IsPlain)
    (notList : var ≠ kind.pendingVariable) (notTag : var ≠ kind.tagVariable) :
    VariableStore.read after var = VariableStore.read before var := by
  cases step with
  | listed _ written =>
      exact LawfulStore.read_other_written kind.isPlain_pendingVariable plain notList written
  | unlisted deleted =>
      exact LawfulStore.read_other_deleted kind.isPlain_pendingVariable plain notList deleted
  | tagged written =>
      exact LawfulStore.read_other_written kind.isPlain_tagVariable plain notTag written
  | untagged deleted =>
      exact LawfulStore.read_other_deleted kind.isPlain_tagVariable plain notTag deleted

theorem Step.read_settled (step : Step kind before after) {var : Variable}
    (settled : var ∈ Query.settledLists) :
    VariableStore.read after var = VariableStore.read before var := by
  rcases RequestKind.settled_ne settled kind with ⟨plain, notList, notTag⟩
  exact step.read_eq plain notList notTag

/-- A step keeps the pending list in order that it is about. -/
theorem Step.inOrder_own (step : Step kind before after) (inOrder : InOrder before kind) :
    InOrder after kind := by
  have settled : ∀ var ∈ Query.settledLists,
      VariableStore.read before var = VariableStore.read after var :=
    fun var mem => (step.read_settled mem).symm
  rcases inOrder.readable with ⟨found, readable⟩
  cases step with
  | listed sound written =>
      have stored := LawfulStore.read_written kind.isPlain_pendingVariable readable written
      refine ⟨⟨_, stored⟩, ?_⟩
      simp only [Query.listIn, stored]
      exact sound.congr settled
  | unlisted deleted =>
      exact inOrder_of_absent
        (LawfulStore.read_deleted kind.isPlain_pendingVariable readable deleted)
  | tagged written =>
      exact inOrder.congr (RequestKind.read_pending_of_tagged written).symm settled
  | untagged deleted =>
      exact inOrder.congr (RequestKind.read_pending_of_untagged deleted).symm settled

/-- A step keeps both pending lists in order. -/
theorem Step.inOrder (step : Step kind before after) (inOrder : ∀ other, InOrder before other)
    (other : RequestKind) : InOrder after other := by
  by_cases own : other = kind
  · rw [own]
    exact step.inOrder_own (inOrder kind)
  · have kept := step.read_eq other.isPlain_pendingVariable (by simpa using own) (by simp)
    exact (inOrder other).congr kept.symm fun var mem => (step.read_settled mem).symm

end Preservation

end Staging

end OwnerKeys
