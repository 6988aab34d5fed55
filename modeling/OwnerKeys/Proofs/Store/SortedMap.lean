import Mathlib.Data.List.Nodup
import OwnerKeys.SortedMap

/-!
# Sorted maps are told by what is found in them

A sorted map has one way to hold what it holds, so two maps with the same value at every key are
equal. In particular it does not matter in which order different keys are inserted and erased.
-/

namespace OwnerKeys.SortedMap

universe u v

variable {Key : Type u} {Value : Type v} [LT Key] [LinearKey Key] [DecidableEq Key]

theorem mem_iff_lookup {entries : List (Key × Value)} (sorted : entries.Pairwise (·.1 < ·.1))
    {key : Key} {value : Value} :
    (key, value) ∈ entries ↔ entries.lookup key = some value := by
  induction entries with
  | nil => simp
  | cons entry later ih =>
      rcases List.pairwise_cons.mp sorted with ⟨below, laterSorted⟩
      rw [List.mem_cons, lookup_entry_cons, ih laterSorted]
      by_cases found : key = entry.1
      · subst found
        -- The first key is below the others, so it is not found once more behind the first entry.
        have once : later.lookup entry.1 ≠ some value := by
          rw [Ne, ← ih laterSorted]
          exact fun again => LinearKey.irrefl _ (below (entry.1, value) again)
        rw [if_pos rfl, Option.some.injEq]
        constructor
        · rintro (isFirst | again)
          · exact congrArg Prod.snd isFirst.symm
          · exact absurd again once
        · rintro rfl
          exact .inl rfl
      · rw [if_neg found]
        constructor
        · rintro (isFirst | inLater)
          · exact absurd (congrArg Prod.fst isFirst) found
          · exact inLater
        · exact .inr

/-- Maps in which the same is found are equal. -/
theorem ext_get? {left right : SortedMap Key Value}
    (same : ∀ key, left.get? key = right.get? key) : left = right := by
  have ascending : Std.Irrefl fun (one other : Key × Value) => one.1 < other.1 :=
    ⟨fun entry => LinearKey.irrefl entry.1⟩
  have perm : left.entries.Perm right.entries := by
    refine (List.perm_ext_iff_of_nodup left.sorted.nodup right.sorted.nodup).mpr ?_
    rintro ⟨key, value⟩
    rw [mem_iff_lookup left.sorted, mem_iff_lookup right.sorted]
    exact Eq.congr (same key) rfl
  apply ext
  refine List.Perm.eq_of_pairwise ?_ left.sorted right.sorted perm
  intro one other _ _ below above
  exact absurd (LinearKey.trans below above) (LinearKey.irrefl _)

variable [DecidableLT Key] (map : SortedMap Key Value) {key other : Key} (different : key ≠ other)

include different

theorem insert_comm (value otherValue : Value) :
    (map.insert key value).insert other otherValue =
      (map.insert other otherValue).insert key value := by
  apply ext_get?
  intro asked
  simp only [get?_insert]
  by_cases isKey : asked = key
  · simp [isKey, different]
  · simp [isKey]

theorem erase_insert_comm (value : Value) :
    (map.erase key).insert other value = (map.insert other value).erase key := by
  apply ext_get?
  intro asked
  simp only [get?_insert, get?_erase]
  by_cases isKey : asked = key
  · simp [isKey, different]
  · simp [isKey]

omit [DecidableLT Key] different in
theorem erase_comm (key other : Key) :
    (map.erase key).erase other = (map.erase other).erase key := by
  apply ext_get?
  intro asked
  simp only [get?_erase]
  by_cases isKey : asked = key
  · simp [isKey]
  · simp [isKey]

end OwnerKeys.SortedMap
