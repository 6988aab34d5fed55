/-!
# Sorted finite maps

A finite map is kept as a list of its entries in strictly increasing order of their keys, so every
key occurs once and two maps with the same entries are equal. `insert` and `erase` keep the order.
-/

namespace OwnerKeys

universe u v

/-- An order under which any two different keys are comparable. -/
class LinearKey (Key : Type u) [LT Key] : Prop where
  /-- No key is below itself. -/
  irrefl : ∀ key : Key, ¬key < key
  /-- The order can be chained. -/
  trans : ∀ {first second third : Key}, first < second → second < third → first < third
  /-- Of two different keys, one is below the other. -/
  connected : ∀ {left right : Key}, left ≠ right → ¬left < right → right < left

/-- Lists are ordered by the first place in which they differ. -/
instance {Item : Type u} [LT Item] [Std.Irrefl (α := Item) (· < ·)]
    [Trans (α := Item) (· < ·) (· < ·) (· < ·)]
    [Std.Trichotomous (α := Item) (· < ·)] : LinearKey (List Item) where
  irrefl := List.lt_irrefl
  trans := List.lt_trans
  connected := fun {left right} different notBelow => by
    by_cases above : right < left
    · exact above
    · exact absurd
        (List.le_antisymm (List.not_lt.mp above) (List.not_lt.mp notBelow)) different

/-- The entries of a finite map, in strictly increasing order of the keys. -/
structure SortedMap (Key : Type u) (Value : Type v) [LT Key] where
  /-- The entries, sorted by key. -/
  entries : List (Key × Value)
  /-- Every entry's key is below the keys of all later entries. -/
  sorted : entries.Pairwise (·.1 < ·.1) := by exact List.Pairwise.nil

namespace SortedMap

variable {Key : Type u} {Value : Type v} [LT Key]

/-- The map without entries. -/
def empty : SortedMap Key Value where
  entries := []

instance : Inhabited (SortedMap Key Value) := ⟨empty⟩

@[ext]
theorem ext {left right : SortedMap Key Value} (same : left.entries = right.entries) :
    left = right := by
  cases left
  cases right
  cases same
  rfl

section Lookup

variable [DecidableEq Key]

/-- The value at a key. -/
def get? (map : SortedMap Key Value) (key : Key) : Option Value :=
  map.entries.lookup key

/-- The map without the entry at a key. -/
def erase (map : SortedMap Key Value) (key : Key) : SortedMap Key Value where
  entries := map.entries.filter (·.1 ≠ key)
  sorted := map.sorted.filter _

omit [LT Key] in
/-- Looking a key up is a question to the first entry, then to the others. -/
theorem lookup_entry_cons (entry : Key × Value) (later : List (Key × Value)) (key : Key) :
    (entry :: later).lookup key = if key = entry.1 then some entry.2 else later.lookup key := by
  rw [List.lookup_cons]
  by_cases found : key = entry.1
  · simp [found]
  · simp [found, beq_false_of_ne found]

omit [LT Key] in
theorem lookup_filter_ne (entries : List (Key × Value)) (key other : Key) :
    (entries.filter (·.1 ≠ key)).lookup other =
      if other = key then none else entries.lookup other := by
  induction entries with
  | nil => simp
  | cons entry later ih =>
      by_cases dropped : entry.1 = key
      · rw [List.filter_cons_of_neg (by simpa using dropped), ih, lookup_entry_cons]
        by_cases same : other = key
        · simp [same]
        · simp [same, dropped]
      · rw [List.filter_cons_of_pos (by simpa using dropped), lookup_entry_cons,
          lookup_entry_cons, ih]
        by_cases found : other = entry.1
        · simp [found, dropped]
        · simp [found]

/-- Erasing a key changes what is at that key and nothing else. -/
theorem get?_erase (map : SortedMap Key Value) (key other : Key) :
    (map.erase key).get? other = if other = key then none else map.get? other :=
  lookup_filter_ne map.entries key other

end Lookup

section Insert

variable [DecidableEq Key] [DecidableLT Key]

/-- Sorted entries with one more entry, which replaces an entry with the same key. -/
def insertEntry (key : Key) (value : Value) : List (Key × Value) → List (Key × Value)
  | [] => [(key, value)]
  | entry :: rest =>
    if key = entry.1 then (key, value) :: rest
    else if key < entry.1 then (key, value) :: entry :: rest
    else entry :: insertEntry key value rest

theorem mem_insertEntry {key : Key} {value : Value} {entries : List (Key × Value)}
    {entry : Key × Value} (mem : entry ∈ insertEntry key value entries) :
    entry = (key, value) ∨ entry ∈ entries := by
  induction entries with
  | nil => simpa [insertEntry] using mem
  | cons first rest ih =>
      simp only [insertEntry] at mem
      split at mem
      · rcases List.mem_cons.mp mem with new | old
        · exact Or.inl new
        · exact Or.inr (List.mem_cons_of_mem _ old)
      · split at mem
        · exact List.mem_cons.mp mem
        · rcases List.mem_cons.mp mem with same | later
          · exact Or.inr (same ▸ List.mem_cons_self)
          · exact (ih later).imp_right (List.mem_cons_of_mem _)

variable [LinearKey Key]

theorem sorted_insertEntry {key : Key} {value : Value} {entries : List (Key × Value)}
    (sorted : entries.Pairwise (·.1 < ·.1)) :
    (insertEntry key value entries).Pairwise (·.1 < ·.1) := by
  induction entries with
  | nil => simp [insertEntry]
  | cons first rest ih =>
      rcases List.pairwise_cons.mp sorted with ⟨firstBelow, restSorted⟩
      simp only [insertEntry]
      split
      · rename_i same
        exact List.pairwise_cons.mpr ⟨fun entry mem => same ▸ firstBelow entry mem, restSorted⟩
      · rename_i different
        split
        · rename_i below
          refine List.pairwise_cons.mpr ⟨fun entry mem => ?_, sorted⟩
          rcases List.mem_cons.mp mem with same | later
          · exact same ▸ below
          · exact LinearKey.trans below (firstBelow entry later)
        · rename_i notBelow
          refine List.pairwise_cons.mpr ⟨fun entry mem => ?_, ih restSorted⟩
          rcases mem_insertEntry mem with new | old
          · exact new ▸ LinearKey.connected different notBelow
          · exact firstBelow entry old

/-- The map with a value at a key, whatever was there before. -/
def insert (map : SortedMap Key Value) (key : Key) (value : Value) : SortedMap Key Value where
  entries := insertEntry key value map.entries
  sorted := sorted_insertEntry map.sorted

omit [LinearKey Key] in
theorem lookup_insertEntry (entries : List (Key × Value)) (key other : Key) (value : Value) :
    (insertEntry key value entries).lookup other =
      if other = key then some value else entries.lookup other := by
  induction entries with
  | nil => simp only [insertEntry, lookup_entry_cons]
  | cons entry later ih =>
      simp only [insertEntry]
      split
      · rename_i replaced
        simp only [lookup_entry_cons, ← replaced]
        by_cases same : other = key
        · simp [same]
        · simp [same]
      · rename_i different
        split
        · simp only [lookup_entry_cons]
        · simp only [lookup_entry_cons, ih]
          by_cases same : other = key
          · simp [same, different]
          · simp [same]

/-- Inserting at a key changes what is at that key and nothing else. -/
theorem get?_insert (map : SortedMap Key Value) (key other : Key) (value : Value) :
    (map.insert key value).get? other = if other = key then some value else map.get? other :=
  lookup_insertEntry map.entries key other value

omit [LinearKey Key] in
theorem insertEntry_insertEntry (entries : List (Key × Value)) (key : Key) (value other : Value) :
    insertEntry key value (insertEntry key other entries) = insertEntry key value entries := by
  induction entries with
  | nil => simp [insertEntry]
  | cons entry later ih =>
      simp only [insertEntry]
      split
      · simp [insertEntry]
      · rename_i different
        split
        · simp [insertEntry]
        · rename_i notBelow
          simp only [insertEntry, if_neg different, if_neg notBelow, ih]

/-- Of two insertions at one key, the last one counts. -/
theorem insert_insert (map : SortedMap Key Value) (key : Key) (value other : Value) :
    (map.insert key other).insert key value = map.insert key value :=
  ext (insertEntry_insertEntry map.entries key value other)

end Insert

end SortedMap

end OwnerKeys
