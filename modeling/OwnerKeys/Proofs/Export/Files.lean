import OwnerKeys.Proofs.Export.Numbering
import OwnerKeys.Proofs.Machine.Printing
import OwnerKeys.Proofs.Store.Calls
import OwnerKeys.SignatureList.Writing
import OwnerKeys.Variable

/-!
# What export writes

A listing and an export go through the same list, and both count all of its entries. So the
certificate that a listing shows under a number is in the file that is named by that number. Nothing
else is changed in the file tree; and an export that fails has written the files of the keys before
the one that it names.
-/

namespace OwnerKeys

/-- What has a file tree in reach, and keeps one that it is given. -/
class LawfulFiles (World : Type) [HasFiles World] : Prop where
  files_withFiles (world : World) (tree : FileTree) :
    HasFiles.files (HasFiles.withFiles world tree) = tree

instance : LawfulFiles FileTree where
  files_withFiles _ _ := rfl

instance : LawfulFiles Efivars where
  files_withFiles _ _ := rfl

instance {Store : Type} : LawfulFiles (Hosted Store) where
  files_withFiles _ _ := rfl

/-! ## Listing -/

namespace Listing

open SignatureList

variable {Store : Type}

/-- The warning about a list that is broken. -/
def warning (list : Bytes) : List Event :=
  if (decode list).malformed.isSome then [.noted .listMalformed] else []

/-- How a key is shown under its number. -/
def shown (number : Nat) (entry : Entry) : List Event :=
  .printed (heading number) :: .printed (fingerprint entry) ::
    match entry.kind, certificateText? entry.payload with
    | .x509, some text => [.printed text]
    | .x509, none => [.noted .certificateInvalid]
    | .sha256, _ => []

/-- How keys are shown, numbered upwards from a given number. -/
def shownFrom (number : Nat) (entries : List Entry) : List Event :=
  (entries.zipIdx number).flatMap fun (entry, number) => shown number entry

variable {output : Output}

theorem outcome_decodeNoted (list : Bytes) (machine : Machine Store) :
    Action.outcome (decodeNoted list) machine =
      (decode list, machine.advance machine.store (warning list)) := by
  unfold decodeNoted warning
  extract_lets decoded finish
  split
  · rfl
  · simp [decoded, finish, Machine.advance]

theorem shows_showEntry (number : Nat) (entry : Entry) :
    (showEntry output number entry : Attempt Store String Unit).Shows output ()
      (shown number entry) := by
  refine (Attempt.shows_print _).bind ((Attempt.shows_print _).bind ?_)
  cases entry.kind with
  | x509 =>
      cases certificateText? entry.payload with
      | some text => exact Attempt.shows_print text
      | none => exact Attempt.shows_perform (Action.outcome_note _) (by simp)
  | sha256 => exact Attempt.shows_pure ()

/-- The keys are shown in their order, and are numbered upwards. -/
theorem shows_showEntries (number : Nat) (entries : List Entry) :
    (showEntries output number entries : Attempt Store String Unit).Shows output ()
      (shownFrom number entries) := by
  induction entries generalizing number with
  | nil => exact Attempt.shows_pure ()
  | cons entry later ih =>
      rw [shownFrom, List.zipIdx_cons, List.flatMap_cons]
      exact (shows_showEntry number entry).bind (ih (number + 1))

theorem shows_listKeys (list : Bytes) :
    (listKeys output list : Attempt Store String Nat).Shows output (decode list).entries.length
      (warning list ++ shownFrom 1 (decode list).entries) := by
  have decodes : (perform (decodeNoted list) : Attempt Store String Decoded).Shows output
      (decode list) (warning list) := by
    refine Attempt.shows_perform (outcome_decodeNoted list) fun text mem => ?_
    unfold warning at mem
    split at mem
    · simp at mem
    · simp at mem
  have shows : (do showEntries output 1 (decode list).entries; return (decode list).entries.length :
      Attempt Store String Nat).Shows output (decode list).entries.length
        (shownFrom 1 (decode list).entries ++ []) :=
    (shows_showEntries 1 _).bind (Attempt.shows_pure _)
  rw [List.append_nil] at shows
  exact decodes.bind shows

end Listing

/-! ## Export -/

namespace Export

open SignatureList

/-- The payloads of the certificates among some entries, with the numbers of the entries. -/
def certificates (entries : List Entry) (number : Nat) : List (Nat × Bytes) :=
  ((entries.zipIdx number).filter (·.1.kind = .x509)).map fun (entry, index) =>
    (index, entry.payload)

theorem certificates_cons (entry : Entry) (later : List Entry) (number : Nat) :
    certificates (entry :: later) number =
      (if entry.kind = .x509 then [(number, entry.payload)] else []) ++
        certificates later (number + 1) := by
  by_cases certificate : entry.kind = .x509
  · simp [certificates, certificate]
  · simp [certificates, certificate]

theorem le_of_mem_certificates {entries : List Entry} {number index : Nat} {key : Bytes}
    (mem : (index, key) ∈ certificates entries number) : number ≤ index := by
  rcases List.mem_map.mp mem with ⟨⟨entry, place⟩, placed, same⟩
  cases same
  exact List.le_snd_of_mem_zipIdx (List.mem_of_mem_filter placed)

/-- Certificates are numbered upwards. -/
theorem pairwise_certificates (entries : List Entry) (number : Nat) :
    (certificates entries number).Pairwise (·.1 < ·.1) := by
  have places : ((entries.zipIdx number).map (·.2)).Pairwise (· < ·) := by
    rw [List.zipIdx_map_snd]
    exact List.pairwise_lt_range'
  rw [certificates, List.pairwise_map]
  exact (List.pairwise_map.mp places).filter _

/-- The keys before one of some ascending keys are those with smaller numbers. -/
theorem filter_lt_of_ascending {earlier later : List (Nat × Bytes)} {index : Nat} {key : Bytes}
    (ascending : (earlier ++ (index, key) :: later).Pairwise (·.1 < ·.1)) :
    (earlier ++ (index, key) :: later).filter (·.1 < index) = earlier := by
  rw [List.pairwise_append, List.pairwise_cons] at ascending
  rcases ascending with ⟨_, ⟨above, _⟩, below⟩
  have smaller : earlier.filter (·.1 < index) = earlier := by
    rw [List.filter_eq_self]
    intro other mem
    simpa using below other mem _ List.mem_cons_self
  have larger : ((index, key) :: later).filter (·.1 < index) = [] := by
    rw [List.filter_eq_nil_iff]
    intro other mem
    rcases List.mem_cons.mp mem with rfl | inLater
    · simp
    · simpa using Nat.le_of_lt (above other inLater)
  rw [List.filter_append, smaller, larger, List.append_nil]

/-- From one tree to another, keys were written to the files of their numbers, and nothing else has
changed. -/
structure FilesWritten (directory : String) (keys : List (Nat × Bytes)) (before after : FileTree) :
    Prop where
  home_eq : after.home = before.home
  /-- Each key is all that there is in its file. -/
  lookup_eq : ∀ index key, (index, key) ∈ keys →
    after.lookup (path directory index) = .ok (.file key)
  /-- The files of other numbers are where they were, and as they were. -/
  find_eq : ∀ index, (∀ key, (index, key) ∉ keys) →
    after.find (path directory index) = before.find (path directory index)
  /-- Nothing has changed at any other place of the tree. -/
  node?_eq : ∀ place,
    (∀ index key, (index, key) ∈ keys → before.resolve (path directory index) ≠ .ok place) →
    after.node? place = before.node? place

namespace FilesWritten

variable {directory : String} {before middle after : FileTree}

theorem nil (directory : String) (tree : FileTree) : FilesWritten directory [] tree tree :=
  ⟨rfl, by simp, fun _ _ => rfl, fun _ _ => rfl⟩

/-- A key is written before others. -/
theorem cons {index : Nat} {key : Bytes} {later : List (Nat × Bytes)}
    (written : before.write (path directory index) key = .ok middle)
    (others : FilesWritten directory later middle after) (fresh : ∀ key, (index, key) ∉ later) :
    FilesWritten directory ((index, key) :: later) before after := by
  rcases FileTree.changesOnly_of_write written with ⟨place, resolved, changes, isFile⟩
  have elsewhere {other : Nat} (different : other ≠ index) :
      middle.find (path directory other) = before.find (path directory other) :=
    changes.find_join (isEntry_fileName index) (isEntry_fileName other)
      (fun same => different (fileName_inj same)) resolved
  constructor
  · rw [others.home_eq, changes.home_eq]
  · intro other otherKey mem
    -- The new file is not one of the later ones, which leave it as it is.
    rcases List.mem_cons.mp mem with same | inLater
    · cases same
      rw [FileTree.lookup_eq_find, others.find_eq index fresh, ← FileTree.lookup_eq_find]
      exact FileTree.lookup_eq_ok_iff.mpr ⟨place, changes.resolve resolved, isFile⟩
    · exact others.lookup_eq other otherKey inLater
  · intro other notWritten
    have different : other ≠ index := by
      rintro rfl
      exact notWritten key List.mem_cons_self
    rw [others.find_eq other fun otherKey inLater =>
      notWritten otherKey (List.mem_cons_of_mem _ inLater), elsewhere different]
  · intro final notPlace
    rw [others.node?_eq final, changes.node?_eq final]
    · rintro rfl
      exact notPlace index key List.mem_cons_self resolved
    · intro other otherKey inLater otherResolved
      have different : other ≠ index := by
        rintro rfl
        exact fresh otherKey inLater
      -- The paths of later keys lead where they led before the first key was written.
      have found := FileTree.find_eq_ok_iff.mpr ⟨otherResolved, rfl⟩
      rw [elsewhere different] at found
      exact notPlace other otherKey (List.mem_cons_of_mem _ inLater)
        (FileTree.find_eq_ok_iff.mp found).1

end FilesWritten

/-- A single key is written. -/
theorem FilesWritten.of_write {directory : String} {before after : FileTree} {index : Nat}
    {key : Bytes} (written : before.write (path directory index) key = .ok after) :
    FilesWritten directory [(index, key)] before after :=
  .cons written (.nil directory after) (by simp)

/-- The ways in which writing numbered keys can end. -/
inductive ExportOutcome (device : Device) (directory : String) (keys : List (Nat × Bytes))
    (before : FileTree) : Except ExportError (List String) × FileTree → Prop where
  /-- All keys are written. -/
  | written {after : FileTree} (files : FilesWritten directory keys before after) :
      ExportOutcome device directory keys before
        (.ok (keys.map fun (index, _) => path directory index), after)
  /-- The file of a key cannot be opened, and the keys before it are written. -/
  | stopped {earlier later : List (Nat × Bytes)} {index : Nat} {key : Bytes} {error : FileError}
      {after : FileTree} (split : keys = earlier ++ (index, key) :: later)
      (files : FilesWritten directory earlier before after) :
      ExportOutcome device directory keys before (.error ⟨index, error⟩, after)
  /-- There is room for a front part of a key only, and the keys before it are written. -/
  | interrupted {earlier later : List (Nat × Bytes)} {index count : Nat} {key : Bytes}
      {error : FileError} {after : FileTree} (split : keys = earlier ++ (index, key) :: later)
      (limit : device.room? (path directory index) ≠ none) (few : count < key.length)
      (files : FilesWritten directory (earlier ++ [(index, key.take count)]) before after) :
      ExportOutcome device directory keys before (.error ⟨index, error⟩, after)

theorem ExportOutcome.cons {device : Device} {directory : String} {keys : List (Nat × Bytes)}
    {before middle : FileTree} {ending : Except ExportError (List String) × FileTree} {index : Nat}
    {key : Bytes} (written : before.write (path directory index) key = .ok middle)
    (fresh : ∀ key, (index, key) ∉ keys)
    (rest : ExportOutcome device directory keys middle ending) :
    ExportOutcome device directory ((index, key) :: keys) before
      (ending.1.map (path directory index :: ·), ending.2) := by
  cases rest with
  | written files => exact .written (files.cons written fresh)
  | stopped split files =>
      subst split
      have freshEarlier := fun other inEarlier => fresh other (List.mem_append_left _ inEarlier)
      exact .stopped rfl (files.cons written freshEarlier)
  | @interrupted earlier later other count otherKey _ _ split limit few files =>
      subst split
      have freshToo : ∀ key, (index, key) ∉ earlier ++ [(other, otherKey.take count)] := by
        intro key mem
        rcases List.mem_append.mp mem with inEarlier | isLast
        · exact fresh key (List.mem_append_left _ inEarlier)
        · cases List.mem_singleton.mp isLast
          exact fresh otherKey (List.mem_append_right _ List.mem_cons_self)
      have filesToo := files.cons written freshToo
      rw [← List.cons_append] at filesToo
      exact .interrupted rfl limit few filesToo

variable {Store : Type} [HasFiles Store]

theorem outcome_writeFile (device : Device) (path : String) (content : Bytes)
    (machine : Machine Store) :
    Action.outcome (writeFile device path content) machine =
      let created := (FileTree.Step.create path content).outcome device
        (HasFiles.files machine.store)
      (created.1, machine.advance (HasFiles.withFiles machine.store created.2) []) := by
  simp only [Machine.advance, List.append_nil]
  rfl

/-- The file of a certificate is written before those of the later ones. -/
theorem outcome_exportEntries_cons {entry : Entry} (certificate : entry.kind = .x509)
    (device : Device) (directory : String) (number : Nat) (later : List Entry)
    (machine : Machine Store) :
    Attempt.outcome (exportEntries device directory number (entry :: later)) machine =
      let created := (FileTree.Step.create (path directory number) entry.payload).outcome device
        (HasFiles.files machine.store)
      let next := machine.advance (HasFiles.withFiles machine.store created.2) []
      match created.1 with
      | .error error => (.error ⟨number, error⟩, next)
      | .ok () =>
        let rest := Attempt.outcome (exportEntries device directory (number + 1) later) next
        (rest.1.map (path directory number :: ·), rest.2) := by
  have wrote := outcome_writeFile device (path directory number) entry.payload machine
  unfold path at wrote ⊢
  rw [exportEntries, if_pos certificate]
  simp only [Attempt.outcome_perform_bind, wrote]
  generalize (FileTree.Step.create _ entry.payload).outcome device _ = created
  rcases created with ⟨error | done, tree⟩
  · simp only [Attempt.outcome_throw]
  · simp only
    rcases ran : Attempt.outcome (exportEntries device directory (number + 1) later)
      (machine.advance (HasFiles.withFiles machine.store tree) []) with ⟨error | paths, after⟩
    · rw [Attempt.outcome_bind_error ran]
      rfl
    · rw [Attempt.outcome_bind_ok ran]
      rfl

theorem outcome_exportEntries_cons_digest {entry : Entry} (digest : entry.kind ≠ .x509)
    (device : Device) (directory : String) (number : Nat) (later : List Entry)
    (machine : Machine Store) :
    Attempt.outcome (exportEntries device directory number (entry :: later)) machine =
      Attempt.outcome (exportEntries device directory (number + 1) later)
        (machine.advance machine.store [.noted (.hashNotExported number)]) := by
  rw [exportEntries, if_neg digest, Attempt.outcome_perform_bind, Action.outcome_note]

theorem exportOutcome [LawfulFiles Store] (device : Device) (directory : String) (number : Nat)
    (entries : List Entry) (machine : Machine Store) :
    let ran := Attempt.outcome (exportEntries device directory number entries) machine
    ExportOutcome device directory (certificates entries number) (HasFiles.files machine.store)
      (ran.1, HasFiles.files ran.2.store) := by
  intro ran
  -- The number is that of the next entry, be it exported or not.
  induction entries generalizing number machine with
  | nil => exact .written (.nil directory _)
  | cons entry later ih =>
      rw [certificates_cons]
      by_cases certificate : entry.kind = .x509
      · rw [if_pos certificate, List.singleton_append]
        have fresh : ∀ key, (number, key) ∉ certificates later (number + 1) :=
          fun key mem => Nat.not_succ_le_self number (le_of_mem_certificates mem)
        have step := outcome_exportEntries_cons certificate device directory number later machine
        have creates := FileTree.Step.createOutcome device (path directory number) entry.payload
          (HasFiles.files machine.store)
        generalize (FileTree.Step.create _ entry.payload).outcome device _ = created
          at step creates
        simp only [ran, step]
        cases creates with
        | @created tree wrote =>
            have rest := ih (number + 1)
              (machine.advance (HasFiles.withFiles machine.store tree) [])
            simp only [Machine.store_advance, LawfulFiles.files_withFiles] at rest
            exact rest.cons wrote fresh
        | stopped =>
            simp only [Machine.store_advance, LawfulFiles.files_withFiles]
            exact .stopped (List.nil_append _).symm (.nil directory _)
        | interrupted resolved notDirectory limit few =>
            simp only [Machine.store_advance, LawfulFiles.files_withFiles]
            refine .interrupted (List.nil_append _).symm limit few (.of_write ?_)
            exact FileTree.write_eq_ok_iff.mpr ⟨_, resolved, notDirectory, rfl⟩
      · have step := outcome_exportEntries_cons_digest certificate device directory number later
          machine
        have rest := ih (number + 1)
          (machine.advance machine.store [.noted (.hashNotExported number)])
        simp only [ran, step, if_neg certificate, List.nil_append]
        exact rest

theorem exportKeys_eq (device : Device) (list : Bytes) (directory : String)
    (machine : Machine Store) :
    Attempt.outcome (exportKeys device list directory) machine =
      Attempt.outcome (exportEntries device directory 1 (decode list).entries)
        (machine.advance machine.store (Listing.warning list)) := by
  rw [exportKeys, Attempt.outcome_perform_bind, Listing.outcome_decodeNoted]

/-- A certificate, a digest, another certificate, the first certificate again, and a byte that is
left over. -/
def mixedList : Bytes :=
  (SignatureList.x509 Variable.shimVendor [1]).toRecord.toBytes ++
    (SignatureList.sha256 [(Variable.shimVendor, Vector.replicate 32 0)]).toRecord.toBytes ++
    (SignatureList.x509 Variable.shimVendor [2]).toRecord.toBytes ++
    (SignatureList.x509 Variable.shimVendor [1]).toRecord.toBytes ++ [0xa1]

/-- A directory with an old file that is longer than the key with its number. -/
def staleTree : FileTree :=
  ((FileTree.blank []).plant ["keys"] .directory).plant ["keys", "MOK-0001.der"] (.file [7, 8, 9])

/-- The same directory, where another directory stands in the way of the third key. -/
def blockedTree : FileTree :=
  staleTree.plant ["keys", "MOK-0003.der"] .directory

/-- The disk on which there is no room for the third key. -/
def fullDisk : Device :=
  { Device.sound with
    room? := fun path => if path = "keys/MOK-0003.der" then some (0, "disk full") else none }

end Export

end OwnerKeys
