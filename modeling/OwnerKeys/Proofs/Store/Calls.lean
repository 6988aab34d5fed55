import OwnerKeys.FileTree.Steps
import OwnerKeys.Proofs.Store.Paths

/-!
# What calls on files leave behind

The outcome of a computation with files is its result together with the file tree that it leaves
behind. Up to the call that opens a file for writing nothing has changed. From then on the file is
another one, whatever the device does about the calls that follow: it is the new file, or it has a
front part of the new bytes and what was behind that part before.
-/

namespace OwnerKeys

namespace Device

variable {device : Device} {tree : FileTree} {path : String}

/-- A device refuses nothing for the file at a path. -/
structure Spares (device : Device) (path : String) : Prop where
  refusal?_eq : ∀ call, device.refusal? call path = none
  room?_eq : device.room? path = none

theorem sound_spares (path : String) : sound.Spares path :=
  ⟨fun _ => rfl, rfl⟩

theorem Spares.not_refused (spares : device.Spares path) {call : FileCall} {reason : String} :
    device.refusal? call path ≠ some reason := by
  simp [spares.refusal?_eq]

/-- A device refuses none of the calls that follow when the file at a path was opened for
writing. -/
structure Completes (device : Device) (path : String) : Prop where
  room?_eq : device.room? path = none
  querySize_eq : device.refusal? .querySize path = none
  resize_eq : device.refusal? .resize path = none

theorem Spares.completes (spares : device.Spares path) : device.Completes path :=
  ⟨spares.room?_eq, spares.refusal?_eq _, spares.refusal?_eq _⟩

/-- What is found when the file at a path is opened for reading. -/
def lookup (device : Device) (tree : FileTree) (path : String) : Except Refusal FileTree.Node :=
  match device.refusal? .openToRead path with
  | some reason => .error (.device reason)
  | none => tree.lookup path

theorem Spares.lookup_eq (spares : device.Spares path) (tree : FileTree) :
    device.lookup tree path = tree.lookup path := by
  rw [lookup, spares.refusal?_eq]

/-- No device finds anything else than what there is. -/
theorem lookup_cases (device : Device) (tree : FileTree) (path : String) :
    device.lookup tree path = tree.lookup path ∨
      ∃ reason, device.lookup tree path = .error (.device reason) := by
  unfold lookup
  cases device.refusal? .openToRead path with
  | none => exact .inl rfl
  | some reason => exact .inr ⟨reason, rfl⟩

theorem lookup_eq_of_ok {node : FileTree.Node} (found : device.lookup tree path = .ok node) :
    tree.lookup path = .ok node := by
  rcases device.lookup_cases tree path with same | ⟨reason, refused⟩
  · exact same.symm.trans found
  · cases refused.symm.trans found

theorem lookup_eq_of_missing (missing : device.lookup tree path = .error .notFound) :
    tree.lookup path = .error .notFound := by
  rcases device.lookup_cases tree path with same | ⟨reason, refused⟩
  · exact same.symm.trans missing
  · cases refused.symm.trans missing

end Device

namespace FileTree.Step

variable {Error Other Result : Type} {device : Device} {tree after : FileTree} {path : String}
  {place : Path} {content : Bytes}

/-! ## Sequences of calls -/

@[simp]
theorem outcome_pure (result : Result) :
    outcome (pure result : Step Error Result) device tree = (.ok result, tree) := rfl

@[simp]
theorem outcome_throw (error : Error) :
    outcome (throw error : Step Error Result) device tree = (.error error, tree) := rfl

theorem outcome_ofOutcome (whole : Device → FileTree → Except Error Result × FileTree) :
    outcome (ofOutcome whole) device tree = whole device tree := rfl

theorem outcome_mapError (change : Error → Other) (step : Step Error Result) :
    outcome (mapError change step) device tree =
      ((step.outcome device tree).1.mapError change, (step.outcome device tree).2) := rfl

theorem mapError_of_ok {step : Step Error Result} {result : Result}
    (success : step.outcome device tree = (.ok result, after)) (change : Error → Other) :
    outcome (mapError change step) device tree = (.ok result, after) := by
  rw [mapError, outcome_ofOutcome, success]
  rfl

theorem mapError_of_error {step : Step Error Result} {error : Error}
    (failure : step.outcome device tree = (.error error, after)) (change : Error → Other) :
    outcome (mapError change step) device tree = (.error (change error), after) := by
  rw [mapError, outcome_ofOutcome, failure]
  rfl

theorem outcome_bind_ok {step : Step Error Result} {result : Result}
    (success : step.outcome device tree = (.ok result, after))
    (next : Result → Step Error Other) :
    outcome (step >>= next) device tree = outcome (next result) device after := by
  unfold outcome at success ⊢
  rw [ExceptT.run_bind, ReaderT.run_bind, StateT.run_bind, success]
  rfl

theorem outcome_bind_error {step : Step Error Result} {error : Error}
    (failure : step.outcome device tree = (.error error, after))
    (next : Result → Step Error Other) :
    outcome (step >>= next) device tree = (.error error, after) := by
  unfold outcome at failure ⊢
  rw [ExceptT.run_bind, ReaderT.run_bind, StateT.run_bind, failure]
  rfl

theorem outcome_tryCatch_ok {step : Step Error Result} {result : Result}
    (success : step.outcome device tree = (.ok result, after))
    (handler : Error → Step Error Result) :
    outcome (tryCatch step handler) device tree = (.ok result, after) := by
  unfold outcome at success ⊢
  rw [ExceptT.run_tryCatch, ReaderT.run_bind, StateT.run_bind, success]
  rfl

theorem outcome_tryCatch_error {step : Step Error Result} {error : Error}
    (failure : step.outcome device tree = (.error error, after))
    (handler : Error → Step Error Result) :
    outcome (tryCatch step handler) device tree = outcome (handler error) device after := by
  unfold outcome at failure ⊢
  rw [ExceptT.run_tryCatch, ReaderT.run_bind, StateT.run_bind, failure]
  rfl

section Attempts

variable {call : FileCall} {action : FileAction} {reason : String}

theorem attempt_of_refused (refused : device.refusal? call path = some reason)
    (whole : FileTree → Except FileError Result × FileTree) :
    outcome (attempt call action path whole) device tree =
      (.error ⟨action, path, .device reason⟩, tree) := by
  rw [attempt, outcome_ofOutcome, refused]

theorem attempt_of_passed (passed : device.refusal? call path = none)
    (whole : FileTree → Except FileError Result × FileTree) :
    outcome (attempt call action path whole) device tree = whole tree := by
  rw [attempt, outcome_ofOutcome, passed]

end Attempts

/-! ## Reading -/

section Reading

theorem outcome_openToRead (device : Device) (tree : FileTree) (path : String) :
    outcome (openToRead path) device tree =
      ((device.lookup tree path).mapError (⟨.openFile, path, ·⟩), tree) := by
  unfold openToRead Device.lookup
  cases opens : device.refusal? .openToRead path with
  | none => exact attempt_of_passed opens _
  | some reason => exact attempt_of_refused opens _

theorem openIfExists_of_ok {node : Node} (found : device.lookup tree path = .ok node) :
    outcome (openIfExists path) device tree = (.ok (some node), tree) := by
  have opens := outcome_openToRead device tree path
  rw [found] at opens
  exact outcome_tryCatch_ok (outcome_bind_ok opens _) _

theorem openIfExists_of_missing (missing : device.lookup tree path = .error .notFound) :
    outcome (openIfExists path) device tree = (.ok none, tree) := by
  have fails := outcome_openToRead device tree path
  rw [missing] at fails
  exact outcome_tryCatch_error (outcome_bind_error fails _) _

theorem openIfExists_of_refused {refusal : Refusal} (notMissing : refusal ≠ .notFound)
    (refused : device.lookup tree path = .error refusal) :
    outcome (openIfExists path) device tree = (.error ⟨.openFile, path, refusal⟩, tree) := by
  have fails := outcome_openToRead device tree path
  rw [refused] at fails
  refine (outcome_tryCatch_error (outcome_bind_error fails _) _).trans ?_
  simp only [if_neg notMissing, outcome_throw]

/-- A file that was opened is read to the end, or the device refuses that. A directory is not
read. -/
theorem readToEnd_cases (device : Device) (tree : FileTree) (path : String) (node : Node) :
    (∃ content, node = .file content ∧
        outcome (readToEnd path node) device tree = (.ok content, tree)) ∨
      ∃ error, outcome (readToEnd path node) device tree = (.error error, tree) ∧
        (device.Spares path → node = .directory ∧ error = ⟨.readFile, path, .isDirectory⟩) := by
  unfold readToEnd
  cases reading : device.refusal? .readToEnd path with
  | some reason =>
      refine .inr ⟨_, attempt_of_refused reading _, fun spares => absurd reading spares.not_refused⟩
  | none =>
      rw [attempt_of_passed reading]
      cases node with
      | file content => exact .inl ⟨content, rfl, rfl⟩
      | directory => exact .inr ⟨_, rfl, fun _ => ⟨rfl, rfl⟩⟩

/-- Taking a mark off leaves the tree alone. -/
theorem unmark_cases (device : Device) (tree : FileTree) (path : String) :
    ∃ result, outcome (unmark path) device tree = (result, tree) ∧
      (device.Spares path → result = .ok ()) := by
  unfold unmark
  cases marking : device.refusal? .readMark path with
  | some reason =>
      have fails : outcome (mark? path) device tree = (.error reason, tree) := by
        rw [mark?, outcome_ofOutcome, marking]
      rw [outcome_bind_error fails]
      refine ⟨_, rfl, fun spares => absurd marking spares.not_refused⟩
  | none =>
      have tells : outcome (mark? path) device tree = (.ok (device.mark? path), tree) := by
        rw [mark?, outcome_ofOutcome, marking]
      rw [outcome_bind_ok tells]
      split
      · rw [clearMark, outcome_ofOutcome]
        cases clearing : device.refusal? .clearMark path with
        | some reason =>
            refine ⟨_, rfl, fun spares => absurd clearing spares.not_refused⟩
        | none => exact ⟨_, rfl, fun _ => rfl⟩
      · exact ⟨_, rfl, fun _ => rfl⟩

end Reading

/-! ## Writing -/

section Writing

/-- The file at a place has a front part of a new content, and behind that part what was there
before. -/
def torn (tree : FileTree) (place : Path) (content : Bytes) (count : Nat) : FileTree :=
  tree.withFile place (content.take count ++ (tree.contentAt place).drop count)

theorem overwrite_take {count : Nat} (fits : count ≤ content.length) :
    tree.overwrite place (content.take count) = torn tree place content count := by
  rw [overwrite, torn, List.length_take_of_le fits]

theorem overwrite_eq_torn :
    tree.overwrite place content = torn tree place content content.length := by
  rw [← overwrite_take (Nat.le_refl _), List.take_length]

/-- Either all bytes are written over the front of a file, or the device has room for some only. -/
theorem writeAll_cases (device : Device) (tree : FileTree) (path : String) (place : Path)
    (content : Bytes) :
    outcome (writeAll path place content) device tree = (.ok (), tree.overwrite place content) ∨
      ∃ error room, room < content.length ∧ device.room? path ≠ none ∧
        outcome (writeAll path place content) device tree =
          (.error error, torn tree place content room) := by
  unfold writeAll
  rw [outcome_ofOutcome]
  cases limit : device.room? path with
  | none => exact .inl rfl
  | some most =>
      rcases most with ⟨room, reason⟩
      by_cases fits : content.length ≤ room
      · exact .inl (if_pos fits)
      · refine .inr ⟨⟨.writeFile, path, .device reason⟩, room, by omega, by simp, ?_⟩
        rw [← overwrite_take (by omega)]
        exact if_neg fits

/-- What is left over is cut off, or the device refuses one of the calls. -/
theorem trim_cases (device : Device) (tree : FileTree) (path : String) (place : Path) (size : Nat) :
    outcome (trim path place size) device tree =
        (.ok (), if size < (tree.contentAt place).length then tree.cut place size else tree) ∨
      ¬device.Completes path ∧
        ∃ error, outcome (trim path place size) device tree = (.error error, tree) := by
  unfold trim
  cases sizing : device.refusal? .querySize path with
  | some reason =>
      have stops : outcome (querySize path place) device tree = _ := attempt_of_refused sizing _
      refine .inr ⟨fun completes => ?_, _, outcome_bind_error stops _⟩
      cases sizing.symm.trans completes.querySize_eq
  | none =>
      have sized : outcome (querySize path place) device tree =
          (.ok (tree.contentAt place).length, tree) := attempt_of_passed sizing _
      rw [outcome_bind_ok sized]
      by_cases leftOver : size < (tree.contentAt place).length
      · simp only [if_pos leftOver]
        cases cutting : device.refusal? .resize path with
        | some reason =>
            refine .inr ⟨fun completes => ?_, _, attempt_of_refused cutting _⟩
            cases cutting.symm.trans completes.resize_eq
        | none => exact .inl (attempt_of_passed cutting _)
      · simp only [if_neg leftOver]
        exact .inl rfl

/-- The ways in which replacing the content of a file can end. -/
inductive ReplaceOutcome (device : Device) (path : String) (place : Path) (content : Bytes)
    (before : FileTree) : Except FileError Unit × FileTree → Prop where
  /-- The file has the content. -/
  | replaced : ReplaceOutcome device path place content before
      (.ok (), before.withFile place content)
  /-- The device has stopped the writing, or the calls that come after it. -/
  | interrupted {error : FileError} {count : Nat} (incomplete : ¬device.Completes path)
      (fits : count ≤ content.length) :
      ReplaceOutcome device path place content before
        (.error error, torn before place content count)

theorem replaceOutcome (device : Device) (path : String) (notRoot : place ≠ []) (content : Bytes)
    (tree : FileTree) :
    ReplaceOutcome device path place content tree
      (outcome (replace path place content) device tree) := by
  unfold replace
  rcases writeAll_cases device tree path place content with wrote | ⟨error, room, few, limit, tore⟩
  · rw [outcome_bind_ok wrote]
    rcases trim_cases device (tree.overwrite place content) path place content.length with
      trimmed | ⟨incomplete, error, stopped⟩
    · rw [trimmed, cut_overwrite notRoot content]
      exact .replaced
    · rw [stopped, overwrite_eq_torn]
      exact .interrupted incomplete (Nat.le_refl _)
  · rw [outcome_bind_error tore]
    exact .interrupted (fun completes => limit completes.room?_eq) (Nat.le_of_lt few)

/-- What was there before the file was opened is what it holds, even if nothing was there. -/
theorem torn_of_openToWrite (opens : tree.openToWrite path = .ok (place, after)) (content : Bytes)
    (count : Nat) : torn after place content count = torn tree place content count := by
  rcases contentAt_of_openToWrite opens with ⟨_, _, sameContent, sameFile⟩
  rw [torn, torn, sameContent, sameFile]

/-- A file is opened for writing, or nothing has happened. -/
theorem openToWrite_cases (device : Device) (tree : FileTree) (path : String) :
    (∃ place opened, tree.openToWrite path = .ok (place, opened) ∧
        outcome (openToWrite path) device tree = (.ok place, opened)) ∨
      (∃ error, outcome (openToWrite path) device tree = (.error error, tree) ∧
        (device.Spares path → tree.openToWrite path = .error error)) := by
  unfold openToWrite
  cases opening : device.refusal? .openToWrite path with
  | some reason =>
      refine .inr ⟨_, attempt_of_refused opening _, fun spares => absurd opening spares.not_refused⟩
  | none =>
      rw [attempt_of_passed opening]
      cases tree.openToWrite path with
      | ok opened => exact .inl ⟨opened.1, opened.2, rfl, rfl⟩
      | error error => exact .inr ⟨error, rfl, fun _ => rfl⟩

/-- The ways in which writing a file can end, that is opened without being emptied. -/
inductive WriteOutcome (device : Device) (path : String) (content : Bytes) (before : FileTree) :
    Except FileError Unit × FileTree → Prop where
  /-- The file has the content. -/
  | written {after : FileTree} (wrote : before.write path content = .ok after) :
      WriteOutcome device path content before (.ok (), after)
  /-- The file could not be opened. -/
  | stopped {error : FileError}
      (refused : device.Spares path → before.write path content = .error error) :
      WriteOutcome device path content before (.error error, before)
  /-- The file was opened, and then the device has refused something. -/
  | interrupted {place : Path} {error : FileError} {count : Nat}
      (resolved : before.resolve path = .ok place)
      (notDirectory : before.node? place ≠ some .directory) (incomplete : ¬device.Completes path)
      (fits : count ≤ content.length) :
      WriteOutcome device path content before (.error error, torn before place content count)

theorem writeOutcome (device : Device) (path : String) (content : Bytes) (tree : FileTree) :
    WriteOutcome device path content tree
      (outcome (do replace path (← openToWrite path) content) device tree) := by
  rcases openToWrite_cases device tree path with
    ⟨place, opened, opens, ran⟩ | ⟨error, ran, refused⟩
  · rcases contentAt_of_openToWrite opens with ⟨resolved, notDirectory, _, sameFile⟩
    have notRoot := ne_nil_of_not_directory notDirectory
    have replaces := replaceOutcome device path notRoot content opened
    rw [outcome_bind_ok ran]
    generalize outcome (replace path place content) device opened = ending at replaces ⊢
    cases replaces with
    | replaced =>
        rw [sameFile]
        exact .written (write_eq_ok_iff.mpr ⟨place, resolved, notDirectory, rfl⟩)
    | interrupted incomplete fits =>
        rw [torn_of_openToWrite opens]
        exact .interrupted resolved notDirectory incomplete fits
  · rw [outcome_bind_error ran]
    refine .stopped fun spares => ?_
    rw [write_eq_openToWrite, refused spares]
    rfl

/-- A file is created or emptied, or nothing has happened. -/
theorem openEmpty_cases (device : Device) (tree : FileTree) (path : String) :
    (∃ place, tree.resolve path = .ok place ∧ tree.node? place ≠ some .directory ∧
        outcome (openEmpty path) device tree = (.ok place, tree.withFile place [])) ∨
      ∃ error, outcome (openEmpty path) device tree = (.error error, tree) := by
  unfold openEmpty
  cases opening : device.refusal? .openToWrite path with
  | some reason => exact .inr ⟨_, attempt_of_refused opening _⟩
  | none =>
      rw [attempt_of_passed opening]
      cases opens : tree.openToWrite path with
      | error error => exact .inr ⟨error, rfl⟩
      | ok result =>
          rcases result with ⟨place, opened⟩
          rcases contentAt_of_openToWrite opens with ⟨resolved, notDirectory, _, sameFile⟩
          exact .inl ⟨place, resolved, notDirectory, congrArg _ (sameFile [])⟩

/-- The ways in which creating a file can end. -/
inductive CreateOutcome (device : Device) (path : String) (content : Bytes) (before : FileTree) :
    Except FileError Unit × FileTree → Prop where
  /-- The file has the content. -/
  | created {after : FileTree} (wrote : before.write path content = .ok after) :
      CreateOutcome device path content before (.ok (), after)
  /-- The file could not be opened. -/
  | stopped {error : FileError} : CreateOutcome device path content before (.error error, before)
  /-- The file was emptied, and there is room for a front part of the content only. -/
  | interrupted {place : Path} {error : FileError} {count : Nat}
      (resolved : before.resolve path = .ok place)
      (notDirectory : before.node? place ≠ some .directory) (limit : device.room? path ≠ none)
      (few : count < content.length) :
      CreateOutcome device path content before
        (.error error, before.withFile place (content.take count))

theorem createOutcome (device : Device) (path : String) (content : Bytes) (tree : FileTree) :
    CreateOutcome device path content tree (outcome (create path content) device tree) := by
  unfold create
  rcases openEmpty_cases device tree path with
    ⟨place, resolved, notDirectory, empties⟩ | ⟨error, stops⟩
  · have nothing : (tree.withFile place []).contentAt place = [] :=
      contentAt_withFile (ne_nil_of_not_directory notDirectory) []
    rw [outcome_bind_ok empties]
    rcases writeAll_cases device (tree.withFile place []) path place content with
      wrote | ⟨error, room, few, limit, tore⟩
    · rw [wrote, overwrite, nothing, List.drop_nil, List.append_nil, withFile_withFile]
      exact .created (write_eq_ok_iff.mpr ⟨place, resolved, notDirectory, rfl⟩)
    · rw [tore, torn, nothing, List.drop_nil, List.append_nil, withFile_withFile]
      exact .interrupted resolved notDirectory limit few
  · rw [outcome_bind_error stops]
    exact .stopped

/-- A file is removed, or nothing has happened. -/
theorem remove_cases (device : Device) (tree : FileTree) (path : String) :
    (∃ after, tree.remove path = .ok after ∧
        outcome (remove path) device tree = (.ok (), after)) ∨
      ∃ error, outcome (remove path) device tree = (.error error, tree) ∧
        (tree.remove path = .error error ∨ error.refusal ≠ .notFound ∧ ¬device.Spares path) := by
  unfold remove
  cases removing : device.refusal? .remove path with
  | some reason =>
      refine .inr ⟨_, attempt_of_refused removing _, .inr ⟨by simp, ?_⟩⟩
      exact fun spares => spares.not_refused removing
  | none =>
      rw [attempt_of_passed removing]
      cases tree.remove path with
      | ok after => exact .inl ⟨after, rfl, rfl⟩
      | error error => exact .inr ⟨error, rfl, .inl rfl⟩

/-- The ways in which removing a file can end, that need not exist. -/
inductive RemoveOutcome (device : Device) (path : String) (before : FileTree) :
    Except FileError Bool × FileTree → Prop where
  /-- The file was removed. -/
  | removed {after : FileTree} (removed : before.remove path = .ok after) :
      RemoveOutcome device path before (.ok true, after)
  /-- There is no file. -/
  | missing (missing : before.lookup path = .error .notFound) :
      RemoveOutcome device path before (.ok false, before)
  /-- The file could not be removed. -/
  | stopped {error : FileError} (notMissing : error.refusal ≠ .notFound)
      (refused : device.Spares path → before.remove path = .error error) :
      RemoveOutcome device path before (.error error, before)

theorem removeOutcome (device : Device) (path : String) (tree : FileTree) :
    RemoveOutcome device path tree (outcome (removeIfExists path) device tree) := by
  unfold removeIfExists
  rcases remove_cases device tree path with ⟨after, removed, ran⟩ | ⟨error, ran, why⟩
  · rw [outcome_tryCatch_ok (outcome_bind_ok ran _)]
    exact .removed removed
  · rw [outcome_tryCatch_error (outcome_bind_error ran _)]
    split
    · rename_i missing
      rcases why with kept | ⟨notMissing, _⟩
      · exact .missing (lookup_eq_of_not_removed kept missing)
      · exact absurd missing notMissing
    · rename_i notMissing
      refine .stopped notMissing fun spares => ?_
      rcases why with kept | ⟨_, refuses⟩
      · exact kept
      · exact absurd spares refuses

end Writing

end FileTree.Step

/-- A file that no device refuses is read. -/
theorem Device.read_of_file {device : Device} {tree : FileTree} {path : String} {content : Bytes}
    (spares : device.Spares path) (isFile : tree.lookup path = .ok (.file content)) :
    device.read tree path = .ok content := by
  have opens : (FileTree.Step.openToRead path).outcome device tree =
      (.ok (.file content), tree) := by
    rw [FileTree.Step.outcome_openToRead, spares.lookup_eq, isFile]
    rfl
  rw [Device.read, FileTree.Step.readFile, FileTree.Step.outcome_bind_ok opens]
  rcases FileTree.Step.readToEnd_cases device tree path (.file content) with
    ⟨found, same, ran⟩ | ⟨error, _, refused⟩
  · cases same
    rw [ran]
  · cases (refused spares).1

end OwnerKeys
