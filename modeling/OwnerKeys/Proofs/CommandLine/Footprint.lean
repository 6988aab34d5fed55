import OwnerKeys.CommandLine
import OwnerKeys.Proofs.Export.Files
import OwnerKeys.Proofs.Request.Footprint

/-!
# What commands may change

Every command has a footprint of at most two variables, and calls the store to write or delete no
others. Commands that only show something have none; export is one of them as far as the store is
concerned, for what it writes are files. Key files are read before anything else, and a key file
that cannot be read stops a command before it has done anything.
-/

namespace OwnerKeys

/-- The variables that a command may change. -/
def Command.footprint : Command → List Variable
  | .importKeys _ | .revoke | .reset => [.pendingEnrollment, .enrollmentTag]
  | .deleteKeys _ | .revokeDelete => [.pendingDeletion, .deletionTag]
  | .password => [.pendingPassword]
  | .disableValidation | .enableValidation => [.pendingValidation]
  | .listEnrolled | .listNew | .listDelete | .exportKeys _ | .secureBootState | .testKey _ => []

namespace CommandLine

variable {Store Error Other Result : Type}

/-! ## Parts of commands -/

theorem outcome_mapError (change : Error → Other) (attempt : Attempt Store Error Result)
    (machine : Machine Store) :
    Attempt.outcome (mapError change attempt) machine =
      ((attempt.outcome machine).1.mapError change, (attempt.outcome machine).2) := rfl

theorem keeps_mapError {relation : Machine Store → Machine Store → Prop}
    {attempt : Attempt Store Error Result} (kept : attempt.Keeps relation)
    (change : Error → Other) : (mapError change attempt).Keeps relation :=
  kept

theorem quiet_print (output : Output) (text : String) :
    (print output text : Attempt Store CommandError Unit).Keeps Machine.Quiet := by
  have shows : (Attempt.print output text : Attempt Store String Unit).Shows output ()
      [.printed text] := Attempt.shows_print text
  exact keeps_mapError (shows.quiet (by simp [Event.IsChange])) _

theorem quiet_note (notice : Notice) :
    (perform (Action.note notice) : Attempt Store Error Unit).Keeps Machine.Quiet :=
  Attempt.keeps_perform (Action.quiet_emit (by simp [Event.IsChange]))

theorem quiet_prints (output : Output) (lineOf : String → String) (names : List String) :
    (names.forM fun name => print output (lineOf name) : Attempt Store CommandError Unit).Keeps
      Machine.Quiet := by
  induction names with
  | nil => exact Attempt.keeps_pure ()
  | cons name later ih => exact (quiet_print output (lineOf name)).bind fun _ => ih

/-! ## Key files -/

section Files

variable [HasFiles Store] {device : Device}

/-- Reading a key file leaves the machine alone. -/
theorem outcome_readKeyFile (device : Device) (path : String) (machine : Machine Store) :
    Attempt.outcome (readKeyFile device path) machine =
      ((device.read (HasFiles.files machine.store) path).mapError .keyFile, machine) := by
  unfold readKeyFile
  rw [Attempt.outcome_get_bind]
  cases device.read (HasFiles.files machine.store) path with
  | ok content => rfl
  | error error => rfl

/-- Either all key files are read, or the reading stops at one that cannot be read. The machine is
left alone in both cases. -/
theorem outcome_readCandidates (device : Device) (paths : List String) (machine : Machine Store) :
    (∃ candidates,
        Attempt.outcome (readCandidates device paths) machine = (.ok candidates, machine) ∧
        ∀ path ∈ paths, ∃ content,
          device.read (HasFiles.files machine.store) path = .ok content) ∨
      ∃ error, Attempt.outcome (readCandidates device paths) machine =
        (.error (.keyFile error), machine) := by
  induction paths with
  | nil => exact .inl ⟨[], rfl, by simp⟩
  | cons path later ih =>
      have first := outcome_readKeyFile device path machine
      unfold readCandidates
      cases read : device.read (HasFiles.files machine.store) path with
      | error error =>
          rw [read] at first
          exact .inr ⟨error, Attempt.outcome_bind_error first _⟩
      | ok content =>
          rw [read] at first
          rw [Attempt.outcome_bind_ok first]
          rcases ih with ⟨candidates, others, readable⟩ | ⟨error, failed⟩
          · refine .inl ⟨⟨path, content⟩ :: candidates, Attempt.outcome_bind_ok others _, ?_⟩
            intro other mem
            rcases List.mem_cons.mp mem with rfl | inLater
            · exact ⟨content, read⟩
            · exact readable other inLater
          · exact .inr ⟨error, Attempt.outcome_bind_error failed _⟩

/-- Key files that can be read give their keys. -/
theorem outcome_readCandidates_of_read {candidates : List Candidate} {machine : Machine Store}
    (readable : ∀ candidate ∈ candidates,
      device.read (HasFiles.files machine.store) candidate.name = .ok candidate.data) :
    Attempt.outcome (readCandidates device (candidates.map (·.name))) machine =
      (.ok candidates, machine) := by
  induction candidates with
  | nil => rfl
  | cons candidate later ih =>
      have first := outcome_readKeyFile device candidate.name machine
      rw [readable candidate List.mem_cons_self] at first
      have others := ih fun other mem => readable other (List.mem_cons_of_mem _ mem)
      rw [List.map_cons, readCandidates, Attempt.outcome_bind_ok first,
        Attempt.outcome_bind_ok others]
      rfl

theorem quiet_readCandidates (device : Device) (paths : List String) :
    (readCandidates device paths : Attempt Store CommandError (List Candidate)).Keeps
      Machine.Quiet := by
  intro machine
  rcases outcome_readCandidates device paths machine with ⟨candidates, ran, _⟩ | ⟨error, ran⟩
  · rw [ran]
    exact Machine.Adds.refl machine
  · rw [ran]
    exact Machine.Adds.refl machine

theorem quiet_readKeyFile (device : Device) (path : String) :
    (readKeyFile device path : Attempt Store CommandError Bytes).Keeps Machine.Quiet := by
  intro machine
  rw [outcome_readKeyFile]
  exact Machine.Adds.refl machine

end Files

/-! ## Listings -/

theorem quiet_decodeNoted (list : Bytes) :
    (Listing.decodeNoted list : Action Store SignatureList.Decoded).Keeps Machine.Quiet := by
  unfold Listing.decodeNoted
  extract_lets decoded finish
  split
  · exact (Action.quiet_emit (by simp [Event.IsChange])).bind fun _ => Action.keeps_pure _
  · exact Action.keeps_pure _

theorem not_isChange_of_mem_shownFrom {number : Nat} {entries : List SignatureList.Entry}
    {event : Event} (mem : event ∈ Listing.shownFrom number entries) : ¬event.IsChange := by
  rcases List.mem_flatMap.mp mem with ⟨⟨entry, place⟩, _, isShown⟩
  rcases List.mem_cons.mp isShown with rfl | isShown
  · simp [Event.IsChange]
  · rcases List.mem_cons.mp isShown with rfl | isShown
    · simp [Event.IsChange]
    · split at isShown
      · simp [List.mem_singleton.mp isShown, Event.IsChange]
      · simp [List.mem_singleton.mp isShown, Event.IsChange]
      · simp at isShown

theorem quiet_listKeys (output : Output) (list : Bytes) :
    (Listing.listKeys output list : Attempt Store String Nat).Keeps Machine.Quiet := by
  refine (Listing.shows_listKeys list).quiet fun event mem => ?_
  rcases List.mem_append.mp mem with warns | isShown
  · unfold Listing.warning at warns
    split at warns
    · simp [List.mem_singleton.mp warns, Event.IsChange]
    · simp at warns
  · exact not_isChange_of_mem_shownFrom isShown

end CommandLine

/-! ## Exports -/

/-- Between two machines files may have been written, but nothing was tried that could have changed
a variable. -/
structure Machine.OnlyFiles {Store : Type} [HasFiles Store] (before after : Machine Store) :
    Prop where
  /-- No call could have changed a variable. -/
  calls : Calls [] before after
  /-- The store has had its file tree replaced, any number of times. -/
  exists_trees : ∃ trees : List FileTree, after.store = trees.foldl HasFiles.withFiles before.store

namespace Machine.OnlyFiles

variable {Store : Type} [HasFiles Store] {before middle after : Machine Store}

theorem of_quiet (quiet : Quiet before after) : OnlyFiles before after := by
  rcases quiet.trace_eq with ⟨events, trace, unchanging⟩
  exact ⟨⟨events, trace, fun event mem =>
    event.staysWithin_of_not_isChange (unchanging event mem) []⟩, [], quiet.store_eq⟩

theorem trans (first : OnlyFiles before middle) (second : OnlyFiles middle after) :
    OnlyFiles before after := by
  rcases first.exists_trees with ⟨earlier, firstStore⟩
  rcases second.exists_trees with ⟨later, secondStore⟩
  refine ⟨first.calls.trans second.calls, earlier ++ later, ?_⟩
  rw [secondStore, firstStore, List.foldl_append]

instance : IsPreorder (Machine Store) OnlyFiles where
  refl machine := of_quiet (Adds.refl machine)
  trans _ _ _ := trans

end Machine.OnlyFiles

namespace Export

variable {Store : Type} [HasFiles Store]

theorem onlyFiles_writeFile (device : Device) (path : String) (content : Bytes) :
    (writeFile device path content : Action Store _).Keeps Machine.OnlyFiles := by
  intro machine
  rw [outcome_writeFile]
  exact ⟨.advance machine _ (by simp), [_], rfl⟩

/-- Exporting keys writes files and does nothing else. -/
theorem onlyFiles_exportKeys (device : Device) (list : Bytes) (directory : String) :
    (exportKeys device list directory : Attempt Store ExportError (List String)).Keeps
      Machine.OnlyFiles := by
  have entries (index : Nat) (entries : List SignatureList.Entry) :
      (exportEntries device directory index entries : Attempt Store ExportError _).Keeps
        Machine.OnlyFiles := by
    induction entries generalizing index with
    | nil => exact Attempt.keeps_pure []
    | cons entry later ih =>
        unfold exportEntries
        split
        · refine (Attempt.keeps_perform (onlyFiles_writeFile _ _ _)).bind fun written => ?_
          split
          · exact Attempt.keeps_throw _
          · exact (ih (index + 1)).bind fun _ => Attempt.keeps_pure _
        · have notes : (perform (Action.note (.hashNotExported index)) :
              Attempt Store ExportError Unit).Keeps Machine.OnlyFiles :=
            (CommandLine.quiet_note _).mono fun _ _ => Machine.OnlyFiles.of_quiet
          exact notes.bind fun _ => ih (index + 1)
  have decodes : (perform (Listing.decodeNoted list) :
      Attempt Store ExportError SignatureList.Decoded).Keeps Machine.OnlyFiles :=
    (CommandLine.quiet_decodeNoted list).mono fun _ _ => Machine.OnlyFiles.of_quiet
  exact decodes.bind fun decoded => entries 1 decoded.entries

end Export

/-! ## Commands -/

namespace CommandLine

variable {Store : Type} [VariableStore Store]

theorem quiet_list (output : Output) (var : Variable) :
    (list output var : Attempt Store CommandError Unit).Keeps Machine.Quiet :=
  (keeps_mapError (Query.quiet_readExistingList var) _).bind fun bytes =>
    (keeps_mapError (quiet_listKeys output bytes) _).bind fun _ => Attempt.keeps_pure ()

theorem quiet_showSecureBoot (output : Output) :
    (showSecureBoot output : Attempt Store CommandError Unit).Keeps Machine.Quiet :=
  (keeps_mapError Policy.quiet_secureBootState _).bind fun _ => quiet_print output _

theorem within_revoke (kind : RequestKind) :
    (revoke kind : Attempt Store CommandError Unit).Keeps (Machine.Within kind.footprint) := by
  refine (keeps_mapError (Staging.within_revoke kind) _).bind fun found => ?_
  split
  · exact Attempt.within_of_quiet (quiet_note _) _
  · exact Attempt.keeps_pure ()

variable [HasFiles Store]

theorem quiet_testKey (conditions : Conditions) (file : String) :
    (testKey conditions file : Attempt Store CommandError Unit).Keeps Machine.Quiet := by
  refine (quiet_readKeyFile conditions.device file).bind fun key => ?_
  have looks : (perform (Query.isEnrolled key) : Attempt Store CommandError Bool).Keeps
      Machine.Quiet :=
    (Query.looks_anyListContains key Query.trustedLists).mono fun _ _ => Machine.Looks.quiet
  refine looks.bind fun enrolled => (quiet_print conditions.output _).bind fun _ => ?_
  split
  · exact Attempt.keeps_throw _
  · exact Attempt.keeps_pure ()

theorem within_stage (conditions : Conditions) (kind : RequestKind) (files : List String) :
    (stage conditions kind files : Attempt Store CommandError Unit).Keeps
      (Machine.Within kind.footprint) := by
  refine (Attempt.within_of_quiet (quiet_readCandidates _ files) _).bind fun candidates => ?_
  refine (keeps_mapError (Staging.within_issue kind candidates) _).bind fun report => ?_
  exact Attempt.within_of_quiet (quiet_prints _ skipLine report.skipped) _

theorem onlyFiles_exportEnrolled (device : Device) (directory : String) :
    (exportEnrolled device directory : Attempt Store CommandError Unit).Keeps
      Machine.OnlyFiles := by
  refine Attempt.Keeps.bind ?_ fun bytes => ?_
  · exact keeps_mapError
      ((Query.quiet_readExistingList _).mono fun _ _ => Machine.OnlyFiles.of_quiet) _
  · refine (keeps_mapError (Export.onlyFiles_exportKeys device bytes directory) _).bind
      fun written => ?_
    exact (quiet_note _).mono fun _ _ => Machine.OnlyFiles.of_quiet

/-- What may be between the machines before and after a command: it stays within its footprint, save
that exports write files. -/
def Effect (command : Command) (before after : Machine Store) : Prop :=
  match command with
  | .exportKeys _ => Machine.OnlyFiles before after
  | _ => Machine.Within command.footprint before after

/-- No command calls the store to write or delete a variable outside of its footprint. -/
theorem Effect.calls {command : Command} {before after : Machine Store}
    (effect : Effect command before after) : Machine.Calls command.footprint before after := by
  cases command with
  | exportKeys directory => exact Machine.OnlyFiles.calls effect
  | _ => exact Machine.Within.calls effect

/-- All but exports do nothing besides. -/
theorem Effect.within {command : Command} {before after : Machine Store}
    (effect : Effect command before after)
    (noExport : ∀ directory, command ≠ .exportKeys directory) :
    Machine.Within command.footprint before after := by
  cases command with
  | exportKeys directory => exact absurd rfl (noExport directory)
  | _ => exact effect

theorem effect_run (command : Command) (conditions : Conditions) (machine : Machine Store) :
    Effect command machine (Attempt.outcome (run command conditions) machine).2 := by
  cases command with
  | listEnrolled => exact .of_quiet (quiet_list _ _ machine)
  | listNew => exact .of_quiet (quiet_list _ _ machine)
  | listDelete => exact .of_quiet (quiet_list _ _ machine)
  | importKeys files => exact within_stage conditions .enroll files machine
  | deleteKeys files => exact within_stage conditions .delete files machine
  | revoke => exact within_revoke .enroll machine
  | revokeDelete => exact within_revoke .delete machine
  | exportKeys directory => exact onlyFiles_exportEnrolled conditions.device directory machine
  | password => exact keeps_mapError Policy.within_setPassword _ machine
  | disableValidation => exact keeps_mapError (Policy.within_setValidation _) _ machine
  | enableValidation => exact keeps_mapError (Policy.within_setValidation _) _ machine
  | secureBootState => exact .of_quiet (quiet_showSecureBoot _ machine)
  | testKey file => exact .of_quiet (quiet_testKey conditions file machine)
  | reset => exact keeps_mapError (Staging.within_reset .enroll) _ machine

end CommandLine

end OwnerKeys
