import OwnerKeys.Proofs.CommandLine.Footprint
import OwnerKeys.Proofs.Export.Variables
import OwnerKeys.Proofs.Request.Reissue
import OwnerKeys.Proofs.Request.Supersession

/-!
# What can be done with exported keys

The key files that an export writes hold exactly the certificates of the enrolled list, however
broken the list is. So none of them needs to be imported, and all of them can be deleted; and since
a key is accepted once only, a certificate that is enrolled several times is deleted once, although
there are several files with it. Whatever the commands print is taken here, and no file is refused.
-/

namespace OwnerKeys

namespace Export

open SignatureList

/-- The certificates among the entries of a list. -/
def certificatesIn (list : Bytes) : List Bytes :=
  ((decode list).entries.filter (·.kind = .x509)).map (·.payload)

/-- The key files that an export of a list writes, with the keys in them. -/
def keyFiles (directory : String) (list : Bytes) : List Candidate :=
  (certificates (decode list).entries 1).map fun (number, key) => ⟨path directory number, key⟩

theorem map_data_keyFiles (directory : String) (list : Bytes) :
    (keyFiles directory list).map (·.data) = certificatesIn list := by
  have entries : (decode list).entries = ((decode list).entries.zipIdx 1).map (·.1) :=
    (List.zipIdx_map_fst 1 _).symm
  rw [certificatesIn, entries, List.filter_map, keyFiles, certificates]
  simp only [List.map_map]
  rfl

theorem certificatesIn_subset {list key : Bytes} (mem : key ∈ certificatesIn list) :
    key ∈ (decode list).payloads := by
  rcases List.mem_map.mp mem with ⟨entry, filtered, rfl⟩
  exact List.mem_map_of_mem (List.mem_of_mem_filter filtered)

theorem FilesWritten.read_keyFiles {directory : String} {list : Bytes} {before after : FileTree}
    (files : FilesWritten directory (certificates (decode list).entries 1) before after) :
    ∀ candidate ∈ keyFiles directory list,
      Device.sound.read after candidate.name = .ok candidate.data := by
  intro candidate mem
  rcases List.mem_map.mp mem with ⟨⟨number, key⟩, numbered, rfl⟩
  exact Device.read_of_file (Device.sound_spares _) (files.lookup_eq number key numbered)

end Export

namespace CommandLine

variable {Store : Type}

/-- Lines are printed one after another. -/
theorem outcome_prints (lineOf : String → String) (names : List String)
    (machine : Machine Store) :
    Attempt.outcome (names.forM fun name => print .willing (lineOf name)) machine =
      (.ok (), machine.advance machine.store (names.map fun name => .printed (lineOf name))) := by
  induction names generalizing machine with
  | nil => simp [Machine.advance]
  | cons name later ih =>
      have first : Attempt.outcome (print .willing (lineOf name)) machine =
          (.ok (), machine.advance machine.store [.printed (lineOf name)]) := rfl
      have step := Attempt.outcome_bind_ok first fun _ =>
        later.forM fun name => print .willing (lineOf name)
      rw [ih, Machine.advance_advance] at step
      exact step

variable [VariableStore Store] [HasFiles Store]

/-- An export that does not fail has read the enrolled list and has written its certificates. -/
theorem exportEntries_of_export {directory : String} {before exported : Machine Store}
    {enrolled : Value}
    (found : VariableStore.read before.store .enrolledKeys = .ok (some enrolled))
    (ran : Attempt.outcome (run (.exportKeys directory)) before = (.ok (), exported)) :
    ∃ started paths after, started.store = before.store ∧ after.store = exported.store ∧
      Attempt.outcome (Export.exportEntries .sound directory 1
        (SignatureList.decode enrolled.data).entries) started = (.ok paths, after) := by
  have reading : Attempt.outcome (mapError CommandError.request
      (Query.readExistingList .enrolledKeys)) before =
      (.ok enrolled.data, before.advance before.store [.called .read .enrolledKeys]) := by
    rw [outcome_mapError, Query.readExistingList, Attempt.outcome_perform_bind,
      Action.outcome_readVariable, found]
    rfl
  change Attempt.outcome (exportEnrolled .sound directory) before = _ at ran
  rw [exportEnrolled, Attempt.outcome_bind_ok reading] at ran
  rcases writing : Attempt.outcome (mapError CommandError.exporting
    (Export.exportKeys .sound enrolled.data directory))
    (before.advance before.store [.called .read .enrolledKeys]) with ⟨error | paths, after⟩
  · rw [Attempt.outcome_bind_error writing] at ran
    cases ran
  · rw [Attempt.outcome_bind_ok writing] at ran
    rw [outcome_mapError, Export.exportKeys_eq] at writing
    generalize started : Machine.advance _ _ (Listing.warning enrolled.data) = start at writing
    rcases wrote : Attempt.outcome (Export.exportEntries .sound directory 1
      (SignatureList.decode enrolled.data).entries) start with ⟨error | written, final⟩
    · rw [wrote] at writing
      cases writing
    · rw [wrote] at writing
      cases writing
      cases ran
      refine ⟨start, _, final, ?_, rfl, wrote⟩
      rw [← started]
      rfl

/-- What an export that does not fail has done to the files. -/
theorem filesWritten_of_export [LawfulFiles Store] {directory : String}
    {before exported : Machine Store} {enrolled : Value}
    (found : VariableStore.read before.store .enrolledKeys = .ok (some enrolled))
    (ran : Attempt.outcome (run (.exportKeys directory)) before = (.ok (), exported)) :
    Export.FilesWritten directory
      (Export.certificates (SignatureList.decode enrolled.data).entries 1)
      (HasFiles.files before.store) (HasFiles.files exported.store) := by
  rcases exportEntries_of_export found ran with ⟨started, paths, after, same, sameToo, wrote⟩
  have ending := Export.exportOutcome .sound directory 1
    (SignatureList.decode enrolled.data).entries started
  simp only [wrote] at ending
  rw [same, sameToo] at ending
  cases ending with
  | written files => exact files

/-- An export that does not fail leaves the variables as they were. -/
theorem read_of_export [KeyFilesApart Store] {directory : String}
    {before exported : Machine Store} {enrolled : Value}
    (found : VariableStore.read before.store .enrolledKeys = .ok (some enrolled))
    (ran : Attempt.outcome (run (.exportKeys directory)) before = (.ok (), exported))
    {var : Variable} (plain : var.IsPlain) :
    VariableStore.read exported.store var = VariableStore.read before.store var := by
  rcases exportEntries_of_export found ran with ⟨started, paths, after, same, sameToo, wrote⟩
  rw [← same] at found ⊢
  rw [← sameToo]
  exact Export.read_exportEntries (by decide) plain found wrote

/-- Where the files can be read and hold the keys of a batch, staging them means to issue the batch
and then to print a line for each key that is skipped. -/
theorem outcome_stage (kind : RequestKind) {candidates : List Candidate} {machine : Machine Store}
    (readable : ∀ candidate ∈ candidates,
      Device.sound.read (HasFiles.files machine.store) candidate.name = .ok candidate.data)
    {report : RequestReport} {after : Machine Store}
    (issued : Attempt.outcome (Staging.issue kind candidates) machine = (.ok report, after)) :
    Attempt.outcome (stage {} kind (candidates.map (·.name))) machine =
      (.ok (), after.advance after.store
        (report.skipped.map fun name => .printed (skipLine name))) := by
  have done : Attempt.outcome (mapError CommandError.request (Staging.issue kind candidates))
      machine = (.ok report, after) := by
    rw [outcome_mapError, issued]
    rfl
  rw [stage, Attempt.outcome_bind_ok (outcome_readCandidates_of_read readable),
    Attempt.outcome_bind_ok done, outcome_prints]

/-- All files are skipped: a line is printed for each, in order, and nothing else is; nobody is
asked, and nothing is tried that could change the store. -/
structure SkipsAll (files : List String) (machine : Machine Store)
    (ran : Except CommandError Unit × Machine Store) : Prop where
  result_eq : ran.1 = .ok ()
  store_eq : ran.2.store = machine.store
  answers_eq : ran.2.answers = machine.answers
  exists_events : ∃ events, ran.2.trace = machine.trace ++ events ∧
    (∀ event ∈ events, ¬event.IsChange ∧ ¬event.IsPrompt) ∧
    events.filter (outputOf · ≠ "") = files.map fun file => .printed (skipLine file)

theorem skipLine_ne_empty (name : String) : skipLine name ≠ "" := by
  simp [skipLine]

theorem outputOf_of_isSearch {event : Event} (search : event.IsSearch) : outputOf event = "" := by
  cases event with
  | called operation var => rfl
  | noted notice => rfl
  | entered phase => rfl
  | _ => exact absurd search (by simp [Event.IsSearch])

/-- Keys that are not eligible are skipped. -/
theorem skipsAll_of_not_eligible (kind : RequestKind) {candidates : List Candidate}
    {machine : Machine Store}
    (readable : ∀ candidate ∈ candidates,
      Device.sound.read (HasFiles.files machine.store) candidate.name = .ok candidate.data)
    (unfit : ∀ candidate ∈ candidates, ¬Query.Eligible machine.store kind candidate.data) :
    SkipsAll (candidates.map (·.name)) machine
      (Attempt.outcome (stage {} kind (candidates.map (·.name))) machine) := by
  rcases Staging.issue_of_not_eligible unfit with ⟨after, issued, searches, answers⟩
  rcases searches.trace_eq with ⟨events, trace, ofSearch⟩
  have silent : events.filter (outputOf · ≠ "") = [] := by
    rw [List.filter_eq_nil_iff]
    intro event mem
    simp [outputOf_of_isSearch (ofSearch event mem)]
  rw [outcome_stage kind readable issued]
  -- First come the events of the search, which print nothing, and then the lines.
  refine ⟨rfl, searches.store_eq, answers,
    events ++ (candidates.map (·.name)).map fun name => .printed (skipLine name), ?_, ?_, ?_⟩
  · rw [Machine.trace_advance, trace, List.append_assoc]
  · intro event mem
    rcases List.mem_append.mp mem with inSearch | isLine
    · exact (ofSearch event inSearch).not_isChange_and_not_isPrompt
    · rcases List.mem_map.mp isLine with ⟨name, _, rfl⟩
      simp [Event.IsChange, Event.IsPrompt]
  · rw [List.filter_append, silent, List.nil_append, List.filter_eq_self.mpr]
    intro event mem
    rcases List.mem_map.mp mem with ⟨name, _, rfl⟩
    exact decide_eq_true (skipLine_ne_empty name)

/-- Where no deletion is pending and the store takes the request, keys that are enrolled are all
staged for deletion under the password that is confirmed: each of them once, where it occurs first,
and nothing else. -/
theorem deletes_all_enrolled [LawfulStore Store] {candidates : List Candidate}
    {machine : Machine Store} {given later : List Answer} {password : Password}
    {tag : Option Value}
    (readable : ∀ candidate ∈ candidates,
      Device.sound.read (HasFiles.files machine.store) candidate.name = .ok candidate.data)
    (enrolled : ∀ candidate ∈ candidates,
      candidate.data ∈ Query.keysIn machine.store .enrolledKeys)
    (notEmpty : candidates ≠ [])
    (absent : VariableStore.read machine.store .pendingDeletion = .ok none)
    (tagReadable : VariableStore.read machine.store .deletionTag = .ok tag)
    (takes : Staging.TakesRequest .delete machine.store)
    (answers : machine.answers = given ++ later)
    (confirmed : Dialogue.Confirmed given password) :
    ∃ after list, Attempt.outcome (stage {} .delete (candidates.map (·.name))) machine =
        (.ok (), after) ∧
      Staging.ListStaged .delete after.store list password ∧
      SignatureList.decode list = ⟨(candidates.map (·.data)).eraseDups.map
        (⟨.x509, Variable.shimVendor, ·⟩), [], none⟩ := by
  have nothingPending : Query.keysIn machine.store .pendingDeletion = [] := by
    simp [Query.keysIn, Query.listIn, absent, SignatureList.decode_nil,
      SignatureList.Decoded.payloads]
  -- As no deletion is pending, all keys are fresh, apart from those that occur again.
  have eligible : ∀ candidate ∈ candidates,
      Query.Eligible machine.store .delete candidate.data := by
    intro candidate mem
    refine ⟨enrolled candidate mem, ?_⟩
    rw [nothingPending]
    exact List.not_mem_nil
  have allEligible : (candidates.map (·.data)).filter (Query.Eligible machine.store .delete ·) =
      candidates.map (·.data) := by
    rw [List.filter_eq_self]
    intro key mem
    rcases List.mem_map.mp mem with ⟨candidate, inBatch, rfl⟩
    exact decide_eq_true (eligible candidate inBatch)
  rcases List.exists_mem_of_ne_nil _ notEmpty with ⟨first, isFirst⟩
  rcases Staging.exists_issueOutcome .delete candidates machine with
    ⟨result, stopped, ending, issued⟩
  rcases ending.commits_of_absent absent takes confirmed answers
    ⟨first, isFirst, eligible first isFirst⟩
    (fun candidate mem => SignatureList.recordSize_lt_of_mem_payloads (enrolled candidate mem) _)
    with ⟨report, list, rfl, commits, _⟩
  have decoded := commits.decode_eq absent
    fun candidate mem => SignatureList.payload_ne_nil (enrolled candidate mem)
  rw [allEligible] at decoded
  exact ⟨_, list, outcome_stage .delete readable issued, commits.listStaged tagReadable, decoded⟩

/-- Certificates and a digest are enrolled, and there is a directory for their files. -/
def enrolledMix : Machine (Hosted Memory) where
  store := ⟨Memory.empty.insert .enrolledKeys ⟨.standard, Export.mixedList⟩, Export.staleTree⟩
  answers := []

end CommandLine

end OwnerKeys
