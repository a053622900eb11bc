import VoxType.Audio.Offline
import VoxType.Daemon.State
import VoxType.Library.Decimal
import VoxType.Library.FilePrograms

/-!
# The file of a recording

The recorder writes into a file of the runtime directory. A capture that fails
to start, to be read or to stop takes its file with it, where the disk lets it.
-/

namespace VoxType

set_option autoImplicit false

namespace Capture

open Effects.Call (attempt throw ofExcept)

/-- What the surroundings of one call answer: the runtime directory, the process, the clock, the
recorder up to its first 50 ms, its end, the faults of the disk, and the one that the removals of a
path meet. -/
structure CaptureAnswers where
  directory : Except String String
  processId : Nat
  timestamp : Nat
  launch : Except String Unit
  ended : Except String Unit
  backend : String
  faults : List Files.Fault
  removals : String → Files.Fault

/-- `recording_path` -/
def recordingPath (directory : String) (processId timestamp : Nat) : String :=
  directory ++ "/recording-" ++ toString processId ++ "-" ++ toString timestamp ++ ".pcm"

/-- The names of a directory that are taken for those of recordings. -/
def isRecordingName (name : String) : Bool :=
  "recording-".toList.isPrefixOf name.toList && ".pcm".toList.isSuffixOf name.toList

/-- What a cleanup is answered: the names that are listed, where they can be read, and the faults of
the removals. -/
structure CleanupAnswers where
  entries : Except String (List (Except String String))
  removals : String → Files.Fault

def cleanupEntries (directory : String) (removals : String → Files.Fault) :
    List (Except String String) → Files.FileCall Unit
  | [] => pure ()
  | .error _ :: rest => cleanupEntries directory removals rest
  | .ok name :: rest =>
    if isRecordingName name then do
      Files.discard (directory ++ "/" ++ name) (removals (directory ++ "/" ++ name))
      cleanupEntries directory removals rest
    else cleanupEntries directory removals rest

def cleanupDirectory (directory : String) (answers : CleanupAnswers) : Files.FileCall Unit :=
  match answers.entries with
  | .error _ => pure ()
  | .ok entries => cleanupEntries directory answers.removals entries

/-- A file that `recording_path` names. -/
def IsRecording (path : String) : Prop :=
  ∃ directory processId timestamp, path = recordingPath directory processId timestamp

/-- The file that `recording_path` names in these surroundings. -/
def CaptureAnswers.Names (self : CaptureAnswers) (path : String) : Prop :=
  ∃ directory, self.directory = .ok directory ∧
    path = recordingPath directory self.processId self.timestamp

/-- A recording in progress; `reader` is what its reader thread ends with. -/
structure Recording where
  path : String
  reader : Except String Unit

/-- `start_with_device`; the path is guarded until the recorder runs. -/
def startWithDevice (answers : CaptureAnswers) : Files.FileCall String := do
  let directory ← ofExcept answers.directory
  let path := recordingPath directory answers.processId answers.timestamp
  match ← attempt (do
    Files.create path
    ofExcept answers.launch : Files.FileCall Unit) with
  | .ok () => pure path
  | .error error => do
    Files.discard path (answers.removals path)
    throw error

namespace Recording

/-- The parts of `stop` that may fail. -/
def finish (self : Recording) (answers : CaptureAnswers) : Files.FileCall Nat := do
  ofExcept answers.ended
  ofExcept self.reader
  Files.size self.path

/-- A recording that is dropped takes its file with it. -/
def stop (self : Recording) (answers : CaptureAnswers) : Files.FileCall CapturedAudio := do
  match ← attempt (self.finish answers) with
  | .ok bytes =>
    pure
      { path := self.path
        bytes
        durationMillis := Vad.satMul u64Max bytes 1000 / 32000
        backend := answers.backend }
  | .error error => do
    Files.discard self.path (answers.removals self.path)
    throw error

/-- The drop that follows removes the file once more, and meets the same fault. -/
def cancel (self : Recording) (answers : CaptureAnswers) : Files.FileCall Unit :=
  Files.discard self.path (answers.removals self.path)

/-- Bytes from the recorder; the reader thread ends with the first write that fails. -/
def receive (self : Recording) (bytes : List UInt8) : Files.FileCall Recording :=
  match self.reader with
  | .error _ => pure self
  | .ok () => do
    match ← attempt (Files.writeAll self.path bytes : Files.FileCall Unit) with
    | .ok () => pure self
    | .error message => pure { self with reader := .error message }

end Recording

/-- The errors of the adapter. -/
def startFailed (message : String) : VoxError :=
  VoxError.new .unavailable "audio.start_failed" message

def stopFailed (message : String) : VoxError :=
  VoxError.new .unavailable "audio.stop_failed" message

/-- The name of a recording without its extension. -/
def recordingStem (processId timestamp : Nat) : List Char :=
  "recording-".toList ++ (Nat.toDigits 10 processId ++ '-' :: Nat.toDigits 10 timestamp)

theorem recordingPath_toList (directory : String) (processId timestamp : Nat) :
    (recordingPath directory processId timestamp).toList =
      directory.toList ++ '/' :: (recordingStem processId timestamp ++ ".pcm".toList) := by
  have hName : "/recording-".toList = '/' :: "recording-".toList := rfl
  have hDash : "-".toList = ['-'] := rfl
  unfold recordingPath recordingStem
  simp only [String.toList_append, hName, hDash, Nat.toString_eq_repr, Nat.toList_repr,
    List.append_assoc, List.cons_append, List.nil_append]

theorem mem_recordingStem {processId timestamp : Nat} {c : Char}
    (h : c ∈ recordingStem processId timestamp) : c ≠ '/' ∧ c ≠ '.' := by
  have hDigits : ∀ {n : Nat}, c ∈ Nat.toDigits 10 n → c ≠ '/' ∧ c ≠ '.' := by
    intro n hMem
    have hDigit := RustText.isDigit_toDigits c hMem
    constructor <;> rintro rfl <;> exact absurd hDigit (by decide)
  unfold recordingStem at h
  simp only [List.mem_append, List.mem_cons] at h
  rcases h with h | h | rfl | h
  · have hName : ("recording-".toList.all fun c => c != '/' && c != '.') = true := by decide
    simpa using List.all_eq_true.mp hName c h
  · exact hDigits h
  · decide
  · exact hDigits h

/-- A recording is its directory and a name that a cleanup looks for. -/
theorem recordingPath_name (directory : String) (processId timestamp : Nat) :
    ∃ name, isRecordingName name = true ∧
      recordingPath directory processId timestamp = directory ++ "/" ++ name := by
  have hName : (String.ofList (recordingStem processId timestamp ++ ".pcm".toList)).toList =
      recordingStem processId timestamp ++ ".pcm".toList := String.toList_ofList
  refine ⟨String.ofList (recordingStem processId timestamp ++ ".pcm".toList), ?_, ?_⟩
  · rw [isRecordingName, Bool.and_eq_true, List.isPrefixOf_iff_prefix, List.isSuffixOf_iff_suffix,
      hName]
    refine ⟨?_, List.suffix_append _ _⟩
    unfold recordingStem
    simp only [List.append_assoc]
    exact List.prefix_append _ _
  · have hSlash : "/".toList = ['/'] := rfl
    apply String.toList_injective
    simp only [recordingPath_toList, String.toList_append, hName, hSlash, List.append_assoc,
      List.singleton_append]

section Files

open Files (Disk Only only_composes)
open Effects.Call (Within)

variable (answers : CaptureAnswers) (disk : Disk)

/-- The path is one of the entries that a cleanup finds. -/
def CleanupAnswers.Lists (self : CleanupAnswers) (directory path : String) : Prop :=
  ∃ entries name, self.entries = .ok entries ∧ .ok name ∈ entries ∧ path = directory ++ "/" ++ name

/-- What a cleanup of these entries gets rid of. -/
def Cleared (directory : String) (removals : String → Files.Fault)
    (entries : List (Except String String)) (path : String) : Prop :=
  removals path = .none ∧
    ∃ name, .ok name ∈ entries ∧ isRecordingName name = true ∧ path = directory ++ "/" ++ name

/-- An entry that is skipped makes no difference. -/
theorem cleared_skipped {directory path : String} {removals : String → Files.Fault}
    {entry : Except String String} (rest : List (Except String String))
    (hSkipped : ∀ name, entry = .ok name → isRecordingName name = false) :
    Cleared directory removals (entry :: rest) path ↔ Cleared directory removals rest path := by
  refine and_congr_right fun _ => exists_congr fun name => and_congr_left fun hNamed => ?_
  rw [List.mem_cons, or_iff_right]
  intro hEntry
  rw [hSkipped name hEntry.symm] at hNamed
  cases hNamed.1

theorem cleared_cons {directory path name : String} {removals : String → Files.Fault}
    (rest : List (Except String String)) (hNamed : isRecordingName name = true) :
    Cleared directory removals (.ok name :: rest) path ↔
      (path = directory ++ "/" ++ name ∧ removals path = .none) ∨
        Cleared directory removals rest path := by
  constructor
  · rintro ⟨hRemoved, other, hMem, hOther, hPath⟩
    rcases List.mem_cons.mp hMem with hFirst | hRest
    · cases hFirst
      exact .inl ⟨hPath, hRemoved⟩
    · exact .inr ⟨hRemoved, other, hRest, hOther, hPath⟩
  · rintro (⟨hPath, hRemoved⟩ | ⟨hRemoved, other, hRest, hOther, hPath⟩)
    · exact ⟨hRemoved, name, List.mem_cons_self, hNamed, hPath⟩
    · exact ⟨hRemoved, other, List.mem_cons_of_mem _ hRest, hOther, hPath⟩

/-- A cleanup removes what it gets rid of, and changes nothing else. -/
theorem cleanupEntries_tree (directory : String) (removals : String → Files.Fault)
    (entries : List (Except String String)) (path : String) :
    (Cleared directory removals entries path →
        ((cleanupEntries directory removals entries).run disk).state.tree path = none) ∧
      (¬ Cleared directory removals entries path →
        ((cleanupEntries directory removals entries).run disk).state.tree path =
          disk.tree path) := by
  induction entries generalizing disk with
  | nil =>
    refine ⟨?_, fun _ => rfl⟩
    rintro ⟨_, _, hMem, _⟩
    cases hMem
  | cons entry rest ih =>
    cases entry with
    | error message =>
      rw [cleanupEntries, cleared_skipped rest fun name hName => by cases hName]
      exact ih disk
    | ok name =>
      rw [cleanupEntries]
      split
      · rename_i hNamed
        obtain ⟨hGone, hKept⟩ := ih
          ((Files.discard (directory ++ "/" ++ name) (removals (directory ++ "/" ++ name))).run
            disk).state
        rw [cleared_cons rest hNamed, Effects.Call.bind_ok rfl]
        by_cases hFirst : path = directory ++ "/" ++ name ∧ removals path = .none
        · obtain ⟨rfl, hRemoved⟩ := hFirst
          have hNone := Files.discard_gone (directory ++ "/" ++ name) disk
          rw [← hRemoved] at hNone
          refine ⟨fun _ => ?_, fun h => absurd (.inl ⟨rfl, hRemoved⟩) h⟩
          by_cases hRest : Cleared directory removals rest (directory ++ "/" ++ name)
          · exact hGone hRest
          · exact (hKept hRest).trans hNone
        · rw [or_iff_right hFirst]
          refine ⟨hGone, fun hRest => (hKept hRest).trans ?_⟩
          by_cases hPath : path = directory ++ "/" ++ name
          · subst hPath
            exact congrFun (Files.discard_failed _ (fun hRemoved => hFirst ⟨rfl, hRemoved⟩) disk) _
          · exact Files.discard_only _ _ disk path hPath
      · rename_i hOther
        rw [cleared_skipped rest fun other hName => by
          cases hName
          exact Bool.eq_false_iff.mpr hOther]
        exact ih disk

/-- A capture that does not start leaves no file, if it can be removed. -/
theorem startWithDevice_cases :
    ((∃ message, ((startWithDevice answers).run disk).result = .error message) ∧
      ((startWithDevice answers).run disk).state.tree = disk.tree) ∨
    ∃ path, answers.Names path ∧
      (∀ other, other ≠ path → ((startWithDevice answers).run disk).state.tree other =
        disk.tree other) ∧
      (((startWithDevice answers).run disk).result = .ok path ∨
        (∃ message, ((startWithDevice answers).run disk).result = .error message) ∧
          (answers.removals path = .none →
            ((startWithDevice answers).run disk).state.tree path = none)) := by
  rw [startWithDevice]
  cases hDirectory : answers.directory with
  | error message => exact .inl ⟨⟨message, rfl⟩, rfl⟩
  | ok directory =>
    rw [Effects.Call.ofExcept_ok_bind]
    dsimp only
    generalize hPath : recordingPath directory answers.processId answers.timestamp = path
    have hOnly : Within (Only path) (do
        Files.create path
        ofExcept answers.launch : Files.FileCall Unit) :=
      .bind (only_composes path) (Files.create_only path) fun _ => .ofExcept (only_composes path) _
    refine .inr ⟨path, ⟨directory, hDirectory, hPath.symm⟩, ?_⟩
    rw [Effects.Call.attempt_bind]
    have hFirst := hOnly disk
    generalize Effects.Call.run _ disk = o at hFirst ⊢
    obtain ⟨result, state, trace⟩ := o
    cases result with
    | ok _ => exact ⟨fun other hOther => hFirst other hOther, .inl rfl⟩
    | error error =>
      refine ⟨fun other hOther => ?_, .inr ⟨⟨error, rfl⟩, fun hRemoved => ?_⟩⟩
      · exact (Files.discard_only path _ state other hOther).trans (hFirst other hOther)
      · rw [hRemoved]
        exact Files.discard_gone path state

namespace Recording

variable (self : Recording)

/-- A recording that does not stop leaves no file, if it can be removed. -/
theorem stop_cases :
    (∀ other, other ≠ self.path → ((self.stop answers).run disk).state.tree other =
      disk.tree other) ∧
      ((∃ audio, ((self.stop answers).run disk).result = .ok audio ∧ audio.path = self.path) ∨
        (∃ message, ((self.stop answers).run disk).result = .error message) ∧
          (answers.removals self.path = .none →
            ((self.stop answers).run disk).state.tree self.path = none)) := by
  have hOnly : Within (Only self.path) (self.finish answers) :=
    .bind (only_composes _) (.ofExcept (only_composes _) _) fun _ =>
      .bind (only_composes _) (.ofExcept (only_composes _) _) fun _ disk =>
        (Files.size_same self.path disk).only self.path
  rw [stop, Effects.Call.attempt_bind]
  have hFirst := hOnly disk
  generalize (self.finish answers).run disk = o at hFirst ⊢
  obtain ⟨result, state, trace⟩ := o
  cases result with
  | ok bytes => exact ⟨fun other hOther => hFirst other hOther, .inl ⟨_, rfl, rfl⟩⟩
  | error error =>
    refine ⟨fun other hOther => ?_, .inr ⟨⟨error, rfl⟩, fun hRemoved => ?_⟩⟩
    · exact (Files.discard_only self.path _ state other hOther).trans (hFirst other hOther)
    · rw [hRemoved]
      exact Files.discard_gone self.path state

/-- What is received goes to the file of the recording. -/
theorem receive_cases (bytes : List UInt8) :
    (∀ other, other ≠ self.path → ((self.receive bytes).run disk).state.tree other =
      disk.tree other) ∧
      ∃ next, ((self.receive bytes).run disk).result = .ok next ∧ next.path = self.path := by
  rw [receive]
  cases self.reader with
  | error message => exact ⟨fun _ _ => rfl, self, rfl, rfl⟩
  | ok _ =>
    dsimp only
    rw [Effects.Call.attempt_bind]
    have hFirst := Files.writeAll_only self.path bytes disk
    generalize (Files.writeAll self.path bytes).run disk = o at hFirst ⊢
    obtain ⟨result, state, trace⟩ := o
    cases result with
    | ok _ => exact ⟨fun other hOther => hFirst other hOther, self, rfl, rfl⟩
    | error message => exact ⟨fun other hOther => hFirst other hOther, _, rfl, rfl⟩

end Recording

theorem analyzeFile_only (path : String) (config : Vad.VadConfig) :
    Within (Only path) (Vad.analyzeFile path config) :=
  .bind (only_composes path) (fun disk => (Files.read_same path disk).only path) fun _ =>
    .pure (only_composes path) _

theorem trimFile_only (path : String) (result : Vad.VadResult) :
    Within (Only path) (Vad.trimFile path result) := by
  rw [Vad.trimFile]
  split
  · refine .bind (only_composes path) (fun disk => (Files.read_same path disk).only path)
      fun pcm => ?_
    dsimp only
    split
    · exact .pure (only_composes path) _
    · exact .bind (only_composes path) (Files.write_only path _) fun _ =>
        .pure (only_composes path) _
  · exact fun disk => (Files.size_same path disk).only path

end Files

end Capture

end VoxType
