import VoxType.Daemon.Artefacts

/-!
# No artefact is left behind

Every file the daemon makes is that of the running capture, of the recording a
recognition waits for, or of a staging that has not ended, unless it cannot be
removed. Whatever goes wrong, the recordings of others stay as they are.
-/

namespace VoxType

set_option autoImplicit false

open Files (Tree Fault Disk)
open Files.Program (Touches Releases)
open Capture (IsRecording)

/-- One of these recordings, or a file that one of them is staged as. -/
def IsOf (recordings : String → Prop) (path : String) : Prop :=
  recordings path ∨ ∃ recording provider, recordings recording ∧
    path = withExtension recording (Staging.Provider.extension provider)

/-- A recording, or a file that one is staged as. -/
def IsArtefact : String → Prop := IsOf IsRecording

/-- What a step may take for the file of a recording of its own. -/
def ArtefactInput.Names : ArtefactInput → String → Prop
  | .daemon _ answers => answers.Names
  | _ => fun _ => False

/-- The recordings of a run, by the directory, the process and the time that its steps were told. -/
def RecordingOf (inputs : List ArtefactInput) (path : String) : Prop :=
  ∃ input ∈ inputs, input.Names path

theorem isArtefactName_eq {directory name : List Char} (hName : '/' ∉ name) :
    isArtefactName (String.ofList (directory ++ '/' :: name)) =
      ("recording-".toList.isPrefixOf name &&
        (".pcm".toList.isSuffixOf name || ".wav".toList.isSuffixOf name)) := by
  have hReversed : (String.ofList (directory ++ '/' :: name)).toList.reverse =
      name.reverse ++ '/' :: directory.reverse := by
    rw [String.toList_ofList]
    simp
  have hTake : (name.reverse ++ '/' :: directory.reverse).takeWhile (· != '/') = name.reverse := by
    rw [List.takeWhile_append_of_pos, List.takeWhile_cons_of_neg (by decide), List.append_nil]
    intro c hMem
    rw [bne_iff_ne]
    rintro rfl
    exact hName (List.mem_reverse.mp hMem)
  rw [isArtefactName, hReversed, hTake, List.reverse_reverse]

/-- A name that starts as recordings do, with the extension of one or of a staged file. -/
theorem isArtefactName_stem {path directory : String} {processId timestamp : Nat} {old : List Char}
    (hOld : '/' ∉ old)
    (hExtension : ".pcm".toList <:+ '.' :: old ∨ ".wav".toList <:+ '.' :: old)
    (hPath : path.toList =
      directory.toList ++ '/' :: (Capture.recordingStem processId timestamp ++ '.' :: old)) :
    isArtefactName path = true := by
  rw [← String.ofList_toList (s := path), hPath, isArtefactName_eq (Staging.slash_free old hOld),
    Bool.and_eq_true, Bool.or_eq_true, List.isPrefixOf_iff_prefix, List.isSuffixOf_iff_suffix,
    List.isSuffixOf_iff_suffix]
  have hSuffix := List.suffix_append (Capture.recordingStem processId timestamp) ('.' :: old)
  constructor
  · unfold Capture.recordingStem
    simp only [List.append_assoc]
    exact List.prefix_append _ _
  · exact hExtension.imp (·.trans hSuffix) (·.trans hSuffix)

theorem wav_suffix (provider : Staging.Provider) :
    ".wav".toList <:+ '.' :: provider.extension.toList := by
  cases provider with
  | rest => exact List.suffix_refl _
  | deepgram => exact List.suffix_append ".deepgram".toList ".wav".toList

/-- Recordings and staged files are named as such. -/
theorem IsArtefact.named {path : String} (h : IsArtefact path) : isArtefactName path = true := by
  rcases h with ⟨directory, processId, timestamp, rfl⟩ |
    ⟨_, provider, ⟨directory, processId, timestamp, rfl⟩, rfl⟩
  · exact isArtefactName_stem (by decide : '/' ∉ "pcm".toList) (.inl (List.suffix_refl _))
      (Capture.recordingPath_toList directory processId timestamp)
  · exact isArtefactName_stem (Staging.extension_slash_free provider) (.inr (wav_suffix provider))
      (Staging.staged_toList directory processId timestamp provider)

namespace ArtefactSystem

/-- The file is that of the capture, of the job or of a staging that holds it. -/
def Holds (held : Nat → Bool) (self : ArtefactSystem) (path : String) : Prop :=
  (∃ recording, self.capture = some recording ∧ recording.path = path) ∨
    (∃ job, self.system.daemon.recognitionJob = some job ∧ job.recordingPath = path) ∨
    ∃ worker stage, self.staging worker = some stage ∧ held worker = true ∧ stage.target = path

/-- Every recording and staged file is as it was at the start, or is of those made; in the strict part
the latter is gone or held. -/
def Accounted (strict : Prop) (start : Tree) (made : String → Prop) (held : Nat → Bool)
    (sys : ArtefactSystem) : Prop :=
  ∀ path, IsArtefact path → sys.tree path = start path ∨
    IsOf made path ∧ (strict → sys.tree path = none ∨ sys.Holds held path)

/-- What holds of a system that started from a disk. The strict part is about runs in which no
recording is retained, and no removal and no write of a staging fails. -/
structure Account (strict : Prop) (start : Tree) (made : String → Prop) (held : Nat → Bool)
    (sys : ArtefactSystem) : Prop where
  waiting : Waiting sys.system.daemon
  capturing : Capturing sys.system.daemon
  captured : sys.system.daemon.recording.isSome = sys.capture.isSome
  retains : strict → sys.system.daemon.config.desktop.retainRecordings = false
  capture : ∀ recording, sys.capture = some recording → made recording.path
  job : ∀ job, sys.system.daemon.recognitionJob = some job → made job.recordingPath
  works : ∀ worker ∈ sys.system.workers, made worker.work.input.pcmPath
  stages : ∀ worker stage, sys.staging worker = some stage → made stage.pcmPath ∧
    (Touches stage.target stage.program fun _ => True) ∧
    (strict → Releases stage.target (held worker) stage.program)
  tree : sys.Accounted strict start made held

variable {strict : Prop} {start : Tree} {made : String → Prop} {held held' : Nat → Bool}
  {self next : ArtefactSystem}

section Tree

/-- The files are as they were, and what was held is held. -/
theorem tree_same (h : self.Accounted strict start made held)
    (hTree : ∀ path, IsArtefact path → next.tree path = self.tree path)
    (hHolds : strict → ∀ path, self.Holds held path → next.Holds held' path) :
    next.Accounted strict start made held' := by
  intro path hArtefact
  rw [hTree path hArtefact]
  rcases h path hArtefact with hSame | ⟨hOwn, hAccount⟩
  · exact .inl hSame
  · exact .inr ⟨hOwn, fun hStrict => (hAccount hStrict).imp id (hHolds hStrict path)⟩

/-- One file of those made is changed; it is gone, held, or as it was. -/
theorem tree_changed {changed : String} (h : self.Accounted strict start made held)
    (hMade : IsOf made changed)
    (hOther : ∀ path, path ≠ changed → next.tree path = self.tree path)
    (hHolds : strict → ∀ path, path ≠ changed → self.Holds held path → next.Holds held' path)
    (hOwn : strict → next.tree changed = none ∨ next.Holds held' changed ∨
      next.tree changed = self.tree changed ∧
        (self.Holds held changed → next.Holds held' changed)) :
    next.Accounted strict start made held' := by
  intro path hArtefact
  by_cases hChanged : path = changed
  · subst hChanged
    by_cases hStart : next.tree path = start path
    · exact .inl hStart
    · refine .inr ⟨hMade, fun hStrict => ?_⟩
      rcases hOwn hStrict with hGone | hHeld | ⟨hSame, hKept⟩
      · exact .inl hGone
      · exact .inr hHeld
      · rcases h path hArtefact with hAs | ⟨_, hAccount⟩
        · exact absurd (hSame.trans hAs) hStart
        · exact (hAccount hStrict).imp hSame.trans hKept
  · rw [hOther path hChanged]
    rcases h path hArtefact with hSame | ⟨hMade', hAccount⟩
    · exact .inl hSame
    · exact .inr ⟨hMade', fun hStrict =>
        (hAccount hStrict).imp id (hHolds hStrict path hChanged)⟩

end Tree

section Workers

theorem works_modify {P : RecognitionWork → Prop} {f : Worker → Worker} {workers : List Worker}
    (hSame : ∀ worker, (f worker).work = worker.work)
    (hWorkers : ∀ worker ∈ workers, P worker.work) (k : Nat) :
    ∀ worker ∈ workers.modify k f, P worker.work := by
  intro worker hMem
  obtain ⟨i, hi⟩ := List.mem_iff_getElem?.mp hMem
  rw [List.getElem?_modify, Option.map_eq_map, Option.map_eq_some_iff] at hi
  obtain ⟨earlier, hEarlier, hModified⟩ := hi
  have hWork : worker.work = earlier.work := by
    rw [← hModified]
    split
    · exact hSame earlier
    · rfl
  rw [hWork]
  exact hWorkers earlier (List.mem_of_getElem? hEarlier)

/-- A worker keeps its work; a new one has the work it was started with. -/
theorem works_absorb {P : RecognitionWork → Prop} {trace : List DaemonEffect}
    {workers : List Worker} (hWorkers : ∀ worker ∈ workers, P worker.work)
    (hStarts : ∀ k work, .workerStarted k work ∈ trace → P work) :
    ∀ worker ∈ trace.foldl System.absorb workers, P worker.work := by
  induction trace generalizing workers with
  | nil => exact hWorkers
  | cons effect trace ih =>
    refine ih ?_ fun k work hMem => hStarts k work (List.mem_cons_of_mem _ hMem)
    cases effect with
    | workerStarted k work =>
      intro worker hMem
      rcases List.mem_append.mp hMem with hMem | hMem
      · exact hWorkers worker hMem
      · rw [List.mem_singleton.mp hMem]
        exact hStarts k work List.mem_cons_self
    | tokenCancelled k =>
      change ∀ worker ∈ workers.modify k _, _
      refine works_modify ?_ hWorkers k
      exact fun _ => rfl
    | _ => exact hWorkers

theorem close_work (worker : Worker) (channel : WorkerChannel) :
    (worker.close channel).work = worker.work := by
  rw [Worker.close]
  split <;> rfl

theorem works_step {P : RecognitionWork → Prop} {sys : System} (i : SystemInput)
    (hWorkers : ∀ worker ∈ sys.workers, P worker.work)
    (hStarts : ∀ k work, .workerStarted k work ∈ (sys.step i).1.effects → P work) :
    ∀ worker ∈ (sys.step i).2.workers, P worker.work := by
  cases i with
  | workerReturns index route => exact works_modify (fun _ => close_work _ _) hWorkers index
  | workerExits index => exact works_modify (fun _ => close_work _ _) hWorkers index
  | workerNotifies => exact hWorkers
  | _ => exact works_absorb hWorkers hStarts

end Workers

section Disk

variable (answers : Capture.CaptureAnswers) (env : Environment)

theorem startCapture_ok {device : Option String} {recording : CaptureSession}
    (h : (self.boundary answers env).startCapture device = .ok recording) :
    ∃ path, ((Capture.startWithDevice answers).run (self.disk answers)).result = .ok path := by
  cases hResult : ((Capture.startWithDevice answers).run (self.disk answers)).result with
  | ok path => exact ⟨path, rfl⟩
  | error message =>
    simp only [boundary, hResult] at h
    cases h

theorem startCapture_error {device : Option String} {error : VoxError}
    (h : (self.boundary answers env).startCapture device = .error error) :
    ∃ message, ((Capture.startWithDevice answers).run (self.disk answers)).result =
      .error message := by
  cases hResult : ((Capture.startWithDevice answers).run (self.disk answers)).result with
  | error message => exact ⟨message, rfl⟩
  | ok path =>
    simp only [boundary, hResult] at h
    cases h

/-- What the end of a capture does to the disk. -/
theorem stopped_cases {recording : Capture.Recording} (hCapture : self.capture = some recording)
    (capture : CaptureSession) :
    (∀ other, other ≠ recording.path → (self.stopped answers).state.tree other = self.tree other) ∧
      ((∃ audio, (self.boundary answers env).stopCapture capture = .ok audio ∧
          audio.path = recording.path) ∨
        (∃ error, (self.boundary answers env).stopCapture capture = .error error) ∧
          (answers.removals recording.path = .none →
            (self.stopped answers).state.tree recording.path = none)) := by
  have hStopped : self.stopped answers = (recording.stop answers).run (self.disk answers) := by
    rw [stopped, hCapture]
  have hAnswer : (self.boundary answers env).stopCapture capture =
      ((recording.stop answers).run (self.disk answers)).result.mapError Capture.stopFailed := by
    rw [← hStopped]
    rfl
  obtain ⟨hOther, hResult⟩ := recording.stop_cases answers (self.disk answers)
  rw [hStopped, hAnswer]
  refine ⟨hOther, ?_⟩
  rcases hResult with ⟨audio, hOk, hPath⟩ | ⟨⟨message, hError⟩, hGone⟩
  · rw [hOk]
    exact .inl ⟨audio, rfl, hPath⟩
  · rw [hError]
    exact .inr ⟨⟨_, rfl⟩, hGone⟩

theorem checkFile_only (config : Config) (vadConfig : Vad.VadConfig) (audio : CapturedAudio) :
    Effects.Call.Within (Files.Only audio.path) (checkFile config vadConfig audio) := by
  rw [checkFile]
  split
  · exact .pure (Files.only_composes _) _
  · refine .bind (Files.only_composes _) (Capture.analyzeFile_only _ _) fun result => ?_
    split
    · exact .bind (Files.only_composes _) (Capture.trimFile_only _ _) fun _ =>
        .pure (Files.only_composes _) _
    · exact .pure (Files.only_composes _) _

end Disk

/-- What a step of the daemon does to the files, told by what it does with recordings. -/
structure Moved (sys : ArtefactSystem) (answers : Capture.CaptureAnswers) (env : Environment)
    (trace : List DaemonEffect) (next : ArtefactSystem) : Prop where
  moves : FileMoves (sys.boundary answers env) sys.system.daemon trace next.system.daemon
  files : (next.tree, next.capture) = trace.foldl (sys.move answers sys.system.daemon.config
    sys.system.daemon.vadConfig) (sys.tree, sys.capture)
  staging : next.staging = sys.staging

section Moved

variable {answers : Capture.CaptureAnswers} {env : Environment} {trace : List DaemonEffect}

/-- What a step leaves of the account, but for what it says of the workers. -/
def Kept (strict : Prop) (start : Tree) (made : String → Prop) (held : Nat → Bool)
    (next : ArtefactSystem) : Prop :=
  next.system.daemon.recording.isSome = next.capture.isSome ∧
    (∀ recording, next.capture = some recording → made recording.path) ∧
    (∀ job, next.system.daemon.recognitionJob = some job → made job.recordingPath) ∧
    next.Accounted strict start made held

/-- What the job or a staging holds, it holds while both stay. -/
theorem holds_kept (hCapture : ∀ recording, self.capture = some recording →
      next.capture = some recording)
    (hJob : next.system.daemon.recognitionJob = self.system.daemon.recognitionJob)
    (hStaging : next.staging = self.staging) {path : String} (h : self.Holds held path) :
    next.Holds held path := by
  rcases h with ⟨recording, hSome, hPath⟩ | hHeld | hHeld
  · exact .inl ⟨recording, hCapture recording hSome, hPath⟩
  · exact .inr (.inl (hJob ▸ hHeld))
  · exact .inr (.inr (hStaging ▸ hHeld))

theorem no_capture (h : Account strict start made held self)
    (hIdle : self.system.daemon.recording = none) : self.capture = none := by
  have hCaptured := h.captured
  rw [hIdle] at hCaptured
  exact Option.not_isSome_iff_eq_none.mp (by rw [← hCaptured]; decide)

theorem some_capture (h : Account strict start made held self) {capture : CaptureSession}
    (hRunning : self.system.daemon.recording = some capture) :
    ∃ recording, self.capture = some recording := by
  have hCaptured := h.captured
  rw [hRunning] at hCaptured
  exact Option.isSome_iff_exists.mp hCaptured.symm

/-- The files after a capture has been started, or has not. -/
theorem started_files {session : SessionId} {arm : InsertionArm}
    (h : (next.tree, next.capture) = [DaemonEffect.armed session arm].foldl
      (self.move answers self.system.daemon.config self.system.daemon.vadConfig)
      (self.tree, self.capture)) :
    next.tree = ((Capture.startWithDevice answers).run (self.disk answers)).state.tree ∧
      next.capture = ((Capture.startWithDevice answers).run
        (self.disk answers)).result.toOption.map fun path => ⟨path, .ok ()⟩ :=
  Prod.mk.inj h

/-- A capture that ends with its file gone. -/
theorem ended_kept (h : Account strict start made held self) {recording : Capture.Recording}
    (hSome : self.capture = some recording) (hNone : next.capture = none)
    (hRecording : next.system.daemon.recording = none)
    (hJob : next.system.daemon.recognitionJob = self.system.daemon.recognitionJob)
    (hStaging : next.staging = self.staging)
    (hOther : ∀ other, other ≠ recording.path → next.tree other = self.tree other)
    (hGone : strict → next.tree recording.path = none) : Kept strict start made held next := by
  refine ⟨by rw [hRecording, hNone]; rfl, ?_, by rw [hJob]; exact h.job,
    tree_changed h.tree (.inl (h.capture recording hSome)) hOther ?_ fun hStrict =>
      .inl (hGone hStrict)⟩
  · intro other hOtherSome
    rw [hNone] at hOtherSome
    cases hOtherSome
  · intro _ path hPath hHeld
    rcases hHeld with ⟨other, hOtherSome, rfl⟩ | hHeld | hHeld
    · rw [hSome] at hOtherSome
      cases hOtherSome
      exact absurd rfl hPath
    · exact .inr (.inl (hJob ▸ hHeld))
    · exact .inr (.inr (hStaging ▸ hHeld))

/-- A job that is dropped with its file gone. -/
theorem dropped_kept (h : Account strict start made held self) {job : RecognitionJob}
    (hHeld : self.system.daemon.recognitionJob = some job) (hCapture : next.capture = self.capture)
    (hRecording : next.system.daemon.recording = self.system.daemon.recording)
    (hNone : next.system.daemon.recognitionJob = none) (hStaging : next.staging = self.staging)
    (hOther : ∀ other, other ≠ job.recordingPath → next.tree other = self.tree other)
    (hGone : strict → next.tree job.recordingPath = none) : Kept strict start made held next := by
  refine ⟨by rw [hRecording, hCapture]; exact h.captured, by rw [hCapture]; exact h.capture, ?_,
    tree_changed h.tree (.inl (h.job job hHeld)) hOther ?_ fun hStrict => .inl (hGone hStrict)⟩
  · intro other hSome
    rw [hNone] at hSome
    cases hSome
  · intro _ path hPath hOtherHeld
    rcases hOtherHeld with ⟨recording, hSome, hRecordingPath⟩ | ⟨other, hOtherJob, rfl⟩ | hOtherHeld
    · exact .inl ⟨recording, hCapture.trans hSome, hRecordingPath⟩
    · rw [hHeld] at hOtherJob
      cases hOtherJob
      exact absurd rfl hPath
    · exact .inr (.inr (hStaging ▸ hOtherHeld))

theorem no_job_captured (h : Account strict start made held self) {capture : CaptureSession}
    (hRunning : self.system.daemon.recording = some capture) :
    self.system.daemon.recognitionJob = none := by
  cases hJob : self.system.daemon.recognitionJob with
  | none => rfl
  | some job =>
    have hNone := h.waiting.closed _ (h.waiting.job job hJob)
    rw [hRunning] at hNone
    cases hNone

/-- The files after a finished recording has been looked at. -/
theorem checked_other {recording : Capture.Recording} {capture : CaptureSession}
    {audio : CapturedAudio} (hSome : self.capture = some recording)
    (hStop : (self.boundary answers env).stopCapture capture = .ok audio) (config : Config)
    (vadConfig : Vad.VadConfig) :
    audio.path = recording.path ∧ ∀ other, other ≠ recording.path →
      ((checkFile config vadConfig audio).run (self.stopped answers).state).state.tree other =
        self.tree other := by
  obtain ⟨hOther, hResult⟩ := stopped_cases answers env hSome capture
  rcases hResult with ⟨audio', hOk, hPath⟩ | ⟨⟨error, hError⟩, _⟩
  · rw [hStop] at hOk
    cases hOk
    refine ⟨hPath, fun other hOtherPath => ?_⟩
    rw [← hPath] at hOtherPath
    exact (checkFile_only config vadConfig audio _ other hOtherPath).trans
      (hOther other (hPath ▸ hOtherPath))
  · rw [hStop] at hError
    cases hError

/-- A step of the daemon keeps the account. -/
theorem Moved.kept (hMoved : Moved self answers env trace next)
    (h : Account strict start made held self) (hNames : ∀ path, answers.Names path → made path)
    (hRemovals : strict → ∀ path, answers.removals path = .none) :
    Kept strict start made held next := by
  obtain ⟨hMoves, hFiles, hStaging⟩ := hMoved
  have removal : ∀ path, strict → self.system.daemon.removal path = [.fileRemoved path] := by
    intro path hStrict
    rw [VoxTypeDaemon.removal, h.retains hStrict]
    rfl
  have discarded : ∀ {path : String}, strict → ∀ tree faults,
      ((Files.discard path (answers.removals path)).run ⟨tree, faults⟩).state.tree path = none := by
    intro path hStrict tree faults
    rw [hRemovals hStrict path]
    exact Files.discard_gone path ⟨tree, faults⟩
  cases hMoves with
  | kept hRecording hJob =>
    obtain ⟨hTree, hCapture⟩ := Prod.mk.inj hFiles
    refine ⟨?_, ?_, ?_, tree_same h.tree (fun path _ => congrFun hTree path) fun _ _ =>
      holds_kept (fun _ hSome => hCapture.trans hSome) hJob hStaging⟩
    · rw [hRecording, hCapture]
      exact h.captured
    · rw [hCapture]
      exact h.capture
    · rw [hJob]
      exact h.job
  | captureFailed hIdle hStart hRecording hJob =>
    obtain ⟨message, hResult⟩ := startCapture_error answers env hStart
    have hNone := no_capture h hIdle
    obtain ⟨hTree, hCapture⟩ := started_files hFiles
    rw [hResult] at hCapture
    have hHolds : ∀ path, self.Holds held path → next.Holds held path := fun path =>
      holds_kept (fun recording hSome => by rw [hNone] at hSome; cases hSome) hJob hStaging
    refine ⟨by rw [hRecording, hCapture]; rfl, ?_, by rw [hJob]; exact h.job, ?_⟩
    · intro recording hSome
      rw [hCapture] at hSome
      cases hSome
    · rcases Capture.startWithDevice_cases answers (self.disk answers) with
        ⟨_, hSame⟩ | ⟨path, hPath, hOther, hOk | ⟨_, hGone⟩⟩
      · exact tree_same h.tree (fun path _ => congrFun (hTree.trans hSame) path) fun _ => hHolds
      · rw [hResult] at hOk
        cases hOk
      · refine tree_changed h.tree (.inl (hNames path hPath)) ?_ (fun _ other _ => hHolds other) ?_
        · intro other hOtherPath
          rw [hTree]
          exact hOther other hOtherPath
        · intro hStrict
          rw [hTree]
          exact .inl (hGone (hRemovals hStrict path))
  | captureStarted hIdle hStart hRecording hJob =>
    obtain ⟨started, hResult⟩ := startCapture_ok answers env hStart
    have hNone := no_capture h hIdle
    obtain ⟨hTree, hCapture⟩ := started_files hFiles
    rw [hResult] at hCapture
    have hHolds : ∀ path, self.Holds held path → next.Holds held path := fun path =>
      holds_kept (fun recording hSome => by rw [hNone] at hSome; cases hSome) hJob hStaging
    rcases Capture.startWithDevice_cases answers (self.disk answers) with
      ⟨⟨message, hError⟩, _⟩ | ⟨path, hPath, hOther, hOk | ⟨⟨message, hError⟩, _⟩⟩
    · rw [hResult] at hError
      cases hError
    · rw [hResult] at hOk
      cases hOk
      refine ⟨by rw [hRecording, hCapture]; rfl, ?_, by rw [hJob]; exact h.job,
        tree_changed h.tree (.inl (hNames _ hPath)) ?_ (fun _ other _ => hHolds other) ?_⟩
      · intro recording hSome
        rw [hCapture] at hSome
        cases hSome
        exact hNames _ hPath
      · intro other hOtherPath
        rw [hTree]
        exact hOther other hOtherPath
      · exact fun _ => .inr (.inl (.inl ⟨_, hCapture, rfl⟩))
    · rw [hResult] at hError
      cases hError
  | stopFailed hCapture hStop hRecording hJob =>
    obtain ⟨recording, hSome⟩ := some_capture h hCapture
    obtain ⟨hTree, hNone⟩ := Prod.mk.inj hFiles
    obtain ⟨hOther, hResult⟩ := stopped_cases answers env hSome _
    refine ended_kept h hSome hNone hRecording hJob hStaging ?_ ?_
    · intro other hOtherPath
      exact (congrFun hTree other).trans (hOther other hOtherPath)
    · intro hStrict
      rcases hResult with ⟨audio, hOk, _⟩ | ⟨_, hGone⟩
      · rw [hStop] at hOk
        cases hOk
      · exact (congrFun hTree _).trans (hGone (hRemovals hStrict _))
  | @discarded _ _ audio hCapture hStop hRecording hJob =>
    obtain ⟨recording, hSome⟩ := some_capture h hCapture
    obtain ⟨hPath, hOther⟩ := checked_other hSome hStop self.system.daemon.config
      self.system.daemon.vadConfig
    rw [VoxTypeDaemon.removal] at hFiles
    split at hFiles
    · rename_i hRetains
      obtain ⟨hTree, hNone⟩ := Prod.mk.inj hFiles
      refine ended_kept h hSome hNone hRecording hJob hStaging
        (fun other hOtherPath => (congrFun hTree other).trans (hOther other hOtherPath)) ?_
      intro hStrict
      rw [h.retains hStrict] at hRetains
      cases hRetains
    · obtain ⟨hTree, hNone⟩ := Prod.mk.inj hFiles
      refine ended_kept h hSome hNone hRecording hJob hStaging ?_ ?_
      · intro other hOtherPath
        exact (congrFun hTree other).trans
          ((Files.discard_only _ _ _ other (hPath ▸ hOtherPath)).trans (hOther other hOtherPath))
      · intro hStrict
        rw [← hPath]
        exact (congrFun hTree _).trans (discarded hStrict _ _)
  | @submitted _ _ audio work job hCapture hStop hWork hPath hRecording hJob =>
    obtain ⟨recording, hSome⟩ := some_capture h hCapture
    obtain ⟨hAudio, hOther⟩ := checked_other hSome hStop self.system.daemon.config
      self.system.daemon.vadConfig
    obtain ⟨hTree, hNone⟩ := Prod.mk.inj hFiles
    have hFile : made job.recordingPath := by
      rw [hPath, hAudio]
      exact h.capture recording hSome
    refine ⟨by rw [hRecording, hNone]; rfl, ?_, ?_, tree_changed h.tree
      (.inl (h.capture recording hSome)) ?_ ?_ ?_⟩
    · intro other hOtherSome
      rw [hNone] at hOtherSome
      cases hOtherSome
    · intro other hOtherJob
      rw [hJob] at hOtherJob
      cases hOtherJob
      exact hFile
    · exact fun other hOtherPath => (congrFun hTree other).trans (hOther other hOtherPath)
    · intro _ path hOtherPath hHeld
      rcases hHeld with ⟨other, hOtherSome, rfl⟩ | ⟨other, hOtherJob, _⟩ | hHeld
      · rw [hSome] at hOtherSome
        cases hOtherSome
        exact absurd rfl hOtherPath
      · rw [no_job_captured h hCapture] at hOtherJob
        cases hOtherJob
      · exact .inr (.inr (hStaging ▸ hHeld))
    · exact fun _ => .inr (.inl (.inr (.inl ⟨job, hJob, hPath.trans hAudio⟩)))
  | released hRecording hJob =>
    cases hCapture : self.system.daemon.recording with
    | some capture =>
      have hIdle := no_job_captured h hCapture
      obtain ⟨recording, hSome⟩ := some_capture h hCapture
      rw [VoxTypeDaemon.captureEffects, VoxTypeDaemon.jobEffects, hCapture, hIdle, hSome] at hFiles
      obtain ⟨hTree, hNone⟩ := Prod.mk.inj hFiles
      refine ended_kept h hSome hNone hRecording (hJob.trans hIdle.symm) hStaging ?_ ?_
      · exact fun other hOtherPath =>
          (congrFun hTree other).trans (Files.discard_only _ _ _ other hOtherPath)
      · exact fun hStrict => (congrFun hTree _).trans (discarded hStrict _ _)
    | none =>
      cases hHeld : self.system.daemon.recognitionJob with
      | some job =>
        rw [VoxTypeDaemon.captureEffects, VoxTypeDaemon.jobEffects, hCapture, hHeld] at hFiles
        obtain ⟨hTree, hSame⟩ := Prod.mk.inj hFiles
        refine dropped_kept h hHeld hSame (hRecording.trans hCapture.symm) hJob hStaging ?_ ?_
        · exact fun other hOtherPath =>
            (congrFun hTree other).trans (Files.discard_only _ _ _ other hOtherPath)
        · exact fun hStrict => (congrFun hTree _).trans (discarded hStrict _ _)
      | none =>
        rw [VoxTypeDaemon.captureEffects, VoxTypeDaemon.jobEffects, hCapture, hHeld] at hFiles
        obtain ⟨hTree, hSame⟩ := Prod.mk.inj hFiles
        refine ⟨?_, by rw [hSame]; exact h.capture, ?_,
          tree_same h.tree (fun path _ => congrFun hTree path) fun _ _ =>
            holds_kept (fun _ hSome => hSame.trans hSome) (hJob.trans hHeld.symm) hStaging⟩
        · rw [hRecording, hSame, ← hCapture]
          exact h.captured
        · intro job hSome
          rw [hJob] at hSome
          cases hSome
  | @received _ job hHeld hRecording hJob =>
    rw [VoxTypeDaemon.removal] at hFiles
    split at hFiles
    · rename_i hRetains
      obtain ⟨hTree, hSame⟩ := Prod.mk.inj hFiles
      refine dropped_kept h hHeld hSame hRecording hJob hStaging
        (fun other _ => congrFun hTree other) ?_
      intro hStrict
      rw [h.retains hStrict] at hRetains
      cases hRetains
    · obtain ⟨hTree, hSame⟩ := Prod.mk.inj hFiles
      refine dropped_kept h hHeld hSame hRecording hJob hStaging ?_ ?_
      · exact fun other hOtherPath =>
          (congrFun hTree other).trans (Files.discard_only _ _ _ other hOtherPath)
      · exact fun hStrict => (congrFun hTree _).trans (discarded hStrict _ _)

end Moved

section Step

variable {answers : Capture.CaptureAnswers}

/-- Every configuration that is loaded discards recordings. -/
def Discards : ArtefactInput → Prop
  | .daemon (.reloadConfiguration env) _ =>
    ∀ config, env.loadConfig = .ok config → config.desktop.retainRecordings = false
  | _ => True

theorem asks_answers (f : Environment → Environment) (input : SystemInput) :
    ∃ env, (input.withAnswers f).Asks (f env) := by
  cases input with
  | start env profile | stop env profile | toggle env profile => exact ⟨env, rfl⟩
  | reloadConfiguration env | enforceRecordingDeadline env | pollRecognition env
  | pollAudioTelemetry env => exact ⟨env, rfl⟩
  | cancel session | reset | drainEvents | quit | workerReturns index route | workerExits index
  | workerNotifies => exact ⟨workingBoundary, trivial⟩

/-- The configuration that a reload leaves is the one its surroundings hand over. -/
theorem loads_answers {input : SystemInput} {env : Environment}
    (h : input.withAnswers (self.boundary answers) = .reloadConfiguration env) :
    ∃ other, input = .reloadConfiguration other ∧ env.loadConfig = other.loadConfig := by
  cases input with
  | reloadConfiguration other =>
    cases h
    exact ⟨other, rfl, rfl⟩
  | _ => cases h

theorem daemon_step (h : Account strict start made held self) (input : SystemInput)
    (hNames : ∀ path, answers.Names path → made path)
    (hSound : strict → ¬ self.CutShort (.daemon input answers) ∧
      Discards (.daemon input answers)) :
    Account strict start made held (self.step (.daemon input answers)) := by
  rw [step]
  split
  · obtain ⟨env, hAsks⟩ := asks_answers (self.boundary answers) input
    have hMoves := System.step_moves h.waiting hAsks
    have hConfig := System.step_config h.waiting (input.withAnswers (self.boundary answers))
    generalize hInput : input.withAnswers (self.boundary answers) = i at hMoves hConfig ⊢
    dsimp only
    generalize hMoved : (moves (self.system.step i).1.effects).foldl (self.move answers
      self.system.daemon.config self.system.daemon.vadConfig) (self.tree, self.capture) = moved
    have hNext : Moved self answers (self.system.boundary env)
        (moves (self.system.step i).1.effects)
        { self with system := (self.system.step i).2, tree := moved.1, capture := moved.2 } :=
      ⟨hMoves, hMoved.symm, rfl⟩
    obtain ⟨hCaptured, hCapture, hJob, hTree⟩ := hNext.kept h hNames fun hStrict path =>
      not_not.mp fun hFails => (hSound hStrict).1 ⟨path, hFails⟩
    constructor
    case waiting => exact (System.step_outcome self.system i).waiting h.waiting
    case capturing =>
      exact (System.step_outcome self.system i).capturing h.waiting h.capturing
    case captured => exact hCaptured
    case capture => exact hCapture
    case job => exact hJob
    case stages => exact h.stages
    case tree => exact hTree
    case retains =>
      intro hStrict
      rcases hConfig with hSame | ⟨other, hReload, hLoaded⟩
      · change (self.system.step i).2.daemon.config.desktop.retainRecordings = false
        rw [hSame]
        exact h.retains hStrict
      · obtain ⟨given, hGiven, hLoad⟩ := loads_answers (hInput.trans hReload)
        subst hGiven
        exact (hSound hStrict).2 _ (hLoad.symm.trans hLoaded)
    case works =>
      refine works_step (P := fun work => made work.input.pcmPath) i h.works ?_
      intro k work hMem
      obtain ⟨capture, audio, hRunning, hStop, hWork⟩ :=
        hMoves.starts (List.mem_filter.mpr ⟨hMem, rfl⟩)
      obtain ⟨recording, hSome⟩ := some_capture h hRunning
      have hStop' : (self.boundary answers (self.system.boundary env)).stopCapture capture =
        .ok audio := hStop
      rw [hWork, (checked_other hSome hStop' self.system.daemon.config
        self.system.daemon.vadConfig).1]
      exact h.capture recording hSome
  · exact h

theorem receive_step (h : Account strict start made held self) (bytes : List UInt8) (fault : Fault) :
    Account strict start made held (self.step (.receives bytes fault)) := by
  rw [step]
  cases hSome : self.capture with
  | none => exact h
  | some recording =>
    obtain ⟨hOther, next, hResult, hPath⟩ :=
      recording.receive_cases ⟨self.tree, [fault]⟩ bytes
    dsimp only
    rw [hResult]
    change Account strict start made held { self with tree := _, capture := some next }
    constructor
    case waiting => exact h.waiting
    case capturing => exact h.capturing
    case retains => exact h.retains
    case job => exact h.job
    case works => exact h.works
    case stages => exact h.stages
    case captured =>
      have hCaptured := h.captured
      rw [hSome] at hCaptured
      exact hCaptured
    case capture =>
      intro other hOtherSome
      cases hOtherSome
      rw [hPath]
      exact h.capture recording hSome
    case tree =>
      refine tree_changed h.tree (.inl (h.capture recording hSome)) hOther ?_ ?_
      · intro _ path hOtherPath hHeld
        rcases hHeld with ⟨other, hOtherSome, rfl⟩ | hHeld | hHeld
        · rw [hSome] at hOtherSome
          cases hOtherSome
          exact absurd rfl hOtherPath
        · exact .inr (.inl hHeld)
        · exact .inr (.inr hHeld)
      · exact fun _ => .inr (.inl (.inl ⟨next, rfl, hPath⟩))

/-- A worker goes on with what it is at, or takes up its recording. -/
theorem stage_cases (worker : Nat) (provider : Staging.Provider) (endpoint : String)
    (exchange : Except String (List UInt8) → StagingResult) :
    self.stage worker provider endpoint exchange = self.staging worker ∨
      self.ended worker = true ∧ ∃ busy ∈ self.system.workers,
        self.stage worker provider endpoint exchange = some
          { pcmPath := busy.work.input.pcmPath
            provider
            program := Staging.transcribePcmWithEvidence provider endpoint
              busy.work.input.pcmPath exchange } := by
  rw [stage]
  split
  · exact .inl rfl
  · rename_i work cancelled hWorker
    split
    · rename_i hEnded
      exact .inr ⟨hEnded, _, List.mem_of_getElem? hWorker, rfl⟩
    · exact .inl rfl
  · exact .inl rfl

/-- Whoever has ended holds nothing. -/
theorem ended_free (h : Account strict start made held self) (hStrict : strict) {worker : Nat}
    {stage : StagedUpload} (hStage : self.staging worker = some stage)
    (hEnded : self.ended worker = true) : held worker = false := by
  have hReleases := (h.stages worker stage hStage).2.2 hStrict
  rw [ended, hStage] at hEnded
  cases hProgram : stage.program with
  | done result =>
    rw [hProgram] at hReleases
    exact hReleases
  | act first next =>
    dsimp only at hEnded
    rw [hProgram] at hEnded
    cases hEnded

theorem stage_step (h : Account strict start made held self) (worker : Nat)
    (provider : Staging.Provider) (endpoint : String)
    (exchange : Except String (List UInt8) → StagingResult) :
    ∃ held', Account strict start made held'
      (self.step (.stages worker provider endpoint exchange)) := by
  rw [step]
  rcases self.stage_cases worker provider endpoint exchange with
    hSame | ⟨hEnded, busy, hBusy, hNew⟩
  · rw [hSame, Function.update_eq_self]
    exact ⟨held, h⟩
  · rw [hNew]
    refine ⟨Function.update held worker false, ?_⟩
    constructor
    case waiting => exact h.waiting
    case capturing => exact h.capturing
    case captured => exact h.captured
    case retains => exact h.retains
    case capture => exact h.capture
    case job => exact h.job
    case works => exact h.works
    case stages =>
      intro other stage hStage
      dsimp only at hStage
      by_cases hOther : other = worker
      · subst hOther
        rw [Function.update_self] at hStage ⊢
        cases hStage
        exact ⟨h.works busy hBusy, Staging.transcribe_touches _ _ _ _,
          fun _ => Staging.transcribe_releases _ _ _ _⟩
      · rw [Function.update_of_ne hOther] at hStage ⊢
        exact h.stages other stage hStage
    case tree =>
      refine tree_same h.tree (fun _ _ => rfl) fun hStrict path hHeld => ?_
      rcases hHeld with hHeld | hHeld | ⟨other, stage, hStage, hTrue, hTarget⟩
      · exact .inl hHeld
      · exact .inr (.inl hHeld)
      · have hOther : other ≠ worker := by
          rintro rfl
          rw [ended_free h hStrict hStage hEnded] at hTrue
          cases hTrue
        refine .inr (.inr ⟨other, stage, ?_, ?_, hTarget⟩)
        · exact (Function.update_of_ne hOther _ _).trans hStage
        · exact (Function.update_of_ne hOther _ _).trans hTrue

theorem act_step (h : Account strict start made held self) (worker : Nat) (fault : Fault)
    (hCut : strict → ¬ self.CutShort (.acts worker fault)) :
    ∃ held', Account strict start made held' (self.step (.acts worker fault)) := by
  rw [step]
  cases hStage : self.staging worker with
  | none => exact ⟨held, h⟩
  | some stage =>
    obtain ⟨hRecording, hTouches, hReleases⟩ := h.stages worker stage hStage
    obtain ⟨hTouches', hOther⟩ := hTouches.step fault self.tree
    have hStep : ∃ kept, strict →
        Releases stage.target kept (stage.program.step fault self.tree).1 ∧
          ((stage.program.step fault self.tree).2 stage.target = none ∨ kept = true ∨
            ((stage.program.step fault self.tree).2 stage.target = self.tree stage.target ∧
              held worker = false)) := by
      by_cases hStrict : strict
      · obtain ⟨kept, hKept⟩ := (hReleases hStrict).step
          (fun hFails => hCut hStrict ⟨stage, hStage, hFails⟩) self.tree
        exact ⟨kept, fun _ => hKept⟩
      · exact ⟨false, fun h => absurd h hStrict⟩
    obtain ⟨kept, hKept⟩ := hStep
    refine ⟨Function.update held worker kept, ?_⟩
    constructor
    case waiting => exact h.waiting
    case capturing => exact h.capturing
    case captured => exact h.captured
    case retains => exact h.retains
    case capture => exact h.capture
    case job => exact h.job
    case works => exact h.works
    case stages =>
      intro other stage' hStage'
      dsimp only at hStage'
      by_cases hWorker : other = worker
      · subst hWorker
        rw [Function.update_self] at hStage' ⊢
        cases hStage'
        exact ⟨hRecording, hTouches', fun hStrict => (hKept hStrict).1⟩
      · rw [Function.update_of_ne hWorker] at hStage' ⊢
        exact h.stages other stage' hStage'
    case tree =>
      -- What is held otherwise than by this worker stays held.
      have hHolds : ∀ path, ¬ (held worker = true ∧ path = stage.target) →
          self.Holds held path → Holds (Function.update held worker kept)
            { self with
              tree := (stage.program.step fault self.tree).2
              staging := Function.update self.staging worker
                (some { stage with program := (stage.program.step fault self.tree).1 }) } path := by
        intro path hNotOwn hHeld
        rcases hHeld with hHeld | hHeld | ⟨other, stage', hStage', hTrue, hTarget⟩
        · exact .inl hHeld
        · exact .inr (.inl hHeld)
        · have hWorker : other ≠ worker := by
            rintro rfl
            rw [hStage] at hStage'
            cases hStage'
            exact hNotOwn ⟨hTrue, hTarget.symm⟩
          refine .inr (.inr ⟨other, stage', ?_, ?_, hTarget⟩)
          · exact (Function.update_of_ne hWorker _ _).trans hStage'
          · exact (Function.update_of_ne hWorker _ _).trans hTrue
      refine tree_changed h.tree (.inr ⟨_, _, hRecording, rfl⟩) hOther ?_ ?_
      · exact fun _ path hPath => hHolds path fun hOwn => hPath hOwn.2
      · intro hStrict
        rcases (hKept hStrict).2 with hGone | rfl | ⟨hSame, hFree⟩
        · exact .inl hGone
        · exact .inr (.inl (.inr (.inr ⟨worker, _, Function.update_self _ _ _,
            Function.update_self _ _ _, rfl⟩)))
        · refine .inr (.inr ⟨hSame, hHolds _ fun hOwn => ?_⟩)
          rw [hFree] at hOwn
          cases hOwn.1

theorem elsewhere_step (h : Account strict start made held self) (path : String)
    (contents : Option (List UInt8)) :
    Account strict start made held (self.step (.elsewhere path contents)) := by
  rw [step]
  split
  · exact h
  · rename_i hElsewhere
    constructor
    case waiting => exact h.waiting
    case capturing => exact h.capturing
    case captured => exact h.captured
    case retains => exact h.retains
    case capture => exact h.capture
    case job => exact h.job
    case works => exact h.works
    case stages => exact h.stages
    case tree =>
      refine tree_same h.tree (fun other hArtefact => Function.update_of_ne ?_ _ _)
        fun _ _ => id
      rintro rfl
      exact hElsewhere hArtefact.named

/-- What a run without a retained recording, and without a removal or a write of a staging that
fails, meets at each of its steps. -/
def Sound (self : ArtefactSystem) (input : ArtefactInput) : Prop :=
  ¬ self.CutShort input ∧ Discards input

theorem account_step (h : ∃ held, Account strict start made held self) (input : ArtefactInput)
    (hNames : ∀ path, input.Names path → made path) (hSound : strict → self.Sound input) :
    ∃ held, Account strict start made held (self.step input) := by
  obtain ⟨held, hAccount⟩ := h
  cases input with
  | daemon i answers => exact ⟨held, daemon_step hAccount i hNames hSound⟩
  | receives bytes fault => exact ⟨held, receive_step hAccount bytes fault⟩
  | stages worker provider endpoint exchange => exact stage_step hAccount worker provider _ _
  | acts worker fault => exact act_step hAccount worker fault fun hStrict => (hSound hStrict).1
  | elsewhere path contents => exact ⟨held, elsewhere_step hAccount path contents⟩

end Step

/-- The file is that of the capture, of the job or of a staging that has not ended. -/
def InUse (self : ArtefactSystem) (path : String) : Prop :=
  (∃ recording, self.capture = some recording ∧ recording.path = path) ∨
    (∃ job, self.system.daemon.recognitionJob = some job ∧ job.recordingPath = path) ∨
    ∃ worker stage, self.staging worker = some stage ∧ self.ended worker = false ∧
      stage.target = path

theorem Account.inUse (h : Account True start made held self) {path : String}
    (hHeld : self.Holds held path) : self.InUse path := by
  rcases hHeld with hHeld | hHeld | ⟨worker, stage, hStage, hTrue, hTarget⟩
  · exact .inl hHeld
  · exact .inr (.inl hHeld)
  · refine .inr (.inr ⟨worker, stage, hStage, ?_, hTarget⟩)
    refine Bool.eq_false_iff.mpr fun hEnded => ?_
    rw [ended_free h trivial hStage hEnded] at hTrue
    cases hTrue

/-- Once the session is over and its workers have ended, nothing is in use. -/
theorem Account.unused (h : Account strict start made held self)
    (hOver : self.system.daemon.state.isActive = false)
    (hEnded : ∀ worker, self.ended worker = true) (path : String) : ¬ self.InUse path := by
  rintro (⟨recording, hSome, _⟩ | ⟨job, hJob, _⟩ | ⟨worker, _, _, hBusy, _⟩)
  · rw [no_capture h (h.capturing hOver)] at hSome
    cases hSome
  · rw [h.waiting.no_job_inactive hOver] at hJob
    cases hJob
  · rw [hEnded worker] at hBusy
    cases hBusy

end ArtefactSystem

section Restart

variable (next : Config) (directory : String) (answers : Capture.CleanupAnswers)

/-- What the next process removes. -/
def Cleaned (path : String) : Prop :=
  next.desktop.retainRecordings = false ∧ ∃ entries, answers.entries = .ok entries ∧
    Capture.Cleared directory answers.removals entries path

theorem cleanUp_tree (disk : Disk) (path : String) :
    (Cleaned next directory answers path →
        ((cleanUp next directory answers).run disk).state.tree path = none) ∧
      (¬ Cleaned next directory answers path →
        ((cleanUp next directory answers).run disk).state.tree path = disk.tree path) := by
  rw [cleanUp, Cleaned]
  cases next.desktop.retainRecordings with
  | true => simp
  | false =>
    rw [if_neg (by decide), Capture.cleanupDirectory]
    cases answers.entries with
    | error message => simp
    | ok entries =>
      obtain ⟨hGone, hKept⟩ := Capture.cleanupEntries_tree disk directory answers.removals entries path
      refine ⟨?_, fun h => hKept fun hCleared => h ⟨rfl, entries, rfl, hCleared⟩⟩
      rintro ⟨_, _, hEntries, hCleared⟩
      cases hEntries
      exact hGone hCleared

theorem cleaned_recording (processId timestamp : Nat) :
    Cleaned next directory answers (Capture.recordingPath directory processId timestamp) ↔
      next.desktop.retainRecordings = false ∧
        answers.Lists directory (Capture.recordingPath directory processId timestamp) ∧
        answers.removals (Capture.recordingPath directory processId timestamp) = .none := by
  obtain ⟨name, hName, hPath⟩ := Capture.recordingPath_name directory processId timestamp
  rw [Cleaned, hPath]
  refine and_congr_right fun _ => ?_
  constructor
  · rintro ⟨entries, hEntries, hRemoval, other, hMem, _, hOther⟩
    exact ⟨⟨entries, other, hEntries, hMem, hOther⟩, hRemoval⟩
  · rintro ⟨⟨entries, other, hEntries, hMem, hOther⟩, hRemoval⟩
    have hChars := congrArg String.toList hOther
    simp only [String.toList_append (s := directory ++ "/")] at hChars
    obtain rfl := String.toList_injective (List.append_cancel_left hChars)
    exact ⟨entries, hEntries, hRemoval, name, hMem, hName, rfl⟩

/-- A recording of the directory is left behind where it is retained, not found, or not removed. -/
theorem cleanUp_recording (disk : Disk) (processId timestamp : Nat) :
    ((cleanUp next directory answers).run disk).state.tree
        (Capture.recordingPath directory processId timestamp) ≠ none ↔
      disk.tree (Capture.recordingPath directory processId timestamp) ≠ none ∧
        (next.desktop.retainRecordings = true ∨
          ¬ answers.Lists directory (Capture.recordingPath directory processId timestamp) ∨
          answers.removals (Capture.recordingPath directory processId timestamp) ≠ .none) := by
  obtain ⟨hGone, hKept⟩ := cleanUp_tree next directory answers disk
    (Capture.recordingPath directory processId timestamp)
  rw [cleaned_recording] at hGone hKept
  by_cases hCleaned : next.desktop.retainRecordings = false ∧
      answers.Lists directory (Capture.recordingPath directory processId timestamp) ∧
      answers.removals (Capture.recordingPath directory processId timestamp) = .none
  · refine iff_of_false (fun h => h (hGone hCleaned)) ?_
    rintro ⟨_, hRetains | hUnlisted | hFails⟩
    · rw [hCleaned.1] at hRetains
      cases hRetains
    · exact hUnlisted hCleaned.2.1
    · exact hFails hCleaned.2.2
  · rw [hKept hCleaned, iff_self_and]
    intro _
    rw [← Bool.not_eq_false]
    tauto

variable {next directory answers}

/-- No staged file is taken for a recording. -/
theorem staged_not_cleaned {recording : String} (hRecording : IsRecording recording)
    (provider : Staging.Provider) :
    ¬ Cleaned next directory answers (withExtension recording provider.extension) := by
  rintro ⟨_, _, _, _, name, _, hName, hPath⟩
  obtain ⟨parent, processId, timestamp, rfl⟩ := hRecording
  rw [Capture.isRecordingName, Bool.and_eq_true, List.isSuffixOf_iff_suffix] at hName
  have hPcm : ".pcm".toList <:+ (withExtension (Capture.recordingPath parent processId timestamp)
      provider.extension).toList := by
    rw [hPath, String.toList_append]
    exact hName.2.trans (List.suffix_append _ _)
  have hWav : ".wav".toList <:+ (withExtension (Capture.recordingPath parent processId timestamp)
      provider.extension).toList := by
    rw [Staging.staged_toList]
    exact (wav_suffix provider).trans ((List.suffix_append _ _).trans
      ((List.suffix_cons _ _).trans (List.suffix_append _ _)))
  have hSame := (List.suffix_of_suffix_length_le hPcm hWav (by decide)).eq_of_length (by decide)
  exact absurd hSame (by decide)

end Restart

section Runs

variable (config : Config) (registry : ProviderRegistry) (wake : WakeHandle) (tree : Tree)

theorem account_run (strict : Prop) (hRetains : strict → config.desktop.retainRecordings = false)
    (inputs : List ArtefactInput) (hSound : strict →
      (artefactMachine config registry wake tree).Along (fun _ self => self.Sound) inputs) :
    ∃ held, ArtefactSystem.Account strict tree (RecordingOf inputs) held
      ((artefactMachine config registry wake tree).state inputs) := by
  refine (artefactMachine config registry wake tree).invariant_along
    (C := fun _ self input => (∀ path, input.Names path → RecordingOf inputs path) ∧
      (strict → self.Sound input))
    (P := fun _ self => ∃ held, ArtefactSystem.Account strict tree (RecordingOf inputs) held self)
    ?_ (fun _ _ input h hSound => ArtefactSystem.account_step h input hSound.1 hSound.2) inputs ?_
  · refine ⟨fun _ => false, ?_⟩
    constructor
    case waiting => exact .idle rfl rfl
    case capturing => exact capturing_none rfl
    case captured => rfl
    case retains => exact hRetains
    case capture => exact fun _ h => absurd h (Option.some_ne_none _).symm
    case job => exact fun _ h => absurd h (Option.some_ne_none _).symm
    case works => exact fun _ h => absurd h List.not_mem_nil
    case stages => exact fun _ _ h => absurd h (Option.some_ne_none _).symm
    case tree => exact fun path _ => .inl rfl
  · intro before input after hInputs
    refine ⟨fun path hNames => ⟨input, ?_, hNames⟩, fun hStrict =>
      hSound hStrict before input after hInputs⟩
    rw [hInputs]
    exact List.mem_append_right _ List.mem_cons_self

/-- Without retention, and while no removal and no write of a staging fails, every recording and
every staged file is as it was, or gone, or in use; and nothing is in use any more once the session
is over and the workers have ended. -/
theorem artefacts_end_with_sessions (hRetains : config.desktop.retainRecordings = false)
    (inputs : List ArtefactInput)
    (hSound : (artefactMachine config registry wake tree).Along (fun _ self => self.Sound) inputs) :
    (∀ path, IsArtefact path →
        ((artefactMachine config registry wake tree).state inputs).tree path = tree path ∨
        ((artefactMachine config registry wake tree).state inputs).tree path = none ∨
        ((artefactMachine config registry wake tree).state inputs).InUse path) ∧
      (((artefactMachine config registry wake tree).state inputs).system.daemon.state.isActive =
          false →
        (∀ worker, ((artefactMachine config registry wake tree).state inputs).ended worker = true) →
        ∀ path, ¬ ((artefactMachine config registry wake tree).state inputs).InUse path) := by
  obtain ⟨held, hAccount⟩ := account_run config registry wake tree True
    (fun _ => hRetains) inputs fun _ => hSound
  refine ⟨fun path hArtefact => ?_, hAccount.unused⟩
  rcases hAccount.tree path hArtefact with hSame | ⟨_, hHeld⟩
  · exact .inl hSame
  · exact .inr ((hHeld trivial).imp id hAccount.inUse)

/-- Whatever fails and whatever is retained, a recording or a staged file that a run makes, changes
or removes is one of its own: other processes' files, and those of other times, stay as they are. -/
theorem only_artefacts_change (inputs : List ArtefactInput) (path : String)
    (hArtefact : IsArtefact path) :
    ((artefactMachine config registry wake tree).state inputs).tree path = tree path ∨
      IsOf (RecordingOf inputs) path := by
  obtain ⟨held, hAccount⟩ := account_run config registry wake tree False
    False.elim inputs False.elim
  exact (hAccount.tree path hArtefact).imp id And.left

/-- The files after a run that was cut off and the cleanup of the next process. -/
def restarted (inputs : List ArtefactInput) (next : Config) (directory : String)
    (answers : Capture.CleanupAnswers) : Tree :=
  ((cleanUp next directory answers).run
    ⟨((artefactMachine config registry wake tree).state inputs).tree, []⟩).state.tree

/-- A process that starts removes the recordings of its directory that it finds and can remove,
unless it is to retain them, and no staged file. What is left of either is as it was before the run
that was cut off, or as that run left its own. -/
theorem restart_leaves (inputs : List ArtefactInput) (next : Config) (directory : String)
    (answers : Capture.CleanupAnswers) :
    (∀ processId timestamp,
      restarted config registry wake tree inputs next directory answers
          (Capture.recordingPath directory processId timestamp) ≠ none ↔
        ((artefactMachine config registry wake tree).state inputs).tree
            (Capture.recordingPath directory processId timestamp) ≠ none ∧
          (next.desktop.retainRecordings = true ∨
            ¬ answers.Lists directory (Capture.recordingPath directory processId timestamp) ∨
            answers.removals (Capture.recordingPath directory processId timestamp) ≠ .none)) ∧
      (∀ recording provider, IsRecording recording →
        restarted config registry wake tree inputs next directory answers
            (withExtension recording (Staging.Provider.extension provider)) =
          ((artefactMachine config registry wake tree).state inputs).tree
            (withExtension recording (Staging.Provider.extension provider))) ∧
      ∀ path, IsArtefact path →
        restarted config registry wake tree inputs next directory answers path = none ∨
          restarted config registry wake tree inputs next directory answers path = tree path ∨
          restarted config registry wake tree inputs next directory answers path =
              ((artefactMachine config registry wake tree).state inputs).tree path ∧
            IsOf (RecordingOf inputs) path := by
  refine ⟨cleanUp_recording next directory answers _, ?_, fun path hArtefact => ?_⟩
  · intro recording provider hRecording
    exact (cleanUp_tree next directory answers _ _).2 (staged_not_cleaned hRecording provider)
  · obtain ⟨hGone, hKept⟩ := cleanUp_tree next directory answers
      ⟨((artefactMachine config registry wake tree).state inputs).tree, []⟩ path
    by_cases hCleaned : Cleaned next directory answers path
    · exact .inl (hGone hCleaned)
    · obtain ⟨held, hAccount⟩ := account_run config registry wake tree False
        False.elim inputs False.elim
      rcases hAccount.tree path hArtefact with hSame | ⟨hOwn, _⟩
      · exact .inr (.inl ((hKept hCleaned).trans hSame))
      · exact .inr (.inr ⟨hKept hCleaned, hOwn⟩)

end Runs

def recorderAnswers : Capture.CaptureAnswers where
  directory := .ok "/run/voxtype"
  processId := 7
  timestamp := 1
  launch := .ok ()
  ended := .ok ()
  backend := "pw-record"
  faults := []
  removals _ := .none

/-- A recording that is cancelled. -/
def abandoned : List ArtefactInput :=
  [.daemon (.start workingBoundary "") recorderAnswers, .receives [1, 2, 3, 4] .none,
    .daemon (.cancel "") recorderAnswers]

theorem abandoned_sound (M : Transition.Machine ArtefactSystem ArtefactInput Unit) :
    M.Along (fun _ self => self.Sound) abandoned := by
  intro before input after hInputs
  have hMem : input ∈ abandoned := by
    rw [hInputs]
    exact List.mem_append_right _ List.mem_cons_self
  simp only [abandoned, List.mem_cons, List.not_mem_nil, or_false] at hMem
  have hRemovals : ∀ {input : SystemInput} (self : ArtefactSystem),
      ¬ self.CutShort (.daemon input recorderAnswers) := by
    rintro _ _ ⟨path, hFails⟩
    exact hFails rfl
  rcases hMem with rfl | rfl | rfl
  · exact ⟨hRemovals _, trivial⟩
  · exact ⟨id, trivial⟩
  · exact ⟨hRemovals _, trivial⟩

theorem artefacts_end_with_sessions_abandoned :
    ((artefactMachine dictationConfig ⟨[cloud]⟩ .disabled fun _ => none).state abandoned).tree
      (Capture.recordingPath "/run/voxtype" 7 1) = none := by
  obtain ⟨hFiles, hRest⟩ := artefacts_end_with_sessions dictationConfig ⟨[cloud]⟩ .disabled
    (fun _ => none) rfl abandoned (abandoned_sound _)
  rcases hFiles (Capture.recordingPath "/run/voxtype" 7 1) (.inl ⟨_, _, _, rfl⟩) with
    hSame | hGone | hUse
  · exact hSame
  · exact hGone
  · exact absurd hUse (hRest (by decide) (fun _ => rfl) _)

def recordingOfOther : Tree := fun path =>
  if path = Capture.recordingPath "/run/voxtype" 8 1 then some [1, 2] else none

/-- The recording of another process outlives the run. -/
theorem only_artefacts_change_abandoned :
    ((artefactMachine dictationConfig ⟨[cloud]⟩ .disabled recordingOfOther).state abandoned).tree
      (Capture.recordingPath "/run/voxtype" 8 1) = some [1, 2] := by
  have hStart : recordingOfOther (Capture.recordingPath "/run/voxtype" 8 1) = some [1, 2] :=
    if_pos rfl
  rcases only_artefacts_change dictationConfig ⟨[cloud]⟩ .disabled recordingOfOther abandoned
    (Capture.recordingPath "/run/voxtype" 8 1) (.inl ⟨_, _, _, rfl⟩) with hSame | hOwn
  · exact hSame.trans hStart
  have hNames : ∀ path, RecordingOf abandoned path →
      path = Capture.recordingPath "/run/voxtype" 7 1 := by
    rintro path ⟨input, hMem, hNames⟩
    simp only [abandoned, List.mem_cons, List.not_mem_nil, or_false] at hMem
    rcases hMem with rfl | rfl | rfl
    · obtain ⟨_, hDirectory, rfl⟩ := hNames
      cases hDirectory
      rfl
    · exact hNames.elim
    · obtain ⟨_, hDirectory, rfl⟩ := hNames
      cases hDirectory
      rfl
  rcases hOwn with hRecording | ⟨recording, provider, hRecording, hStaged⟩
  · exact absurd (hNames _ hRecording) (by decide)
  · rw [hNames _ hRecording] at hStaged
    exact absurd hStaged (by cases provider <;> decide)

end VoxType
