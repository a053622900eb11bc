import VoxType.Curl.Staging
import VoxType.Daemon.Custody

/-!
# Recordings and staged files on the disk

The daemon, its capture and the stagings of its workers share one disk, each
taking its file operations in turn, with whatever else is written there. What
a step of the daemon is answered is what the disk makes of it.
-/

namespace VoxType

set_option autoImplicit false

open Files (Tree Fault Disk)

/-- The path ends in a name like those of recordings and of the files staged from them. -/
def isArtefactName (path : String) : Bool :=
  let name := (path.toList.reverse.takeWhile (· != '/')).reverse
  "recording-".toList.isPrefixOf name &&
    (".pcm".toList.isSuffixOf name || ".wav".toList.isSuffixOf name)

abbrev StagingResult : Type := Except ProviderAttemptFailure ProviderSuccess

/-- The staging a worker is at, or has ended. -/
structure StagedUpload where
  pcmPath : String
  provider : Staging.Provider
  program : Files.Program StagingResult

def StagedUpload.target (self : StagedUpload) : String :=
  withExtension self.pcmPath self.provider.extension

structure ArtefactSystem where
  system : System
  tree : Tree
  capture : Option Capture.Recording
  staging : Nat → Option StagedUpload

/-- Elsewhere are the overlay state and its temporary file, the sockets of the Fcitx client, the
configuration, and the files of others. -/
inductive ArtefactInput
  | daemon (input : SystemInput) (answers : Capture.CaptureAnswers)
  | receives (bytes : List UInt8) (fault : Fault)
  | stages (worker : Nat) (provider : Staging.Provider) (endpoint : String)
    (exchange : Except String (List UInt8) → StagingResult)
  | acts (worker : Nat) (fault : Fault)
  | elsewhere (path : String) (contents : Option (List UInt8))

/-- The same input with other answers. -/
def SystemInput.withAnswers (f : Environment → Environment) : SystemInput → SystemInput
  | .start env profile => .start (f env) profile
  | .stop env session => .stop (f env) session
  | .toggle env profile => .toggle (f env) profile
  | .reloadConfiguration env => .reloadConfiguration (f env)
  | .enforceRecordingDeadline env => .enforceRecordingDeadline (f env)
  | .pollRecognition env => .pollRecognition (f env)
  | .pollAudioTelemetry env => .pollAudioTelemetry (f env)
  | input => input

/-- The file operations of `check_voice_activity`, for a recording that is long enough. -/
def checkFile (config : Config) (vadConfig : Vad.VadConfig) (audio : CapturedAudio) :
    Files.FileCall PUnit :=
  if audio.durationMillis < config.audio.minimumDurationMillis ∨ config.audio.vadEnabled = false then
    pure ⟨⟩
  else do
    let result ← Vad.analyzeFile audio.path vadConfig
    if result.speechDetected then do
      let _ ← Vad.trimFile audio.path result
      pure ⟨⟩
    else pure ⟨⟩

namespace ArtefactSystem

variable (self : ArtefactSystem) (answers : Capture.CaptureAnswers)

def disk : Disk := ⟨self.tree, answers.faults⟩

/-- The end of the running capture. -/
def stopped : Effects.Outcome Disk String Empty CapturedAudio :=
  match self.capture with
  | none => ⟨.error "no capture", self.disk answers, []⟩
  | some recording => (recording.stop answers).run (self.disk answers)

/-- What the disk answers to the calls of one operation. -/
def boundary (env : Environment) : Environment :=
  { env with
    startCapture := fun _ =>
      match ((Capture.startWithDevice answers).run (self.disk answers)).result with
      | .ok _ => .ok ⟨0⟩
      | .error message => .error (Capture.startFailed message)
    stopCapture := fun _ => (self.stopped answers).result.mapError Capture.stopFailed
    analyzeFile := fun path config =>
      ((Vad.analyzeFile path config).run (self.stopped answers).state).result
    trimFile := fun path result =>
      ((Vad.trimFile path result).run ((Files.read path).run (self.stopped answers).state).state).result }

/-- What an effect of an operation does to the disk. -/
def move (config : Config) (vadConfig : Vad.VadConfig) (now : Tree × Option Capture.Recording) :
    DaemonEffect → Tree × Option Capture.Recording
  | .armed _ _ =>
    let o := (Capture.startWithDevice answers).run (self.disk answers)
    (o.state.tree, o.result.toOption.map fun path => ⟨path, .ok ()⟩)
  | .captureStopped (.ok audio) =>
    (((checkFile config vadConfig audio).run (self.stopped answers).state).state.tree, none)
  | .captureStopped (.error _) => ((self.stopped answers).state.tree, none)
  | .captureCancelled =>
    match now.2 with
    | none => now
    | some recording => (((recording.cancel answers).run ⟨now.1, []⟩).state.tree, none)
  | .fileRemoved path =>
    (((Files.discard path (answers.removals path)).run ⟨now.1, []⟩).state.tree, now.2)
  | _ => now

/-- The worker is not in the middle of a staging. -/
def ended (worker : Nat) : Bool :=
  match self.staging worker with
  | none => true
  | some stage => stage.program.isDone

/-- A worker sends its result, or exits, between two stagings. -/
def Allowed : SystemInput → Prop
  | .workerReturns worker _ | .workerExits worker => self.ended worker = true
  | _ => True

instance : DecidablePred self.Allowed := fun input =>
  match input with
  | .workerReturns worker _ | .workerExits worker =>
    inferInstanceAs (Decidable (self.ended worker = true))
  | .start _ _ | .stop _ _ | .toggle _ _ | .cancel _ | .reset | .reloadConfiguration _
  | .enforceRecordingDeadline _ | .pollRecognition _ | .pollAudioTelemetry _ | .drainEvents
  | .quit | .workerNotifies => inferInstanceAs (Decidable True)

/-- A worker that runs and is between two stagings takes up the recording it was started with. -/
def stage (worker : Nat) (provider : Staging.Provider) (endpoint : String)
    (exchange : Except String (List UInt8) → StagingResult) : Option StagedUpload :=
  match self.system.workers[worker]? with
  | none => self.staging worker
  | some ⟨work, _, .pending⟩ =>
    if self.ended worker then
      some { pcmPath := work.input.pcmPath
             provider
             program := Staging.transcribePcmWithEvidence provider endpoint work.input.pcmPath
               exchange }
    else self.staging worker
  | some _ => self.staging worker

def step : ArtefactInput → ArtefactSystem
  | .daemon input answers =>
    if self.Allowed input then
      let next := self.system.step (input.withAnswers (self.boundary answers))
      let moved := (moves next.1.effects).foldl (self.move answers self.system.daemon.config
        self.system.daemon.vadConfig) (self.tree, self.capture)
      { self with system := next.2, tree := moved.1, capture := moved.2 }
    else self
  | .receives bytes fault =>
    match self.capture with
    | none => self
    | some recording =>
      let o := (recording.receive bytes).run ⟨self.tree, [fault]⟩
      { self with tree := o.state.tree, capture := o.result.toOption.or (some recording) }
  | .stages worker provider endpoint exchange =>
    { self with staging :=
        Function.update self.staging worker (self.stage worker provider endpoint exchange) }
  | .acts worker fault =>
    match self.staging worker with
    | none => self
    | some stage =>
      let next := stage.program.step fault self.tree
      { self with
        tree := next.2
        staging := Function.update self.staging worker (some { stage with program := next.1 }) }
  | .elsewhere path contents =>
    if isArtefactName path then self
    else { self with tree := Function.update self.tree path contents }

/-- A removal, or the next write of a staging, fails. -/
def CutShort : ArtefactInput → Prop
  | .daemon _ answers => ∃ path, answers.removals path ≠ .none
  | .acts worker fault => ∃ stage ∈ self.staging worker, stage.program.CutShort fault
  | _ => False

end ArtefactSystem

/-- Runs of a composed daemon on a disk. -/
def artefactMachine (config : Config) (registry : ProviderRegistry) (wake : WakeHandle)
    (tree : Tree) : Transition.Machine ArtefactSystem ArtefactInput Unit where
  start :=
    { system := (systemMachine config registry wake).start
      tree
      capture := none
      staging := fun _ => none }
  step self input := ((), self.step input)

/-- What `load_with_wake` does to the files of the last process. -/
def cleanUp (config : Config) (directory : String) (answers : Capture.CleanupAnswers) :
    Files.FileCall Unit :=
  if config.desktop.retainRecordings then pure ()
  else Capture.cleanupDirectory directory answers

end VoxType
