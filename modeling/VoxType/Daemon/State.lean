import VoxType.App.Controller
import VoxType.Audio.Vad
import VoxType.Daemon.Config
import VoxType.Library.Effects

/-!
# The daemon, its boundary and its effects

Capture, insertion, files, threads and clocks answer through `Environment`;
what an operation does to them is its trace.
-/

namespace VoxType

set_option autoImplicit false

structure CapturedAudio where
  path : String
  bytes : Nat
  durationMillis : Nat
  backend : String
  deriving DecidableEq, Repr

inductive InsertionMode
  | auto
  | fcitx
  | clipboard
  | copy
  deriving DecidableEq, Repr

structure InsertionArm where
  session : SessionId
  backend : String
  deriving DecidableEq, Repr

structure InsertionOutcome where
  backend : String
  clipboardRestored : Bool
  deriving DecidableEq, Repr

/-- The handle of a running capture. -/
structure CaptureSession where
  id : Nat
  deriving DecidableEq, Repr

/-- `channel` names the receiver and the cancellation token shared with one worker. -/
structure RecognitionJob where
  session : SessionId
  channel : Nat
  recordingPath : String
  vadResult : Option Vad.VadResult
  audioMillis : Nat
  deriving DecidableEq, Repr

/-- What a recognition thread is started with. -/
structure RecognitionWork where
  session : SessionId
  registry : ProviderRegistry
  route : RoutePlan
  input : RecognitionInput

inductive FdoError
  | failed (message : String)
  | invalidArgs (message : String)
  deriving DecidableEq, Repr

inductive TryRecv
  | empty
  | disconnected
  | received (result : RecognitionRouteResult)

structure VoxTypeDaemon where
  app : AppController
  recording : Option CaptureSession
  config : Config
  activeProfile : Option String
  armedInsertion : Option InsertionArm
  transcriptHistory : List String
  recordingStartedAt : Option Nat
  recognitionJob : Option RecognitionJob
  liveVad : Option Vad.StreamingVad
  lastLiveAudio : Option Vad.VadFrameAnalysis
  lastAudioOverlayAt : Option Nat
  quit : Bool

inductive DaemonEffect
  | command (command : Command) (answer : Except VoxError CommandEffect)
  | finished (session : SessionId) (answer : Except VoxError Unit)
  | armed (session : SessionId) (arm : InsertionArm)
  | leaseCancelled (arm : InsertionArm)
  | committed (session : SessionId) (state : SessionState) (arm : InsertionArm) (text : String)
      (answer : Except VoxError InsertionOutcome)
  | captureStopped (answer : Except VoxError CapturedAudio)
  | captureCancelled
  | workerStarted (channel : Nat) (work : RecognitionWork)
  | tokenCancelled (channel : Nat)
  | fileRemoved (path : String)
  | drained (events : List AppEvent)

structure Environment where
  arm : InsertionMode → SessionId → Except VoxError InsertionArm
  commit : InsertionArm → String → Except VoxError InsertionOutcome
  startCapture : Option String → Except VoxError CaptureSession
  stopCapture : CaptureSession → Except VoxError CapturedAudio
  drainMetrics : List Capture.AudioFrameMetrics
  analyzeFile : String → Vad.VadConfig → Except String Vad.VadResult
  trimFile : String → Vad.VadResult → Except String Nat
  spawn : Except String Unit
  channel : Nat
  tryRecv : Nat → TryRecv
  loadConfig : Except VoxError Config
  now : Nat
  renderError : FdoError → String

abbrev DaemonCall (α : Type) : Type := Effects.Call VoxTypeDaemon FdoError DaemonEffect α

abbrev DomainCall (α : Type) : Type := Effects.Call VoxTypeDaemon VoxError DaemonEffect α

/-- `map_error` -/
def mapError (error : VoxError) : FdoError := .failed s!"{error.code}: {error.message}"

namespace VoxTypeDaemon

/-- The last step of `compose`, after validation and the registry. -/
def composed (config : Config) (registry : ProviderRegistry) (wake : WakeHandle) :
    VoxTypeDaemon :=
  { app := AppController.withWake registry wake
    recording := none
    config
    activeProfile := none
    armedInsertion := none
    transcriptHistory := []
    recordingStartedAt := none
    recognitionJob := none
    liveVad := none
    lastLiveAudio := none
    lastAudioOverlayAt := none
    quit := false }

def state (self : VoxTypeDaemon) : SessionState := self.app.machine.state

def vadConfig (self : VoxTypeDaemon) : Vad.VadConfig :=
  { rmsThreshold := self.config.audio.vadRmsThreshold
    minimumVoicedFrames := self.config.audio.vadMinimumVoicedFrames }

def clearTelemetry (self : VoxTypeDaemon) : VoxTypeDaemon :=
  { self with
    recordingStartedAt := none, liveVad := none, lastLiveAudio := none, lastAudioOverlayAt := none }

/-- `self.recording.take()` and the fields of a capture -/
def withoutRecording (self : VoxTypeDaemon) : VoxTypeDaemon :=
  { self.clearTelemetry with recording := none }

def withArm (self : VoxTypeDaemon) (arm : Option InsertionArm) : VoxTypeDaemon :=
  { self with armedInsertion := arm }

def withJob (self : VoxTypeDaemon) (job : Option RecognitionJob) : VoxTypeDaemon :=
  { self with recognitionJob := job }

def withoutTarget (self : VoxTypeDaemon) : VoxTypeDaemon :=
  { self with activeProfile := none, armedInsertion := none }

/-- `poll_audio_telemetry`, up to the overlay it feeds. -/
def telemetry (env : Environment) (self : VoxTypeDaemon) : VoxTypeDaemon :=
  let frames := if self.recording.isSome then env.drainMetrics else []
  match frames, self.liveVad with
  | [], _ => self
  | _, none => self
  | frame :: rest, some vad =>
    let first := vad.processLevel frame.rms
    let last := rest.foldl (fun reading frame => reading.2.processLevel frame.rms) first
    let self := { self with liveVad := some last.2, lastLiveAudio := some last.1 }
    match self.lastAudioOverlayAt with
    | none => { self with lastAudioOverlayAt := some env.now }
    | some at' =>
      if env.now - at' < 100 * 10 ^ 6 then self
      else { self with lastAudioOverlayAt := some env.now }

end VoxTypeDaemon

namespace Daemon

open Effects.Call (get modify emit throw attempt ofExcept)

def applyCommand (command : Command) : DomainCall CommandEffect where
  run self :=
    let applied := self.app.apply command
    ⟨applied.1, { self with app := applied.2 }, [.command command applied.1]⟩

def finishSession (session : SessionId) (outcome errorCode backend : String) (charCount : Nat) :
    DomainCall Unit where
  run self :=
    let applied := self.app.finishSession session outcome errorCode backend charCount
    ⟨applied.1, { self with app := applied.2 }, [.finished session applied.1]⟩

/-- `if let Some(armed) = self.armed_insertion.as_ref() { insertion_adapter.cancel(armed) }` -/
def cancelLease : DaemonCall Unit where
  run self := ⟨.ok (), self, self.armedInsertion.toList.map .leaseCancelled⟩

def pollAudioTelemetry (env : Environment) : DaemonCall Unit :=
  modify (VoxTypeDaemon.telemetry env)

def removeRecording (path : String) : DaemonCall Unit := do
  let self ← get
  if self.config.desktop.retainRecordings then pure () else emit (.fileRemoved path)

def failNonterminalSession (session : SessionId) (code message : String) : DaemonCall Unit := do
  let self ← get
  if self.state.session = some session ∧
      self.state.name ∈ ["preparing", "listening", "finalizing", "inserting"] then do
    let _ ← attempt (applyCommand (.fail session (VoxError.new .internal code message)))
    pure ()
  else pure ()

def activeSessionId (requested : String) : DaemonCall SessionId := do
  let self ← get
  match self.state.session with
  | none => throw (.failed "no active session")
  | some active =>
    if requested.isEmpty ∨ requested = active.value then pure active
    else throw (.invalidArgs "session ID does not match")

end Daemon

end VoxType
