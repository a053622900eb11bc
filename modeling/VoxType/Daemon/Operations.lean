import VoxType.Daemon.Recognition

/-! # The operations of the daemon -/

namespace VoxType

set_option autoImplicit false

def InsertionBackend.mode : InsertionBackend → InsertionMode
  | fcitx => .fcitx
  | clipboard => .clipboard
  | copy => .copy
  | auto => .auto

namespace VoxTypeDaemon

/-- The fields of a capture that has just started. -/
def capturing (self : VoxTypeDaemon) (recording : CaptureSession) (profileName : String)
    (now : Nat) : VoxTypeDaemon :=
  { self with
    recording := some recording
    liveVad :=
      if self.config.audio.vadEnabled then some (Vad.StreamingVad.new self.vadConfig) else none
    lastLiveAudio := none
    lastAudioOverlayAt := none
    recordingStartedAt := some now
    activeProfile := some profileName }

/-- `self.app.record_route_result` -/
def recorded (self : VoxTypeDaemon) (received : RecognitionRouteResult) (audioMillis now : Nat) :
    VoxTypeDaemon :=
  { self with app := self.app.recordRouteResult received audioMillis now }

end VoxTypeDaemon

namespace Daemon

open Effects.Call (get modify emit throw attempt ofExcept)

/-- The capture part of `start`, once the insertion target is armed. -/
def startCapture (env : Environment) (profileName : String) (session : SessionId) :
    DaemonCall String := do
  let self ← get
  match env.startCapture (some self.config.audio.device) with
  | .ok recording =>
    modify fun self => self.capturing recording profileName env.now
    let _ ← (applyCommand (.captureReady session)).mapError mapError
    pure session.value
  | .error error =>
    cancelLease
    modify fun self => self.withArm none
    let _ ← attempt (applyCommand (.fail session error))
    throw (mapError error)

/-- The part of `start` after the accepted command. -/
def beginSession (env : Environment) (profileName : String) (session : SessionId) :
    DaemonCall String := do
  let self ← get
  match env.arm self.config.desktop.insertionBackend.mode session with
  | .ok armed =>
    emit (.armed session armed)
    modify fun self => self.withArm (some armed)
    startCapture env profileName session
  | .error error =>
    let _ ← attempt (applyCommand (.fail session error))
    throw (mapError error)

def demoOnlyMessage : String :=
  "the default profile only contains fixed-text demo providers; configure a real ASR provider " ++
    "in VoxType Settings, or pass the demo profile explicitly for integration testing"

/-- What `start` checks before it issues a command. -/
def startProfile (self : VoxTypeDaemon) (profile : String) : Except FdoError String :=
  if self.recording.isSome then .error (.failed "recording is already active")
  else
    match self.config.profile (if profile.isEmpty then none else some profile) with
    | none => .error (.invalidArgs s!"unknown profile: {profile}")
    | some (profileName, selected) =>
      if profile.isEmpty ∧ profileIsDemoOnly self.config selected then
        .error (.failed demoOnlyMessage)
      else .ok profileName

def start (env : Environment) (profile : String) : DaemonCall String := do
  let self ← get
  match startProfile self profile with
  | .error error => throw error
  | .ok profileName =>
    let effect ← (applyCommand (.start ⟨.toggle, some profileName⟩)).mapError mapError
    match effect with
    | .beginCapture session _ => beginSession env profileName session
    | _ => throw (.failed "invalid start effect")

/-- The part of `stop` after the capture has been closed. -/
def processCapture (env : Environment) (active : SessionId) (audio : CapturedAudio) :
    DaemonCall String := do
  let response ← attempt (beginRecognition env active audio)
  match response with
  | .error error => do
    failNonterminalSession active "recognition.pipeline_failed" (env.renderError error)
    cancelLease
  | .ok _ => pure ()
  let self ← get
  if self.recognitionJob.isNone then do
    removeRecording audio.path
    modify VoxTypeDaemon.withoutTarget
  else pure ()
  ofExcept response

/-- The part of `stop` that closes the capture. -/
def closeCapture (env : Environment) (active : SessionId) (recording : CaptureSession) :
    DaemonCall String := do
  modify VoxTypeDaemon.withoutRecording
  emit (.captureStopped (env.stopCapture recording))
  match env.stopCapture recording with
  | .ok audio => processCapture env active audio
  | .error error =>
    let _ ← attempt (applyCommand (.fail active error))
    throw (mapError error)

def stop (env : Environment) (requested : String) : DaemonCall String := do
  let active ← activeSessionId requested
  pollAudioTelemetry env
  let _ ← (applyCommand (.stop active)).mapError mapError
  let self ← get
  match self.recording with
  | none => throw (.failed "recording process is missing")
  | some recording => closeCapture env active recording

def toggle (env : Environment) (profile : String) : DaemonCall String := do
  let self ← get
  if self.recording.isSome then stop env "" else start env profile

def cancelCapture : DaemonCall Unit := do
  let self ← get
  match self.recording with
  | none => pure ()
  | some _ => emit .captureCancelled

def cancelJob : DaemonCall Unit := do
  let self ← get
  match self.recognitionJob with
  | none => pure ()
  | some job =>
    emit (.tokenCancelled job.channel)
    emit (.fileRemoved job.recordingPath)

/-- What `cancel` and `quit` release alike. -/
def releaseWork : DaemonCall Unit := do
  cancelCapture
  cancelJob
  modify fun self => self.withoutRecording.withJob none
  cancelLease

def cancel (requested : String) : DaemonCall Unit := do
  let active ← activeSessionId requested
  let _ ← (applyCommand (.cancel active)).mapError mapError
  releaseWork
  modify VoxTypeDaemon.withoutTarget

def quit : DaemonCall Unit := do
  releaseWork
  modify fun self => { self with quit := true, app := self.app.notify }

def reset : DaemonCall Unit := do
  let _ ← (applyCommand .reset).mapError mapError
  pure ()

def reloadConfiguration (env : Environment) : DaemonCall Unit := do
  let self ← get
  if self.recording.isSome ∨ self.recognitionJob.isSome then
    throw (.failed "configuration reload requires an idle daemon")
  else
    match env.loadConfig with
    | .error error => throw (mapError error)
    | .ok config =>
      match buildProviderRegistry config with
      | .error error => throw (mapError error)
      | .ok registry =>
        modify fun self => { self with
          config
          app := self.app.replaceRegistry registry
          transcriptHistory :=
            if config.desktop.transcriptHistoryEnabled then self.transcriptHistory else [] }

def enforceRecordingDeadline (env : Environment) : DaemonCall Bool := do
  let self ← get
  match self.recordingStartedAt with
  | none => pure false
  | some startedAt =>
    if (env.now - startedAt) / 10 ^ 9 < self.config.audio.maximumDurationSeconds then pure false
    else do
      let _ ← stop env ""
      pure true

def cleanupRecognitionJob (job : RecognitionJob) : DaemonCall Unit :=
  removeRecording job.recordingPath

/-- The outcome of a route, delivered to the session that waited for it. -/
def deliver (env : Environment) (job : RecognitionJob) :
    Except VoxError RecognitionSuccess → DaemonCall String
  | .ok success =>
    completeRecognition env job.session success.providerId.value success.transcript.text
      job.vadResult
  | .error error => failRecognition job.session error

def finishCurrentJob (env : Environment) (job : RecognitionJob)
    (received : RecognitionRouteResult) : DaemonCall Bool := do
  modify fun self => self.recorded received job.audioMillis env.now
  let result ← attempt (deliver env job received.outcome)
  match result with
  | .error _ => cancelLease
  | .ok _ => pure ()
  cleanupRecognitionJob job
  modify VoxTypeDaemon.withoutTarget
  let _ ← ofExcept result
  pure true

def finishJob (env : Environment) (job : RecognitionJob) (received : RecognitionRouteResult) :
    DaemonCall Bool := do
  modify fun self => self.withJob none
  let self ← get
  if self.state.name = "finalizing" ∧ self.state.session = some job.session then
    finishCurrentJob env job received
  else do
    cleanupRecognitionJob job
    pure true

def pollRecognition (env : Environment) : DaemonCall Bool := do
  let self ← get
  match self.recognitionJob with
  | none => pure false
  | some job =>
    match env.tryRecv job.channel with
    | .empty => pure false
    | .disconnected => finishJob env job workerDisconnected
    | .received result => finishJob env job result

def drainEvents : DaemonCall Unit := do
  let self ← get
  emit (.drained self.app.events)
  modify fun self => { self with app := self.app.drainEvents.2 }

end Daemon

end VoxType
