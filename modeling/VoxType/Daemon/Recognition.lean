import VoxType.Daemon.State

/-!
# From a finished capture to inserted text

The steps `stop` and `poll_recognition` are made of. Overlays and notifications
are left out.
-/

namespace VoxType

set_option autoImplicit false

inductive VoiceActivity
  | continue (result : Option Vad.VadResult) (audioMillis : Nat)
  | noSpeech (response : String)

def noSpeechGuidance (result : Vad.VadResult) (configuredThreshold minimumVoicedFrames : Nat) :
    String × String :=
  if 32000 ≤ result.peak then
    ("clipping", "Input clipped · lower microphone gain or move slightly farther away")
  else if Vad.satMul u16Max configuredThreshold 3 ≤ result.adaptiveThreshold ∧
      configuredThreshold ≤ result.noiseFloor then
    ("high-noise", "Background noise is high · reduce noise or run microphone calibration")
  else if result.peak < max (Vad.satMul u16Max result.adaptiveThreshold 2) 500 then
    ("too-quiet", "Input is too quiet · speak closer or increase microphone gain")
  else if 0 < result.voicedFrames ∧ result.voicedFrames < minimumVoicedFrames then
    ("speech-too-short", "Speech was too brief · hold the shortcut and speak a little longer")
  else
    ("unconfirmed", "Speech was not confirmed · speak continuously and avoid keyboard noise")

def describeVad : Option Vad.VadResult → String
  | none => "disabled"
  | some result =>
    s!"speech:{result.voicedFrames}/{result.totalFrames}:rms={result.averageRms}" ++
      s!":noise={result.noiseFloor}:threshold={result.adaptiveThreshold}" ++
      s!":trim={result.trimStartFrame.getD 0}-{result.trimEndFrame.getD 0}:peak={result.peak}"

def pushHistory (history : List String) (text : String) : List String :=
  (if history.length = 20 then history.drop 1 else history) ++ [text]

/-- The memory-only history of at most twenty transcripts, where it is enabled. -/
def VoxTypeDaemon.remember (self : VoxTypeDaemon) (text : String) : VoxTypeDaemon :=
  if self.config.desktop.transcriptHistoryEnabled then
    { self with transcriptHistory := pushHistory self.transcriptHistory text }
  else self

def workerDisconnected : RecognitionRouteResult :=
  { attempts := []
    outcome := .error (VoxError.new .internal "provider.worker_disconnected"
      "recognition worker exited without a result") }

namespace Daemon

open Effects.Call (get modify emit throw attempt ofExcept)

def checkMinimumDuration (session : SessionId) (recording : CapturedAudio) :
    DaemonCall (Option String) := do
  let self ← get
  if self.config.audio.minimumDurationMillis ≤ recording.durationMillis then pure none
  else do
    cancelLease
    let _ ← (applyCommand (.noSpeech session)).mapError mapError
    pure (some s!"session={session.value} result=no-speech duration_ms={recording.durationMillis}")

def checkVoiceActivity (env : Environment) (session : SessionId) (recording : CapturedAudio) :
    DaemonCall VoiceActivity := do
  let self ← get
  if self.config.audio.vadEnabled = false then
    pure (.continue none recording.durationMillis)
  else
    match env.analyzeFile recording.path self.vadConfig with
    | .error message => throw (.failed s!"VAD analysis failed: {message}")
    | .ok result =>
      if result.speechDetected then
        match env.trimFile recording.path result with
        | .error message => throw (.failed s!"audio trim failed: {message}")
        | .ok trimmedBytes =>
          pure (.continue (some result) (Vad.satMul u64Max trimmedBytes 1000 / 32000))
      else do
        cancelLease
        let _ ← (applyCommand (.noSpeech session)).mapError mapError
        let reason := (noSpeechGuidance result self.config.audio.vadRmsThreshold
          self.config.audio.vadMinimumVoicedFrames).1
        pure (.noSpeech
          (s!"session={session.value} result=no-speech reason={reason}" ++
            s!" vad_voiced_frames={result.voicedFrames} vad_total_frames={result.totalFrames}" ++
            s!" average_rms={result.averageRms} noise_floor={result.noiseFloor}" ++
            s!" threshold={result.adaptiveThreshold} peak={result.peak}"))

def failRecognition (session : SessionId) (error : VoxError) : DaemonCall String := do
  let _ ← attempt (applyCommand (.fail session error))
  throw (.failed error.toString)

/-- The routing policy of a profile; `ProviderId::new` may refuse an identifier. -/
def profilePolicy (profile : ProfileConfig) : Except VoxError RoutingPolicy := do
  let primary ← ProviderId.new profile.primary
  let fallbacks ← profile.fallbacks.mapM ProviderId.new
  pure { primary, fallbacks, replay := profile.replay.policy }

/-- The thread that runs the route, and the job that waits for it. -/
def spawnRecognition (env : Environment) (work : RecognitionWork) (job : RecognitionJob) :
    DaemonCall String := do
  match env.spawn with
  | .error message => throw (.failed s!"could not start recognition: {message}")
  | .ok () =>
    emit (.workerStarted env.channel work)
    modify fun self => self.withJob (some job)
    pure s!"session={work.session.value} result=processing"

def planRecognition (env : Environment) (session : SessionId) (recording : CapturedAudio)
    (vadResult : Option Vad.VadResult) (audioMillis : Nat) : DaemonCall String := do
  let self ← get
  match self.config.profiles.get? (self.activeProfile.getD self.config.defaultProfile) with
  | none => throw (.failed "active profile disappeared")
  | some profile =>
    match profilePolicy profile with
    | .error error => throw (mapError error)
    | .ok policy =>
      match self.app.planRoute policy env.now with
      | .error error => failRecognition session error
      | .ok route =>
        spawnRecognition env
          { session
            registry := self.app.registry
            route
            input := { pcmPath := recording.path, language := profile.language } }
          { session, channel := env.channel, recordingPath := recording.path, vadResult,
            audioMillis }

def beginRecognition (env : Environment) (session : SessionId) (recording : CapturedAudio) :
    DaemonCall String := do
  match ← checkMinimumDuration session recording with
  | some response => pure response
  | none =>
    match ← checkVoiceActivity env session recording with
    | .noSpeech response => pure response
    | .continue vadResult audioMillis =>
      planRecognition env session recording vadResult audioMillis

def insertText (env : Environment) (session : SessionId) (text : String) :
    DomainCall InsertionOutcome := do
  let self ← get
  match self.armedInsertion with
  | none =>
    throw (VoxError.new .invalidState "desktop.not_armed"
      "no text insertion target was armed for the session")
  | some armed =>
    if armed.session ≠ session then
      throw (VoxError.new .invalidState "desktop.session_mismatch"
        "text insertion target belongs to another session")
    else do
      let answer := env.commit armed text
      emit (.committed session self.state armed text answer)
      ofExcept answer

/-- What follows a successful insertion. -/
def recordInsertion (session : SessionId) (providerId text : String)
    (vadResult : Option Vad.VadResult) (insertion : InsertionOutcome) : DaemonCall String := do
  let _ ← (applyCommand (.insertionComplete session)).mapError mapError
  (finishSession session "completed" "" insertion.backend text.length).mapError mapError
  modify fun self => self.remember text
  pure (s!"session={session.value} provider={providerId} chars={text.length}" ++
    s!" backend={insertion.backend} clipboard_restored={insertion.clipboardRestored}" ++
    s!" vad={describeVad vadResult}")

def completeRecognition (env : Environment) (session : SessionId) (providerId text : String)
    (vadResult : Option Vad.VadResult) : DaemonCall String := do
  let effect ← (applyCommand (.transcriptReady session text)).mapError mapError
  match effect with
  | .insertText _ _ =>
    match ← attempt (insertText env session text) with
    | .ok insertion => recordInsertion session providerId text vadResult insertion
    | .error error => do
      let _ ← attempt (applyCommand (.fail session error))
      throw (mapError error)
  | _ => throw (.failed "state machine did not request insertion")

end Daemon

end VoxType
