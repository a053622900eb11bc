import VoxType.Daemon.Commands

/-!
# What `stop` can do

Each step of `stop` ends in one of a few outcomes; the state and the trace of
each are stated once here.
-/

namespace VoxType

set_option autoImplicit false

namespace Daemon

open Effects (Call)
open Effects.Call (get modify emit throw attempt ofExcept)

variable (env : Environment) (d : VoxTypeDaemon)

/-- The audio is long enough and, with the detector enabled, holds speech. -/
def Voiced (audio : CapturedAudio) : Prop :=
  d.config.audio.minimumDurationMillis ≤ audio.durationMillis ∧
    (d.config.audio.vadEnabled = false ∨
      ∃ result trimmed, env.analyzeFile audio.path d.vadConfig = .ok result ∧
        result.speechDetected = true ∧ env.trimFile audio.path result = .ok trimmed)

/-- There is a route for the active profile, and a thread to run it. -/
def Routed : Prop :=
  ∃ profile policy route,
    d.config.profiles.get? (d.activeProfile.getD d.config.defaultProfile) = some profile ∧
    profilePolicy profile = .ok policy ∧ d.app.planRoute policy env.now = .ok route ∧
    env.spawn = .ok ()

/-- What `begin_recognition` can do. -/
inductive BeginOutcome (session : SessionId) (audio : CapturedAudio) :
    DaemonOutcome String → Prop
  | noSpeech (hVoiced : ¬ Voiced env d audio) (response : String) {e : CommandEffect}
    (hAnswer : d.answer (.noSpeech session) = .ok e) :
    BeginOutcome session audio ⟨.ok response, d.applied (.noSpeech session),
      d.lease ++ [.command (.noSpeech session) (.ok e)]⟩
  | refused (hVoiced : ¬ Voiced env d audio) {error : VoxError}
    (hAnswer : d.answer (.noSpeech session) = .error error) :
    BeginOutcome session audio ⟨.error (mapError error), d.applied (.noSpeech session),
      d.lease ++ [.command (.noSpeech session) (.error error)]⟩
  | failed (hStart : ¬ (Voiced env d audio ∧ Routed env d)) (error : FdoError) :
    BeginOutcome session audio ⟨.error error, d, []⟩
  | noRoute (hRoute : ¬ Routed env d) (error : VoxError) :
    BeginOutcome session audio ⟨.error (.failed error.toString), d.applied (.fail session error),
      [.command (.fail session error) (d.answer (.fail session error))]⟩
  | started (hVoiced : Voiced env d audio) (hRoute : Routed env d) (response : String)
    {work : RecognitionWork} {job : RecognitionJob} (hWork : work.session = session)
    (hJob : job.session = session ∧ job.channel = env.channel) :
    BeginOutcome session audio ⟨.ok response, d.withJob (some job),
      [.workerStarted env.channel work]⟩

/-- The call that ends the session for want of speech, in place of a step `x` of the sequence. -/
theorem noSpeech_outcome {α : Type} {session : SessionId} {audio : CapturedAudio}
    (hVoiced : ¬ Voiced env d audio) {x : DaemonCall α} {value : α} {f : α → DaemonCall String}
    {response : String}
    (hRun : x.run d = (do
      cancelLease
      let _ ← (applyCommand (.noSpeech session)).mapError mapError
      pure value : DaemonCall α).run d)
    (hResponse : f value = pure response) :
    BeginOutcome env d session audio ((x >>= f).run d) := by
  rw [Call.bind_ok (cancelLease_run d)] at hRun
  cases hAnswer : d.answer (.noSpeech session) with
  | ok e =>
    rw [Call.bind_ok (mapped_ok d hAnswer)] at hRun
    rw [Call.pure_run, Call.after_mk, Call.after_mk, List.append_nil] at hRun
    rw [Call.bind_ok hRun, hResponse, Call.pure_run, Call.after_mk, List.append_nil]
    exact .noSpeech hVoiced response hAnswer
  | error error =>
    rw [Call.bind_error (mapped_error d hAnswer)] at hRun
    rw [Call.bind_error hRun]
    exact .refused hVoiced hAnswer

theorem plan_outcome {session : SessionId} {audio : CapturedAudio} (hVoiced : Voiced env d audio)
    (vadResult : Option Vad.VadResult) (audioMillis : Nat) :
    BeginOutcome env d session audio
      ((planRecognition env session audio vadResult audioMillis).run d) := by
  rw [planRecognition, Call.get_bind]
  cases hProfile : d.config.profiles.get? (d.activeProfile.getD d.config.defaultProfile) with
  | none =>
    refine .failed ?_ _
    rintro ⟨_, profile, _, _, h, _⟩
    rw [hProfile] at h
    cases h
  | some profile =>
    have hSame : ∀ {other}, d.config.profiles.get?
        (d.activeProfile.getD d.config.defaultProfile) = some other → other = profile := by
      intro other h
      rw [hProfile] at h
      exact (Option.some.inj h).symm
    dsimp only
    cases hPolicy : profilePolicy profile with
    | error error =>
      refine .failed ?_ _
      rintro ⟨_, other, policy, _, h, hOk, _⟩
      rw [hSame h, hPolicy] at hOk
      cases hOk
    | ok policy =>
      dsimp only
      cases hPlan : d.app.planRoute policy env.now with
      | error error =>
        refine .noRoute ?_ error
        rintro ⟨other, policy', route, h, hOk, hRoute, _⟩
        rw [hSame h, hPolicy] at hOk
        cases hOk
        rw [hPlan] at hRoute
        cases hRoute
      | ok route =>
        dsimp only
        rw [spawnRecognition]
        cases hSpawn : env.spawn with
        | error message =>
          refine .failed ?_ _
          rintro ⟨_, _, _, _, _, _, _, h⟩
          rw [hSpawn] at h
          cases h
        | ok u =>
          exact .started hVoiced ⟨profile, policy, route, hProfile, hPolicy, hPlan, hSpawn⟩ _
            rfl ⟨rfl, rfl⟩

/-- The part of `begin_recognition` after the duration check. -/
theorem activity_outcome {session : SessionId} {audio : CapturedAudio}
    (hLong : d.config.audio.minimumDurationMillis ≤ audio.durationMillis) :
    BeginOutcome env d session audio ((do
      match ← checkVoiceActivity env session audio with
      | .noSpeech response => pure response
      | .continue vadResult audioMillis =>
        planRecognition env session audio vadResult audioMillis : DaemonCall String).run d) := by
  have hCheck := congrArg (Call.run · d) (checkVoiceActivity.eq_def env session audio)
  dsimp only at hCheck
  rw [Call.get_bind] at hCheck
  cases hVad : d.config.audio.vadEnabled with
  | false =>
    rw [if_pos hVad] at hCheck
    rw [Call.bind_ok hCheck]
    exact plan_outcome env d ⟨hLong, .inl hVad⟩ none audio.durationMillis
  | true =>
    have hOn : ¬ d.config.audio.vadEnabled = false := by simp [hVad]
    rw [if_neg hOn] at hCheck
    cases hResult : env.analyzeFile audio.path d.vadConfig with
    | error message =>
      rw [hResult] at hCheck
      rw [Call.bind_error hCheck]
      refine .failed ?_ _
      rintro ⟨⟨_, hOff | ⟨result, trimmed, h, _⟩⟩, _⟩
      · exact hOn hOff
      · rw [hResult] at h
        cases h
    | ok result =>
      rw [hResult] at hCheck
      dsimp only at hCheck
      have hSame : ∀ {other}, env.analyzeFile audio.path d.vadConfig = .ok other →
          other = result := by
        intro other h
        rw [hResult] at h
        cases h
        rfl
      cases hSpeech : result.speechDetected with
      | true =>
        rw [if_pos hSpeech] at hCheck
        cases hTrim : env.trimFile audio.path result with
        | error message =>
          rw [hTrim] at hCheck
          rw [Call.bind_error hCheck]
          refine .failed ?_ _
          rintro ⟨⟨_, hOff | ⟨other, trimmed, h, _, hOk⟩⟩, _⟩
          · exact hOn hOff
          · rw [hSame h, hTrim] at hOk
            cases hOk
        | ok trimmed =>
          rw [hTrim] at hCheck
          rw [Call.bind_ok hCheck]
          exact plan_outcome env d ⟨hLong, .inr ⟨result, trimmed, hResult, hSpeech, hTrim⟩⟩ _ _
      | false =>
        have hVoiced : ¬ Voiced env d audio := by
          rintro ⟨_, hOff | ⟨other, trimmed, h, hSpoken, _⟩⟩
          · exact hOn hOff
          · rw [hSame h, hSpeech] at hSpoken
            cases hSpoken
        have hSilent : ¬ result.speechDetected = true := by simp [hSpeech]
        rw [if_neg hSilent] at hCheck
        exact noSpeech_outcome env d hVoiced hCheck rfl

theorem begin_outcome (session : SessionId) (audio : CapturedAudio) :
    BeginOutcome env d session audio ((beginRecognition env session audio).run d) := by
  rw [beginRecognition]
  have hCheck := congrArg (Call.run · d) (checkMinimumDuration.eq_def session audio)
  rw [Call.get_bind] at hCheck
  by_cases hLong : d.config.audio.minimumDurationMillis ≤ audio.durationMillis
  · rw [if_pos hLong] at hCheck
    rw [Call.bind_ok hCheck, Call.after_nil]
    exact activity_outcome env d hLong
  · have hVoiced : ¬ Voiced env d audio := fun h => hLong h.1
    rw [if_neg hLong] at hCheck
    exact noSpeech_outcome env d hVoiced hCheck rfl

/-- The end of `stop`: without a job there is nothing to wait for. -/
def settled : VoxTypeDaemon :=
  if d.recognitionJob.isNone then d.withoutTarget else d

def settledTrace (path : String) : List DaemonEffect :=
  if d.recognitionJob.isNone then d.removal path else []

theorem settledTrace_inert (path : String) : ∀ effect ∈ settledTrace d path, effect.Inert := by
  rw [settledTrace]
  split
  · exact d.removal_inert path
  · simp

/-- What `stop` does once the capture is closed, for a machine that is finalizing. -/
inductive ProcessOutcome (session : SessionId) (audio : CapturedAudio) :
    DaemonOutcome String → Prop
  | silent (hRoom : d.Room) (hStart : ¬ (Voiced env d audio ∧ Routed env d))
    (response : String) :
    ProcessOutcome session audio ⟨.ok response, settled (d.applied (.noSpeech session)),
      d.lease ++ [.command (.noSpeech session) (.ok .none)] ++
        settledTrace (d.applied (.noSpeech session)) audio.path⟩
  | failed (hRoom : d.Room) (hStart : ¬ (Voiced env d audio ∧ Routed env d)) (error : FdoError)
    (cause : VoxError) :
    ProcessOutcome session audio
      ⟨.error error, settled (d.applied (.fail session cause)),
        [.command (.fail session cause) (.ok (.cancelWork session))] ++ d.lease ++
          settledTrace (d.applied (.fail session cause)) audio.path⟩
  | full (hFull : ¬ d.Room) (hStart : ¬ (Voiced env d audio ∧ Routed env d)) (error : FdoError)
    {trace : List DaemonEffect} (hTrace : ∃ effect ∈ trace, effect.Backpressured)
    (hInert : ∀ effect ∈ trace, effect.Inert) :
    ProcessOutcome session audio ⟨.error error, settled d, trace⟩
  | started (hStart : Voiced env d audio ∧ Routed env d) (response : String)
    {work : RecognitionWork} {job : RecognitionJob} (hWork : work.session = session)
    (hJob : job.session = session ∧ job.channel = env.channel) :
    ProcessOutcome session audio ⟨.ok response, d.withJob (some job),
      [.workerStarted env.channel work]⟩

theorem processCapture_ok {session : SessionId} {audio : CapturedAudio} {response : String}
    {d' : VoxTypeDaemon} {trace : List DaemonEffect}
    (hBegin : (beginRecognition env session audio).run d = ⟨.ok response, d', trace⟩) :
    (processCapture env session audio).run d =
      ⟨.ok response, settled d', trace ++ settledTrace d' audio.path⟩ := by
  rw [processCapture, Call.attempt_bind, hBegin]
  dsimp only
  rw [Call.get_bind, settled, settledTrace]
  split
  · rw [Call.bind_ok (removeRecording_run d' audio.path)]
    simp
  · simp

theorem processCapture_error {session : SessionId} {audio : CapturedAudio} {error : FdoError}
    {d' d'' : VoxTypeDaemon} {trace extra : List DaemonEffect}
    (hBegin : (beginRecognition env session audio).run d = ⟨.error error, d', trace⟩)
    (hFail : (failNonterminalSession session "recognition.pipeline_failed"
      (env.renderError error)).run d' = ⟨.ok (), d'', extra⟩) :
    (processCapture env session audio).run d =
      ⟨.error error, settled d'',
        trace ++ extra ++ d''.lease ++ settledTrace d'' audio.path⟩ := by
  rw [processCapture, Call.attempt_bind, hBegin]
  dsimp only
  rw [Call.bind_ok hFail, Call.bind_ok (cancelLease_run d''), Call.get_bind, settled, settledTrace]
  split
  · rw [Call.bind_ok (removeRecording_run d'' audio.path)]
    simp
  · simp

/-- The guard of `fail_nonterminal_session`, for a machine in the given state. -/
theorem failNonterminal_active {session : SessionId} {code message : String}
    (hSession : d.state.session = some session) (hActive : d.state.isActive = true) :
    (failNonterminalSession session code message).run d =
      ⟨.ok (), d.applied (.fail session (VoxError.new .internal code message)),
        [.command (.fail session (VoxError.new .internal code message))
          (d.answer (.fail session (VoxError.new .internal code message)))]⟩ := by
  have hName : d.state.name ∈ ["preparing", "listening", "finalizing", "inserting"] := by
    cases hState : d.state <;> simp_all [SessionState.isActive, SessionState.name]
  rw [failNonterminalSession, Call.get_bind, if_pos ⟨hSession, hName⟩, Call.attempt_bind,
    applyCommand_run]
  rfl

theorem failNonterminal_over {session : SessionId} {code message : String}
    (hActive : d.state.isActive = false) :
    (failNonterminalSession session code message).run d = ⟨.ok (), d, []⟩ := by
  have hName : d.state.name ∉ ["preparing", "listening", "finalizing", "inserting"] := by
    cases hState : d.state <;> simp_all [SessionState.isActive, SessionState.name]
  rw [failNonterminalSession, Call.get_bind, if_neg (fun h => hName h.2)]
  rfl

theorem process_outcome {session : SessionId} (audio : CapturedAudio)
    (hState : d.state = .finalizing session) :
    ProcessOutcome env d session audio ((processCapture env session audio).run d) := by
  have hSession : d.state.session = some session := by rw [hState]; rfl
  have hActive : d.state.isActive = true := by rw [hState]; rfl
  have hFail : ∀ cause, d.app.machine.Accepts (.fail session cause) (.cancelWork session)
      { d.app.machine with state := .failed session cause } := fun cause => .fail cause hSession
  have hQuiet : d.app.machine.Accepts (.noSpeech session) .none
      { d.app.machine with state := .completed session } := .noSpeech hState
  generalize hRun : (beginRecognition env session audio).run d = o
  have hBegin := begin_outcome env d session audio
  rw [hRun] at hBegin
  by_cases hRoom : d.Room
  · cases hBegin with
    | noSpeech hVoiced response hAnswer =>
      rw [VoxTypeDaemon.answer_accepts hRoom hQuiet] at hAnswer
      cases hAnswer
      rw [processCapture_ok env d hRun]
      exact .silent hRoom (fun h => hVoiced h.1) response
    | refused _ hAnswer =>
      rw [VoxTypeDaemon.answer_accepts hRoom hQuiet] at hAnswer
      cases hAnswer
    | failed hStart error =>
      rw [processCapture_error env d hRun (failNonterminal_active d hSession hActive),
        VoxTypeDaemon.answer_accepts hRoom (hFail _)]
      exact .failed hRoom hStart error _
    | noRoute hRoute error =>
      have hOver : (d.applied (.fail session error)).state.isActive = false := by
        rw [VoxTypeDaemon.state_applied hRoom (hFail error)]
        rfl
      rw [VoxTypeDaemon.answer_accepts hRoom (hFail error)] at hRun
      rw [processCapture_error env d hRun (failNonterminal_over _ hOver), List.append_nil]
      exact .failed hRoom (fun h => hRoute h.2) _ error
    | started hVoiced hRoute response hWork hJob =>
      rw [processCapture_ok env d hRun, settled, settledTrace]
      exact .started ⟨hVoiced, hRoute⟩ response hWork hJob
  · have hNoApply : ∀ c, d.applied c = d := fun c => (VoxTypeDaemon.answer_full hRoom c).2
    cases hBegin with
    | noSpeech _ response hAnswer =>
      rw [(VoxTypeDaemon.answer_full hRoom _).1] at hAnswer
      cases hAnswer
    | refused hVoiced hAnswer =>
      rw [hNoApply] at hRun
      rw [processCapture_error env d hRun (failNonterminal_active d hSession hActive), hNoApply]
      refine .full hRoom (fun h => hVoiced h.1) _ (full_command d hRoom (.noSpeech session) ?_) ?_
      · rw [hAnswer]
        simp
      · exact inert_append (inert_append (inert_append (inert_append d.lease_inert
          (inert_command _ _)) (inert_command _ _)) d.lease_inert) (settledTrace_inert d _)
    | failed hStart error =>
      rw [processCapture_error env d hRun (failNonterminal_active d hSession hActive), hNoApply]
      exact .full hRoom hStart _ (full_command d hRoom (.fail session (VoxError.new .internal
        "recognition.pipeline_failed" (env.renderError error))) (by simp))
        (inert_append (inert_append (inert_append (by simp) (inert_command _ _)) d.lease_inert)
          (settledTrace_inert d _))
    | noRoute hRoute error =>
      rw [hNoApply] at hRun
      rw [processCapture_error env d hRun (failNonterminal_active d hSession hActive), hNoApply]
      exact .full hRoom (fun h => hRoute h.2) _
        (full_command d hRoom (.fail session error) (by simp))
        (inert_append (inert_append (inert_append (inert_command _ _) (inert_command _ _))
          d.lease_inert) (settledTrace_inert d _))
    | started hVoiced hRoute response hWork hJob =>
      rw [processCapture_ok env d hRun, settled, settledTrace]
      exact .started ⟨hVoiced, hRoute⟩ response hWork hJob

/-- Telemetry touches the overlay fields only. -/
theorem telemetry_eq : ∃ vad audio overlay, d.telemetry env =
    { d with liveVad := vad, lastLiveAudio := audio, lastAudioOverlayAt := overlay } := by
  rw [VoxTypeDaemon.telemetry]
  generalize (if d.recording.isSome then env.drainMetrics else []) = frames
  dsimp only
  split
  · exact ⟨d.liveVad, d.lastLiveAudio, d.lastAudioOverlayAt, rfl⟩
  · exact ⟨d.liveVad, d.lastLiveAudio, d.lastAudioOverlayAt, rfl⟩
  · split
    · exact ⟨_, _, _, rfl⟩
    · split
      · exact ⟨_, _, d.lastAudioOverlayAt, rfl⟩
      · exact ⟨_, _, _, rfl⟩

/-- The state `stop` closes the capture in. -/
def stopping (session : SessionId) : VoxTypeDaemon :=
  ((d.telemetry env).applied (.stop session)).withoutRecording

/-- What every operation that calls `stop` can do. -/
inductive StopOutcome (requested : String) : DaemonOutcome String → Prop
  | refused (error : FdoError)
    (hOther : ∀ session, d.state.session = some session → ¬ Names requested session) :
    StopOutcome requested ⟨.error error, d, []⟩
  | rejected {session : SessionId} {error : VoxError} (hSession : d.state.session = some session)
    (hAnswer : d.answer (.stop session) = .error error) :
    StopOutcome requested ⟨.error (mapError error), d.telemetry env,
      [.command (.stop session) (.error error)]⟩
  | missing {session : SessionId} {mode : TriggerMode} (hRoom : d.Room)
    (hState : d.state = .listening session mode) (hRecording : d.recording = none)
    (error : FdoError) :
    StopOutcome requested ⟨.error error, (d.telemetry env).applied (.stop session),
      [.command (.stop session) (.ok (.stopCapture session))]⟩
  | stopFailed {session : SessionId} {mode : TriggerMode} {recording : CaptureSession}
    {error : VoxError} (hRoom : d.Room) (hState : d.state = .listening session mode)
    (hRecording : d.recording = some recording)
    (hStop : env.stopCapture recording = .error error) (hNames : Names requested session) :
    StopOutcome requested
      ⟨.error (mapError error), (stopping env d session).applied (.fail session error),
        [.command (.stop session) (.ok (.stopCapture session)), .captureStopped (.error error),
          .command (.fail session error) ((stopping env d session).answer (.fail session error))]⟩
  | processed {session : SessionId} {mode : TriggerMode} {recording : CaptureSession}
    {audio : CapturedAudio} (hRoom : d.Room) (hState : d.state = .listening session mode)
    (hRecording : d.recording = some recording) (hStop : env.stopCapture recording = .ok audio)
    {o : DaemonOutcome String}
    (hProcess : ProcessOutcome env (stopping env d session) session audio o)
    (hNames : Names requested session) :
    StopOutcome requested (o.after [.command (.stop session) (.ok (.stopCapture session)),
      .captureStopped (.ok audio)])

theorem telemetry_app : (d.telemetry env).app = d.app := by
  obtain ⟨_, _, _, hTelemetry⟩ := telemetry_eq env d
  rw [hTelemetry]

theorem telemetry_work : (d.telemetry env).recording = d.recording ∧
    (d.telemetry env).recordingStartedAt = d.recordingStartedAt ∧
    (d.telemetry env).recognitionJob = d.recognitionJob ∧
    (d.telemetry env).armedInsertion = d.armedInsertion ∧
    (d.telemetry env).activeProfile = d.activeProfile := by
  obtain ⟨_, _, _, hTelemetry⟩ := telemetry_eq env d
  rw [hTelemetry]
  exact ⟨rfl, rfl, rfl, rfl, rfl⟩

theorem telemetry_answer (c : Command) : (d.telemetry env).answer c = d.answer c := by
  rw [VoxTypeDaemon.answer, telemetry_app, VoxTypeDaemon.answer]

theorem stopping_facts {session : SessionId} {mode : TriggerMode} (hRoom : d.Room)
    (hState : d.state = .listening session mode) :
    (stopping env d session).state = .finalizing session ∧
      (stopping env d session).app.events.length = d.app.events.length + 1 ∧
      (stopping env d session).recording = none ∧
      (stopping env d session).recordingStartedAt = none ∧
      (stopping env d session).recognitionJob = d.recognitionJob ∧
      (stopping env d session).armedInsertion = d.armedInsertion ∧
      (stopping env d session).activeProfile = d.activeProfile := by
  obtain ⟨_, _, hJob, hArmed, hProfile⟩ := telemetry_work env d
  have hRoom' : (d.telemetry env).Room := by
    rw [VoxTypeDaemon.Room, telemetry_app]
    exact hRoom
  have hListening : (d.telemetry env).app.machine.state = .listening session mode := by
    rw [telemetry_app]
    exact hState
  have hAccepts := SessionMachine.Accepts.stop hListening
  refine ⟨VoxTypeDaemon.state_applied hRoom' hAccepts, ?_, rfl, rfl, hJob, hArmed, hProfile⟩
  have hEvents := VoxTypeDaemon.events_applied hRoom' hAccepts
  rw [telemetry_app] at hEvents
  exact hEvents

/-- The part of `stop` after its command. -/
theorem close_outcome {requested : String} {session : SessionId} {mode : TriggerMode}
    {recording : CaptureSession} (hRoom : d.Room) (hState : d.state = .listening session mode)
    (hRecording : d.recording = some recording) (hNames : Names requested session) :
    StopOutcome env d requested (((closeCapture env session recording).run
      ((d.telemetry env).applied (.stop session))).after
        [.command (.stop session) (.ok (.stopCapture session))]) := by
  rw [closeCapture, Call.modify_bind, Call.emit_bind]
  change StopOutcome env d requested
    ((Effects.Outcome.after (Call.run _ (stopping env d session)) _).after _)
  cases hStop : env.stopCapture recording with
  | error error =>
    dsimp only
    rw [attempt_throw_run]
    exact .stopFailed hRoom hState hRecording hStop hNames
  | ok audio =>
    rw [Call.after_after]
    exact .processed hRoom hState hRecording hStop
      (process_outcome env _ audio (stopping_facts env d hRoom hState).1) hNames

theorem stop_outcome (requested : String) :
    StopOutcome env d requested ((stop env requested).run d) := by
  rw [stop]
  rcases activeSessionId_run d requested with
    ⟨error, hActive, hOther⟩ | ⟨active, hSession, hNames, hActive⟩
  · rw [Call.bind_error hActive]
    exact .refused error hOther
  · rw [Call.bind_ok hActive, pollAudioTelemetry, Call.modify_bind, Call.after_nil]
    cases hAnswer : (d.telemetry env).answer (.stop active) with
    | error error =>
      rw [Call.bind_error (mapped_error _ hAnswer), VoxTypeDaemon.applied_error hAnswer]
      rw [telemetry_answer] at hAnswer
      exact .rejected hSession hAnswer
    | ok e =>
      have hOk := hAnswer
      rw [telemetry_answer] at hOk
      obtain ⟨hRoom, m', hAccepts⟩ := VoxTypeDaemon.answer_ok_room hOk
      cases hAccepts with
      | stop hState =>
        rw [Call.bind_ok (mapped_ok _ hAnswer), Call.get_bind]
        have hRecording : ((d.telemetry env).applied (.stop active)).recording = d.recording :=
          (telemetry_work env d).1
        rw [hRecording]
        cases hCapture : d.recording with
        | none => exact .missing hRoom hState hCapture _
        | some recording => exact close_outcome env d hRoom hState hCapture hNames

end Daemon

end VoxType
