import VoxType.Daemon.Workers

/-!
# Phases of the daemon

Between two calls the daemon rests, captures or waits for a worker; the
capture, its clock and the job follow the state of the machine.
-/

namespace VoxType

set_option autoImplicit false

inductive Phase (d : VoxTypeDaemon) : Prop
  | resting (hState : d.state.isActive = false) (hRecording : d.recording = none)
    (hStarted : d.recordingStartedAt = none) (hJob : d.recognitionJob = none) : Phase d
  | listening {s : SessionId} {mode : TriggerMode} (hState : d.state = .listening s mode)
    (hRecording : d.recording.isSome = true) (hStarted : d.recordingStartedAt.isSome = true)
    (hJob : d.recognitionJob = none) : Phase d
  | finalizing {job : RecognitionJob} (hState : d.state = .finalizing job.session)
    (hRecording : d.recording = none) (hStarted : d.recordingStartedAt = none)
    (hJob : d.recognitionJob = some job) : Phase d

/-- No call of the trace was refused for want of room. -/
def Unobstructed (trace : List DaemonEffect) : Prop := ∀ effect ∈ trace, ¬ effect.Backpressured

theorem Unobstructed.append {left right : List DaemonEffect}
    (h : Unobstructed (left ++ right)) : Unobstructed left ∧ Unobstructed right :=
  ⟨fun effect hMem => h effect (List.mem_append_left _ hMem),
    fun effect hMem => h effect (List.mem_append_right _ hMem)⟩

theorem Unobstructed.room {d : VoxTypeDaemon} {c : Command} {trace : List DaemonEffect}
    (h : Unobstructed trace) (hMem : .command c (d.answer c) ∈ trace) : d.Room := by
  by_contra hFull
  exact h _ hMem (backpressured_full hFull c)

namespace Phase

variable {d d' : VoxTypeDaemon}

theorem congr (h : Phase d) (hSame : d.SameWork d') : Phase d' := by
  cases h with
  | resting hState hRecording hStarted hJob =>
    exact .resting (hSame.state ▸ hState) (hSame.recording.trans hRecording)
      (hSame.recordingStartedAt.trans hStarted) (hSame.recognitionJob.trans hJob)
  | listening hState hRecording hStarted hJob =>
    exact .listening (hSame.state.trans hState) (hSame.recording ▸ hRecording)
      (hSame.recordingStartedAt ▸ hStarted) (hSame.recognitionJob.trans hJob)
  | finalizing hState hRecording hStarted hJob =>
    exact .finalizing (hSame.state.trans hState) (hSame.recording.trans hRecording)
      (hSame.recordingStartedAt.trans hStarted) (hSame.recognitionJob.trans hJob)

theorem at_rest (h : Phase d) (hInactive : d.state.isActive = false) :
    d.recording = none ∧ d.recordingStartedAt = none ∧ d.recognitionJob = none := by
  cases h with
  | resting _ hRecording hStarted hJob => exact ⟨hRecording, hStarted, hJob⟩
  | listening hState | finalizing hState =>
    rw [hState] at hInactive
    cases hInactive

theorem at_listening (h : Phase d) {s : SessionId} {mode : TriggerMode}
    (hListening : d.state = .listening s mode) :
    d.recording.isSome = true ∧ d.recognitionJob = none := by
  cases h with
  | resting hState =>
    rw [hListening] at hState
    cases hState
  | listening _ hRecording _ hJob => exact ⟨hRecording, hJob⟩
  | finalizing hState =>
    rw [hListening] at hState
    cases hState

theorem at_finalizing (h : Phase d) {job : RecognitionJob} (hJob : d.recognitionJob = some job) :
    d.state = .finalizing job.session ∧ d.recording = none ∧ d.recordingStartedAt = none := by
  cases h with
  | resting _ _ _ hNone | listening _ _ _ hNone =>
    rw [hJob] at hNone
    cases hNone
  | finalizing hState hRecording hStarted hSome =>
    rw [hJob] at hSome
    cases hSome
    exact ⟨hState, hRecording, hStarted⟩

end Phase

namespace Daemon

variable {env : Environment} {d : VoxTypeDaemon}

theorem state_fail (hRoom : d.Room) {session : SessionId} (error : VoxError)
    (hSession : d.state.session = some session) :
    (d.applied (.fail session error)).state = .failed session error :=
  VoxTypeDaemon.state_applied hRoom (.fail error hSession)

theorem StartOutcome.phase {profile : String} {o : DaemonOutcome String} (hPhase : Phase d)
    (h : StartOutcome env d profile o) (hFree : Unobstructed o.trace) : Phase o.state := by
  cases h with
  | refused | rejected => exact hPhase
  | @begun profileName _ hRoom hInactive _ hSession =>
    obtain ⟨hRecording, hStarted, hJob⟩ := hPhase.at_rest hInactive
    obtain ⟨hState, _⟩ := started_facts d hRoom hInactive
    cases hSession with
    | armFailed hRoom' error =>
      refine .resting ?_ hRecording hStarted hJob
      rw [Effects.Outcome.after, state_fail hRoom' error (by rw [hState]; rfl)]
      rfl
    | captureFailed hRoom' arm error =>
      refine .resting ?_ hRecording hStarted hJob
      have hRoom'' : ((d.applied _).withArm none).Room := hRoom'
      change (VoxTypeDaemon.state (VoxTypeDaemon.applied _ _)).isActive = false
      rw [state_fail hRoom'' error (congrArg SessionState.session hState)]
      rfl
    | listening hRoom' arm recording =>
      have hListening := VoxTypeDaemon.state_applied
        (d := ((d.applied _).withArm (some arm)).capturing recording profileName env.now) hRoom'
        (.captureReady hState)
      exact .listening hListening rfl rfl hJob
    | full _ _ _ _ hTrace =>
      obtain ⟨effect, hMem, hFull⟩ := hTrace
      exact absurd hFull (hFree effect (List.mem_append_right _ hMem))

theorem settled_fields (d : VoxTypeDaemon) : (settled d).app = d.app ∧
    (settled d).recording = d.recording ∧
    (settled d).recordingStartedAt = d.recordingStartedAt := by
  rw [settled]
  split <;> exact ⟨rfl, rfl, rfl⟩

theorem StopOutcome.phase {requested : String} {o : DaemonOutcome String} (hPhase : Phase d)
    (h : StopOutcome env d requested o) (hFree : Unobstructed o.trace) : Phase o.state := by
  cases h with
  | refused => exact hPhase
  | rejected => exact hPhase.congr (VoxTypeDaemon.sameWork_telemetry env d)
  | missing _ hState hRecording =>
    have hSome := (hPhase.at_listening hState).1
    rw [hRecording] at hSome
    cases hSome
  | stopFailed hRoom hState hRecording hStop =>
    obtain ⟨hFinal, _, hNone, hStarted, hJob, _⟩ := stopping_facts env d hRoom hState
    have hRoom' := hFree.room (d := stopping env d _) (c := .fail _ _)
      (List.mem_cons_of_mem _ (List.mem_cons_of_mem _ (List.mem_singleton_self _)))
    refine .resting ?_ hNone hStarted (hJob.trans (hPhase.at_listening hState).2)
    rw [state_fail hRoom' _ (by rw [hFinal]; rfl)]
    rfl
  | @processed session mode recording audio hRoom hState hRecording hStop o hProcess =>
    obtain ⟨hFinal, _, hNone, hStarted, hJob, _⟩ := stopping_facts env d hRoom hState
    have hIdle := hJob.trans (hPhase.at_listening hState).2
    have resting : ∀ {c : Command}, ((stopping env d session).applied c).state.isActive = false →
        Phase (settled ((stopping env d session).applied c)) := by
      intro c hOver
      obtain ⟨hApp, hRecording', hStarted'⟩ := settled_fields ((stopping env d session).applied c)
      refine .resting ?_ (hRecording'.trans hNone) (hStarted'.trans hStarted)
        ((settled_job _).trans hIdle)
      rw [VoxTypeDaemon.state, hApp]
      exact hOver
    cases hProcess with
    | silent hRoom' =>
      refine resting ?_
      rw [VoxTypeDaemon.state_applied hRoom' (.noSpeech hFinal)]
      rfl
    | failed hRoom' _ _ cause =>
      refine resting ?_
      rw [state_fail hRoom' cause (by rw [hFinal]; rfl)]
      rfl
    | full _ _ _ hTrace =>
      obtain ⟨effect, hMem, hFull⟩ := hTrace
      exact absurd hFull (hFree effect (List.mem_append_right _ hMem))
    | started _ _ _ hNext =>
      refine .finalizing ?_ hNone hStarted rfl
      rw [hNext.1]
      exact hFinal

theorem CancelOutcome.phase {o : DaemonOutcome Unit} (hPhase : Phase d) (h : CancelOutcome d o) :
    Phase o.state := by
  cases h with
  | refused | rejected => exact hPhase
  | cancelled hRoom hSession =>
    refine .resting ?_ rfl rfl rfl
    change (VoxTypeDaemon.state (d.applied _)).isActive = false
    rw [VoxTypeDaemon.state_applied hRoom (.cancel hSession)]
    rfl

theorem ResetOutcome.phase {o : DaemonOutcome Unit} (hPhase : Phase d) (h : ResetOutcome d o) :
    Phase o.state := by
  cases h with
  | rejected => exact hPhase
  | wasReset hRoom hInactive =>
    obtain ⟨hRecording, hStarted, hJob⟩ := hPhase.at_rest hInactive
    refine .resting ?_ hRecording hStarted hJob
    rw [VoxTypeDaemon.state_applied hRoom (.reset hInactive)]
    rfl

/-- The session of the job is over once its outcome is delivered. -/
theorem DeliverOutcome.over {job : RecognitionJob} {outcome : Except VoxError RecognitionSuccess}
    {o : DaemonOutcome String} (hState : d.state = .finalizing job.session)
    (h : DeliverOutcome env d job outcome o)
    (hText : ∀ success, outcome = .ok success → RustText.isBlank success.transcript.text = false)
    (hFree : Unobstructed o.trace) :
    o.state.state.isActive = false ∧ o.state.recording = d.recording ∧
      o.state.recordingStartedAt = d.recordingStartedAt := by
  have hSession : d.state.session = some job.session := by rw [hState]; rfl
  have inserting : ∀ {text : String}, d.Room → RustText.isBlank text = false →
      (d.applied (.transcriptReady job.session text)).state = .inserting job.session text :=
    fun hRoom hSome => VoxTypeDaemon.state_applied hRoom (.transcriptReady hState hSome)
  cases h with
  | failed hRoom error =>
    refine ⟨?_, rfl, rfl⟩
    rw [state_fail hRoom error hSession]
    rfl
  | blank _ hBlank =>
    rw [hText _ rfl] at hBlank
    cases hBlank
  | notInserted hRoom hSome hRoom' =>
    refine ⟨?_, rfl, rfl⟩
    rw [state_fail hRoom' _ (by rw [inserting hRoom hSome]; rfl)]
    rfl
  | inserted hRoom hSome hRoom' =>
    obtain ⟨hRecording, hStarted, _⟩ := VoxTypeDaemon.remember_work
      (((d.applied _).applied (.insertionComplete job.session)).finished job.session _ _) _
    refine ⟨?_, hRecording, hStarted⟩
    rw [VoxTypeDaemon.state, VoxTypeDaemon.remember_app, VoxTypeDaemon.finished,
      AppController.finishSession_machine]
    have hDone : ((d.applied _).applied (.insertionComplete job.session)).state =
        .completed job.session :=
      VoxTypeDaemon.state_applied hRoom' (.insertionComplete (inserting hRoom hSome))
    change (VoxTypeDaemon.state _).isActive = false
    rw [hDone]
    rfl
  | cut =>
    exact absurd (show DaemonEffect.Backpressured (.command _ (.error backpressureError)) from rfl)
      (hFree _ (List.mem_cons_of_mem _ (List.mem_append_right _ (List.mem_singleton_self _))))
  | full =>
    exact absurd (show DaemonEffect.Backpressured (.command _ (.error backpressureError)) from rfl)
      (hFree _ (List.mem_singleton_self _))

theorem PollOutcome.phase {o : DaemonOutcome Bool} (hPhase : Phase d) (h : PollOutcome env d o)
    (hText : ∀ job received success, d.recognitionJob = some job → Receives env job received →
      received.outcome = .ok success → RustText.isBlank success.transcript.text = false)
    (hFree : Unobstructed o.trace) : Phase o.state := by
  cases h with
  | idle => exact hPhase
  | stale hJob hState => exact absurd (hPhase.at_finalizing hJob).1 hState
  | @delivered job received hJob hReceives hState o hDeliver =>
    obtain ⟨_, hRecording, hStarted⟩ := hPhase.at_finalizing hJob
    have hNow := (receiving_lifecycle env d job received).1.trans hState
    obtain ⟨hOver, hRecording', hStarted'⟩ := hDeliver.over hNow
      (fun success => hText job received success hJob hReceives) hFree.append.1.append.1
    exact .resting hOver (hRecording'.trans hRecording) (hStarted'.trans hStarted)
      (hDeliver.job.trans rfl)

end Daemon

theorem StepOutcome.phase {log : List SystemEntry} {self : System} {i : SystemInput}
    {d' : VoxTypeDaemon} {trace : List DaemonEffect} (h : StepOutcome self i d' trace)
    (hPhase : Phase self.daemon) (hWorkers : WorkerHistory log self) (hQuit : i ≠ .quit)
    (hFree : Unobstructed trace) : Phase d' := by
  cases h with
  | kept hSame => exact hPhase.congr hSame
  | started hStart => exact hStart.phase hPhase hFree
  | stopped hStop => exact hStop.phase hPhase hFree
  | cancelled hCancel => exact hCancel.phase hPhase
  | wasReset hReset => exact hReset.phase hPhase
  | polled hPoll =>
    exact hPoll.phase hPhase (fun job received success => hWorkers.received_nonblank) hFree
  | quitted => exact absurd rfl hQuit

/-- What holds of the daemon between two calls. -/
structure PhaseInvariant (d : VoxTypeDaemon) : Prop where
  not_preparing : ∀ s mode, d.state ≠ .preparing s mode
  not_inserting : ∀ s text, d.state ≠ .inserting s text
  recording_iff : d.recording.isSome = true ↔ ∃ s mode, d.state = .listening s mode
  startedAt_iff : d.recordingStartedAt.isSome = true ↔ d.recording.isSome = true
  job_iff : d.recognitionJob.isSome = true ↔ ∃ s, d.state = .finalizing s
  job_session : ∀ job, d.recognitionJob = some job → d.state.session = some job.session

theorem Phase.invariant {d : VoxTypeDaemon} (h : Phase d) : PhaseInvariant d := by
  cases h with
  | resting hState hRecording hStarted hJob =>
    constructor
    case not_preparing | not_inserting =>
      intro s _ hNow
      rw [hNow] at hState
      cases hState
    case recording_iff =>
      refine iff_of_false (by rw [hRecording]; simp) ?_
      rintro ⟨s, mode, hNow⟩
      rw [hNow] at hState
      cases hState
    case startedAt_iff => rw [hStarted, hRecording]; rfl
    case job_iff =>
      refine iff_of_false (by rw [hJob]; simp) ?_
      rintro ⟨s, hNow⟩
      rw [hNow] at hState
      cases hState
    case job_session =>
      intro job hSome
      rw [hJob] at hSome
      cases hSome
  | listening hState hRecording hStarted hJob =>
    constructor
    case not_preparing | not_inserting => simp [hState]
    case recording_iff => exact iff_of_true hRecording ⟨_, _, hState⟩
    case startedAt_iff => exact iff_of_true hStarted hRecording
    case job_iff => simp [hJob, hState]
    case job_session =>
      intro job hSome
      rw [hJob] at hSome
      cases hSome
  | finalizing hState hRecording hStarted hJob =>
    constructor
    case not_preparing | not_inserting => simp [hState]
    case recording_iff => simp [hRecording, hState]
    case startedAt_iff => rw [hStarted, hRecording]; rfl
    case job_iff => exact iff_of_true (by rw [hJob]; rfl) ⟨_, hState⟩
    case job_session =>
      intro job hSome
      rw [hJob] at hSome
      cases hSome
      rw [hState]
      rfl

section Runs

variable (config : Config) (registry : ProviderRegistry) (wake : WakeHandle)

theorem phase_run {inputs : List SystemInput} (hQuit : ∀ i ∈ inputs, i ≠ .quit)
    (hFree : Unobstructed (effects ((systemMachine config registry wake).log inputs))) :
    Phase ((systemMachine config registry wake).state inputs).daemon := by
  induction inputs using List.reverseRecOn with
  | nil => exact .resting rfl rfl rfl rfl
  | append_singleton inputs i ih =>
    rw [Transition.Machine.log_snoc, effects_snoc] at hFree
    rw [Transition.Machine.state_snoc]
    exact (System.step_outcome _ i).phase
      (ih (fun j hMem => hQuit j (List.mem_append_left _ hMem)) hFree.append.1)
      (worker_history config registry wake inputs)
      (hQuit i (List.mem_append_right _ (List.mem_singleton_self _))) hFree.append.2

/-- The phase and the resources of the daemon agree in every state a run reaches. -/
theorem phase_invariant (inputs : List SystemInput) (hQuit : ∀ i ∈ inputs, i ≠ .quit)
    (hFree : ∀ effect ∈ effects ((systemMachine config registry wake).log inputs),
      ¬ effect.Backpressured) :
    PhaseInvariant ((systemMachine config registry wake).state inputs).daemon :=
  (phase_run config registry wake hQuit hFree).invariant

end Runs

def cloud : ProviderId := ⟨"cloud", by decide⟩

def dictationConfig : Config where
  defaultProfile := "dictation"
  desktop := ⟨false, false, .fcitx⟩
  audio := ⟨"", 300, 120, false, 90, 3⟩
  profiles := ⟨[("dictation", ⟨"cloud", [], "en", .never⟩)], by decide⟩
  providers := ⟨[("cloud", .deepgram "https://asr" "model" "secret" 30 true)], by decide⟩

/-- Adapters of which every call succeeds. -/
def workingBoundary : Environment where
  arm _ session := .ok ⟨session, "fcitx5"⟩
  commit _ _ := .ok ⟨"fcitx5", false⟩
  startCapture _ := .ok ⟨0⟩
  stopCapture _ := .ok ⟨"capture.pcm", 32000, 1000, "pipewire"⟩
  drainMetrics := []
  analyzeFile _ _ := .error "unused"
  trimFile _ _ := .error "unused"
  spawn := .ok ()
  channel := 0
  tryRecv _ := .empty
  loadConfig := .ok dictationConfig
  now := 0
  renderError _ := ""

def answeringRoute : RouteEnvironment where
  isCancelled _ := false
  recognize _ _ _ := .ok ⟨⟨"hello", ⟨none, none, none⟩⟩, true, .accepted⟩

/-- One session, from its start to its inserted text. -/
def dictation : List SystemInput :=
  [.start workingBoundary "", .stop workingBoundary "", .workerReturns 0 answeringRoute,
    .pollRecognition workingBoundary]

theorem phase_invariant_dictation : PhaseInvariant
    ((systemMachine dictationConfig ⟨[cloud]⟩ .disabled).state dictation).daemon :=
  phase_invariant dictationConfig ⟨[cloud]⟩ .disabled dictation (by simp [dictation])
    (by decide)

end VoxType
