import VoxType.Daemon.Phase

/-!
# While a recognition is waited for

A machine that finalizes has no capture, and a job belongs to the session that
finalizes. Unlike the phases this survives a full event queue and a quit.
-/

namespace VoxType

set_option autoImplicit false

structure Waiting (d : VoxTypeDaemon) : Prop where
  closed : ∀ session, d.state = .finalizing session → d.recording = none
  job : ∀ job, d.recognitionJob = some job → d.state = .finalizing job.session

namespace Waiting

variable {d d' : VoxTypeDaemon}

theorem congr (h : Waiting d) (hState : d'.state = d.state) (hRecording : d'.recording = d.recording)
    (hJob : d'.recognitionJob = d.recognitionJob) : Waiting d' := by
  constructor
  · rw [hState, hRecording]
    exact h.closed
  · rw [hState, hJob]
    exact h.job

theorem idle (hRecording : d.recording = none) (hJob : d.recognitionJob = none) : Waiting d := by
  constructor
  · exact fun _ _ => hRecording
  · intro job hSome
    rw [hJob] at hSome
    cases hSome

/-- A machine that does not finalize has no job to wait for. -/
theorem no_job (h : Waiting d) (hOther : ∀ session, d.state ≠ .finalizing session) :
    d.recognitionJob = none := by
  cases hJob : d.recognitionJob with
  | none => rfl
  | some job => exact absurd (h.job job hJob) (hOther _)

theorem no_job_inactive (h : Waiting d) (hInactive : d.state.isActive = false) :
    d.recognitionJob = none := by
  refine h.no_job fun session hState => ?_
  rw [hState] at hInactive
  cases hInactive

theorem no_job_listening (h : Waiting d) {session : SessionId} {mode : TriggerMode}
    (hState : d.state = .listening session mode) : d.recognitionJob = none := by
  refine h.no_job fun other hFinal => ?_
  rw [hState] at hFinal
  cases hFinal

/-- A state that is not finalizing and has no job. -/
theorem other (hJob : d.recognitionJob = none) (hOther : ∀ session, d.state ≠ .finalizing session) :
    Waiting d := by
  constructor
  · exact fun session hState => absurd hState (hOther session)
  · intro job hSome
    rw [hJob] at hSome
    cases hSome

end Waiting

namespace Daemon

variable {env : Environment} {d : VoxTypeDaemon}

theorem StartOutcome.waiting {profile : String} {o : DaemonOutcome String} (hWaiting : Waiting d)
    (h : StartOutcome env d profile o) : Waiting o.state := by
  have hJob := h.job
  cases h with
  | refused | rejected => exact hWaiting
  | @begun profileName _ hRoom hInactive _ hSession =>
    refine .other (hJob.trans (hWaiting.no_job_inactive hInactive)) ?_
    obtain ⟨hState, _⟩ := started_facts d hRoom hInactive
    intro session hFinal
    cases hSession with
    | armFailed hRoom' error =>
      rw [Effects.Outcome.after, state_fail hRoom' error (by rw [hState]; rfl)] at hFinal
      cases hFinal
    | captureFailed hRoom' arm error =>
      have hRoom'' : ((d.applied _).withArm none).Room := hRoom'
      change (VoxTypeDaemon.state (VoxTypeDaemon.applied _ _)) = _ at hFinal
      rw [state_fail hRoom'' error (congrArg SessionState.session hState)] at hFinal
      cases hFinal
    | listening hRoom' arm recording =>
      have hListening := VoxTypeDaemon.state_applied
        (d := ((d.applied _).withArm (some arm)).capturing recording profileName env.now) hRoom'
        (.captureReady hState)
      cases hListening.symm.trans hFinal
    | full hFull error hApp =>
      have hSame := congrArg (fun app => app.machine.state) hApp
      change _ = VoxTypeDaemon.state _ at hSame
      rw [hState] at hSame
      cases hSame.symm.trans hFinal

theorem StopOutcome.waiting {requested : String} {o : DaemonOutcome String} (hWaiting : Waiting d)
    (h : StopOutcome env d requested o) : Waiting o.state := by
  cases h with
  | refused => exact hWaiting
  | rejected =>
    have hSame := VoxTypeDaemon.sameWork_telemetry env d
    exact hWaiting.congr hSame.state hSame.recording hSame.recognitionJob
  | missing _ hState hRecording =>
    obtain ⟨hRecording', _, hJob, _⟩ := telemetry_work env d
    exact .idle (hRecording'.trans hRecording) (hJob.trans (hWaiting.no_job_listening hState))
  | stopFailed hRoom hState =>
    obtain ⟨_, _, hNone, _, hJob, _⟩ := stopping_facts env d hRoom hState
    exact .idle hNone (hJob.trans (hWaiting.no_job_listening hState))
  | @processed session mode recording audio hRoom hState _ _ o hProcess =>
    obtain ⟨hFinal, _, hNone, _, hJob, _⟩ := stopping_facts env d hRoom hState
    have hIdle := hJob.trans (hWaiting.no_job_listening hState)
    have settled_idle : ∀ {d' : VoxTypeDaemon}, d'.recording = none → d'.recognitionJob = none →
        Waiting (settled d') := fun hRecording hNoJob =>
      .idle ((settled_fields _).2.1.trans hRecording) ((settled_job _).trans hNoJob)
    cases hProcess with
    | silent | failed | full => exact settled_idle hNone hIdle
    | started _ _ _ hNext =>
      constructor
      · exact fun _ _ => hNone
      · intro job hSome
        cases hSome
        rw [hNext.1]
        exact hFinal

theorem DeliverOutcome.recording {job : RecognitionJob}
    {outcome : Except VoxError RecognitionSuccess} {o : DaemonOutcome String}
    (h : DeliverOutcome env d job outcome o) : o.state.recording = d.recording := by
  cases h with
  | inserted => exact (VoxTypeDaemon.remember_work _ _).1
  | _ => rfl

theorem PollOutcome.waiting {o : DaemonOutcome Bool} (hWaiting : Waiting d)
    (h : PollOutcome env d o) : Waiting o.state := by
  cases h with
  | idle => exact hWaiting
  | stale =>
    constructor
    · exact hWaiting.closed
    · exact nofun
  | delivered _ _ hState hDeliver =>
    exact .idle (hDeliver.recording.trans (hWaiting.closed _ hState)) (hDeliver.job.trans rfl)

end Daemon

theorem StepOutcome.waiting {self : System} {i : SystemInput} {d' : VoxTypeDaemon}
    {trace : List DaemonEffect} (h : StepOutcome self i d' trace)
    (hWaiting : Waiting self.daemon) : Waiting d' := by
  cases h with
  | kept hSame => exact hWaiting.congr hSame.state hSame.recording hSame.recognitionJob
  | started hStart => exact hStart.waiting hWaiting
  | stopped hStop => exact hStop.waiting hWaiting
  | cancelled hCancel =>
    cases hCancel with
    | refused | rejected => exact hWaiting
    | cancelled => exact .idle rfl rfl
  | wasReset hReset =>
    cases hReset with
    | rejected => exact hWaiting
    | wasReset hRoom hInactive =>
      refine .other (hWaiting.no_job_inactive hInactive) fun session hFinal => ?_
      rw [VoxTypeDaemon.state_applied hRoom (.reset hInactive)] at hFinal
      cases hFinal
  | polled hPoll => exact hPoll.waiting hWaiting
  | quitted => exact .idle rfl rfl

theorem waiting_run (config : Config) (registry : ProviderRegistry) (wake : WakeHandle)
    (inputs : List SystemInput) :
    Waiting ((systemMachine config registry wake).state inputs).daemon :=
  (systemMachine config registry wake).invariant
    (P := fun _ sys => Waiting sys.daemon) (.idle rfl rfl)
    (fun _ sys i h => (System.step_outcome sys i).waiting h) inputs

end VoxType
