import VoxType.Daemon.ConfiguredRuns

/-!
# What the daemon does with the files of recordings

A step starts a capture, ends one, hands a finished recording to a worker or
removes it. The recording is then that of the capture, that of the job, or no
longer the daemon's.
-/

namespace VoxType

set_option autoImplicit false

def DaemonEffect.movesFile : DaemonEffect → Bool
  | .armed _ _ | .captureStopped _ | .captureCancelled | .workerStarted _ _ | .fileRemoved _ => true
  | .command _ _ | .finished _ _ | .leaseCancelled _ | .committed _ _ _ _ _ | .tokenCancelled _
  | .drained _ => false

/-- The effects of a trace on files. -/
def moves (trace : List DaemonEffect) : List DaemonEffect := trace.filter DaemonEffect.movesFile

/-- An effect that is none on files. -/
theorem moves_nil {trace : List DaemonEffect} (h : ∀ effect ∈ trace, effect.movesFile = false) :
    moves trace = [] := List.filter_eq_nil_iff.mpr fun effect hMem => by rw [h effect hMem]; decide

@[simp] theorem moves_none : moves [] = [] := rfl

@[simp] theorem moves_append (left right : List DaemonEffect) :
    moves (left ++ right) = moves left ++ moves right := List.filter_append _ _

@[simp] theorem moves_command (c : Command) (answer : Except VoxError CommandEffect)
    (trace : List DaemonEffect) : moves (.command c answer :: trace) = moves trace := rfl

namespace VoxTypeDaemon

@[simp] theorem moves_lease (d : VoxTypeDaemon) : moves d.lease = [] := by
  refine moves_nil fun effect hMem => ?_
  obtain ⟨arm, _, rfl⟩ := List.mem_map.mp hMem
  rfl

@[simp] theorem moves_removal (d : VoxTypeDaemon) (path : String) :
    moves (d.removal path) = d.removal path := by
  rw [removal]
  split <;> rfl

end VoxTypeDaemon

/-- What a step may do with files; the daemon then holds the recording it is told to hold. -/
inductive FileMoves (env : Environment) (d : VoxTypeDaemon) :
    List DaemonEffect → VoxTypeDaemon → Prop
  | kept {d' : VoxTypeDaemon} (hRecording : d'.recording = d.recording)
    (hJob : d'.recognitionJob = d.recognitionJob) : FileMoves env d [] d'
  | captureFailed {d' : VoxTypeDaemon} {session : SessionId} {arm : InsertionArm}
    {error : VoxError} (hIdle : d.recording = none)
    (hStart : env.startCapture (some d.config.audio.device) = .error error)
    (hRecording : d'.recording = none) (hJob : d'.recognitionJob = d.recognitionJob) :
    FileMoves env d [.armed session arm] d'
  | captureStarted {d' : VoxTypeDaemon} {session : SessionId} {arm : InsertionArm}
    {recording : CaptureSession} (hIdle : d.recording = none)
    (hStart : env.startCapture (some d.config.audio.device) = .ok recording)
    (hRecording : d'.recording = some recording) (hJob : d'.recognitionJob = d.recognitionJob) :
    FileMoves env d [.armed session arm] d'
  | stopFailed {d' : VoxTypeDaemon} {recording : CaptureSession} {error : VoxError}
    (hCapture : d.recording = some recording) (hStop : env.stopCapture recording = .error error)
    (hRecording : d'.recording = none) (hJob : d'.recognitionJob = d.recognitionJob) :
    FileMoves env d [.captureStopped (.error error)] d'
  | discarded {d' : VoxTypeDaemon} {recording : CaptureSession} {audio : CapturedAudio}
    (hCapture : d.recording = some recording) (hStop : env.stopCapture recording = .ok audio)
    (hRecording : d'.recording = none) (hJob : d'.recognitionJob = d.recognitionJob) :
    FileMoves env d (.captureStopped (.ok audio) :: d.removal audio.path) d'
  | submitted {d' : VoxTypeDaemon} {recording : CaptureSession} {audio : CapturedAudio}
    {work : RecognitionWork} {job : RecognitionJob} (hCapture : d.recording = some recording)
    (hStop : env.stopCapture recording = .ok audio) (hWork : work.input.pcmPath = audio.path)
    (hPath : job.recordingPath = audio.path) (hRecording : d'.recording = none)
    (hJob : d'.recognitionJob = some job) :
    FileMoves env d [.captureStopped (.ok audio), .workerStarted env.channel work] d'
  | released {d' : VoxTypeDaemon} (hRecording : d'.recording = none)
    (hJob : d'.recognitionJob = none) :
    FileMoves env d (moves (d.captureEffects ++ d.jobEffects)) d'
  | received {d' : VoxTypeDaemon} {job : RecognitionJob} (hHeld : d.recognitionJob = some job)
    (hRecording : d'.recording = d.recording) (hJob : d'.recognitionJob = none) :
    FileMoves env d (d.removal job.recordingPath) d'

/-- What is done is told by the capture, the job and the configuration there were. -/
theorem FileMoves.congr {env : Environment} {d d₁ d' : VoxTypeDaemon} {trace : List DaemonEffect}
    (h : FileMoves env d₁ trace d') (hRecording : d₁.recording = d.recording)
    (hJob : d₁.recognitionJob = d.recognitionJob) (hConfig : d₁.config = d.config) :
    FileMoves env d trace d' := by
  have hRemoval : ∀ path, d₁.removal path = d.removal path := by
    intro path
    rw [VoxTypeDaemon.removal, VoxTypeDaemon.removal, hConfig]
  cases h with
  | kept hRecording' hJob' => exact .kept (hRecording'.trans hRecording) (hJob'.trans hJob)
  | captureFailed hIdle hStart hRecording' hJob' =>
    exact .captureFailed (hRecording.symm.trans hIdle) (hConfig ▸ hStart) hRecording'
      (hJob'.trans hJob)
  | captureStarted hIdle hStart hRecording' hJob' =>
    exact .captureStarted (hRecording.symm.trans hIdle) (hConfig ▸ hStart) hRecording'
      (hJob'.trans hJob)
  | stopFailed hCapture hStop hRecording' hJob' =>
    exact .stopFailed (hRecording.symm.trans hCapture) hStop hRecording' (hJob'.trans hJob)
  | discarded hCapture hStop hRecording' hJob' =>
    rw [hRemoval]
    exact .discarded (hRecording.symm.trans hCapture) hStop hRecording' (hJob'.trans hJob)
  | submitted hCapture hStop hWork hPath hRecording' hJob' =>
    exact .submitted (hRecording.symm.trans hCapture) hStop hWork hPath hRecording' hJob'
  | released hRecording' hJob' =>
    rw [VoxTypeDaemon.captureEffects, VoxTypeDaemon.jobEffects, hRecording, hJob]
    exact .released hRecording' hJob'
  | received hHeld hRecording' hJob' =>
    rw [hRemoval]
    exact .received (hJob.symm.trans hHeld) (hRecording'.trans hRecording) hJob'

/-- A worker is started on a recording that has just ended. -/
theorem FileMoves.starts {env : Environment} {d d' : VoxTypeDaemon} {trace : List DaemonEffect}
    (h : FileMoves env d trace d') {k : Nat} {work : RecognitionWork}
    (hMem : .workerStarted k work ∈ trace) : ∃ recording audio, d.recording = some recording ∧
      env.stopCapture recording = .ok audio ∧ work.input.pcmPath = audio.path := by
  have removal : ∀ path, .workerStarted k work ∉ d.removal path := fun path hMem =>
    d.removal_inert path _ hMem
  cases h with
  | kept => cases hMem
  | captureFailed | captureStarted | stopFailed => cases List.mem_singleton.mp hMem
  | discarded =>
    rcases List.mem_cons.mp hMem with hEq | hMem
    · cases hEq
    · exact absurd hMem (removal _)
  | @submitted _ recording audio _ _ hCapture hStop hWork =>
    rcases List.mem_cons.mp hMem with hEq | hMem
    · cases hEq
    · cases List.mem_singleton.mp hMem
      exact ⟨recording, audio, hCapture, hStop, hWork⟩
  | released =>
    have hInert := Daemon.release_inert d _ (List.mem_append_left _ (List.mem_filter.mp hMem).1)
    cases hInert
  | received => exact absurd hMem (removal _)

namespace Daemon

open Effects (Call)
open Effects.Call (get modify emit throw attempt ofExcept Within)

variable (env : Environment) (d : VoxTypeDaemon)

/-- The outcome of a call moves files in one of the ways there are. -/
def Moves {α : Type} (o : DaemonOutcome α) : Prop := FileMoves env d (moves o.trace) o.state

section Start

theorem beginSession_moves (profileName : String) (session : SessionId)
    (hIdle : d.recording = none) :
    Moves env d ((beginSession env profileName session).run d) := by
  rw [beginSession, Call.get_bind]
  cases env.arm d.config.desktop.insertionBackend.mode session with
  | error error =>
    dsimp only
    rw [attempt_throw_run]
    exact .kept rfl rfl
  | ok arm =>
    dsimp only
    rw [Call.emit_bind, Call.modify_bind, startCapture, Call.get_bind]
    cases hStart : env.startCapture (some d.config.audio.device) with
    | error error =>
      have hStart' : env.startCapture (some (d.withArm (some arm)).config.audio.device) =
          .error error := hStart
      rw [hStart']
      dsimp only
      rw [Call.bind_ok (cancelLease_run _), Call.modify_bind, attempt_throw_run, Call.after_mk,
        Call.after_mk]
      exact .captureFailed hIdle hStart hIdle rfl
    | ok recording =>
      have hStart' : env.startCapture (some (d.withArm (some arm)).config.audio.device) =
          .ok recording := hStart
      rw [hStart']
      dsimp only
      rw [Call.modify_bind]
      generalize hArmed : (d.withArm (some arm)).capturing recording profileName env.now = d'
      have hRecording : d'.recording = some recording := by rw [← hArmed]; rfl
      have hJob : d'.recognitionJob = d.recognitionJob := by rw [← hArmed]; rfl
      cases hAnswer : d'.answer (.captureReady session) with
      | error error =>
        rw [Call.bind_error (mapped_error d' hAnswer), Call.after_mk]
        exact .captureStarted hIdle hStart hRecording hJob
      | ok effect =>
        rw [Call.bind_ok (mapped_ok d' hAnswer), Call.pure_run, Call.after_mk, Call.after_mk]
        exact .captureStarted hIdle hStart hRecording hJob

theorem startProfile_idle {profile profileName : String}
    (h : startProfile d profile = .ok profileName) : d.recording = none := by
  cases hRecording : d.recording with
  | none => rfl
  | some recording =>
    rw [startProfile, hRecording, Option.isSome_some, if_pos rfl] at h
    cases h

theorem start_moves (profile : String) : Moves env d ((start env profile).run d) := by
  rw [start, Call.get_bind]
  cases hCheck : startProfile d profile with
  | error error => exact .kept rfl rfl
  | ok profileName =>
    dsimp only
    cases hAnswer : d.answer (.start ⟨.toggle, some profileName⟩) with
    | error error =>
      rw [Call.bind_error (mapped_error d hAnswer)]
      exact .kept rfl rfl
    | ok effect =>
      rw [Call.bind_ok (mapped_ok d hAnswer)]
      cases effect with
      | beginCapture session request =>
        have hSession := beginSession_moves env (d.applied (.start ⟨.toggle, some profileName⟩))
          profileName session (startProfile_idle d hCheck)
        exact hSession.congr rfl rfl rfl
      | _ => exact .kept rfl rfl

end Start

section Stop

/-- A worker is started on this recording, and the job is for it. -/
def Submits (path : String) (_ : VoxTypeDaemon) (trace : List DaemonEffect) (d' : VoxTypeDaemon) :
    Prop :=
  ∀ k work, .workerStarted k work ∈ trace → work.input.pcmPath = path ∧
    ∃ job, d'.recognitionJob = some job ∧ job.recordingPath = path

theorem submits_none {path : String} {trace : List DaemonEffect} {d d' : VoxTypeDaemon}
    (h : ∀ k work, .workerStarted k work ∉ trace) : Submits path d trace d' :=
  fun k work hMem => absurd hMem (h k work)

/-- Nothing is submitted before a call that leaves all alone. -/
theorem submits_after {path : String} {first second : List DaemonEffect} {d d' d'' : VoxTypeDaemon}
    (h : d.Untouched first d') (h' : Submits path d' second d'') :
    Submits path d (first ++ second) d'' := by
  intro k work hMem
  rcases List.mem_append.mp hMem with hMem | hMem
  · exact absurd hMem (h.starts k work)
  · exact h' k work hMem

theorem submits_plan (session : SessionId) (audio : CapturedAudio)
    (vadResult : Option Vad.VadResult) (audioMillis : Nat) :
    Within (Submits audio.path) (planRecognition env session audio vadResult audioMillis) := by
  intro d
  rw [planRecognition, Call.get_bind]
  split
  · exact submits_none fun _ _ => List.not_mem_nil
  · split
    · exact submits_none fun _ _ => List.not_mem_nil
    · split
      · exact submits_none (untouched_failRecognition session _ d).starts
      · rw [spawnRecognition]
        cases env.spawn with
        | error message => exact submits_none fun _ _ => List.not_mem_nil
        | ok _ =>
          intro k work hMem
          cases List.mem_singleton.mp hMem
          exact ⟨rfl, _, rfl, rfl⟩

theorem submits_begin (session : SessionId) (audio : CapturedAudio) :
    Within (Submits audio.path) (beginRecognition env session audio) := by
  refine .bind_of (fun h => submits_none h.starts) submits_after (untouched_duration session audio)
    fun checked => ?_
  cases checked with
  | some response => exact fun d => submits_none fun _ _ => List.not_mem_nil
  | none =>
    refine .bind_of (fun h => submits_none h.starts) submits_after
      (untouched_activity session audio) fun activity => ?_
    cases activity with
    | noSpeech response => exact fun d => submits_none fun _ _ => List.not_mem_nil
    | «continue» vadResult audioMillis => exact submits_plan env session audio vadResult audioMillis

/-- A finished recording is removed, or a worker and the job are left with it. -/
def Settled {α : Type} (path : String) (o : DaemonOutcome α) : Prop :=
  o.state.recording = d.recording ∧
    ((moves o.trace = d.removal path ∧ o.state.recognitionJob = none) ∨
      ∃ work job, moves o.trace = [.workerStarted env.channel work] ∧
        o.state.recognitionJob = some job ∧ work.input.pcmPath = path ∧ job.recordingPath = path)

theorem settled_moves (path : String) :
    moves (settledTrace d path) = if d.recognitionJob.isNone then d.removal path else [] := by
  rw [settledTrace]
  split
  · exact d.moves_removal path
  · rfl

theorem failNonterminal_run (session : SessionId) (code message : String) :
    ∃ d' trace, (failNonterminalSession session code message).run d = ⟨.ok (), d', trace⟩ ∧
      moves trace = [] ∧ d'.recording = d.recording ∧ d'.recognitionJob = d.recognitionJob ∧
      d'.config = d.config := by
  rw [failNonterminalSession, Call.get_bind]
  split
  · exact ⟨d.applied _, _, rfl, rfl, rfl, rfl, rfl⟩
  · exact ⟨d, [], rfl, rfl, rfl, rfl, rfl⟩

theorem processCapture_moves (session : SessionId) (audio : CapturedAudio)
    (hJob : d.recognitionJob = none) :
    Settled env d audio.path ((processCapture env session audio).run d) := by
  have hSubmits := submits_begin env session audio d
  have hBegin := begin_outcome env d session audio
  have removed : ∀ {α : Type} {result : Except FdoError α} {d' : VoxTypeDaemon}
      {trace : List DaemonEffect}, moves trace = [] → d'.recognitionJob = none →
      d'.recording = d.recording → d'.config = d.config →
      Settled env d audio.path ⟨result, settled d', trace ++ settledTrace d' audio.path⟩ := by
    intro α result d' trace hTrace hNone hRecording hConfig
    refine ⟨(settled_fields d').2.1.trans hRecording, .inl ⟨?_, (settled_job d').trans hNone⟩⟩
    rw [moves_append, hTrace, settled_moves, hNone, VoxTypeDaemon.removal, hConfig]
    rfl
  have failed : ∀ {d' : VoxTypeDaemon} {error : FdoError} {trace : List DaemonEffect},
      (beginRecognition env session audio).run d = ⟨.error error, d', trace⟩ → moves trace = [] →
      d'.recognitionJob = none → d'.recording = d.recording → d'.config = d.config →
      Settled env d audio.path ((processCapture env session audio).run d) := by
    intro d' error trace hRun hTrace hNone hRecording hConfig
    obtain ⟨d'', extra, hFail, hExtra, hRecording', hJob', hConfig'⟩ :=
      failNonterminal_run d' session "recognition.pipeline_failed" (env.renderError error)
    rw [processCapture_error env d hRun hFail]
    exact removed (by simp [hTrace, hExtra]) (hJob'.trans hNone) (hRecording'.trans hRecording)
      (hConfig'.trans hConfig)
  generalize hRun : (beginRecognition env session audio).run d = o at hBegin hSubmits
  cases hBegin with
  | noSpeech _ response hAnswer =>
    rw [processCapture_ok env d hRun]
    exact removed (by simp) hJob rfl rfl
  | refused _ hAnswer => exact failed hRun (by simp) hJob rfl rfl
  | failed _ error => exact failed hRun rfl hJob rfl rfl
  | noRoute _ error => exact failed hRun rfl hJob rfl rfl
  | @started _ _ response work job _ _ =>
    obtain ⟨hWork, job', hJob', hPath⟩ := hSubmits env.channel work (List.mem_singleton_self _)
    cases hJob'
    rw [processCapture_ok env d hRun]
    refine ⟨rfl, .inr ⟨work, job, ?_, rfl, hWork, hPath⟩⟩
    rw [moves_append, settled_moves]
    rfl

theorem closeCapture_moves (session : SessionId) {recording : CaptureSession}
    (hCapture : d.recording = some recording) (hJob : d.recognitionJob = none) :
    Moves env d ((closeCapture env session recording).run d) := by
  rw [closeCapture, Call.modify_bind, Call.emit_bind]
  cases hStop : env.stopCapture recording with
  | error error =>
    dsimp only
    rw [attempt_throw_run]
    exact .stopFailed hCapture hStop rfl rfl
  | ok audio =>
    dsimp only
    obtain ⟨hRecording, hSettled⟩ :=
      processCapture_moves env d.withoutRecording session audio hJob
    generalize (processCapture env session audio).run d.withoutRecording = o
      at hRecording hSettled
    change FileMoves env d (.captureStopped (.ok audio) :: moves o.trace) o.state
    rcases hSettled with ⟨hTrace, hNone⟩ | ⟨work, job, hTrace, hHeld, hWork, hPath⟩
    · rw [hTrace]
      exact .discarded hCapture hStop hRecording (hNone.trans hJob.symm)
    · rw [hTrace]
      exact .submitted hCapture hStop hWork hPath hRecording hHeld

theorem stop_moves (requested : String) (hWaiting : Waiting d) :
    Moves env d ((stop env requested).run d) := by
  obtain ⟨hRecording, _, hJob, _⟩ := telemetry_work env d
  have hConfig : (d.telemetry env).config = d.config := (untouched_telemetry d).config
  rw [stop]
  rcases activeSessionId_run d requested with
    ⟨error, hActive, _⟩ | ⟨active, hSession, _, hActive⟩
  · rw [Call.bind_error hActive]
    exact .kept rfl rfl
  · rw [Call.bind_ok hActive, pollAudioTelemetry, Call.modify_bind, Call.after_nil]
    cases hAnswer : (d.telemetry env).answer (.stop active) with
    | error error =>
      rw [Call.bind_error (mapped_error _ hAnswer)]
      exact .kept hRecording hJob
    | ok effect =>
      have hOk := hAnswer
      rw [telemetry_answer] at hOk
      obtain ⟨_, m', hAccepts⟩ := VoxTypeDaemon.answer_ok_room hOk
      cases hAccepts with
      | stop hState =>
        rw [Call.bind_ok (mapped_ok _ hAnswer), Call.get_bind]
        cases hCapture : ((d.telemetry env).applied (.stop active)).recording with
        | none => exact .kept hRecording hJob
        | some recording =>
          have hMoves := closeCapture_moves env ((d.telemetry env).applied (.stop active))
            active hCapture (hJob.trans (hWaiting.no_job_listening hState))
          exact hMoves.congr hRecording hJob hConfig

end Stop

section Others

variable {env d}

theorem DeliverOutcome.moves {job : RecognitionJob} {outcome : Except VoxError RecognitionSuccess}
    {o : DaemonOutcome String} (h : DeliverOutcome env d job outcome o) :
    moves o.trace = [] ∧ o.state.config = d.config := by
  have inserted : ∀ {d' : VoxTypeDaemon} {session : SessionId} {text : String}
      {effects : List DaemonEffect} {answer : Except VoxError InsertionOutcome},
      Insertion env d' session text effects answer → VoxType.moves effects = [] := by
    intro _ _ _ _ _ hInsertion
    cases hInsertion <;> rfl
  cases h with
  | failed | blank | full => exact ⟨rfl, rfl⟩
  | notInserted _ _ _ hInsertion | cut _ _ _ hInsertion =>
    refine ⟨?_, rfl⟩
    rw [moves_command, moves_append, inserted hInsertion]
    rfl
  | inserted _ _ _ hInsertion =>
    refine ⟨?_, (VoxTypeDaemon.remember_work _ _).2.2.2.2.2⟩
    rw [moves_command, moves_append, inserted hInsertion]
    rfl

variable (env d)

theorem poll_moves : Moves env d ((pollRecognition env).run d) := by
  have hPoll := poll_outcome env d
  generalize (pollRecognition env).run d = o at hPoll
  cases hPoll with
  | idle => exact .kept rfl rfl
  | @stale job hJob _ =>
    change FileMoves env d (moves (d.removal job.recordingPath)) _
    rw [VoxTypeDaemon.moves_removal]
    exact .received hJob rfl rfl
  | @delivered job received hJob _ hState o hDeliver =>
    obtain ⟨hTrace, hConfig⟩ := hDeliver.moves
    have hRelease : moves (releaseOnError o) = [] := by
      rw [releaseOnError]
      split
      · exact o.state.moves_lease
      · rfl
    have hRemoval : o.state.removal job.recordingPath = d.removal job.recordingPath := by
      rw [VoxTypeDaemon.removal, VoxTypeDaemon.removal, hConfig]
      rfl
    change FileMoves env d (moves (_ ++ o.state.removal job.recordingPath)) _
    rw [moves_append, moves_append, hTrace, hRelease, hRemoval, VoxTypeDaemon.moves_removal]
    exact .received hJob hDeliver.recording (hDeliver.job.trans rfl)

theorem release_moves : moves (d.captureEffects ++ d.jobEffects ++ d.lease) =
    moves (d.captureEffects ++ d.jobEffects) := by
  rw [moves_append, d.moves_lease, List.append_nil]

theorem cancel_moves (requested : String) : Moves env d ((cancel requested).run d) := by
  have hCancel := cancel_outcome d requested
  generalize (cancel requested).run d = o at hCancel
  cases hCancel with
  | refused | rejected => exact .kept rfl rfl
  | cancelled =>
    rw [Moves, moves_command, release_moves]
    exact .released rfl rfl

theorem quit_moves : Moves env d (quit.run d) := by
  rw [quit_run, Moves, release_moves]
  exact .released rfl rfl

end Others

end Daemon

/-- The answers an input brings along, if it brings any. -/
def SystemInput.Asks (env : Environment) : SystemInput → Prop
  | .start other _ | .stop other _ | .toggle other _ | .reloadConfiguration other
  | .enforceRecordingDeadline other | .pollRecognition other | .pollAudioTelemetry other =>
    other = env
  | .cancel _ | .reset | .drainEvents | .quit | .workerReturns _ _ | .workerExits _
  | .workerNotifies => True

namespace System

open Daemon

/-- Every step moves files in one of the ways there are. -/
theorem step_moves {self : System} (hWaiting : Waiting self.daemon) {i : SystemInput}
    {env : Environment} (hAsks : i.Asks env) :
    FileMoves (self.boundary env) self.daemon (moves (self.step i).1.effects)
      (self.step i).2.daemon := by
  cases i with
  | start other profile =>
    obtain rfl := hAsks
    exact start_moves _ _ profile
  | stop other session =>
    obtain rfl := hAsks
    exact stop_moves _ _ session hWaiting
  | toggle other profile =>
    obtain rfl := hAsks
    rw [step, (perform_effects _ _ _).1, (perform_effects _ _ _).2.1, toggle_run]
    split
    · exact stop_moves _ _ "" hWaiting
    · exact start_moves _ _ profile
  | cancel session => exact cancel_moves _ _ session
  | reset =>
    have hReset := reset_outcome self.daemon
    rw [step, (perform_effects _ _ _).1, (perform_effects _ _ _).2.1]
    generalize Daemon.reset.run self.daemon = o at hReset
    cases hReset <;> exact .kept rfl rfl
  | reloadConfiguration other =>
    rw [step, (perform_effects _ _ _).1, (perform_effects _ _ _).2.1]
    rcases reload_outcome (self.boundary other) self.daemon with
      ⟨error, hRun⟩ | ⟨_, _, config, registry, history, hRun⟩
    · rw [hRun]
      exact .kept rfl rfl
    · rw [hRun]
      exact .kept rfl rfl
  | enforceRecordingDeadline other =>
    obtain rfl := hAsks
    rw [step, (perform_effects _ _ _).1, (perform_effects _ _ _).2.1]
    rcases enforce_outcome (self.boundary other) self.daemon with
      ⟨_, hRun⟩ | ⟨_, hState, hTrace⟩
    · rw [hRun]
      exact .kept rfl rfl
    · rw [hState, hTrace]
      exact stop_moves _ _ "" hWaiting
  | pollRecognition other =>
    obtain rfl := hAsks
    exact poll_moves _ _
  | pollAudioTelemetry other =>
    obtain ⟨hRecording, _, hJob, _⟩ := telemetry_work (self.boundary other) self.daemon
    exact .kept hRecording hJob
  | drainEvents => exact .kept rfl rfl
  | quit => exact quit_moves _ _
  | workerReturns index route | workerExits index | workerNotifies => exact .kept rfl rfl

/-- Only a reload changes the configuration, to one that it has read. -/
theorem step_config {self : System} (hWaiting : Waiting self.daemon) (i : SystemInput) :
    (self.step i).2.daemon.config = self.daemon.config ∨
      ∃ env, i = .reloadConfiguration env ∧ env.loadConfig = .ok (self.step i).2.daemon.config := by
  by_cases hReload : ∃ env, i = .reloadConfiguration env
  · obtain ⟨env, rfl⟩ := hReload
    have hReloaded : ((reloadConfiguration (self.boundary env)).run self.daemon).state.config =
        self.daemon.config ∨ env.loadConfig =
          .ok ((reloadConfiguration (self.boundary env)).run self.daemon).state.config := by
      rw [reloadConfiguration, Effects.Call.get_bind]
      split
      · exact .inl rfl
      · cases hConfig : (self.boundary env).loadConfig with
        | error error => exact .inl rfl
        | ok config =>
          dsimp only
          cases buildProviderRegistry config with
          | error error => exact .inl rfl
          | ok registry => exact .inr hConfig
    exact hReloaded.imp id fun hLoaded => ⟨env, rfl, hLoaded⟩
  · exact .inl (step_framed hWaiting fun env hEq => hReload ⟨env, hEq⟩).config

end System

/-- A capture runs only while its session does. -/
def Capturing (d : VoxTypeDaemon) : Prop := d.state.isActive = false → d.recording = none

theorem capturing_none {d : VoxTypeDaemon} (h : d.recording = none) : Capturing d := fun _ => h

theorem Capturing.congr {d d' : VoxTypeDaemon} (h : Capturing d) (hState : d'.state = d.state)
    (hRecording : d'.recording = d.recording) : Capturing d' := by
  rw [Capturing, hState, hRecording]
  exact h

namespace Daemon

variable {env : Environment} {d : VoxTypeDaemon}

theorem StartOutcome.capturing {profile : String} {o : DaemonOutcome String}
    (hCapturing : Capturing d) (h : StartOutcome env d profile o) : Capturing o.state := by
  cases h with
  | refused | rejected => exact hCapturing
  | @begun profileName hCheck hRoom hInactive _ hSession =>
    have hIdle := startProfile_idle d hCheck
    obtain ⟨hState, _⟩ := started_facts d hRoom hInactive
    cases hSession with
    | armFailed | captureFailed => exact capturing_none hIdle
    | listening hRoom' arm recording =>
      have hListening := VoxTypeDaemon.state_applied
        (d := ((d.applied _).withArm (some arm)).capturing recording profileName env.now) hRoom'
        (.captureReady hState)
      intro hOver
      rw [Effects.Outcome.after, hListening] at hOver
      cases hOver
    | full _ _ hApp =>
      have hSame := congrArg (fun app => app.machine.state) hApp
      change _ = VoxTypeDaemon.state _ at hSame
      rw [hState] at hSame
      intro hOver
      change (VoxTypeDaemon.state _).isActive = false at hOver
      rw [Effects.Outcome.after, VoxTypeDaemon.state, hSame] at hOver
      cases hOver

theorem StopOutcome.capturing {requested : String} {o : DaemonOutcome String}
    (hCapturing : Capturing d) (h : StopOutcome env d requested o) : Capturing o.state := by
  cases h with
  | refused => exact hCapturing
  | rejected =>
    have hSame := VoxTypeDaemon.sameWork_telemetry env d
    exact hCapturing.congr hSame.state hSame.recording
  | missing _ _ hRecording => exact capturing_none ((telemetry_work env d).1.trans hRecording)
  | stopFailed => exact capturing_none rfl
  | processed _ _ _ _ hProcess =>
    cases hProcess with
    | silent | failed | full => exact capturing_none ((settled_fields _).2.1.trans rfl)
    | started => exact capturing_none rfl

theorem PollOutcome.capturing {o : DaemonOutcome Bool} (hWaiting : Waiting d)
    (hCapturing : Capturing d) (h : PollOutcome env d o) : Capturing o.state := by
  cases h with
  | idle => exact hCapturing
  | stale => exact hCapturing.congr rfl rfl
  | delivered _ _ hState hDeliver =>
    exact capturing_none (hDeliver.recording.trans (hWaiting.closed _ hState))

end Daemon

theorem StepOutcome.capturing {self : System} {i : SystemInput} {d' : VoxTypeDaemon}
    {trace : List DaemonEffect} (h : StepOutcome self i d' trace) (hWaiting : Waiting self.daemon)
    (hCapturing : Capturing self.daemon) : Capturing d' := by
  cases h with
  | kept hSame => exact hCapturing.congr hSame.state hSame.recording
  | started hStart => exact hStart.capturing hCapturing
  | stopped hStop => exact hStop.capturing hCapturing
  | cancelled hCancel =>
    cases hCancel with
    | refused | rejected => exact hCapturing
    | cancelled => exact capturing_none rfl
  | wasReset hReset =>
    cases hReset with
    | rejected => exact hCapturing
    | wasReset _ hInactive => exact capturing_none (hCapturing hInactive)
  | polled hPoll => exact hPoll.capturing hWaiting hCapturing
  | quitted => exact capturing_none rfl

end VoxType
