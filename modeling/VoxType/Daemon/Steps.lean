import VoxType.Daemon.ControlOutcomes
import VoxType.Daemon.PollOutcomes
import VoxType.Daemon.System

/-!
# What one step does to the daemon

Every input of the system is one of a few kinds, whatever answers its
environment gives.
-/

namespace VoxType

set_option autoImplicit false

/-- The fields a session lives in are unchanged. -/
structure VoxTypeDaemon.SameWork (d d' : VoxTypeDaemon) : Prop where
  machine : d'.app.machine = d.app.machine
  sessionResults : d'.app.sessionResults = d.app.sessionResults
  recording : d'.recording = d.recording
  recordingStartedAt : d'.recordingStartedAt = d.recordingStartedAt
  recognitionJob : d'.recognitionJob = d.recognitionJob
  armedInsertion : d'.armedInsertion = d.armedInsertion
  activeProfile : d'.activeProfile = d.activeProfile

namespace VoxTypeDaemon

theorem SameWork.refl (d : VoxTypeDaemon) : d.SameWork d := ⟨rfl, rfl, rfl, rfl, rfl, rfl, rfl⟩

theorem SameWork.state {d d' : VoxTypeDaemon} (h : d.SameWork d') : d'.state = d.state :=
  congrArg SessionMachine.state h.machine

theorem sameWork_telemetry (env : Environment) (d : VoxTypeDaemon) : d.SameWork (d.telemetry env) := by
  obtain ⟨_, _, _, hTelemetry⟩ := Daemon.telemetry_eq env d
  rw [hTelemetry]
  exact ⟨rfl, rfl, rfl, rfl, rfl, rfl, rfl⟩

def quitted (self : VoxTypeDaemon) : VoxTypeDaemon :=
  { self.released with quit := true, app := self.released.app.notify }

end VoxTypeDaemon

inductive StepOutcome (self : System) : SystemInput → VoxTypeDaemon → List DaemonEffect → Prop
  | kept {i : SystemInput} {d' : VoxTypeDaemon} {trace : List DaemonEffect}
    (hSame : self.daemon.SameWork d')
    (hTrace : ∀ effect ∈ trace, ∃ events, effect = .drained events) : StepOutcome self i d' trace
  | started {i : SystemInput} {env : Environment} {profile : String} {o : DaemonOutcome String}
    (hStart : Daemon.StartOutcome (self.boundary env) self.daemon profile o) :
    StepOutcome self i o.state o.trace
  | stopped {i : SystemInput} {env : Environment} {requested : String} {o : DaemonOutcome String}
    (hStop : Daemon.StopOutcome (self.boundary env) self.daemon requested o) :
    StepOutcome self i o.state o.trace
  | cancelled {i : SystemInput} {o : DaemonOutcome Unit}
    (hCancel : Daemon.CancelOutcome self.daemon o) : StepOutcome self i o.state o.trace
  | wasReset {i : SystemInput} {o : DaemonOutcome Unit}
    (hReset : Daemon.ResetOutcome self.daemon o) : StepOutcome self i o.state o.trace
  | polled {i : SystemInput} {env : Environment} {o : DaemonOutcome Bool}
    (hPoll : Daemon.PollOutcome (self.boundary env) self.daemon o) :
    StepOutcome self i o.state o.trace
  | quitted : StepOutcome self .quit self.daemon.quitted
      (self.daemon.captureEffects ++ self.daemon.jobEffects ++ self.daemon.lease)

namespace Daemon

open Effects (Call)

theorem quit_run (d : VoxTypeDaemon) :
    quit.run d = ⟨.ok (), d.quitted, d.captureEffects ++ d.jobEffects ++ d.lease⟩ := by
  rw [quit, Call.bind_ok (releaseWork_run d), Call.modify_run, Call.after_mk, List.append_nil]
  rfl

/-- The capture has run for as long as the configuration allows. -/
def Due (env : Environment) (d : VoxTypeDaemon) : Prop :=
  ∃ startedAt, d.recordingStartedAt = some startedAt ∧
    d.config.audio.maximumDurationSeconds ≤ (env.now - startedAt) / 10 ^ 9

/-- The deadline stops the capture, or nothing happens. -/
theorem enforce_outcome (env : Environment) (d : VoxTypeDaemon) :
    (¬ Due env d ∧ (enforceRecordingDeadline env).run d = ⟨.ok false, d, []⟩) ∨
      (Due env d ∧ ((enforceRecordingDeadline env).run d).state = ((stop env "").run d).state ∧
        ((enforceRecordingDeadline env).run d).trace = ((stop env "").run d).trace) := by
  rw [enforceRecordingDeadline, Call.get_bind]
  cases hStarted : d.recordingStartedAt with
  | none =>
    refine .inl ⟨?_, rfl⟩
    rintro ⟨startedAt, hSome, _⟩
    rw [hStarted] at hSome
    cases hSome
  | some startedAt =>
    dsimp only
    split
    · rename_i hEarly
      refine .inl ⟨?_, rfl⟩
      rintro ⟨startedAt', hSome, hLate⟩
      rw [hStarted] at hSome
      cases hSome
      omega
    · rename_i hLate
      refine .inr ⟨⟨startedAt, hStarted, Nat.le_of_not_lt hLate⟩, ?_⟩
      generalize hRun : (stop env "").run d = o
      cases o with
      | mk result state trace =>
        cases result with
        | error error =>
          rw [Call.bind_error hRun]
          exact ⟨rfl, rfl⟩
        | ok response =>
          rw [Call.bind_ok hRun, Call.pure_run, Call.after_mk, List.append_nil]
          exact ⟨rfl, rfl⟩

theorem toggle_run (env : Environment) (profile : String) (d : VoxTypeDaemon) :
    (toggle env profile).run d =
      if d.recording.isSome then (stop env "").run d else (start env profile).run d := by
  rw [toggle, Call.get_bind]
  split <;> rfl

end Daemon

namespace System

theorem perform_effects {α : Type} (self : System) (call : DaemonCall α) (reply : α → DaemonReply) :
    (self.perform call reply).1.effects = (call.run self.daemon).trace ∧
      (self.perform call reply).2.daemon = (call.run self.daemon).state ∧
      (self.perform call reply).2.workers =
        (call.run self.daemon).trace.foldl absorb self.workers := ⟨rfl, rfl, rfl⟩

theorem step_outcome (self : System) (i : SystemInput) :
    StepOutcome self i (self.step i).2.daemon (self.step i).1.effects := by
  have kept : ∀ {d' : VoxTypeDaemon}, self.daemon.SameWork d' → StepOutcome self i d' [] :=
    fun hSame => .kept hSame (by simp)
  cases i with
  | start env profile => exact .started (Daemon.start_outcome _ _ profile)
  | stop env session => exact .stopped (Daemon.stop_outcome _ _ session)
  | toggle env profile =>
    rw [step, (perform_effects _ _ _).1, (perform_effects _ _ _).2.1, Daemon.toggle_run]
    split
    · exact .stopped (Daemon.stop_outcome _ _ "")
    · exact .started (Daemon.start_outcome _ _ profile)
  | cancel session => exact .cancelled (Daemon.cancel_outcome _ session)
  | reset => exact .wasReset (Daemon.reset_outcome _)
  | reloadConfiguration env =>
    rw [step, (perform_effects _ _ _).1, (perform_effects _ _ _).2.1]
    rcases Daemon.reload_outcome (self.boundary env) self.daemon with
      ⟨error, hRun⟩ | ⟨_, _, config, registry, history, hRun⟩
    · rw [hRun]
      exact kept (.refl _)
    · rw [hRun]
      exact kept ⟨rfl, rfl, rfl, rfl, rfl, rfl, rfl⟩
  | enforceRecordingDeadline env =>
    rw [step, (perform_effects _ _ _).1, (perform_effects _ _ _).2.1]
    rcases Daemon.enforce_outcome (self.boundary env) self.daemon with
      ⟨_, hRun⟩ | ⟨_, hState, hTrace⟩
    · rw [hRun]
      exact kept (.refl _)
    · rw [hState, hTrace]
      exact .stopped (Daemon.stop_outcome _ _ "")
  | pollRecognition env => exact .polled (Daemon.poll_outcome _ _)
  | pollAudioTelemetry env => exact kept (VoxTypeDaemon.sameWork_telemetry _ _)
  | drainEvents =>
    have hSame : self.daemon.SameWork { self.daemon with app := self.daemon.app.drainEvents.2 } :=
      ⟨rfl, rfl, rfl, rfl, rfl, rfl, rfl⟩
    refine .kept hSame ?_
    intro effect hMem
    exact ⟨_, List.mem_singleton.mp hMem⟩
  | quit =>
    rw [step, (perform_effects _ _ _).1, (perform_effects _ _ _).2.1, Daemon.quit_run]
    exact .quitted
  | workerReturns index route | workerExits index => exact kept (.refl _)
  | workerNotifies => exact kept ⟨rfl, rfl, rfl, rfl, rfl, rfl, rfl⟩

end System

end VoxType
