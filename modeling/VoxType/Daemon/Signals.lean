import VoxType.Daemon.Phase

/-!
# What the daemon signals

A call that publishes an event or starts a capture puts the wake token into its
channel. Draining the queue is the only call that takes events out of it.
-/

namespace VoxType

set_option autoImplicit false

@[simp] theorem WakeHandle.notify_notify (wake : WakeHandle) : wake.notify.notify = wake.notify := by
  cases wake <;> rfl

/-- Either the loop is woken, or there is no event, no session and no capture that it has not
seen. -/
def VoxTypeDaemon.Signals (d d' : VoxTypeDaemon) : Prop :=
  d'.app.wake = d.app.wake.notify ∨
    (d'.app.wake = d.app.wake ∧ d'.app.events = d.app.events ∧ d'.app.machine = d.app.machine ∧
      (d'.recordingStartedAt = d.recordingStartedAt ∨ d'.recordingStartedAt = none))

namespace VoxTypeDaemon.Signals

variable {d d' d'' : VoxTypeDaemon}

theorem refl (d : VoxTypeDaemon) : d.Signals d := .inr ⟨rfl, rfl, rfl, .inl rfl⟩

theorem trans (h : d.Signals d') (h' : d'.Signals d'') : d.Signals d'' := by
  rcases h with hWoken | ⟨hWake, hEvents, hMachine, hStarted⟩
  · refine .inl ?_
    rcases h' with hWoken' | ⟨hWake', _⟩
    · rw [hWoken', hWoken, WakeHandle.notify_notify]
    · rw [hWake', hWoken]
  · rcases h' with hWoken' | ⟨hWake', hEvents', hMachine', hStarted'⟩
    · exact .inl (by rw [hWoken', hWake])
    · refine .inr ⟨hWake'.trans hWake, hEvents'.trans hEvents, hMachine'.trans hMachine, ?_⟩
      rcases hStarted' with hSame | hNone
      · rw [hSame]
        exact hStarted
      · exact .inr hNone

/-- Once the loop is woken, any later capture is seen. -/
theorem after_notify (h : d'.app.wake = d.app.wake.notify)
    (h' : d''.app.wake = d'.app.wake ∨ d''.app.wake = d'.app.wake.notify) : d.Signals d'' := by
  refine .inl ?_
  rcases h' with hSame | hWoken
  · rw [hSame, h]
  · rw [hWoken, h, WakeHandle.notify_notify]

theorem wake (h : d.Signals d') :
    d'.app.wake = d.app.wake ∨ d'.app.wake = d.app.wake.notify := by
  rcases h with hWoken | ⟨hSame, _⟩
  · exact .inr hWoken
  · exact .inl hSame

theorem of_app (hApp : d'.app = d.app)
    (hStarted : d'.recordingStartedAt = d.recordingStartedAt ∨ d'.recordingStartedAt = none) :
    d.Signals d' :=
  .inr ⟨congrArg AppController.wake hApp, congrArg AppController.events hApp,
    congrArg AppController.machine hApp, hStarted⟩

end VoxTypeDaemon.Signals

namespace VoxTypeDaemon

variable {d : VoxTypeDaemon} {c : Command} {e : CommandEffect} {m' : SessionMachine}

theorem wake_accepted (hRoom : d.Room) (hAccepts : d.app.machine.Accepts c e m') :
    (d.applied c).app.wake = d.app.wake.notify := by
  rw [applied_accepts hRoom hAccepts]
  change (AppController.publish _ c).wake = _
  rw [AppController.publish]
  cases c.terminal <;> rfl

theorem signals_applied (d : VoxTypeDaemon) (c : Command) : d.Signals (d.applied c) := by
  cases hAnswer : d.answer c with
  | error error =>
    rw [applied_error hAnswer]
    exact .refl d
  | ok e =>
    obtain ⟨hRoom, m', hAccepts⟩ := answer_ok_room hAnswer
    exact .inl (wake_accepted hRoom hAccepts)

theorem signals_finished (d : VoxTypeDaemon) (session : SessionId) (backend : String)
    (charCount : Nat) : d.Signals (d.finished session backend charCount) := by
  rw [finished, AppController.finishSession]
  split
  · exact .refl d
  · exact .inl rfl

theorem signals_remember (d : VoxTypeDaemon) (text : String) : d.Signals (d.remember text) :=
  .of_app (remember_app d text) (.inl (d.remember_work text).2.1)

theorem signals_telemetry (env : Environment) (d : VoxTypeDaemon) :
    d.Signals (d.telemetry env) :=
  .of_app (Daemon.telemetry_app env d) (.inl (Daemon.telemetry_work env d).2.1)

theorem signals_recorded (d : VoxTypeDaemon) (received : RecognitionRouteResult)
    (audioMillis now : Nat) : d.Signals (d.recorded received audioMillis now) := by
  have hAccounts := d.app.recordRouteResult_accounts received audioMillis now
  exact .inr ⟨hAccounts.wake, hAccounts.events, hAccounts.machine, .inl rfl⟩

end VoxTypeDaemon

namespace Daemon

open VoxTypeDaemon

variable {env : Environment} {d : VoxTypeDaemon}

theorem StartOutcome.signals {profile : String} {o : DaemonOutcome String}
    (h : StartOutcome env d profile o) : d.Signals o.state := by
  cases h with
  | refused | rejected => exact .refl d
  | @begun profileName _ hRoom hInactive _ hSession =>
    refine .after_notify (wake_accepted hRoom (.start ⟨.toggle, some profileName⟩ hInactive)) ?_
    cases hSession with
    | armFailed => exact (signals_applied _ _).wake
    | captureFailed =>
      exact (signals_applied ((d.applied (.start ⟨.toggle, some profileName⟩)).withArm none) _).wake
    | listening _ arm recording =>
      exact (signals_applied (((d.applied (.start ⟨.toggle, some profileName⟩)).withArm
        (some arm)).capturing recording profileName env.now) _).wake
    | full _ _ hApp => exact .inl (congrArg AppController.wake hApp)

theorem signals_settled (d : VoxTypeDaemon) : d.Signals (settled d) :=
  .of_app (settled_fields d).1 (.inl (settled_fields d).2.2)

theorem StopOutcome.signals {requested : String} {o : DaemonOutcome String}
    (h : StopOutcome env d requested o) : d.Signals o.state := by
  have hStopping : ∀ session, d.Signals (stopping env d session) := fun session =>
    ((signals_telemetry env d).trans (signals_applied _ (.stop session))).trans
      (.of_app rfl (.inr rfl))
  cases h with
  | refused => exact .refl d
  | rejected => exact signals_telemetry env d
  | missing => exact (signals_telemetry env d).trans (signals_applied _ _)
  | stopFailed => exact (hStopping _).trans (signals_applied _ _)
  | @processed session _ _ _ _ _ _ _ _ hProcess =>
    refine (hStopping session).trans ?_
    cases hProcess with
    | silent | failed => exact (signals_applied _ _).trans (signals_settled _)
    | full => exact signals_settled _
    | started => exact .of_app rfl (.inl rfl)

theorem CancelOutcome.signals {o : DaemonOutcome Unit} (h : CancelOutcome d o) :
    d.Signals o.state := by
  cases h with
  | refused | rejected => exact .refl d
  | cancelled => exact (signals_applied d _).trans (.of_app rfl (.inr rfl))

theorem ResetOutcome.signals {o : DaemonOutcome Unit} (h : ResetOutcome d o) :
    d.Signals o.state := by
  cases h with
  | rejected => exact .refl d
  | wasReset => exact signals_applied d .reset

theorem DeliverOutcome.signals {job : RecognitionJob}
    {outcome : Except VoxError RecognitionSuccess} {o : DaemonOutcome String}
    (h : DeliverOutcome env d job outcome o) : d.Signals o.state := by
  cases h with
  | failed | cut => exact signals_applied d _
  | blank | full => exact .refl d
  | notInserted => exact (signals_applied d _).trans (signals_applied _ _)
  | inserted =>
    exact (((signals_applied d _).trans (signals_applied _ _)).trans
      (signals_finished _ _ _ _)).trans (signals_remember _ _)

theorem PollOutcome.signals {o : DaemonOutcome Bool} (h : PollOutcome env d o) :
    d.Signals o.state := by
  cases h with
  | idle => exact .refl d
  | stale => exact .of_app rfl (.inl rfl)
  | @delivered job received _ _ _ _ hDeliver =>
    have hReceiving : d.Signals (receiving env d job received) :=
      (VoxTypeDaemon.Signals.of_app rfl (.inl rfl)).trans
        (signals_recorded (d.withJob none) received job.audioMillis env.now)
    exact (hReceiving.trans hDeliver.signals).trans (.of_app rfl (.inl rfl))

end Daemon

namespace System

open Daemon

/-- Every input but a drain signals what it publishes. -/
theorem step_signals {self : System} {i : SystemInput} (hDrain : i ≠ .drainEvents) :
    self.daemon.Signals (self.step i).2.daemon := by
  cases i with
  | start env profile => exact (start_outcome _ _ profile).signals
  | stop env session => exact (stop_outcome _ _ session).signals
  | toggle env profile =>
    rw [step, (perform_effects _ _ _).2.1, toggle_run]
    split
    · exact (stop_outcome _ _ "").signals
    · exact (start_outcome _ _ profile).signals
  | cancel session => exact (cancel_outcome _ session).signals
  | reset => exact (reset_outcome _).signals
  | reloadConfiguration env =>
    rw [step, (perform_effects _ _ _).2.1]
    rcases reload_outcome (self.boundary env) self.daemon with
      ⟨_, hRun⟩ | ⟨_, _, _, _, _, hRun⟩
    · rw [hRun]
      exact .refl _
    · rw [hRun]
      exact .inr ⟨rfl, rfl, rfl, .inl rfl⟩
  | enforceRecordingDeadline env =>
    rw [step, (perform_effects _ _ _).2.1]
    rcases enforce_outcome (self.boundary env) self.daemon with ⟨_, hRun⟩ | ⟨_, hState, _⟩
    · rw [hRun]
      exact .refl _
    · rw [hState]
      exact (stop_outcome _ _ "").signals
  | pollRecognition env => exact (poll_outcome _ _).signals
  | pollAudioTelemetry env => exact VoxTypeDaemon.signals_telemetry _ _
  | drainEvents => exact absurd rfl hDrain
  | quit =>
    rw [step, (perform_effects _ _ _).2.1, quit_run]
    exact .inl rfl
  | workerReturns index route | workerExits index => exact .refl _
  | workerNotifies => exact .inl rfl

/-- The faces of workers that were there before a step of the daemon. -/
theorem faces_absorb_old (trace : List DaemonEffect) (workers : List Worker) {k : Nat}
    {face : RecognitionWork × WorkerChannel} (hFace : (workers.map Worker.face)[k]? = some face) :
    ((trace.foldl absorb workers).map Worker.face)[k]? = some face := by
  induction trace generalizing workers with
  | nil => exact hFace
  | cons effect trace ih =>
    rw [List.foldl_cons]
    refine ih _ ?_
    cases effect with
    | workerStarted channel work =>
      change (List.map Worker.face (_ ++ [_]))[k]? = _
      have hBound := (List.getElem?_eq_some_iff.mp hFace).1
      rw [List.map_append, List.getElem?_append_left hBound]
      exact hFace
    | tokenCancelled channel =>
      rw [absorb, map_face_modify]
      · exact hFace
      · exact fun worker => rfl
    | _ => exact hFace

end System

end VoxType
