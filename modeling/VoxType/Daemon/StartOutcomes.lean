import VoxType.Daemon.Commands

/-! # What `start` can do -/

namespace VoxType

set_option autoImplicit false

namespace Daemon

open Effects (Call)
open Effects.Call (get modify emit throw attempt ofExcept)

variable (env : Environment) (d : VoxTypeDaemon)

/-- What `start` does once its command is accepted, for a machine that is preparing. -/
inductive SessionOutcome (profileName : String) (session : SessionId) :
    DaemonOutcome String → Prop
  | armFailed (hRoom : d.Room) (error : VoxError) :
    SessionOutcome profileName session ⟨.error (mapError error), d.applied (.fail session error),
      [.command (.fail session error) (.ok (.cancelWork session))]⟩
  | captureFailed (hRoom : d.Room) (arm : InsertionArm) (error : VoxError) :
    SessionOutcome profileName session
      ⟨.error (mapError error), (d.withArm none).applied (.fail session error),
        [.armed session arm, .leaseCancelled arm,
          .command (.fail session error) (.ok (.cancelWork session))]⟩
  | listening (hRoom : d.Room) (arm : InsertionArm) (recording : CaptureSession) :
    SessionOutcome profileName session
      ⟨.ok session.value,
        ((d.withArm (some arm)).capturing recording profileName env.now).applied
          (.captureReady session),
        [.armed session arm, .command (.captureReady session) (.ok .none)]⟩
  | full (hFull : ¬ d.Room) (error : FdoError) {d' : VoxTypeDaemon} (hApp : d'.app = d.app)
    (hJob : d'.recognitionJob = d.recognitionJob) {trace : List DaemonEffect}
    (hTrace : ∃ effect ∈ trace, effect.Backpressured) (hInert : ∀ effect ∈ trace, effect.Inert) :
    SessionOutcome profileName session ⟨.error error, d', trace⟩

theorem session_outcome (profileName : String) {session : SessionId} {mode : TriggerMode}
    (hState : d.state = .preparing session mode) :
    SessionOutcome env d profileName session ((beginSession env profileName session).run d) := by
  have hSession : d.state.session = some session := by rw [hState]; rfl
  have hFail : ∀ cause, d.app.machine.Accepts (.fail session cause) (.cancelWork session)
      { d.app.machine with state := .failed session cause } := fun cause => .fail cause hSession
  rw [beginSession, Call.get_bind]
  cases env.arm d.config.desktop.insertionBackend.mode session with
  | error error =>
    dsimp only
    rw [attempt_throw_run]
    by_cases hRoom : d.Room
    · rw [VoxTypeDaemon.answer_accepts hRoom (hFail error)]
      exact .armFailed hRoom error
    · exact .full hRoom _ (congrArg VoxTypeDaemon.app (VoxTypeDaemon.answer_full hRoom _).2) rfl
        (full_command d hRoom _ (List.mem_singleton_self _)) (inert_command _ _)
  | ok arm =>
    dsimp only
    rw [Call.emit_bind, Call.modify_bind, startCapture, Call.get_bind]
    cases env.startCapture (some (d.withArm (some arm)).config.audio.device) with
    | ok recording =>
      dsimp only
      rw [Call.modify_bind]
      generalize hArmed : (d.withArm (some arm)).capturing recording profileName env.now = d'
      have hApp : d'.app = d.app := by rw [← hArmed]; rfl
      have hJob : d'.recognitionJob = d.recognitionJob := by rw [← hArmed]; rfl
      by_cases hRoom : d.Room
      · have hReady : d'.app.machine.state = .preparing session mode := by
          rw [hApp]
          exact hState
        have hRoom' : d'.Room := by
          rw [VoxTypeDaemon.Room, hApp]
          exact hRoom
        have hAnswer := VoxTypeDaemon.answer_accepts hRoom' (.captureReady hReady)
        rw [Call.bind_ok (mapped_ok d' hAnswer), Call.pure_run, Call.after_mk, Call.after_mk,
          List.append_nil, ← hArmed]
        exact .listening hRoom arm recording
      · have hFull : ¬ d'.Room := by
          rw [VoxTypeDaemon.Room, hApp]
          exact hRoom
        obtain ⟨hAnswer, hApplied⟩ := VoxTypeDaemon.answer_full hFull (.captureReady session)
        rw [Call.bind_error (mapped_error d' hAnswer), hApplied, Call.after_mk]
        exact .full hRoom _ hApp hJob
          ⟨_, List.mem_append_right _ (List.mem_singleton_self _), rfl⟩
          (inert_append (by simp [DaemonEffect.Inert]) (inert_command _ _))
    | error error =>
      dsimp only
      rw [Call.bind_ok (cancelLease_run _), Call.modify_bind, attempt_throw_run, Call.after_mk,
        Call.after_mk]
      change SessionOutcome env d profileName session ⟨_, (d.withArm none).applied _, _⟩
      by_cases hRoom : d.Room
      · have hAnswer : (d.withArm none).answer (.fail session error) = .ok (.cancelWork session) :=
          VoxTypeDaemon.answer_accepts hRoom (hFail error)
        change SessionOutcome env d profileName session ⟨_, _, [.armed session arm,
          .leaseCancelled arm, .command (.fail session error) ((d.withArm none).answer _)]⟩
        rw [hAnswer]
        exact .captureFailed hRoom arm error
      · have hFull : ¬ (d.withArm none).Room := hRoom
        refine .full hRoom _ ?_ ?_ (full_command _ hFull (.fail session error) ?_) ?_
        · exact (congrArg VoxTypeDaemon.app (VoxTypeDaemon.answer_full hFull _).2).trans rfl
        · rfl
        · exact List.mem_append_right _ (List.mem_append_right _ (List.mem_singleton_self _))
        · exact inert_append (by simp [DaemonEffect.Inert])
            (inert_append (VoxTypeDaemon.lease_inert _) (inert_command _ _))

/-- What `start` can do. -/
inductive StartOutcome (profile : String) : DaemonOutcome String → Prop
  | refused {error : FdoError} (hCheck : startProfile d profile = .error error) :
    StartOutcome profile ⟨.error error, d, []⟩
  | rejected {profileName : String} {error : VoxError}
    (hCheck : startProfile d profile = .ok profileName)
    (hAnswer : d.answer (.start ⟨.toggle, some profileName⟩) = .error error) :
    StartOutcome profile ⟨.error (mapError error), d,
      [.command (.start ⟨.toggle, some profileName⟩) (.error error)]⟩
  | begun {profileName : String} (hCheck : startProfile d profile = .ok profileName)
    (hRoom : d.Room) (hInactive : d.state.isActive = false) {o : DaemonOutcome String}
    (hSession : SessionOutcome env (d.applied (.start ⟨.toggle, some profileName⟩)) profileName
      (.fromCounter d.app.machine.nextId) o) :
    StartOutcome profile (o.after [.command (.start ⟨.toggle, some profileName⟩)
      (.ok (.beginCapture (.fromCounter d.app.machine.nextId) ⟨.toggle, some profileName⟩))])

theorem started_facts {request : StartRequest} (hRoom : d.Room)
    (hInactive : d.state.isActive = false) :
    (d.applied (.start request)).state =
        .preparing (.fromCounter d.app.machine.nextId) request.mode ∧
      (d.applied (.start request)).app.events.length = d.app.events.length + 1 := by
  have hAccepts := SessionMachine.Accepts.start (m := d.app.machine) request hInactive
  exact ⟨VoxTypeDaemon.state_applied hRoom hAccepts, VoxTypeDaemon.events_applied hRoom hAccepts⟩

theorem start_outcome (profile : String) :
    StartOutcome env d profile ((start env profile).run d) := by
  rw [start, Call.get_bind]
  cases hCheck : startProfile d profile with
  | error error => exact .refused hCheck
  | ok profileName =>
    dsimp only
    cases hAnswer : d.answer (.start ⟨.toggle, some profileName⟩) with
    | error error =>
      rw [Call.bind_error (mapped_error d hAnswer), VoxTypeDaemon.applied_error hAnswer]
      exact .rejected hCheck hAnswer
    | ok e =>
      rw [Call.bind_ok (mapped_ok d hAnswer)]
      obtain ⟨hRoom, m', hAccepts⟩ := VoxTypeDaemon.answer_ok_room hAnswer
      cases hAccepts with
      | start request hInactive =>
        exact .begun hCheck hRoom hInactive
          (session_outcome env _ profileName (started_facts d hRoom hInactive).1)

end Daemon

end VoxType
