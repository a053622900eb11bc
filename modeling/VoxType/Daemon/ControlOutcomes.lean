import VoxType.Daemon.StopOutcomes
import VoxType.Daemon.StartOutcomes

/-! # What the other operations can do -/

namespace VoxType

set_option autoImplicit false

namespace VoxTypeDaemon

def captureEffects (self : VoxTypeDaemon) : List DaemonEffect :=
  match self.recording with
  | none => []
  | some _ => [.captureCancelled]

def jobEffects (self : VoxTypeDaemon) : List DaemonEffect :=
  match self.recognitionJob with
  | none => []
  | some job => [.tokenCancelled job.channel, .fileRemoved job.recordingPath]

def released (self : VoxTypeDaemon) : VoxTypeDaemon := self.withoutRecording.withJob none

end VoxTypeDaemon

namespace Daemon

open Effects (Call)
open Effects.Call (get modify emit throw attempt ofExcept)

variable (env : Environment) (d : VoxTypeDaemon)

theorem releaseWork_run : releaseWork.run d =
    ⟨.ok (), d.released, d.captureEffects ++ d.jobEffects ++ d.lease⟩ := by
  have hCapture : cancelCapture.run d = ⟨.ok (), d, d.captureEffects⟩ := by
    rw [cancelCapture, Call.get_bind, VoxTypeDaemon.captureEffects]
    cases d.recording <;> rfl
  have hJob : cancelJob.run d = ⟨.ok (), d, d.jobEffects⟩ := by
    rw [cancelJob, Call.get_bind, VoxTypeDaemon.jobEffects]
    cases d.recognitionJob <;> rfl
  rw [releaseWork, Call.bind_ok hCapture, Call.bind_ok hJob, Call.modify_bind, cancelLease_run]
  simp only [Call.after_mk, List.append_assoc]
  rfl

inductive CancelOutcome : DaemonOutcome Unit → Prop
  | refused (error : FdoError) : CancelOutcome ⟨.error error, d, []⟩
  | rejected {session : SessionId} {error : VoxError}
    (hAnswer : d.answer (.cancel session) = .error error) :
    CancelOutcome ⟨.error (mapError error), d, [.command (.cancel session) (.error error)]⟩
  | cancelled {session : SessionId} (hRoom : d.Room) (hSession : d.state.session = some session) :
    CancelOutcome ⟨.ok (), (d.applied (.cancel session)).released.withoutTarget,
      .command (.cancel session) (.ok (.cancelWork session)) ::
        (d.captureEffects ++ d.jobEffects ++ d.lease)⟩

theorem cancel_outcome (requested : String) : CancelOutcome d ((cancel requested).run d) := by
  rw [cancel]
  rcases activeSessionId_run d requested with
    ⟨error, hActive, _⟩ | ⟨active, hSession, _, hActive⟩
  · rw [Call.bind_error hActive]
    exact .refused error
  · rw [Call.bind_ok hActive, Call.after_nil]
    cases hAnswer : d.answer (.cancel active) with
    | error error =>
      rw [Call.bind_error (mapped_error d hAnswer), VoxTypeDaemon.applied_error hAnswer]
      exact .rejected hAnswer
    | ok e =>
      obtain ⟨hRoom, m', hAccepts⟩ := VoxTypeDaemon.answer_ok_room hAnswer
      cases hAccepts
      rw [Call.bind_ok (mapped_ok d hAnswer), Call.bind_ok (releaseWork_run _), Call.modify_run]
      simp only [Call.after_mk, List.append_nil]
      exact .cancelled hRoom hSession

inductive ResetOutcome : DaemonOutcome Unit → Prop
  | rejected {error : VoxError} (hAnswer : d.answer .reset = .error error) :
    ResetOutcome ⟨.error (mapError error), d, [.command .reset (.error error)]⟩
  | wasReset (hRoom : d.Room) (hInactive : d.state.isActive = false) :
    ResetOutcome ⟨.ok (), d.applied .reset, [.command .reset (.ok .none)]⟩

theorem reset_outcome : ResetOutcome d (reset.run d) := by
  rw [reset]
  cases hAnswer : d.answer .reset with
  | error error =>
    rw [Call.bind_error (mapped_error d hAnswer), VoxTypeDaemon.applied_error hAnswer]
    exact .rejected hAnswer
  | ok e =>
    obtain ⟨hRoom, m', hAccepts⟩ := VoxTypeDaemon.answer_ok_room hAnswer
    cases hAccepts with
    | reset hInactive =>
      rw [Call.bind_ok (mapped_ok d hAnswer)]
      exact .wasReset hRoom hInactive

/-- A reload is refused or replaces the configuration of a daemon at rest. -/
theorem reload_outcome :
    (∃ error, (reloadConfiguration env).run d = ⟨.error error, d, []⟩) ∨
      (d.recording = none ∧ d.recognitionJob = none ∧ ∃ config registry history,
        (reloadConfiguration env).run d = ⟨.ok (), { d with
          config, app := d.app.replaceRegistry registry, transcriptHistory := history }, []⟩) := by
  rw [reloadConfiguration, Call.get_bind]
  split
  · exact .inl ⟨_, rfl⟩
  · rename_i hBusy
    cases env.loadConfig with
    | error error => exact .inl ⟨_, rfl⟩
    | ok config =>
      dsimp only
      cases buildProviderRegistry config with
      | error error => exact .inl ⟨_, rfl⟩
      | ok registry =>
        refine .inr ⟨?_, ?_, config, registry, _, rfl⟩
        · cases hRecording : d.recording with
          | none => rfl
          | some recording => exact absurd (.inl (by rw [hRecording]; rfl)) hBusy
        · cases hJob : d.recognitionJob with
          | none => rfl
          | some job => exact absurd (.inr (by rw [hJob]; rfl)) hBusy

end Daemon

end VoxType
