import VoxType.App.ControllerCalls
import VoxType.Daemon.Operations

/-!
# Commands issued by the daemon

What the controller answers is known from the state of the machine and the
number of pending events.
-/

namespace VoxType

set_option autoImplicit false

abbrev DaemonOutcome (α : Type) : Type := Effects.Outcome VoxTypeDaemon FdoError DaemonEffect α

namespace VoxTypeDaemon

def answer (self : VoxTypeDaemon) (c : Command) : Except VoxError CommandEffect :=
  (self.app.apply c).1

def applied (self : VoxTypeDaemon) (c : Command) : VoxTypeDaemon :=
  { self with app := (self.app.apply c).2 }

/-- The release of the armed target, where there is one. -/
def lease (self : VoxTypeDaemon) : List DaemonEffect :=
  self.armedInsertion.toList.map .leaseCancelled

/-- The recording is removed unless the configuration retains recordings. -/
def removal (self : VoxTypeDaemon) (path : String) : List DaemonEffect :=
  if self.config.desktop.retainRecordings then [] else [.fileRemoved path]

end VoxTypeDaemon

/-- An effect in which the event bound refused something. -/
def DaemonEffect.Backpressured : DaemonEffect → Prop
  | .command _ (.error error) => error.code = "app.event_backpressure"
  | .finished _ (.error error) => error.code = "app.event_backpressure"
  | _ => False

instance : DecidablePred DaemonEffect.Backpressured := fun effect =>
  match effect with
  | .command _ (.error error) | .finished _ (.error error) =>
    inferInstanceAs (Decidable (error.code = "app.event_backpressure"))
  | .command _ (.ok _) | .finished _ (.ok _) | .armed _ _ | .leaseCancelled _
  | .committed _ _ _ _ _ | .captureStopped _ | .captureCancelled | .workerStarted _ _
  | .tokenCancelled _ | .fileRemoved _ | .drained _ => inferInstanceAs (Decidable False)

/-- An effect that neither hands over text nor starts a worker. -/
def DaemonEffect.Inert : DaemonEffect → Prop
  | .committed _ _ _ _ _ | .workerStarted _ _ => False
  | _ => True

namespace VoxTypeDaemon

variable {d : VoxTypeDaemon} {c : Command} {e : CommandEffect} {m' : SessionMachine}

theorem lease_inert (d : VoxTypeDaemon) : ∀ effect ∈ d.lease, effect.Inert := by
  intro effect hMem
  obtain ⟨arm, _, rfl⟩ := List.mem_map.mp hMem
  trivial

theorem removal_inert (d : VoxTypeDaemon) (path : String) :
    ∀ effect ∈ d.removal path, effect.Inert := by
  intro effect hMem
  rw [removal] at hMem
  split at hMem
  · cases hMem
  · cases List.mem_singleton.mp hMem
    trivial

/-- There is room for one more command. -/
def Room (d : VoxTypeDaemon) : Prop := d.app.events.length ≤ maxPendingEvents - 2

theorem answer_accepts (hRoom : d.Room) (hAccepts : d.app.machine.Accepts c e m') :
    d.answer c = .ok e := by
  rw [answer, AppController.apply_accepts hRoom hAccepts]

theorem applied_accepts (hRoom : d.Room) (hAccepts : d.app.machine.Accepts c e m') :
    d.applied c = { d with app := { d.app with machine := m' }.publish c } := by
  rw [applied, AppController.apply_accepts hRoom hAccepts]

theorem state_applied (hRoom : d.Room) (hAccepts : d.app.machine.Accepts c e m') :
    (d.applied c).state = m'.state := by
  rw [applied_accepts hRoom hAccepts]
  exact congrArg SessionMachine.state (AppController.publish_machine _ _)

theorem events_applied (hRoom : d.Room) (hAccepts : d.app.machine.Accepts c e m') :
    (d.applied c).app.events.length = d.app.events.length + 1 + c.record.toList.length := by
  rw [applied_accepts hRoom hAccepts]
  change (AppController.publish _ c).events.length = _
  rw [AppController.publish_events, List.length_append, List.length_cons, List.length_map]
  change d.app.events.length + (c.record.toList.length + 1) = _
  omega

theorem answer_full (hFull : ¬ d.Room) (c : Command) :
    d.answer c = .error backpressureError ∧ d.applied c = d := by
  have hApply : d.app.apply c = (.error backpressureError, d.app) := by
    rw [AppController.apply, if_pos (Nat.lt_of_not_le hFull)]
  rw [answer, applied, hApply]
  exact ⟨rfl, rfl⟩

theorem answer_ok_room {e : CommandEffect} (hAnswer : d.answer c = .ok e) :
    d.Room ∧ ∃ m', d.app.machine.Accepts c e m' := by
  rcases d.app.apply_cases c with ⟨error, hApply⟩ | ⟨e', m', hRoom, hAccepts, hApply⟩
  · rw [answer, hApply] at hAnswer
    cases hAnswer
  · rw [answer, hApply] at hAnswer
    cases hAnswer
    exact ⟨hRoom, m', hAccepts⟩

theorem applied_error {error : VoxError} (hAnswer : d.answer c = .error error) :
    d.applied c = d := by
  rcases d.app.apply_cases c with ⟨_, hApply⟩ | ⟨e', m', _, _, hApply⟩
  · rw [applied, hApply]
  · rw [answer, hApply] at hAnswer
    cases hAnswer

end VoxTypeDaemon

theorem backpressured_full {d : VoxTypeDaemon} (hFull : ¬ d.Room) (c : Command) :
    (DaemonEffect.command c (d.answer c)).Backpressured := by
  rw [(VoxTypeDaemon.answer_full hFull c).1]
  rfl

namespace Daemon

open Effects (Call)
open Effects.Call (get modify emit throw attempt ofExcept)

variable (env : Environment) (d : VoxTypeDaemon)

theorem applyCommand_run (c : Command) :
    (applyCommand c).run d = ⟨d.answer c, d.applied c, [.command c (d.answer c)]⟩ := rfl

theorem mapped_ok {c : Command} {e : CommandEffect} (h : d.answer c = .ok e) :
    ((applyCommand c).mapError mapError).run d = ⟨.ok e, d.applied c, [.command c (.ok e)]⟩ := by
  rw [Call.mapError]
  simp only [applyCommand_run, h]
  rfl

theorem mapped_error {c : Command} {error : VoxError} (h : d.answer c = .error error) :
    ((applyCommand c).mapError mapError).run d =
      ⟨.error (mapError error), d.applied c, [.command c (.error error)]⟩ := by
  rw [Call.mapError]
  simp only [applyCommand_run, h]
  rfl

/-- A command whose answer is dropped, and the error that is returned instead. -/
theorem attempt_throw_run {α : Type} (c : Command) (error : FdoError) :
    (do
      let _ ← attempt (applyCommand c)
      throw error : DaemonCall α).run d =
      ⟨.error error, d.applied c, [.command c (d.answer c)]⟩ := by
  rw [Call.attempt_bind, applyCommand_run, Call.throw_run, Call.after_mk, List.append_nil]

theorem cancelLease_run : cancelLease.run d = ⟨.ok (), d, d.lease⟩ := rfl

theorem removeRecording_run (path : String) :
    (removeRecording path).run d = ⟨.ok (), d, d.removal path⟩ := by
  rw [removeRecording, Call.get_bind, VoxTypeDaemon.removal]
  split <;> rfl

theorem full_command (hFull : ¬ d.Room) (c : Command) {trace : List DaemonEffect}
    (hMem : .command c (d.answer c) ∈ trace) : ∃ effect ∈ trace, effect.Backpressured :=
  ⟨_, hMem, backpressured_full hFull c⟩

theorem inert_append {left right : List DaemonEffect} (hLeft : ∀ effect ∈ left, effect.Inert)
    (hRight : ∀ effect ∈ right, effect.Inert) : ∀ effect ∈ left ++ right, effect.Inert := by
  intro effect hMem
  rcases List.mem_append.mp hMem with hMem | hMem
  · exact hLeft effect hMem
  · exact hRight effect hMem

theorem inert_command (c : Command) (answer : Except VoxError CommandEffect) :
    ∀ effect ∈ [DaemonEffect.command c answer], effect.Inert := by
  intro effect hMem
  cases List.mem_singleton.mp hMem
  trivial

/-- The caller names no session or this one. -/
def Names (requested : String) (session : SessionId) : Prop :=
  requested.isEmpty = true ∨ requested = session.value

/-- The session an operation acts on is that of the machine. -/
theorem activeSessionId_run (requested : String) :
    (∃ error, (activeSessionId requested).run d = ⟨.error error, d, []⟩ ∧
      ∀ session, d.state.session = some session → ¬ Names requested session) ∨
      ∃ active, d.state.session = some active ∧ Names requested active ∧
        (activeSessionId requested).run d = ⟨.ok active, d, []⟩ := by
  rw [activeSessionId, Call.get_bind]
  cases hSession : d.state.session with
  | none => exact .inl ⟨_, rfl, nofun⟩
  | some active =>
    dsimp only
    split
    · rename_i hNames
      exact .inr ⟨active, rfl, hNames, rfl⟩
    · rename_i hOther
      refine .inl ⟨_, rfl, ?_⟩
      intro session hSame
      cases hSame
      exact hOther

end Daemon

end VoxType
