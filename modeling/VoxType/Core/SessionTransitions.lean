import VoxType.Core.Session

/-!
# The transition table of the session machine

`Accepts` lists what an accepted command can do, guards included; a rejected
command changes nothing.
-/

namespace VoxType

set_option autoImplicit false

namespace SessionId

theorem fromCounter_injective {a b : Nat} (h : fromCounter a = fromCounter b) : a = b := by
  have hText : ("session-" ++ a.repr).toList = ("session-" ++ b.repr).toList :=
    congrArg (fun s => s.value.toList) h
  rw [String.toList_append, String.toList_append, List.append_cancel_left_eq] at hText
  exact Nat.repr_injective (String.toList_injective hText)

end SessionId

namespace SessionState

/-- Every state with a session is either active or terminal. -/
theorem active_or_terminal {state : SessionState} {s : SessionId} (h : state.session = some s) :
    (state.isActive = true ∧ state.isTerminal = false) ∨
      (state.isActive = false ∧ state.isTerminal = true) := by
  cases state <;> simp_all [isActive, isTerminal, session]

theorem not_active {state : SessionState} (h : state.isActive = false) :
    state = .idle ∨ state.isTerminal = true := by
  cases state <;> simp_all [isActive, isTerminal]

end SessionState

@[simp] theorem ensureSession_self (s : SessionId) : ensureSession s s = .ok () := by
  simp [ensureSession]

theorem ensureSession_ok {active requested : SessionId} {u : Unit}
    (h : ensureSession active requested = .ok u) : active = requested := by
  unfold ensureSession at h
  split at h
  · assumption
  · cases h

/-- The session a command names. -/
def Command.session : Command → Option SessionId
  | .stop s | .cancel s | .captureReady s | .captureStopped s | .noSpeech s
  | .transcriptReady s _ | .insertionComplete s | .fail s _ => some s
  | .start _ | .reset => none

namespace SessionMachine

inductive Accepts (m : SessionMachine) : Command → CommandEffect → SessionMachine → Prop
  | start (request : StartRequest) (hState : m.state.isActive = false) :
    Accepts m (.start request) (.beginCapture (.fromCounter m.nextId) request)
      ⟨.preparing (.fromCounter m.nextId) request.mode, min (m.nextId + 1) u64Max⟩
  | stop {s : SessionId} {mode : TriggerMode} (hState : m.state = .listening s mode) :
    Accepts m (.stop s) (.stopCapture s) { m with state := .finalizing s }
  | cancel {s : SessionId} (hState : m.state.session = some s) :
    Accepts m (.cancel s) (.cancelWork s) { m with state := .cancelled s }
  | captureReady {s : SessionId} {mode : TriggerMode} (hState : m.state = .preparing s mode) :
    Accepts m (.captureReady s) .none { m with state := .listening s mode }
  | captureStopped {s : SessionId} {mode : TriggerMode} (hState : m.state = .listening s mode) :
    Accepts m (.captureStopped s) .none { m with state := .finalizing s }
  | noSpeech {s : SessionId} (hState : m.state = .finalizing s) :
    Accepts m (.noSpeech s) .none { m with state := .completed s }
  | transcriptReady {s : SessionId} {text : String} (hState : m.state = .finalizing s)
    (hText : RustText.isBlank text = false) :
    Accepts m (.transcriptReady s text) (.insertText s text)
      { m with state := .inserting s text }
  | insertionComplete {s : SessionId} {text : String} (hState : m.state = .inserting s text) :
    Accepts m (.insertionComplete s) .none { m with state := .completed s }
  | fail {s : SessionId} (error : VoxError) (hState : m.state.session = some s) :
    Accepts m (.fail s error) (.cancelWork s) { m with state := .failed s error }
  | reset (hState : m.state.isActive = false) :
    Accepts m .reset .none { m with state := .idle }

variable {m m' : SessionMachine} {c : Command} {e : CommandEffect} {error : VoxError}

theorem Accepts.apply_eq (h : m.Accepts c e m') : m.apply c = (.ok e, m') := by
  cases h with
  | start request hState =>
    rcases SessionState.not_active hState with hIdle | hTerminal
    · simp [apply, SessionMachine.start, hIdle, SessionState.isTerminal]
    · simp [apply, SessionMachine.start, hTerminal]
  | stop hState | captureReady hState | captureStopped hState | noSpeech hState
  | insertionComplete hState | cancel hState | fail _ hState =>
    simp [apply, SessionMachine.stop, SessionMachine.captureReady, SessionMachine.captureStopped,
      SessionMachine.noSpeech, SessionMachine.insertionComplete, SessionMachine.cancel,
      SessionMachine.fail, hState]
  | transcriptReady hState hText => simp [apply, SessionMachine.transcriptReady, hState, hText]
  | reset hState => simp [apply, SessionMachine.reset, hState]

/-- What one call does: it accepts a row of the table, or it rejects and leaves the machine. -/
theorem apply_cases (m : SessionMachine) (c : Command) :
    (∃ e m', m.Accepts c e m' ∧ m.apply c = (.ok e, m')) ∨
      (∃ error, m.apply c = (.error error, m)) := by
  have accepted : ∀ {e m'}, m.Accepts c e m' →
      (∃ e m', m.Accepts c e m' ∧ m.apply c = (.ok e, m')) ∨
        (∃ error, m.apply c = (.error error, m)) :=
    fun h => .inl ⟨_, _, h, h.apply_eq⟩
  cases c with
  | start request =>
    cases hActive : m.state.isActive with
    | false => exact accepted (.start request hActive)
    | true =>
      refine .inr ⟨invalidState "a session is already active", ?_⟩
      cases hState : m.state <;>
        simp_all [apply, SessionMachine.start, SessionState.isActive, SessionState.isTerminal]
  | reset =>
    cases hActive : m.state.isActive with
    | false => exact accepted (.reset hActive)
    | true => exact .inr ⟨_, by simp [apply, SessionMachine.reset, hActive]; rfl⟩
  | cancel s =>
    cases hSession : m.state.session with
    | none => exact .inr ⟨_, by simp [apply, SessionMachine.cancel, hSession]; rfl⟩
    | some active =>
      cases hEnsure : ensureSession active s with
      | error mismatch =>
        exact .inr ⟨mismatch, by simp [apply, SessionMachine.cancel, hSession, hEnsure]⟩
      | ok u =>
        cases ensureSession_ok hEnsure
        exact accepted (.cancel hSession)
  | fail s cause =>
    cases hSession : m.state.session with
    | none => exact .inr ⟨_, by simp [apply, SessionMachine.fail, hSession]; rfl⟩
    | some active =>
      cases hEnsure : ensureSession active s with
      | error mismatch =>
        exact .inr ⟨mismatch, by simp [apply, SessionMachine.fail, hSession, hEnsure]⟩
      | ok u =>
        cases ensureSession_ok hEnsure
        exact accepted (.fail cause hSession)
  | stop s =>
    cases hState : m.state with
    | listening active mode =>
      cases hEnsure : ensureSession active s with
      | error mismatch =>
        exact .inr ⟨mismatch, by simp [apply, SessionMachine.stop, hState, hEnsure]⟩
      | ok u =>
        cases ensureSession_ok hEnsure
        exact accepted (.stop hState)
    | _ => exact .inr ⟨_, by simp [apply, SessionMachine.stop, hState]; rfl⟩
  | captureReady s =>
    cases hState : m.state with
    | preparing active mode =>
      cases hEnsure : ensureSession active s with
      | error mismatch =>
        exact .inr ⟨mismatch, by simp [apply, SessionMachine.captureReady, hState, hEnsure]⟩
      | ok u =>
        cases ensureSession_ok hEnsure
        exact accepted (.captureReady hState)
    | _ => exact .inr ⟨_, by simp [apply, SessionMachine.captureReady, hState]; rfl⟩
  | captureStopped s =>
    cases hState : m.state with
    | listening active mode =>
      cases hEnsure : ensureSession active s with
      | error mismatch =>
        exact .inr ⟨mismatch, by simp [apply, SessionMachine.captureStopped, hState, hEnsure]⟩
      | ok u =>
        cases ensureSession_ok hEnsure
        exact accepted (.captureStopped hState)
    | _ => exact .inr ⟨_, by simp [apply, SessionMachine.captureStopped, hState]; rfl⟩
  | noSpeech s =>
    cases hState : m.state with
    | finalizing active =>
      cases hEnsure : ensureSession active s with
      | error mismatch =>
        exact .inr ⟨mismatch, by simp [apply, SessionMachine.noSpeech, hState, hEnsure]⟩
      | ok u =>
        cases ensureSession_ok hEnsure
        exact accepted (.noSpeech hState)
    | _ => exact .inr ⟨_, by simp [apply, SessionMachine.noSpeech, hState]; rfl⟩
  | transcriptReady s text =>
    cases hState : m.state with
    | finalizing active =>
      cases hEnsure : ensureSession active s with
      | error mismatch =>
        exact .inr ⟨mismatch, by simp [apply, SessionMachine.transcriptReady, hState, hEnsure]⟩
      | ok u =>
        cases ensureSession_ok hEnsure
        cases hText : RustText.isBlank text with
        | false => exact accepted (.transcriptReady hState hText)
        | true =>
          exact .inr ⟨_, by simp [apply, SessionMachine.transcriptReady, hState, hText]; rfl⟩
    | _ => exact .inr ⟨_, by simp [apply, SessionMachine.transcriptReady, hState]; rfl⟩
  | insertionComplete s =>
    cases hState : m.state with
    | inserting active text =>
      cases hEnsure : ensureSession active s with
      | error mismatch =>
        exact .inr ⟨mismatch, by simp [apply, SessionMachine.insertionComplete, hState, hEnsure]⟩
      | ok u =>
        cases ensureSession_ok hEnsure
        exact accepted (.insertionComplete hState)
    | _ => exact .inr ⟨_, by simp [apply, SessionMachine.insertionComplete, hState]; rfl⟩

theorem apply_ok (h : m.apply c = (.ok e, m')) : m.Accepts c e m' := by
  rcases apply_cases m c with ⟨e', m'', hAccepts, hApply⟩ | ⟨error, hApply⟩
  · rw [hApply] at h
    cases h
    exact hAccepts
  · rw [hApply] at h
    cases h

theorem answer_ok (h : (m.apply c).1 = .ok e) : ∃ m', m.Accepts c e m' :=
  ⟨_, apply_ok (Prod.ext h rfl)⟩

theorem Accepts.session_eq {s : SessionId} (h : m.Accepts c e m') (hNamed : c.session = some s) :
    m.state.session = some s := by
  cases h with
  | start | reset => cases hNamed
  | cancel hState | fail _ hState => cases hNamed; exact hState
  | stop hState | captureReady hState | captureStopped hState | noSpeech hState
  | transcriptReady hState | insertionComplete hState =>
    cases hNamed
    rw [hState]
    rfl

end SessionMachine

end VoxType
