import VoxType.Daemon.OneResult
import VoxType.Daemon.Validation
import VoxType.Library.Decimal
import VoxType.Library.Words

/-!
# Stopping a session and waiting for its result

The client reads the session out of the reply to `Stop`, then asks for the
result of that session until there is one or the deadline has passed. Meanwhile
the daemon goes on with whatever else is asked of it.
-/

namespace VoxType

set_option autoImplicit false

structure SessionResult where
  session : String
  outcome : String
  errorCode : String
  backend : String
  charCount : Nat
  deriving DecidableEq, Repr

inductive ClientError
  | daemon (error : FdoError)
  | bus (message : String)
  | failure (message : String)

/-- `SESSION_RESULT_WAIT_TIMEOUT` in nanoseconds -/
def sessionResultWaitTimeout : Nat := 5 * 60 * 10 ^ 9

/-- The bus method `SessionResult`. -/
def VoxTypeDaemon.sessionResult (self : VoxTypeDaemon) (session : String) :
    Except FdoError (Bool × String × String × String × Nat) :=
  if session.isEmpty || 128 < session.utf8ByteSize || session.toList.any isControl then
    .error (.invalidArgs "session ID must be non-empty and bounded")
  else
    .ok (match self.app.sessionResult session with
      | none => (false, "", "", "", 0)
      | some result => (true, result.outcome, result.errorCode, result.backend, result.charCount))

namespace Client

/-- What `session_result` makes of the reply. -/
def sessionResult (session : String) :
    Except FdoError (Bool × String × String × String × Nat) →
      Except ClientError (Option SessionResult)
  | .error error => .error (.daemon error)
  | .ok (found, outcome, errorCode, backend, charCount) =>
    .ok (if found then some ⟨session, outcome, errorCode, backend, charCount⟩ else none)

/-- The session that is waited for. -/
def requestedSession (session accepted : String) : String :=
  if session.isEmpty then
    String.ofList ((RustText.markedWord "session=".toList accepted.toList).getD [])
  else session

inductive Phase
  | idle
  | waiting (requested : String) (deadline : Nat)
  | returned (result : Except ClientError SessionResult)

/-- `stop_wait` up to its loop, at the time it enters the loop. -/
def enter (session : String) (now : Nat) : Except FdoError String → Phase
  | .error error => .returned (.error (.daemon error))
  | .ok accepted =>
    let requested := requestedSession session accepted
    if requested.isEmpty then
      .returned (.error (.failure "daemon did not return a session ID while accepting Stop"))
    else .waiting requested (now + sessionResultWaitTimeout)

/-- One turn of the loop. -/
def turn (requested : String) (deadline now : Nat)
    (reply : Except FdoError (Bool × String × String × String × Nat)) : Phase :=
  match sessionResult requested reply with
  | .error error => .returned (.error error)
  | .ok (some result) => .returned (.ok result)
  | .ok none =>
    if deadline ≤ now then
      .returned (.error (.failure
        s!"timed out waiting for terminal result for session {requested}"))
    else .waiting requested deadline

/-- What the bus method takes for no session. -/
def Refused (session : String) : Bool :=
  session.isEmpty || 128 < session.utf8ByteSize || session.toList.any isControl

theorem turn_cases (d : VoxTypeDaemon) (requested : String) (deadline now : Nat) :
    (∃ error, turn requested deadline now (d.sessionResult requested) =
        .returned (.error error)) ∨
      turn requested deadline now (d.sessionResult requested) = .waiting requested deadline ∨
      ∃ r, d.app.sessionResult requested = some r ∧
        turn requested deadline now (d.sessionResult requested) =
          .returned (.ok ⟨requested, r.outcome, r.errorCode, r.backend, r.charCount⟩) := by
  by_cases hName : Refused requested = true
  · have hReply : d.sessionResult requested =
        .error (.invalidArgs "session ID must be non-empty and bounded") := if_pos hName
    rw [hReply]
    exact .inl ⟨_, rfl⟩
  · have hReply : d.sessionResult requested = .ok _ := if_neg hName
    rw [hReply]
    cases d.app.sessionResult requested with
    | some r => exact .inr (.inr ⟨r, rfl, rfl⟩)
    | none =>
      by_cases hLate : deadline ≤ now
      · exact .inl ⟨_, if_pos hLate⟩
      · exact .inr (.inl (if_neg hLate))

theorem turn_returns {d : VoxTypeDaemon} {requested : String}
    (hName : Refused requested = false) (deadline now : Nat) :
    (∃ result, turn requested deadline now (d.sessionResult requested) = .returned (.ok result)) ↔
      ∃ r, d.app.sessionResult requested = some r := by
  constructor
  · rintro ⟨result, hReturned⟩
    rcases turn_cases d requested deadline now with ⟨error, hTurn⟩ | hTurn | ⟨r, hResult, _⟩
    · rw [hTurn] at hReturned
      cases hReturned
    · rw [hTurn] at hReturned
      cases hReturned
    · exact ⟨r, hResult⟩
  · rintro ⟨r, hResult⟩
    have hReply : d.sessionResult requested =
        .ok (true, r.outcome, r.errorCode, r.backend, r.charCount) := by
      unfold Refused at hName
      rw [VoxTypeDaemon.sessionResult, hName, hResult]
      rfl
    rw [hReply]
    exact ⟨_, rfl⟩

end Client

/-- The daemon, and a client in `stop_wait`. -/
structure ClientSystem where
  system : System
  phase : Client.Phase

/-- What the client does next, or anything else that reaches the daemon. -/
inductive ClientInput
  | daemon (input : SystemInput)
  | stopWait (env : Environment) (session : String) (now : Nat)
  | turn (now : Nat)
  | disconnect (message : String)

namespace ClientSystem

def step (self : ClientSystem) : ClientInput → List DaemonEffect × ClientSystem
  | .daemon input =>
    ((self.system.step input).1.effects, { self with system := (self.system.step input).2 })
  | .stopWait env session now =>
    ((self.system.step (.stop env session)).1.effects,
      { system := (self.system.step (.stop env session)).2
        phase :=
          match self.phase with
          -- The call is that of another client.
          | .waiting requested deadline => .waiting requested deadline
          | _ => Client.enter session now
              ((Daemon.stop (self.system.boundary env) session).run self.system.daemon).result })
  | .turn now =>
    match self.phase with
    | .waiting requested deadline =>
      ([], { self with
        phase := Client.turn requested deadline now (self.system.daemon.sessionResult requested) })
    | _ => ([], self)
  | .disconnect message =>
    match self.phase with
    | .waiting _ _ => ([], { self with phase := .returned (.error (.bus message)) })
    | _ => ([], self)

end ClientSystem

def clientMachine (config : Config) (registry : ProviderRegistry) (wake : WakeHandle) :
    Transition.Machine ClientSystem ClientInput (List DaemonEffect) where
  start := ⟨(systemMachine config registry wake).start, .idle⟩
  step := ClientSystem.step

/-- What the daemon sees of an input. -/
def ClientInput.daemonInput : ClientInput → Option SystemInput
  | .daemon input => some input
  | .stopWait env session _ => some (.stop env session)
  | .turn _ | .disconnect _ => none

theorem client_follows (config : Config) (registry : ProviderRegistry) (wake : WakeHandle) :
    (clientMachine config registry wake).Follows (systemMachine config registry wake)
      ClientSystem.system ClientInput.daemonInput where
  start := rfl
  stays := by
    intro self i hNone
    cases i with
    | daemon | stopWait => cases hNone
    | turn | disconnect =>
      change (self.step _).2.system = _
      rw [ClientSystem.step]
      split <;> rfl
  moves := by
    rintro self i j hSome
    cases i with
    | daemon | stopWait =>
      cases hSome
      rfl
    | turn | disconnect => cases hSome

theorem client_told (config : Config) (registry : ProviderRegistry) (wake : WakeHandle)
    (inputs : List ClientInput) :
    ((clientMachine config registry wake).log inputs).flatMap Prod.snd =
      effects ((systemMachine config registry wake).log
        (inputs.filterMap ClientInput.daemonInput)) := by
  have hQuiet : ∀ (self : ClientSystem) (i : ClientInput), i.daemonInput = none →
      id ((clientMachine config registry wake).step self i).1 = [] := by
    intro self i hNone
    cases i with
    | daemon | stopWait => cases hNone
    | turn | disconnect =>
      change (self.step _).1 = _
      rw [ClientSystem.step]
      split <;> rfl
  have hSame : ∀ (self : ClientSystem) (i : ClientInput) (j : SystemInput),
      i.daemonInput = some j → id ((clientMachine config registry wake).step self i).1 =
        SystemAnswer.effects ((systemMachine config registry wake).step self.system j).1 := by
    intro self i j hSome
    cases i with
    | daemon | stopWait =>
      cases hSome
      rfl
    | turn | disconnect => cases hSome
  exact (client_follows config registry wake).told hQuiet hSame inputs

namespace Daemon

open Effects.Call (Yields)

/-- The reply names the session in its first word. -/
def Accepted (session : SessionId) (reply : String) : Prop :=
  ∃ rest, reply.toList = "session=".toList ++ session.value.toList ++ ' ' :: rest

theorem Accepted.append {session : SessionId} {reply : String} (h : Accepted session reply)
    (more : String) : Accepted session (reply ++ more) := by
  obtain ⟨rest, hReply⟩ := h
  exact ⟨rest ++ more.toList, by rw [String.toList_append, hReply]; simp⟩

theorem accepted_reply (session : SessionId) {rest : String} (hRest : rest.toList.head? = some ' ') :
    Accepted session ("session=" ++ session.value ++ rest) := by
  obtain ⟨tail, hTail⟩ := List.head?_eq_some_iff.mp hRest
  exact ⟨tail, by rw [String.toList_append, String.toList_append, hTail]⟩

variable {env : Environment} {session : SessionId}

theorem checkMinimumDuration_yields (recording : CapturedAudio) :
    Yields (fun response => ∀ reply, response = some reply → Accepted session reply)
      (checkMinimumDuration session recording) := by
  refine .last _ fun d => ?_
  split
  · exact .pure nofun
  · refine .last _ fun _ => .last _ fun _ => .pure ?_
    rintro _ ⟨⟩
    exact .append (accepted_reply session rfl) _

theorem checkVoiceActivity_yields (recording : CapturedAudio) :
    Yields (fun activity => ∀ reply, activity = .noSpeech reply → Accepted session reply)
      (checkVoiceActivity env session recording) := by
  refine .last _ fun d => ?_
  split
  · exact .pure nofun
  · split
    · exact .throw _
    · split
      · split
        · exact .throw _
        · exact .pure nofun
      · refine .last _ fun _ => .last _ fun _ => .pure ?_
        rintro _ ⟨⟩
        exact .append (.append (.append (.append (accepted_reply session rfl) _) _) _) _

theorem planRecognition_yields (recording : CapturedAudio) (vadResult : Option Vad.VadResult)
    (audioMillis : Nat) : Yields (Accepted session)
      (planRecognition env session recording vadResult audioMillis) := by
  refine .last _ fun d => ?_
  split
  · exact .throw _
  · split
    · exact .throw _
    · split
      · exact .last _ fun _ => .throw _
      · rw [spawnRecognition]
        split
        · exact .throw _
        · exact .last _ fun _ => .last _ fun _ => .pure (accepted_reply session rfl)

theorem beginRecognition_yields (recording : CapturedAudio) :
    Yields (Accepted session) (beginRecognition env session recording) := by
  refine .bind (checkMinimumDuration_yields recording) fun response hResponse => ?_
  split
  · exact .pure (hResponse _ rfl)
  · refine .bind (checkVoiceActivity_yields recording) fun activity hActivity => ?_
    split
    · exact .pure (hActivity _ rfl)
    · exact planRecognition_yields recording _ _

theorem processCapture_yields (audio : CapturedAudio) :
    Yields (Accepted session) (processCapture env session audio) := by
  refine .bind (.attempt (beginRecognition_yields audio)) fun response hResponse => ?_
  have settle : Yields (Accepted session) (do
      let d ← Effects.Call.get
      if d.recognitionJob.isNone then do
        removeRecording audio.path
        Effects.Call.modify VoxTypeDaemon.withoutTarget
      else pure ()
      Effects.Call.ofExcept response : DaemonCall String) := by
    refine .last _ fun d => ?_
    dsimp only
    split
    · exact .last _ fun _ => .last _ fun _ => .ofExcept hResponse
    · exact .ofExcept hResponse
  dsimp only
  split
  · exact .last _ fun _ => .last _ fun _ => settle
  · exact settle

theorem closeCapture_yields (recording : CaptureSession) :
    Yields (Accepted session) (closeCapture env session recording) := by
  refine .last _ fun _ => .last _ fun _ => ?_
  split
  · exact processCapture_yields _
  · exact .last _ fun _ => .throw _

/-- A `Stop` that succeeds names the session it has found listening. -/
theorem stop_accepted {d : VoxTypeDaemon} {requested reply : String}
    (h : ((stop env requested).run d).result = .ok reply) :
    ∃ s mode, d.state = .listening s mode ∧ Names requested s ∧ Accepted s reply := by
  rw [stop] at h
  rcases activeSessionId_run d requested with
    ⟨error, hActive, _⟩ | ⟨active, hSession, hNames, hActive⟩
  · rw [Effects.Call.bind_error hActive] at h
    cases h
  · rw [Effects.Call.bind_ok hActive, pollAudioTelemetry, Effects.Call.modify_bind,
      Effects.Call.after_nil] at h
    obtain ⟨effect, hEffect, hRest⟩ := Effects.Call.ok_of_bind h
    cases hAnswer : (d.telemetry env).answer (.stop active) with
    | error error =>
      rw [mapped_error _ hAnswer] at hEffect
      cases hEffect
    | ok e =>
      rw [telemetry_answer] at hAnswer
      obtain ⟨_, m', hAccepts⟩ := VoxTypeDaemon.answer_ok_room hAnswer
      cases hAccepts with
      | @stop _ mode hState =>
        refine ⟨active, mode, hState, hNames, ?_⟩
        rw [Effects.Call.get_bind] at hRest
        split at hRest
        · cases hRest
        · exact closeCapture_yields _ _ _ hRest

end Daemon

end VoxType
