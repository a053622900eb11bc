import VoxType.Daemon.Phase

/-!
# Operations cut in half by the event bound

Each command is admitted on its own, so a call whose first command takes the
last place is refused its second one.
-/

namespace VoxType

set_option autoImplicit false

/-- The first call on the controller is accepted and a later one is refused for want of room. -/
def Halved : List DaemonEffect → Prop
  | [] => False
  | .command _ (.ok _) :: later => ∃ effect ∈ later, effect.Backpressured
  | .command _ (.error _) :: _ => False
  | .finished _ _ :: _ => False
  | _ :: later => Halved later

theorem Halved.obstructed {trace : List DaemonEffect} (h : Halved trace) :
    ∃ effect ∈ trace, effect.Backpressured := by
  induction trace with
  | nil => exact absurd h id
  | cons effect later ih =>
    have hLater : (∃ effect ∈ later, effect.Backpressured) →
        ∃ other ∈ effect :: later, other.Backpressured :=
      fun ⟨other, hMem, hFull⟩ => ⟨other, List.mem_cons_of_mem _ hMem, hFull⟩
    cases effect with
    | command c answer =>
      cases answer with
      | ok => exact hLater h
      | error => exact absurd h id
    | finished => exact absurd h id
    | _ => exact hLater (ih h)

theorem Halved.append {trace : List DaemonEffect} (h : Halved trace) (later : List DaemonEffect) :
    Halved (trace ++ later) := by
  induction trace with
  | nil => exact absurd h id
  | cons effect rest ih =>
    cases effect with
    | command c answer =>
      cases answer with
      | ok =>
        obtain ⟨other, hMem, hFull⟩ := h
        exact ⟨other, List.mem_append_left _ hMem, hFull⟩
      | error => exact absurd h id
    | finished => exact absurd h id
    | _ => exact ih h

theorem not_halved {trace : List DaemonEffect} (hFree : Unobstructed trace) : ¬ Halved trace := by
  intro h
  obtain ⟨effect, hMem, hFull⟩ := h.obstructed
  exact hFree effect hMem hFull

theorem Unobstructed.join {left right : List DaemonEffect} (hLeft : Unobstructed left)
    (hRight : Unobstructed right) : Unobstructed (left ++ right) := by
  intro effect hMem
  rcases List.mem_append.mp hMem with hMem | hMem
  · exact hLeft effect hMem
  · exact hRight effect hMem

namespace VoxTypeDaemon

theorem lease_unobstructed (d : VoxTypeDaemon) : Unobstructed d.lease := by
  intro effect hMem
  obtain ⟨arm, _, rfl⟩ := List.mem_map.mp hMem
  exact id

theorem removal_unobstructed (d : VoxTypeDaemon) (path : String) :
    Unobstructed (d.removal path) := by
  intro effect hMem
  rw [removal] at hMem
  split at hMem
  · cases hMem
  · cases List.mem_singleton.mp hMem
    exact id

theorem release_unobstructed (d : VoxTypeDaemon) :
    Unobstructed (d.captureEffects ++ d.jobEffects ++ d.lease) := by
  refine .join (.join ?_ ?_) d.lease_unobstructed
  · rw [captureEffects]
    cases d.recording <;> simp [Unobstructed, DaemonEffect.Backpressured]
  · rw [jobEffects]
    cases d.recognitionJob <;> simp [Unobstructed, DaemonEffect.Backpressured]

/-- One command fits into the queue, and no second one. -/
def AtEdge (d : VoxTypeDaemon) : Prop := d.app.events.length = maxPendingEvents - 2

theorem AtEdge.room {d : VoxTypeDaemon} (h : d.AtEdge) : d.Room := Nat.le_of_eq h

/-- A first command with one event leaves no room exactly at the edge. -/
theorem edge_iff {d d' : VoxTypeDaemon} (hRoom : d.Room)
    (hEvents : d'.app.events.length = d.app.events.length + 1) : ¬ d'.Room ↔ d.AtEdge := by
  unfold Room at *
  unfold AtEdge
  omega

end VoxTypeDaemon

namespace Daemon

open Effects (Call)

variable (env : Environment) (d : VoxTypeDaemon)

/-- `start` gets as far as arming the target. -/
def StartContinues (profile : String) : Prop :=
  (∃ profileName, startProfile d profile = .ok profileName) ∧ d.state.isActive = false

/-- `stop` closes a capture that no worker is started for. -/
def StopContinues (requested : String) : Prop :=
  ∃ session mode recording, d.state = .listening session mode ∧ Names requested session ∧
    d.recording = some recording ∧ ∀ audio, env.stopCapture recording = .ok audio →
      ¬ (Voiced env d audio ∧ Routed env d)

/-- A transcript is delivered to the session that waits for it. -/
def PollContinues : Prop :=
  ∃ job received success, d.recognitionJob = some job ∧ Receives env job received ∧
    d.state = .finalizing job.session ∧ received.outcome = .ok success ∧
    RustText.isBlank success.transcript.text = false

variable {env : Environment} {d : VoxTypeDaemon}

theorem StartOutcome.halved_iff {profile : String} {o : DaemonOutcome String}
    (h : StartOutcome env d profile o) :
    Halved o.trace ↔ d.AtEdge ∧ StartContinues d profile := by
  cases h with
  | refused hCheck =>
    refine iff_of_false id ?_
    rintro ⟨_, ⟨profileName, hOk⟩, _⟩
    rw [hCheck] at hOk
    cases hOk
  | rejected hCheck hAnswer =>
    refine iff_of_false id ?_
    rintro ⟨hEdge, _, hInactive⟩
    rw [VoxTypeDaemon.answer_accepts hEdge.room (.start _ hInactive)] at hAnswer
    cases hAnswer
  | @begun profileName hCheck hRoom hInactive _ hSession =>
    have hEdge : ¬ (d.applied (.start ⟨.toggle, some profileName⟩)).Room ↔ d.AtEdge :=
      VoxTypeDaemon.edge_iff hRoom (started_facts d hRoom hInactive).2
    have whole : ∀ {trace : List DaemonEffect},
        (d.applied (.start ⟨.toggle, some profileName⟩)).Room → Unobstructed trace →
        ((∃ effect ∈ trace, effect.Backpressured) ↔ d.AtEdge ∧ StartContinues d profile) := by
      intro trace hRoom' hFree
      refine iff_of_false ?_ fun h => (hEdge.mpr h.1) hRoom'
      rintro ⟨effect, hMem, hFull⟩
      exact hFree effect hMem hFull
    change (∃ effect ∈ _, DaemonEffect.Backpressured effect) ↔ _
    cases hSession with
    | armFailed hRoom' => exact whole hRoom' (by simp [Unobstructed, DaemonEffect.Backpressured])
    | captureFailed hRoom' =>
      exact whole hRoom' (by simp [Unobstructed, DaemonEffect.Backpressured])
    | listening hRoom' => exact whole hRoom' (by simp [Unobstructed, DaemonEffect.Backpressured])
    | full hFull _ _ _ hTrace =>
      exact iff_of_true hTrace ⟨hEdge.mp hFull, ⟨profileName, hCheck⟩, hInactive⟩

theorem voiced_stopping {session : SessionId} {audio : CapturedAudio} :
    Voiced env (stopping env d session) audio ↔ Voiced env d audio := by
  obtain ⟨_, _, _, hTelemetry⟩ := telemetry_eq env d
  have hConfig : (stopping env d session).config = d.config :=
    (congrArg VoxTypeDaemon.config hTelemetry).trans rfl
  have hVad : (stopping env d session).vadConfig = d.vadConfig := by
    rw [VoxTypeDaemon.vadConfig, hConfig, VoxTypeDaemon.vadConfig]
  rw [Voiced, hConfig, hVad, Voiced]

theorem routed_stopping {session : SessionId} :
    Routed env (stopping env d session) ↔ Routed env d := by
  obtain ⟨_, _, _, hTelemetry⟩ := telemetry_eq env d
  have hConfig : (stopping env d session).config = d.config :=
    (congrArg VoxTypeDaemon.config hTelemetry).trans rfl
  have hProfile : (stopping env d session).activeProfile = d.activeProfile :=
    (congrArg VoxTypeDaemon.activeProfile hTelemetry).trans rfl
  have hPlan : ∀ policy,
      (stopping env d session).app.planRoute policy env.now = d.app.planRoute policy env.now := by
    intro policy
    rw [← telemetry_app env d]
    exact AppController.apply_planRoute _ _ _ _
  simp only [Routed, hConfig, hProfile, hPlan]

theorem settledTrace_unobstructed (d : VoxTypeDaemon) (path : String) :
    Unobstructed (settledTrace d path) := by
  rw [settledTrace]
  split
  · exact d.removal_unobstructed path
  · simp [Unobstructed]

theorem StopOutcome.halved_iff {requested : String} {o : DaemonOutcome String}
    (h : StopOutcome env d requested o) :
    Halved o.trace ↔ d.AtEdge ∧ StopContinues env d requested := by
  cases h with
  | refused error hOther =>
    refine iff_of_false id ?_
    rintro ⟨_, session, mode, recording, hState, hNames, _⟩
    exact hOther session (by rw [hState]; rfl) hNames
  | @rejected active _ hSession hAnswer =>
    refine iff_of_false id ?_
    rintro ⟨hEdge, session, mode, recording, hState, _⟩
    have hSame : active = session := by
      rw [hState] at hSession
      exact (Option.some.inj hSession).symm
    subst hSame
    rw [VoxTypeDaemon.answer_accepts hEdge.room (.stop hState)] at hAnswer
    cases hAnswer
  | missing _ _ hRecording =>
    refine iff_of_false (not_halved (by simp [Unobstructed, DaemonEffect.Backpressured])) ?_
    rintro ⟨_, _, _, recording, _, _, hSome, _⟩
    rw [hRecording] at hSome
    cases hSome
  | @stopFailed session mode recording error hRoom hState hRecording hStop hNames =>
    obtain ⟨hFinal, hEvents, _⟩ := stopping_facts env d hRoom hState
    have hEdge := VoxTypeDaemon.edge_iff hRoom hEvents
    have hContinues : StopContinues env d requested := by
      refine ⟨session, mode, recording, hState, hNames, hRecording, ?_⟩
      intro audio hOk
      rw [hStop] at hOk
      cases hOk
    rw [← hEdge]
    constructor
    · rintro ⟨effect, hMem, hFull⟩
      refine ⟨fun hRoom' => ?_, hContinues⟩
      rw [VoxTypeDaemon.answer_accepts hRoom' (.fail error (by
        change (stopping env d session).state.session = _
        rw [hFinal]
        rfl))] at hMem
      simp only [List.mem_cons, List.not_mem_nil, or_false] at hMem
      rcases hMem with rfl | rfl <;> exact hFull
    · rintro ⟨hFull, _⟩
      exact full_command _ hFull (.fail session error) (by simp)
  | @processed session mode recording audio hRoom hState hRecording hStop o hProcess hNames =>
    obtain ⟨_, hEvents, _⟩ := stopping_facts env d hRoom hState
    have hEdge := VoxTypeDaemon.edge_iff hRoom hEvents
    have hContinues : StopContinues env d requested ↔ ¬ (Voiced env (stopping env d session) audio ∧
        Routed env (stopping env d session)) := by
      rw [voiced_stopping, routed_stopping]
      constructor
      · rintro ⟨_, _, recording', hState', _, hRecording', hStart⟩
        rw [hRecording] at hRecording'
        cases hRecording'
        exact hStart audio hStop
      · intro hStart
        refine ⟨session, mode, recording, hState, hNames, hRecording, ?_⟩
        intro audio' hOk
        rw [hStop] at hOk
        cases hOk
        exact hStart
    have whole : ∀ {trace : List DaemonEffect}, Unobstructed trace →
        ¬ (¬ (stopping env d session).Room ∧ StopContinues env d requested) →
        (Halved (.command (.stop session) (.ok (.stopCapture session)) ::
          .captureStopped (.ok audio) :: trace) ↔ d.AtEdge ∧ StopContinues env d requested) := by
      intro trace hFree hNot
      rw [← hEdge]
      refine iff_of_false ?_ hNot
      rintro ⟨effect, hMem, hFull⟩
      rcases List.mem_cons.mp hMem with rfl | hMem
      · exact hFull
      · exact hFree effect hMem hFull
    cases hProcess with
    | silent hRoom' =>
      rw [Call.after_mk, List.cons_append, List.cons_append, List.nil_append]
      exact whole (.join (.join (VoxTypeDaemon.lease_unobstructed _)
        (by simp [Unobstructed, DaemonEffect.Backpressured])) (settledTrace_unobstructed _ _))
        fun h => h.1 hRoom'
    | failed hRoom' =>
      rw [Call.after_mk, List.cons_append, List.cons_append, List.nil_append]
      exact whole (.join (.join (by simp [Unobstructed, DaemonEffect.Backpressured])
        (VoxTypeDaemon.lease_unobstructed _)) (settledTrace_unobstructed _ _)) fun h => h.1 hRoom'
    | full hFull hStart _ hTrace =>
      obtain ⟨effect, hMem, hObstructed⟩ := hTrace
      exact iff_of_true ⟨effect, List.mem_cons_of_mem _ hMem, hObstructed⟩
        ⟨hEdge.mp hFull, hContinues.mpr hStart⟩
    | started hStart =>
      exact whole (by simp [Unobstructed, DaemonEffect.Backpressured])
        fun h => hContinues.mp h.2 hStart

theorem Insertion.unobstructed {d' : VoxTypeDaemon} {session : SessionId} {text : String}
    {effects : List DaemonEffect} {answer : Except VoxError InsertionOutcome}
    (h : Insertion env d' session text effects answer) : Unobstructed effects := by
  cases h <;> simp [Unobstructed, DaemonEffect.Backpressured]

theorem releaseOnError_unobstructed (o : DaemonOutcome String) :
    Unobstructed (releaseOnError o) := by
  rw [releaseOnError]
  cases o.result with
  | error => exact VoxTypeDaemon.lease_unobstructed _
  | ok => simp [Unobstructed]

theorem Receives.unique {job : RecognitionJob} {first second : RecognitionRouteResult}
    (hFirst : Receives env job first) (hSecond : Receives env job second) : first = second := by
  cases hFirst with
  | received h =>
    cases hSecond with
    | received h' => rw [h] at h'; cases h'; rfl
    | disconnected h' => rw [h] at h'; cases h'
  | disconnected h =>
    cases hSecond with
    | received h' => rw [h] at h'; cases h'
    | disconnected => rfl

theorem PollOutcome.halved_iff {o : DaemonOutcome Bool} (h : PollOutcome env d o) :
    Halved o.trace ↔ d.AtEdge ∧ PollContinues env d := by
  cases h with
  | idle hIdle =>
    refine iff_of_false id ?_
    rintro ⟨_, job, received, success, hJob, hReceives, _, hOutcome, _⟩
    have hEmpty := hIdle job hJob
    cases hReceives with
    | received hRecv => rw [hRecv] at hEmpty; cases hEmpty
    | disconnected => cases hOutcome
  | stale hJob hState =>
    refine iff_of_false (not_halved (VoxTypeDaemon.removal_unobstructed _ _)) ?_
    rintro ⟨_, job, _, _, hJob', _, hState', _⟩
    rw [hJob] at hJob'
    cases hJob'
    exact hState hState'
  | @delivered job received hJob hReceives hState o hDeliver =>
    obtain ⟨hNow, hQueue, _⟩ := receiving_lifecycle env d job received
    have hContinues : PollContinues env d ↔ ∃ success, received.outcome = .ok success ∧
        RustText.isBlank success.transcript.text = false := by
      constructor
      · rintro ⟨job', received', success, hJob', hReceives', _, hOutcome⟩
        rw [hJob] at hJob'
        cases hJob'
        rw [hReceives.unique hReceives']
        exact ⟨success, hOutcome⟩
      · rintro ⟨success, hOutcome⟩
        exact ⟨job, received, success, hJob, hReceives, hState, hOutcome⟩
    have hEdge : ∀ {text : String}, (receiving env d job received).Room →
        RustText.isBlank text = false →
        (¬ ((receiving env d job received).applied (.transcriptReady job.session text)).Room ↔
          d.AtEdge) := by
      intro text hRoom hText
      rw [VoxTypeDaemon.edge_iff hRoom (VoxTypeDaemon.events_applied hRoom
        (.transcriptReady (hNow.trans hState) hText)), VoxTypeDaemon.AtEdge, hQueue,
        VoxTypeDaemon.AtEdge]
    have hTail : Unobstructed (releaseOnError o ++ o.state.removal job.recordingPath) :=
      .join (releaseOnError_unobstructed o) (VoxTypeDaemon.removal_unobstructed _ _)
    rw [hContinues]
    dsimp only
    rw [List.append_assoc]
    generalize releaseOnError o ++ o.state.removal job.recordingPath = tail at hTail
    -- A first command that is accepted is followed by what obstructs the call, or by nothing.
    have first : ∀ {c : Command} {e : CommandEffect} {later : List DaemonEffect},
        Unobstructed later → ¬ Halved (.command c (.ok e) :: later ++ tail) := by
      rintro c e later hLater ⟨effect, hMem, hFull⟩
      exact (hLater.join hTail) effect hMem hFull
    have whole : ∀ {success : RecognitionSuccess} {effects : List DaemonEffect}
        {later : List DaemonEffect} {e : CommandEffect}
        {answer : Except VoxError InsertionOutcome} {d' : VoxTypeDaemon} {session : SessionId}
        {text : String} {c : Command},
        (receiving env d job received).Room →
        RustText.isBlank success.transcript.text = false →
        ((receiving env d job received).applied
          (.transcriptReady job.session success.transcript.text)).Room →
        Insertion env d' session text effects answer → Unobstructed later →
        (Halved (.command c (.ok e) :: (effects ++ later) ++ tail) ↔ d.AtEdge ∧
          ∃ success, received.outcome = .ok success ∧
            RustText.isBlank success.transcript.text = false) := by
      intro success effects later e answer d' session text c hRoom hText hRoom' hInsertion hLater
      exact iff_of_false (first (hInsertion.unobstructed.join hLater))
        fun h => (hEdge hRoom hText).mpr h.1 hRoom'
    have command : ∀ {c : Command} {e : CommandEffect},
        Unobstructed [.command c (.ok e)] := by simp [Unobstructed, DaemonEffect.Backpressured]
    generalize hOutcome : received.outcome = outcome at hDeliver
    rw [hOutcome] at whole
    cases hDeliver with
    | failed =>
      refine iff_of_false (first (by simp [Unobstructed])) ?_
      rintro ⟨_, success, hOk, _⟩
      cases hOk
    | blank _ hBlank =>
      refine iff_of_false id ?_
      rintro ⟨_, success, hOk, hText⟩
      cases hOk
      rw [hBlank] at hText
      cases hText
    | notInserted hRoom hText hRoom' hInsertion =>
      exact whole hRoom hText hRoom' hInsertion command
    | inserted hRoom hText hRoom' hInsertion =>
      refine whole hRoom hText hRoom' hInsertion ?_
      simp [Unobstructed, DaemonEffect.Backpressured]
    | @cut hRoom success hText hFull =>
      refine iff_of_true ⟨_, List.mem_append_left _ (List.mem_append_right _
        (List.mem_singleton_self _)), rfl⟩ ⟨(hEdge hRoom hText).mp hFull, success, rfl, hText⟩
    | full hFull =>
      refine iff_of_false id ?_
      rintro ⟨hAtEdge, _⟩
      exact hFull (by rw [VoxTypeDaemon.Room, hQueue]; exact hAtEdge.room)

theorem CancelOutcome.whole {o : DaemonOutcome Unit} (h : CancelOutcome d o) :
    ¬ Halved o.trace := by
  cases h with
  | refused => exact id
  | rejected => exact id
  | cancelled =>
    rintro ⟨effect, hMem, hFull⟩
    exact d.release_unobstructed effect hMem hFull

theorem ResetOutcome.whole {o : DaemonOutcome Unit} (h : ResetOutcome d o) : ¬ Halved o.trace := by
  cases h with
  | rejected => exact id
  | wasReset => simp [Halved]

end Daemon

end VoxType
