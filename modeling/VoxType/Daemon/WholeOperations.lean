import VoxType.Daemon.Backpressure

/-!
# Operations that run to their end

A call is cut in half exactly when one place is left in the event queue and the
call goes on after its first command.
-/

namespace VoxType

set_option autoImplicit false

namespace System

/-- The call issues a second command, provided its first one is accepted. -/
def Continues (self : System) : SystemInput → Prop
  | .start _ profile => Daemon.StartContinues self.daemon profile
  | .stop env session => Daemon.StopContinues (self.boundary env) self.daemon session
  | .toggle env profile =>
    if self.daemon.recording.isSome then Daemon.StopContinues (self.boundary env) self.daemon ""
    else Daemon.StartContinues self.daemon profile
  | .enforceRecordingDeadline env => Daemon.Due (self.boundary env) self.daemon ∧
      Daemon.StopContinues (self.boundary env) self.daemon ""
  | .pollRecognition env => Daemon.PollContinues (self.boundary env) self.daemon
  | _ => False

theorem halved_iff (self : System) (i : SystemInput) :
    Halved (self.step i).1.effects ↔ self.daemon.AtEdge ∧ self.Continues i := by
  have never : ∀ {trace : List DaemonEffect}, ¬ Halved trace →
      (Halved trace ↔ self.daemon.AtEdge ∧ False) :=
    fun hNot => iff_of_false hNot fun h => h.2
  cases i with
  | start env profile => exact (Daemon.start_outcome _ _ profile).halved_iff
  | stop env session => exact (Daemon.stop_outcome _ _ session).halved_iff
  | toggle env profile =>
    rw [step, (perform_effects _ _ _).1, Daemon.toggle_run, Continues]
    split
    · exact (Daemon.stop_outcome _ _ "").halved_iff
    · exact (Daemon.start_outcome _ _ profile).halved_iff
  | enforceRecordingDeadline env =>
    rw [step, (perform_effects _ _ _).1, Continues]
    rcases Daemon.enforce_outcome (self.boundary env) self.daemon with
      ⟨hEarly, hRun⟩ | ⟨hDue, _, hTrace⟩
    · rw [hRun]
      exact iff_of_false id fun h => hEarly h.2.1
    · rw [hTrace, (Daemon.stop_outcome _ _ "").halved_iff]
      exact and_congr_right fun _ => (and_iff_right hDue).symm
  | pollRecognition env => exact (Daemon.poll_outcome _ _).halved_iff
  | cancel session => exact never (Daemon.cancel_outcome _ session).whole
  | reset => exact never (Daemon.reset_outcome _).whole
  | quit =>
    refine never (not_halved ?_)
    rw [step, (perform_effects _ _ _).1, Daemon.quit_run]
    exact self.daemon.release_unobstructed
  | reloadConfiguration env =>
    refine never ?_
    rw [step, (perform_effects _ _ _).1]
    rcases Daemon.reload_outcome (self.boundary env) self.daemon with
      ⟨error, hRun⟩ | ⟨_, _, config, registry, history, hRun⟩
    · rw [hRun]
      exact id
    · rw [hRun]
      exact id
  | pollAudioTelemetry | drainEvents | workerReturns | workerExits | workerNotifies =>
    exact never id

end System

def NotPreparing (d : VoxTypeDaemon) : Prop := ∀ s mode, d.state ≠ .preparing s mode

theorem NotPreparing.applied {d : VoxTypeDaemon} (h : NotPreparing d) {c : Command}
    (hStart : ∀ request, c ≠ .start request) : NotPreparing (d.applied c) := by
  intro s mode hNow
  rcases d.app.apply_cases c with ⟨error, hApply⟩ | ⟨e, m', _, hAccepts, hApply⟩
  · rw [VoxTypeDaemon.applied, hApply] at hNow
    exact h s mode hNow
  · rw [VoxTypeDaemon.applied, hApply] at hNow
    change (AppController.publish _ c).machine.state = _ at hNow
    rw [AppController.publish_machine] at hNow
    cases hAccepts with
    | start request => exact hStart request rfl
    | _ => cases hNow

theorem NotPreparing.of_state {d d' : VoxTypeDaemon} (h : NotPreparing d)
    (hState : d'.state = d.state) : NotPreparing d' := by
  intro s mode
  rw [hState]
  exact h s mode

namespace Daemon

variable {env : Environment} {d : VoxTypeDaemon}

theorem settled_state (d : VoxTypeDaemon) : (settled d).state = d.state :=
  congrArg (fun app => app.machine.state) (settled_fields d).1

theorem StartOutcome.notPreparing {profile : String} {o : DaemonOutcome String}
    (h : StartOutcome env d profile o) (hBefore : NotPreparing d) (hWhole : ¬ Halved o.trace) :
    NotPreparing o.state := by
  cases h with
  | refused | rejected => exact hBefore
  | @begun profileName _ hRoom hInactive _ hSession =>
    obtain ⟨hState, _⟩ := started_facts d hRoom hInactive
    have hCurrent := congrArg SessionState.session hState
    have reaches : ∀ {d' : VoxTypeDaemon} {state : SessionState}, d'.state = state →
        (∀ s mode, state ≠ .preparing s mode) → NotPreparing d' := by
      intro d' state hNow hNot s mode
      rw [hNow]
      exact hNot s mode
    cases hSession with
    | armFailed hRoom' error => exact reaches (state_fail hRoom' error hCurrent) nofun
    | captureFailed hRoom' arm error =>
      have hRoom'' : ((d.applied (.start ⟨.toggle, some profileName⟩)).withArm none).Room := hRoom'
      exact reaches (state_fail hRoom'' error hCurrent) nofun
    | listening hRoom' arm recording =>
      exact reaches (VoxTypeDaemon.state_applied
        (d := ((d.applied _).withArm (some arm)).capturing recording profileName env.now) hRoom'
        (.captureReady hState)) nofun
    | full _ _ _ _ hTrace => exact absurd hTrace hWhole

theorem StopOutcome.notPreparing {requested : String} {o : DaemonOutcome String}
    (h : StopOutcome env d requested o) (hBefore : NotPreparing d) : NotPreparing o.state := by
  have hTelemetry : NotPreparing (d.telemetry env) :=
    hBefore.of_state (VoxTypeDaemon.sameWork_telemetry env d).state
  have hStopping : ∀ session, NotPreparing (stopping env d session) :=
    fun session => hTelemetry.applied (c := .stop session) nofun
  cases h with
  | refused => exact hBefore
  | rejected => exact hTelemetry
  | missing => exact hTelemetry.applied nofun
  | stopFailed => exact (hStopping _).applied nofun
  | processed _ _ _ _ hProcess =>
    cases hProcess with
    | silent => exact ((hStopping _).applied (c := .noSpeech _) nofun).of_state (settled_state _)
    | failed => exact ((hStopping _).applied (c := .fail _ _) nofun).of_state (settled_state _)
    | full => exact (hStopping _).of_state (settled_state _)
    | started => exact hStopping _

theorem DeliverOutcome.notPreparing {job : RecognitionJob}
    {outcome : Except VoxError RecognitionSuccess} {o : DaemonOutcome String}
    (h : DeliverOutcome env d job outcome o) (hBefore : NotPreparing d) : NotPreparing o.state := by
  cases h with
  | failed | cut => exact hBefore.applied nofun
  | blank | full => exact hBefore
  | notInserted =>
    exact (hBefore.applied (c := .transcriptReady _ _) nofun).applied (c := .fail _ _) nofun
  | @inserted _ success =>
    refine ((hBefore.applied (c := .transcriptReady job.session success.transcript.text)
      nofun).applied (c := .insertionComplete job.session) nofun).of_state ?_
    rw [VoxTypeDaemon.state, VoxTypeDaemon.remember_app, VoxTypeDaemon.finished,
      AppController.finishSession_machine]
    rfl

end Daemon

theorem StepOutcome.notPreparing {self : System} {i : SystemInput} {d' : VoxTypeDaemon}
    {trace : List DaemonEffect} (h : StepOutcome self i d' trace)
    (hBefore : NotPreparing self.daemon) (hWhole : ¬ Halved trace) : NotPreparing d' := by
  cases h with
  | kept hSame => exact hBefore.of_state hSame.state
  | started hStart => exact hStart.notPreparing hBefore hWhole
  | stopped hStop => exact hStop.notPreparing hBefore
  | cancelled hCancel =>
    cases hCancel with
    | refused | rejected => exact hBefore
    | cancelled => exact hBefore.applied (c := .cancel _) nofun
  | wasReset hReset =>
    cases hReset with
    | rejected => exact hBefore
    | wasReset => exact hBefore.applied nofun
  | polled hPoll =>
    cases hPoll with
    | idle => exact hBefore
    | stale => exact hBefore
    | @delivered job received _ _ _ o hDeliver =>
      exact hDeliver.notPreparing
        (hBefore.of_state (Daemon.receiving_lifecycle _ _ job received).1)
  | quitted => exact hBefore

/-- What one call is meant to guarantee, however full the event queue is. -/
structure WholeStep (sys : System) (i : SystemInput) : Prop where
  not_halved : ¬ Halved (sys.step i).1.effects
  released : ∀ error, (sys.step i).1.reply = .error error →
    ¬ ((sys.step i).2.daemon.recording.isSome = true ∧
      ∃ s mode, (sys.step i).2.daemon.state = .preparing s mode)
  recorded : ∀ s state arm text insertion,
    .committed s state arm text (.ok insertion) ∈ (sys.step i).1.effects →
    (sys.step i).2.daemon.state = .completed s ∧
      (sys.step i).2.daemon.app.sessionResult s.value =
        some ⟨s.value, "completed", "", insertion.backend, text.length⟩

namespace Daemon

variable {env : Environment} {d : VoxTypeDaemon}

/-- After a successful commit the session is completed and its result is kept. -/
theorem DeliverOutcome.recorded {job : RecognitionJob}
    {outcome : Except VoxError RecognitionSuccess} {o : DaemonOutcome String}
    (hState : d.state = .finalizing job.session) (h : DeliverOutcome env d job outcome o)
    (hWhole : ¬ Halved o.trace) {s : SessionId} {state : SessionState} {arm : InsertionArm}
    {text : String} {insertion : InsertionOutcome}
    (hMem : .committed s state arm text (.ok insertion) ∈ o.trace) :
    o.state.state = .completed s ∧ o.state.app.sessionResult s.value =
      some ⟨s.value, "completed", "", insertion.backend, text.length⟩ := by
  cases h with
  | failed | blank | full => simp at hMem
  | notInserted _ _ _ hInsertion =>
    generalize hAnswer : (Except.error _ : Except VoxError InsertionOutcome) = answer at hInsertion
    cases hInsertion with
    | notArmed => simp at hMem
    | committed =>
      simp only [List.cons_append, List.nil_append, List.mem_cons, reduceCtorEq, false_or,
        List.not_mem_nil, or_false, DaemonEffect.committed.injEq] at hMem
      rw [← hAnswer] at hMem
      cases hMem.2.2.2.2
  | @inserted hRoom success hText hRoom' effects done hInsertion response =>
    have hEffect : s = job.session ∧ text = success.transcript.text ∧ insertion = done := by
      generalize hAnswer : (Except.ok done : Except VoxError InsertionOutcome) = answer
        at hInsertion
      cases hInsertion with
      | notArmed => cases hAnswer
      | committed =>
        simp only [List.cons_append, List.nil_append, List.mem_cons, reduceCtorEq, false_or,
          List.not_mem_nil, or_false, DaemonEffect.committed.injEq] at hMem
        rw [← hAnswer] at hMem
        exact ⟨hMem.1, hMem.2.2.2.1, Except.ok.inj hMem.2.2.2.2⟩
    obtain ⟨rfl, rfl, rfl⟩ := hEffect
    have hInserting := VoxTypeDaemon.state_applied hRoom (.transcriptReady hState hText)
    have hDone := VoxTypeDaemon.state_applied hRoom' (.insertionComplete hInserting)
    have hEvents := VoxTypeDaemon.events_applied hRoom' (.insertionComplete hInserting)
    have hFits : ((d.applied (.transcriptReady job.session success.transcript.text)).applied
        (.insertionComplete job.session)).app.events.length ≠ maxPendingEvents := by
      rw [hEvents]
      unfold VoxTypeDaemon.Room maxPendingEvents at *
      simp only [Command.record, Command.terminal, Option.map_none, Option.toList_none,
        List.length_nil]
      omega
    rw [VoxTypeDaemon.state, VoxTypeDaemon.remember_app, VoxTypeDaemon.finished,
      AppController.finishSession_room hFits]
    exact ⟨hDone, AppController.sessionResult_finished _ ⟨job.session.value, "completed", "",
      insertion.backend, success.transcript.text.length⟩⟩
  | cut =>
    refine absurd ⟨_, List.mem_append_right _ (List.mem_singleton_self _), ?_⟩ hWhole
    rfl

end Daemon

theorem StepOutcome.recorded {self : System} {i : SystemInput} {d' : VoxTypeDaemon}
    {trace : List DaemonEffect} (h : StepOutcome self i d' trace) (hWhole : ¬ Halved trace)
    {s : SessionId} {state : SessionState} {arm : InsertionArm} {text : String}
    {insertion : InsertionOutcome}
    (hMem : .committed s state arm text (.ok insertion) ∈ trace) :
    d'.state = .completed s ∧ d'.app.sessionResult s.value =
      some ⟨s.value, "completed", "", insertion.backend, text.length⟩ := by
  cases h with
  | kept _ hTrace =>
    obtain ⟨events, hEffect⟩ := hTrace _ hMem
    cases hEffect
  | started hStart => exact absurd (hStart.inert _ hMem) id
  | stopped hStop =>
    rcases hStop.spawns with ⟨_, hInert⟩ | ⟨_, _, _, hTrace, hInert, _⟩
    · exact absurd (hInert _ hMem) id
    · rw [hTrace, List.mem_append, List.mem_singleton] at hMem
      rcases hMem with hMem | hMem
      · exact absurd (hInert _ hMem) id
      · cases hMem
  | cancelled hCancel =>
    cases hCancel with
    | refused => cases hMem
    | rejected => cases List.mem_singleton.mp hMem
    | cancelled =>
      rcases List.mem_cons.mp hMem with hMem | hMem
      · cases hMem
      · exact absurd (Daemon.release_inert _ _ hMem) id
  | wasReset hReset =>
    cases hReset with
    | rejected => cases List.mem_singleton.mp hMem
    | wasReset => cases List.mem_singleton.mp hMem
  | quitted => exact absurd (Daemon.release_inert _ _ hMem) id
  | @polled i env o hPoll =>
    cases hPoll with
    | idle => cases hMem
    | stale => exact absurd (VoxTypeDaemon.removal_inert _ _ _ hMem) id
    | @delivered job received hJob hReceives hState o hDeliver =>
      have hNow := (Daemon.receiving_lifecycle (self.boundary env) self.daemon job received).1
      rw [List.append_assoc] at hMem hWhole
      rcases List.mem_append.mp hMem with hMem | hMem
      · exact hDeliver.recorded (hNow.trans hState) (fun hHalved => hWhole (hHalved.append _)) hMem
      · exact absurd (Daemon.inert_append (Daemon.releaseOnError_inert o)
          (VoxTypeDaemon.removal_inert _ _) _ hMem) id

theorem System.whole_step {self : System} {i : SystemInput} (hBefore : NotPreparing self.daemon)
    (hWhole : ¬ Halved (self.step i).1.effects) : WholeStep self i where
  not_halved := hWhole
  released := by
    rintro _ _ ⟨_, s, mode, hNow⟩
    exact (self.step_outcome i).notPreparing hBefore hWhole s mode hNow
  recorded _ _ _ _ _ hMem := (self.step_outcome i).recorded hWhole hMem

section Runs

variable (config : Config) (registry : ProviderRegistry) (wake : WakeHandle)

/-- Every call of a run is whole exactly when no call continues at the edge of the queue. -/
theorem whole_operations_iff (inputs : List SystemInput) :
    (systemMachine config registry wake).Along (fun _ self i => WholeStep self i) inputs ↔
      (systemMachine config registry wake).Along
        (fun _ self i => ¬ (self.daemon.AtEdge ∧ self.Continues i)) inputs := by
  constructor
  · intro hWhole before i after hInputs hEdge
    exact (hWhole before i after hInputs).not_halved ((System.halved_iff _ i).mpr hEdge)
  · intro hEdge before i after hInputs
    have hBefore : NotPreparing ((systemMachine config registry wake).state before).daemon := by
      refine (systemMachine config registry wake).invariant_along
        (P := fun _ self => NotPreparing self.daemon) nofun ?_ before (hInputs ▸ hEdge).earlier
      intro log self i hBefore hNot
      exact (self.step_outcome i).notPreparing hBefore fun hHalved =>
        hNot ((self.halved_iff i).mp hHalved)
    exact System.whole_step hBefore fun hHalved =>
      hEdge before i after hInputs ((System.halved_iff _ i).mp hHalved)

end Runs

/-- Enough resets to leave one place in the queue. -/
def fillingResets : List SystemInput := List.replicate 253 .reset

theorem start_halved_fillingResets :
    ¬ (systemMachine dictationConfig ⟨[cloud]⟩ .disabled).Along
        (fun _ self i => WholeStep self i) (fillingResets ++ [.start workingBoundary ""]) ∧
      ((systemMachine dictationConfig ⟨[cloud]⟩ .disabled).state
        (fillingResets ++ [.start workingBoundary ""])).daemon.recording.isSome = true ∧
      ((systemMachine dictationConfig ⟨[cloud]⟩ .disabled).state
        (fillingResets ++ [.start workingBoundary ""])).daemon.state =
          .preparing ⟨"session-1"⟩ .toggle := by
  refine ⟨?_, by decide +kernel, by decide +kernel⟩
  intro hWhole
  have hStep := hWhole fillingResets (.start workingBoundary "") [] rfl
  have hEdge : ((systemMachine dictationConfig ⟨[cloud]⟩ .disabled).state
      fillingResets).daemon.app.events.length = 254 := by decide +kernel
  have hCheck : Daemon.startProfile ((systemMachine dictationConfig ⟨[cloud]⟩ .disabled).state
      fillingResets).daemon "" = .ok "dictation" := by decide +kernel
  have hInactive : ((systemMachine dictationConfig ⟨[cloud]⟩ .disabled).state
      fillingResets).daemon.state.isActive = false := by decide +kernel
  generalize (systemMachine dictationConfig ⟨[cloud]⟩ .disabled).state fillingResets = self at *
  exact hStep.not_halved ((self.halved_iff _).mpr ⟨hEdge, ⟨"dictation", hCheck⟩, hInactive⟩)

end VoxType
