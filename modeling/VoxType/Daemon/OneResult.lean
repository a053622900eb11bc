import VoxType.Daemon.ControllerRuns
import VoxType.Daemon.Phase

/-!
# One result for each session

A step ends one session at most: the one it finds open, or the one it has begun.
A `Cancel` that finds a session over ends it again, and nothing else does.
-/

namespace VoxType

set_option autoImplicit false

/-- How many commands of a trace were accepted. -/
def taken (trace : List DaemonEffect) : Nat :=
  (commandLog trace).countP fun entry => entry.2.isOk

theorem length_ended_le (log : List SessionEntry) :
    (ended log).length ≤ log.countP fun entry => entry.2.isOk := by
  induction log with
  | nil => simp [ended]
  | cons entry log ih =>
    obtain ⟨c, answer⟩ := entry
    cases answer with
    | error error =>
      rw [List.countP_cons_of_neg (by simp [Except.isOk, Except.toBool])]
      exact ih
    | ok e =>
      rw [List.countP_cons_of_pos (by simp [Except.isOk, Except.toBool])]
      have hHead : (ended ((c, .ok e) :: log)).length ≤ (ended log).length + 1 := by
        cases hEnds : c.ends <;> simp [ended, SessionEntry.ended, hEnds]
      omega

/-- Every accepted command leaves an event behind. -/
def Grows (d : VoxTypeDaemon) (trace : List DaemonEffect) (d' : VoxTypeDaemon) : Prop :=
  d.app.events.length + taken trace ≤ d'.app.events.length

theorem grows_commanded : Commanded Grows where
  composes :=
    { refl := fun d => Nat.le_refl _
      trans := by
        intro d d' d'' first second hFirst hSecond
        unfold Grows taken at *
        rw [commandLog_append, List.countP_append]
        omega }
  quiet := by
    intro d d' trace hApp hTrace
    rw [Grows, taken, (outside_silent hTrace).1, hApp]
    exact Nat.le_refl _
  command := by
    intro c _ d
    rw [Grows, taken, Daemon.applyCommand_run]
    change _ + List.countP _ [(c, d.answer c)] ≤ (d.applied c).app.events.length
    cases hAnswer : d.answer c with
    | error error =>
      rw [VoxTypeDaemon.applied_error hAnswer]
      simp [Except.isOk, Except.toBool]
    | ok e =>
      obtain ⟨hRoom, m', hAccepts⟩ := VoxTypeDaemon.answer_ok_room hAnswer
      rw [VoxTypeDaemon.events_applied hRoom hAccepts]
      simp [Except.isOk, Except.toBool]

/-- Nothing ends, the open session ends, or one that was begun just now. -/
inductive EndsOwn (d : VoxTypeDaemon) (trace : List DaemonEffect) : Prop
  | nothing (hEnded : ended (commandLog trace) = [])
  | current {s : SessionId} (hEnded : ended (commandLog trace) = [s])
    (hSession : d.state.session = some s) (hActive : d.state.isActive = true)
  | fresh (hEnded : ended (commandLog trace) = [.fromCounter d.app.machine.nextId])
    (hBegun : begun (commandLog trace) ≠ [])

theorem commandLog_removal (d : VoxTypeDaemon) (path : String) :
    commandLog (d.removal path) = [] := by
  rw [VoxTypeDaemon.removal]
  split <;> rfl

namespace Daemon

variable {env : Environment} {d : VoxTypeDaemon}

theorem commandLog_settled (d : VoxTypeDaemon) (path : String) :
    commandLog (settledTrace d path) = [] := by
  rw [settledTrace]
  split
  · exact commandLog_removal d path
  · rfl

theorem nothing_ended {trace : List DaemonEffect} (h : taken trace = 0) :
    ended (commandLog trace) = [] := by
  apply List.eq_nil_of_length_eq_zero
  have hLength := length_ended_le (commandLog trace)
  unfold taken at h
  omega

theorem start_endsOwn (env : Environment) (d : VoxTypeDaemon) (profile : String) :
    EndsOwn d ((start env profile).run d).trace := by
  have hGrows := grows_commanded.start env profile d
  have hStart := start_outcome env d profile
  generalize (start env profile).run d = o at hGrows hStart
  cases hStart with
  | refused hCheck => exact .nothing rfl
  | rejected hCheck hAnswer => exact .nothing rfl
  | @begun profileName hCheck hRoom hInactive o hSession =>
    cases hSession with
    | armFailed hRoom' error => exact .fresh rfl (List.cons_ne_nil _ _)
    | captureFailed hRoom' arm error => exact .fresh rfl (List.cons_ne_nil _ _)
    | listening hRoom' arm recording => exact .nothing rfl
    | @full hFull error d' hApp hJob trace hTrace hInert =>
      have hEvents : (d.applied (.start ⟨.toggle, some profileName⟩)).app.events.length =
          d.app.events.length + 1 := (started_facts d hRoom hInactive).2
      change d.app.events.length + taken (.command _ (.ok _) :: trace) ≤ d'.app.events.length
        at hGrows
      have hTaken : taken trace = 0 := by
        rw [hApp, hEvents] at hGrows
        simp [taken, commandLog, DaemonEffect.entry, Except.isOk, Except.toBool] at hGrows ⊢
        omega
      refine .nothing ?_
      change ended (_ :: commandLog trace) = []
      rw [ended, List.filterMap_cons_none rfl]
      exact nothing_ended hTaken

theorem stop_endsOwn (env : Environment) (d : VoxTypeDaemon) (requested : String) :
    EndsOwn d ((stop env requested).run d).trace := by
  have hGrows := grows_commanded.stop env requested d
  have hStop := stop_outcome env d requested
  generalize (stop env requested).run d = o at hGrows hStop
  have listens : ∀ {s mode}, d.state = .listening s mode →
      d.state.session = some s ∧ d.state.isActive = true := by
    rintro s mode hState
    rw [hState]
    exact ⟨rfl, rfl⟩
  cases hStop with
  | refused | rejected | missing => exact .nothing rfl
  | @stopFailed session mode recording error hRoom hState =>
    obtain ⟨hSession, hActive⟩ := listens hState
    cases (stopping env d session).answer (.fail session error) with
    | error error => exact .nothing rfl
    | ok e => exact .current rfl hSession hActive
  | @processed session mode recording audio hRoom hState hRecording hStop o hProcess hNames =>
    obtain ⟨hSession, hActive⟩ := listens hState
    cases hProcess with
    | silent =>
      refine .current ?_ hSession hActive
      change ended (_ :: commandLog (_ ++ _ ++ _)) = _
      rw [commandLog_append, commandLog_append, Replays.commandLog_lease, commandLog_settled]
      rfl
    | failed =>
      refine .current ?_ hSession hActive
      change ended (_ :: commandLog (_ ++ _ ++ _)) = _
      rw [commandLog_append, commandLog_append, Replays.commandLog_lease, commandLog_settled]
      rfl
    | @full hFull _ error trace =>
      have hEvents := (stopping_facts env d hRoom hState).2.1
      change d.app.events.length + taken (.command _ (.ok _) :: .captureStopped _ :: trace) ≤
        (settled (stopping env d session)).app.events.length at hGrows
      have hTaken : taken trace = 0 := by
        rw [(settled_fields _).1, hEvents] at hGrows
        simp [taken, commandLog, DaemonEffect.entry, Except.isOk, Except.toBool] at hGrows ⊢
        omega
      refine .nothing ?_
      change ended (_ :: commandLog trace) = []
      rw [ended, List.filterMap_cons_none rfl]
      exact nothing_ended hTaken
    | started => exact .nothing rfl

theorem DeliverOutcome.endsOwn {job : RecognitionJob}
    {outcome : Except VoxError RecognitionSuccess} {o : DaemonOutcome String}
    (h : DeliverOutcome env d job outcome o) :
    ended (commandLog o.trace) = [] ∨ ended (commandLog o.trace) = [job.session] := by
  have hInserted : ∀ {d' : VoxTypeDaemon} {text : String} {effects : List DaemonEffect}
      {answer : Except VoxError InsertionOutcome}, Insertion env d' job.session text effects answer →
      commandLog effects = [] := by
    intro d' text effects answer hInsertion
    cases hInsertion <;> rfl
  cases h with
  | failed => exact .inr rfl
  | blank | full => exact .inl rfl
  | notInserted _ _ _ hInsertion =>
    right
    change ended (_ :: commandLog (_ ++ _)) = _
    rw [commandLog_append, hInserted hInsertion]
    rfl
  | inserted _ _ _ hInsertion =>
    right
    change ended (_ :: commandLog (_ ++ _)) = _
    rw [commandLog_append, hInserted hInsertion]
    rfl
  | cut _ _ _ hInsertion =>
    left
    change ended (_ :: commandLog (_ ++ _)) = _
    rw [commandLog_append, hInserted hInsertion]
    rfl

theorem poll_endsOwn (env : Environment) (d : VoxTypeDaemon) :
    EndsOwn d ((pollRecognition env).run d).trace := by
  have hPoll := poll_outcome env d
  generalize (pollRecognition env).run d = o at hPoll
  cases hPoll with
  | idle => exact .nothing rfl
  | stale => exact .nothing (congrArg ended (commandLog_removal d _))
  | @delivered job received hJob hReceives hState o hDeliver =>
    have hOthers : commandLog (releaseOnError o) = [] := by
      rw [releaseOnError]
      cases o.result with
      | error error => exact Replays.commandLog_lease _
      | ok response => rfl
    have hTrace : ended (commandLog (o.trace ++ releaseOnError o ++
        o.state.removal job.recordingPath)) = ended (commandLog o.trace) := by
      rw [commandLog_append, commandLog_append, hOthers, commandLog_removal, List.append_nil,
        List.append_nil]
    rcases hDeliver.endsOwn with hNone | hOne
    · exact .nothing (hTrace.trans hNone)
    · refine .current (hTrace.trans hOne) ?_ ?_ <;> rw [hState] <;> rfl

theorem released_outside (d : VoxTypeDaemon) :
    ∀ effect ∈ d.captureEffects ++ d.jobEffects ++ d.lease, effect.Outside := by
  intro effect hMem
  rw [List.mem_append, List.mem_append, VoxTypeDaemon.captureEffects,
    VoxTypeDaemon.jobEffects] at hMem
  rcases hMem with (hMem | hMem) | hMem
  · split at hMem
    · cases hMem
    · cases List.mem_singleton.mp hMem
      trivial
  · split at hMem
    · cases hMem
    · obtain rfl | ⟨rfl⟩ := List.mem_pair.mp hMem <;> trivial
  · obtain ⟨arm, _, rfl⟩ := List.mem_map.mp hMem
    trivial

theorem cancel_run {requested : String} {s : SessionId} (hNames : Names requested s)
    (hSession : d.state.session = some s) (hRoom : d.Room) :
    (cancel requested).run d = ⟨.ok (), (d.applied (.cancel s)).released.withoutTarget,
      .command (.cancel s) (.ok (.cancelWork s)) ::
        ((d.applied (.cancel s)).captureEffects ++ (d.applied (.cancel s)).jobEffects ++
          (d.applied (.cancel s)).lease)⟩ := by
  have hAnswer := VoxTypeDaemon.answer_accepts hRoom
    (SessionMachine.Accepts.cancel (m := d.app.machine) hSession)
  rw [cancel]
  rcases activeSessionId_run d requested with ⟨_, _, hOther⟩ | ⟨active, hSame, _, hActive⟩
  · exact absurd hNames (hOther s hSession)
  · rw [hSession] at hSame
    cases hSame
    rw [Effects.Call.bind_ok hActive, Effects.Call.after_nil,
      Effects.Call.bind_ok (mapped_ok d hAnswer), Effects.Call.bind_ok (releaseWork_run _)]
    simp only [Effects.Call.modify_run, Effects.Call.after_mk, List.append_nil]
    rfl

/-- A `Cancel` of the open session, or one that comes late. -/
theorem cancel_endsOwn (d : VoxTypeDaemon) (requested : String)
    (hOpen : ∀ s, d.state.session = some s → Names requested s → d.Room →
      d.state.isActive = true) : EndsOwn d ((cancel requested).run d).trace := by
  rw [cancel]
  rcases activeSessionId_run d requested with
    ⟨error, hActive, _⟩ | ⟨active, hSession, hNames, hActive⟩
  · rw [Effects.Call.bind_error hActive]
    exact .nothing rfl
  · rw [Effects.Call.bind_ok hActive, Effects.Call.after_nil]
    cases hAnswer : d.answer (.cancel active) with
    | error error =>
      rw [Effects.Call.bind_error (mapped_error d hAnswer)]
      exact .nothing rfl
    | ok e =>
      have hRoom := (VoxTypeDaemon.answer_ok_room hAnswer).1
      have hRun := cancel_run hNames hSession hRoom
      rw [cancel, Effects.Call.bind_ok hActive, Effects.Call.after_nil] at hRun
      refine .current ?_ hSession (hOpen active hSession hNames hRoom)
      rw [hRun]
      change ended (_ :: commandLog (_ ++ _ ++ _)) = _
      rw [(outside_silent (released_outside _)).1]
      rfl

end Daemon

/-- A `Cancel` that is accepted for a session that is over. -/
def LateCancel (self : System) (i : SystemInput) : Prop :=
  ∃ requested s, i = .cancel requested ∧ self.daemon.state.session = some s ∧
    Daemon.Names requested s ∧ self.daemon.Room ∧ self.daemon.state.isTerminal = true

theorem System.endsOwn {self : System} {i : SystemInput} (hLate : ¬ LateCancel self i) :
    EndsOwn self.daemon (self.step i).1.effects := by
  cases i with
  | start env profile => exact Daemon.start_endsOwn _ _ profile
  | stop env session => exact Daemon.stop_endsOwn _ _ session
  | toggle env profile =>
    rw [step, (perform_effects _ _ _).1, Daemon.toggle_run]
    split
    · exact Daemon.stop_endsOwn _ _ ""
    · exact Daemon.start_endsOwn _ _ profile
  | cancel requested =>
    apply Daemon.cancel_endsOwn
    intro s hSession hNames hRoom
    rcases SessionState.active_or_terminal hSession with ⟨hActive, _⟩ | ⟨_, hTerminal⟩
    · exact hActive
    · exact absurd ⟨requested, s, rfl, hSession, hNames, hRoom, hTerminal⟩ hLate
  | reset =>
    have hReset := Daemon.reset_outcome self.daemon
    rw [step, (perform_effects _ _ _).1]
    generalize Daemon.reset.run self.daemon = o at hReset
    cases hReset <;> exact .nothing rfl
  | enforceRecordingDeadline env =>
    rw [step, (perform_effects _ _ _).1]
    rcases Daemon.enforce_outcome (self.boundary env) self.daemon with
      ⟨_, hRun⟩ | ⟨_, _, hTrace⟩
    · rw [hRun]
      exact .nothing rfl
    · rw [hTrace]
      exact Daemon.stop_endsOwn _ _ ""
  | pollRecognition env => exact Daemon.poll_endsOwn _ _
  | quit =>
    rw [step, (perform_effects _ _ _).1, Daemon.quit_run]
    exact .nothing (congrArg ended (outside_silent (Daemon.released_outside _)).1)
  | reloadConfiguration env =>
    rw [step, (perform_effects _ _ _).1]
    rcases Daemon.reload_outcome (self.boundary env) self.daemon with
      ⟨error, hRun⟩ | ⟨_, _, config, registry, history, hRun⟩
    · rw [hRun]
      exact .nothing rfl
    · rw [hRun]
      exact .nothing rfl
  | pollAudioTelemetry | drainEvents | workerReturns | workerExits | workerNotifies =>
    exact .nothing rfl

section Runs

variable {config : Config} {registry : ProviderRegistry} {wake : WakeHandle}

/-- How many sessions have been begun only grows. -/
theorem begun_earlier (before after : List SystemInput) :
    (begun (commandLog (effects ((systemMachine config registry wake).log before)))).length ≤
      (begun (commandLog (effects
        ((systemMachine config registry wake).log (before ++ after))))).length := by
  rw [Transition.Machine.log_append, effects_append, commandLog_append, begun_append,
    List.length_append]
  omega

/-- Without late cancels the sessions end one by one. -/
theorem ended_nodup {inputs : List SystemInput}
    (hStarts : (begun (commandLog (effects
      ((systemMachine config registry wake).log inputs)))).length ≤ u64Max)
    (hLate : (systemMachine config registry wake).Along
      (fun _ self i => ¬ LateCancel self i) inputs) :
    (ended (commandLog (effects ((systemMachine config registry wake).log inputs)))).Nodup := by
  induction inputs using List.reverseRecOn with
  | nil => exact List.nodup_nil
  | append_singleton inputs i ih =>
    have hEarlier := (begun_earlier inputs [i]).trans hStarts
    have hHistory := daemon_history config registry wake inputs hEarlier
    obtain ⟨hBefore, hNow⟩ := (Transition.Machine.along_snoc _ _ _ _).mp hLate
    have hNodup := ih hEarlier hBefore
    rw [Transition.Machine.log_snoc, effects_snoc, commandLog_append] at hStarts ⊢
    rw [begun_append, List.length_append] at hStarts
    rw [ended_append]
    change (begun _).length + (begun (commandLog (System.step _ i).1.effects)).length ≤ _ at hStarts
    change (_ ++ ended (commandLog (System.step _ i).1.effects)).Nodup
    have one : ∀ s, s ∉ ended (commandLog (effects
        ((systemMachine config registry wake).log inputs))) →
        (ended (commandLog (effects ((systemMachine config registry wake).log inputs))) ++
          [s]).Nodup := by
      intro s hOpen
      rw [← List.concat_eq_append, List.nodup_concat]
      exact ⟨hOpen, hNodup⟩
    cases System.endsOwn hNow with
    | nothing hEnded =>
      rw [hEnded, List.append_nil]
      exact hNodup
    | @current s hEnded hSession hActive =>
      rw [hEnded]
      exact one s (hHistory.open_active s hSession hActive)
    | fresh hEnded hBegun =>
      rw [hEnded]
      have hRoom := List.length_pos_iff.mpr hBegun
      exact one _ fun hOver => hHistory.fresh (by omega) (hHistory.ended_begun _ hOver)

variable (config registry wake)

/-- The terminal records announced for one session. -/
def resultsOf (inputs : List SystemInput) (s : SessionId) : List TerminalSessionResult :=
  (announcedResults config registry wake inputs).filter fun r => r.session == s.value

/-- A session that is over has one record, which `SessionResult` returns, and nothing that follows
adds one or changes it short of its eviction. -/
def OneResult (inputs : List SystemInput) : Prop :=
  ∀ before after rest s, inputs = before ++ after ++ rest →
    ((systemMachine config registry wake).state before).daemon.state.session = some s →
    ((systemMachine config registry wake).state before).daemon.state.isTerminal = true →
    ∃ record, resultsOf config registry wake before s = [record] ∧
      ((systemMachine config registry wake).state before).daemon.app.sessionResult s.value =
        some record ∧
      resultsOf config registry wake (before ++ after) s = [record] ∧
      (((systemMachine config registry wake).state (before ++ after)).daemon.app.sessionResult
          s.value = some record ∨
        ((systemMachine config registry wake).state (before ++ after)).daemon.app.sessionResult
          s.value = none)

variable {config registry wake}

theorem one_result_of_ended {before after : List SystemInput} {s : SessionId}
    (hStarts : (begun (commandLog (effects
      ((systemMachine config registry wake).log (before ++ after))))).length ≤ u64Max)
    (hEnded : (ended (commandLog (effects
      ((systemMachine config registry wake).log (before ++ after))))).Nodup)
    (hSession : ((systemMachine config registry wake).state before).daemon.state.session = some s)
    (hTerminal :
      ((systemMachine config registry wake).state before).daemon.state.isTerminal = true) :
    ∃ record, resultsOf config registry wake before s = [record] ∧
      ((systemMachine config registry wake).state before).daemon.app.sessionResult s.value =
        some record ∧
      resultsOf config registry wake (before ++ after) s = [record] ∧
      (((systemMachine config registry wake).state (before ++ after)).daemon.app.sessionResult
          s.value = some record ∨
        ((systemMachine config registry wake).state (before ++ after)).daemon.app.sessionResult
          s.value = none) := by
  obtain ⟨calls, more, hBefore, hWhole⟩ := daemon_drives config registry wake before after
  have hMachine : ((controllerMachine registry wake).state calls).machine =
      ((systemMachine config registry wake).state before).daemon.app.machine :=
    hBefore.app.machine.symm
  have hStarts' : (begun (sessionLog ((controllerMachine registry wake).log
      (calls ++ more)))).length ≤ u64Max := by
    refine le_of_eq_of_le ?_ hStarts
    exact congrArg (fun log => (begun log).length) hWhole.commands
  have hEnded' : (ended (sessionLog ((controllerMachine registry wake).log
      (calls ++ more)))).Nodup := by
    refine (congrArg (fun log => (ended log).Nodup) hWhole.commands).mpr hEnded
  have hDiscipline : (controllerMachine registry wake).Along FinishDiscipline (calls ++ more) :=
    hWhole.discipline
  have hLate := never_late hDiscipline hStarts' hEnded'
  have hOutcome := one_outcome_of_outcomes
    (outcomes_run hDiscipline.earlier hLate.earlier
      ((begun_prefix_run registry wake calls more).trans hStarts'))
    (outcomes_run hDiscipline hLate hStarts') (by rw [hMachine]; exact hSession)
    (by rw [hMachine]; exact hTerminal) hBefore.settled
  obtain ⟨hRecords, hResult⟩ := hBefore.finishes
  obtain ⟨hRecords', hResult'⟩ := hWhole.finishes
  unfold outcomesOf at hOutcome
  rw [hRecords, hRecords', hResult, hResult'] at hOutcome
  exact hOutcome

/-- No two announced records are of one session where none has ended twice. -/
theorem announced_nodup {inputs : List SystemInput}
    (hStarts : (begun (commandLog (effects
      ((systemMachine config registry wake).log inputs)))).length ≤ u64Max)
    (hEnded : (ended (commandLog (effects
      ((systemMachine config registry wake).log inputs)))).Nodup) :
    ((announcedResults config registry wake inputs).map TerminalSessionResult.session).Nodup := by
  obtain ⟨calls, _, hDrives, _⟩ := daemon_drives config registry wake inputs []
  have hStarts' : (begun (sessionLog ((controllerMachine registry wake).log calls))).length ≤
      u64Max :=
    le_of_eq_of_le (congrArg (fun log => (begun log).length) hDrives.commands) hStarts
  have hEnded' : (ended (sessionLog ((controllerMachine registry wake).log calls))).Nodup :=
    (congrArg (fun log => (ended log).Nodup) hDrives.commands).mpr hEnded
  have hLate := never_late hDrives.discipline hStarts' hEnded'
  rw [← hDrives.finishes.1]
  exact (outcomes_run hDrives.discipline hLate hStarts').records_nodup

theorem late_cancel_result {inputs : List SystemInput} {requested : String} {s : SessionId}
    (hSession : ((systemMachine config registry wake).state inputs).daemon.state.session = some s)
    (hNames : Daemon.Names requested s)
    (hRoom : ((systemMachine config registry wake).state inputs).daemon.Room) :
    resultsOf config registry wake (inputs ++ [.cancel requested]) s =
      resultsOf config registry wake inputs s ++ [⟨s.value, "cancelled", "", "", 0⟩] := by
  generalize hState : (systemMachine config registry wake).state inputs = self at *
  have hAccepts := SessionMachine.Accepts.cancel (m := self.daemon.app.machine) hSession
  have hRun := Daemon.cancel_run hNames hSession hRoom
  have hEvents : (self.step (.cancel requested)).2.daemon.app.events = self.daemon.app.events ++
      [.stateChanged "cancelled" s.value, .sessionFinished s.value "cancelled" "" "" 0] := by
    rw [System.step, (System.perform_effects _ _ _).2.1, hRun]
    change (self.daemon.applied (.cancel s)).app.events = _
    rw [VoxTypeDaemon.applied_accepts hRoom hAccepts]
    exact AppController.publish_events _ _
  have hDrained : drainedEvents (self.step (.cancel requested)).1.effects = [] := by
    rw [System.step, (System.perform_effects _ _ _).1, hRun]
    change drainedEvents (_ ++ _ ++ _) = []
    apply (outside_silent _).2
    exact Daemon.released_outside _
  unfold resultsOf announcedResults
  rw [Transition.Machine.log_snoc, Transition.Machine.state_snoc, effects_snoc, hState,
    drainedEvents_append]
  change (List.filterMap _ (_ ++ drainedEvents (self.step _).1.effects ++
    (self.step _).2.daemon.app.events)).filter _ = _
  rw [hDrained, hEvents, List.append_nil, ← List.append_assoc, List.filterMap_append,
    List.filter_append]
  congr 1
  exact List.filter_cons_of_pos (beq_self_eq_true _)

end Runs

section Runs

variable (config : Config) (registry : ProviderRegistry) (wake : WakeHandle)

/-- Each session has one result exactly when no `Cancel` comes late. -/
theorem one_result_iff (inputs : List SystemInput)
    (hStarts : (begun (commandLog (effects
      ((systemMachine config registry wake).log inputs)))).length ≤ u64Max) :
    OneResult config registry wake inputs ↔
      (systemMachine config registry wake).Along (fun _ self i => ¬ LateCancel self i) inputs := by
  constructor
  · rintro hOne before i after hInputs ⟨requested, s, rfl, hSession, hNames, hRoom, hTerminal⟩
    obtain ⟨record, hFirst, _, hSecond, _⟩ := hOne before [.cancel requested] after s
      (by rw [hInputs, List.append_assoc, List.singleton_append]) hSession hTerminal
    rw [late_cancel_result hSession hNames hRoom, hFirst] at hSecond
    cases hSecond
  · rintro hLate before after rest s rfl hSession hTerminal
    have hStarts' := (begun_earlier (before ++ after) rest).trans hStarts
    exact one_result_of_ended hStarts' (ended_nodup hStarts' hLate.earlier) hSession hTerminal

end Runs

theorem one_result_dictation : OneResult dictationConfig ⟨[cloud]⟩ .disabled dictation := by
  apply (one_result_iff dictationConfig ⟨[cloud]⟩ .disabled dictation (by decide)).mpr
  rintro before i after hInputs ⟨requested, s, rfl, -⟩
  have hMem : SystemInput.cancel requested ∈ dictation := by
    rw [hInputs]
    simp
  simp [dictation] at hMem

end VoxType
