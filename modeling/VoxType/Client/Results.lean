import VoxType.Client.StopWait
import VoxType.Daemon.WholeOperations

/-!
# What a waiting client is told

Every record the daemon keeps comes from a command or a commit of its run. A
client that waits for the session it has stopped returns the record of that
session, whatever the daemon does meanwhile.
-/

namespace VoxType

set_option autoImplicit false

def TerminalSessionResult.told (self : TerminalSessionResult) : SessionResult :=
  ⟨self.session, self.outcome, self.errorCode, self.backend, self.charCount⟩

/-- What a trace says of the end of a session, as the client is told. -/
inductive Happened (trace : List DaemonEffect) (s : SessionId) : SessionResult → Prop
  | inserted {state : SessionState} {arm : InsertionArm} {text : String}
    {insertion : InsertionOutcome} (hMem : .committed s state arm text (.ok insertion) ∈ trace) :
    Happened trace s ⟨s.value, "completed", "", insertion.backend, text.length⟩
  | silent {e : CommandEffect} (hMem : .command (.noSpeech s) (.ok e) ∈ trace) :
    Happened trace s ⟨s.value, "no-speech", "", "", 0⟩
  | cancelled {e : CommandEffect} (hMem : .command (.cancel s) (.ok e) ∈ trace) :
    Happened trace s ⟨s.value, "cancelled", "", "", 0⟩
  | failed {error : VoxError} {e : CommandEffect}
    (hMem : .command (.fail s error) (.ok e) ∈ trace) :
    Happened trace s ⟨s.value, "failed", error.code, "", 0⟩

namespace Happened

variable {trace trace' : List DaemonEffect} {s : SessionId} {result : SessionResult}

theorem mono (h : Happened trace s result) (hSub : trace ⊆ trace') :
    Happened trace' s result := by
  cases h with
  | inserted hMem => exact .inserted (hSub hMem)
  | silent hMem => exact .silent (hSub hMem)
  | cancelled hMem => exact .cancelled (hSub hMem)
  | failed hMem => exact .failed (hSub hMem)

theorem session (h : Happened trace s result) : result.session = s.value := by
  cases h <;> rfl

theorem of_command {c : Command} {e : CommandEffect} {record : TerminalSessionResult}
    (hMem : .command c (.ok e) ∈ trace) (hRecord : c.record = some record) :
    ∃ s, Happened trace s record.told := by
  cases c with
  | cancel s => cases hRecord; exact ⟨s, .cancelled hMem⟩
  | noSpeech s => cases hRecord; exact ⟨s, .silent hMem⟩
  | fail s error => cases hRecord; exact ⟨s, .failed hMem⟩
  | _ => cases hRecord

end Happened

/-- The records that are new come from the trace. -/
def Backed (d : VoxTypeDaemon) (trace : List DaemonEffect) (d' : VoxTypeDaemon) : Prop :=
  ∀ r ∈ d'.app.sessionResults, r ∈ d.app.sessionResults ∨ ∃ s, Happened trace s r.told

theorem mem_makeRoom {records : List TerminalSessionResult} {session : String}
    {r : TerminalSessionResult} (h : r ∈ AppController.makeRoom records session) : r ∈ records := by
  have hErased : ∀ {position : Nat}, r ∈ records.eraseIdx position → r ∈ records :=
    List.mem_of_mem_eraseIdx
  rw [AppController.makeRoom] at h
  cases hFind : records.findIdx? (fun result => result.session == session) with
  | none =>
    rw [hFind] at h
    dsimp only at h
    split at h
    · exact List.mem_of_mem_drop h
    · exact h
  | some position =>
    rw [hFind] at h
    dsimp only at h
    split at h
    · exact hErased (List.mem_of_mem_drop h)
    · exact hErased h

namespace Backed

open Effects.Call (Within Composes)

theorem composes : Composes Backed where
  refl d r hMem := .inl hMem
  trans := by
    intro d d' d'' first second hFirst hSecond r hMem
    rcases hSecond r hMem with hMem | ⟨s, hHappened⟩
    · apply (hFirst r hMem).imp_right
      rintro ⟨s, hHappened⟩
      exact ⟨s, hHappened.mono (List.subset_append_left _ _)⟩
    · exact .inr ⟨s, hHappened.mono (List.subset_append_right _ _)⟩

theorem of_same {d d' : VoxTypeDaemon} {trace : List DaemonEffect}
    (h : d'.app.sessionResults = d.app.sessionResults) : Backed d trace d' := by
  intro r hMem
  rw [h] at hMem
  exact .inl hMem

theorem command (c : Command) : Within Backed (Daemon.applyCommand c) := by
  intro d
  rw [Daemon.applyCommand_run]
  cases hAnswer : d.answer c with
  | error error => exact of_same (by rw [VoxTypeDaemon.applied_error hAnswer])
  | ok e =>
    obtain ⟨hRoom, m', hAccepts⟩ := VoxTypeDaemon.answer_ok_room hAnswer
    intro r hMem
    rw [VoxTypeDaemon.applied_accepts hRoom hAccepts] at hMem
    change r ∈ (AppController.publish _ c).sessionResults at hMem
    rw [AppController.publish_sessionResults] at hMem
    cases hRecord : c.record with
    | none =>
      rw [hRecord] at hMem
      exact .inl hMem
    | some record =>
      rw [hRecord] at hMem
      rcases List.mem_append.mp hMem with hMem | hMem
      · exact .inl (mem_makeRoom hMem)
      · rw [List.mem_singleton.mp hMem]
        exact .inr (Happened.of_command (List.mem_singleton_self _) hRecord)

/-- The one record that is new. -/
def Adds (record : TerminalSessionResult) (d : VoxTypeDaemon) (_ : List DaemonEffect)
    (d' : VoxTypeDaemon) : Prop :=
  ∀ r ∈ d'.app.sessionResults, r ∈ d.app.sessionResults ∨ r = record

theorem adds_composes (record : TerminalSessionResult) : Composes (Adds record) where
  refl d r hMem := .inl hMem
  trans := by
    intro d d' d'' first second hFirst hSecond r hMem
    rcases hSecond r hMem with hMem | hSame
    · exact hFirst r hMem
    · exact .inr hSame

theorem recordInsertion_adds (session : SessionId) (providerId text : String)
    (vadResult : Option Vad.VadResult) (insertion : InsertionOutcome) :
    Within (Adds ⟨session.value, "completed", "", insertion.backend, text.length⟩)
      (Daemon.recordInsertion session providerId text vadResult insertion) := by
  refine .bind (adds_composes _) (.mapError _ ?_) fun _ =>
    .bind (adds_composes _) (.mapError _ ?_) fun _ =>
      .bind (adds_composes _) ?_ fun _ => .pure (adds_composes _) _
  · intro d r hMem
    rw [Daemon.applyCommand_run] at hMem
    cases hAnswer : d.answer (.insertionComplete session) with
    | error error =>
      rw [VoxTypeDaemon.applied_error hAnswer] at hMem
      exact .inl hMem
    | ok e =>
      obtain ⟨hRoom, m', hAccepts⟩ := VoxTypeDaemon.answer_ok_room hAnswer
      rw [VoxTypeDaemon.applied_accepts hRoom hAccepts] at hMem
      exact .inl hMem
  · intro d r hMem
    change r ∈ (d.app.finishSession _ _ _ _ _).2.sessionResults at hMem
    unfold AppController.finishSession at hMem
    split at hMem
    · exact .inl hMem
    · rcases List.mem_append.mp hMem with hMem | hMem
      · exact .inl (mem_makeRoom hMem)
      · exact .inr (List.mem_singleton.mp hMem)
  · intro d r hMem
    rw [Effects.Call.modify_run, VoxTypeDaemon.remember_app] at hMem
    exact .inl hMem

theorem handed (env : Environment) (session : SessionId) (providerId text : String)
    (vadResult : Option Vad.VadResult) :
    Within Backed (Daemon.handOver env session providerId text vadResult) := by
  intro d
  obtain ⟨trace, answer, hInsertion, hRun⟩ := Daemon.insertion_run env d session text
  rw [Daemon.handOver, Effects.Call.attempt_bind, hRun]
  cases answer with
  | error error =>
    have hFail : Within Backed (do
        let _ ← Effects.Call.attempt (Daemon.applyCommand (.fail session error))
        Effects.Call.throw (mapError error) : DaemonCall String) :=
      .bind composes (.attempt (command _)) fun _ => .throw composes _
    exact composes.trans (of_same rfl) (hFail d)
  | ok insertion =>
    intro r hMem
    rcases recordInsertion_adds session providerId text vadResult insertion d r hMem with
      hMem | rfl
    · exact .inl hMem
    · refine .inr ⟨session, .mono ?_ (List.subset_append_left _ _)⟩
      generalize hAnswer : (Except.ok insertion : Except VoxError InsertionOutcome) = answer
        at hInsertion
      cases hInsertion with
      | notArmed error => cases hAnswer
      | committed hArm hSession =>
        rw [← hAnswer]
        exact .inserted (List.mem_singleton_self _)

theorem controlled : Controlled Backed where
  composes := composes
  quiet hApp _ := of_same (by rw [hApp])
  command c _ := command c
  notified hApp := of_same (by rw [hApp]; rfl)
  replaced registry hApp := of_same (by rw [hApp]; rfl)
  recorded d result audioMillis now :=
    of_same (d.app.recordRouteResult_lifecycle result audioMillis now).2.2
  drained hApp := of_same (by rw [hApp]; rfl)
  handed := handed

end Backed

/-- The client's last call of `stop_wait` has found the session listening. -/
def Asked (M : Transition.Machine ClientSystem ClientInput (List DaemonEffect))
    (inputs : List ClientInput) (s : SessionId) : Prop :=
  ∃ before env session now after mode,
    inputs = before ++ .stopWait env session now :: after ∧
      (∀ requested deadline, (M.state before).phase ≠ .waiting requested deadline) ∧
      (M.state before).system.daemon.state = .listening s mode ∧ Daemon.Names session s ∧
      ∀ m env' session' now' m', after = m ++ .stopWait env' session' now' :: m' →
        ∃ deadline,
          (M.state (before ++ .stopWait env session now :: m)).phase = .waiting s.value deadline

namespace Asked

variable {M : Transition.Machine ClientSystem ClientInput (List DaemonEffect)}
  {inputs : List ClientInput} {s : SessionId}

theorem now {env : Environment} {session : String} {time : Nat} {mode : TriggerMode}
    (hFree : ∀ requested deadline, (M.state inputs).phase ≠ .waiting requested deadline)
    (hState : (M.state inputs).system.daemon.state = .listening s mode)
    (hNames : Daemon.Names session s) : Asked M (inputs ++ [.stopWait env session time]) s := by
  refine ⟨inputs, env, session, time, [], mode, rfl, hFree, hState, hNames, ?_⟩
  intro m env' session' now' m' h
  simp at h

theorem snoc (h : Asked M inputs s) (i : ClientInput)
    (hCall : ∀ env session now, i = .stopWait env session now →
      ∃ deadline, (M.state inputs).phase = .waiting s.value deadline) :
    Asked M (inputs ++ [i]) s := by
  obtain ⟨before, env, session, now, after, mode, rfl, hFree, hState, hNames, hLast⟩ := h
  refine ⟨before, env, session, now, after ++ [i], mode, by simp, hFree, hState, hNames, ?_⟩
  intro m env' session' now' m' hAfter
  rcases List.eq_nil_or_concat m' with rfl | ⟨m', last, rfl⟩
  · obtain ⟨rfl, hCall'⟩ := List.append_inj' hAfter rfl
    exact hCall env' session' now' (List.cons.inj hCall').1
  · apply hLast m env' session' now' m'
    have hSplit : after ++ [i] = (m ++ .stopWait env' session' now' :: m') ++ [last] := by
      rw [hAfter]
      simp
    exact (List.append_inj' hSplit rfl).1

end Asked

section Runs

variable (config : Config) (registry : ProviderRegistry) (wake : WakeHandle)

theorem results_backed (inputs : List SystemInput) :
    ∀ r ∈ ((systemMachine config registry wake).state inputs).daemon.app.sessionResults,
      ∃ s, Happened (effects ((systemMachine config registry wake).log inputs)) s r.told := by
  intro r hMem
  have hRun := Backed.controlled.runFrom (systemMachine config registry wake) rfl
    (systemMachine config registry wake).start inputs
  rcases hRun r hMem with hNone | hSome
  · cases hNone
  · exact hSome

end Runs

section Reading

theorem fromCounter_toList (counter : Nat) : (SessionId.fromCounter counter).value.toList =
    "session-".toList ++ Nat.toDigits 10 counter := by
  simp only [SessionId.fromCounter, String.toList_append, Nat.toString_eq_repr, Nat.toList_repr]
  rfl

theorem fromCounter_nonempty (counter : Nat) :
    (SessionId.fromCounter counter).value.isEmpty = false := by
  rw [Bool.eq_false_iff]
  intro hEmpty
  have hText := congrArg String.toList (String.isEmpty_iff.mp hEmpty)
  rw [fromCounter_toList] at hText
  cases hText

theorem digit_solid {c : Char} (h : c.isDigit = true) : RustText.isWhitespace c = false := by
  obtain ⟨hLow, hHigh⟩ := RustText.isDigit_iff.mp h
  simp only [RustText.isWhitespace, Bool.or_eq_false_iff, Bool.and_eq_false_iff,
    decide_eq_false_iff_not, beq_eq_false_iff_ne]
  omega

theorem fromCounter_solid (counter : Nat) :
    ∀ c ∈ "session=".toList ++ (SessionId.fromCounter counter).value.toList,
      RustText.isWhitespace c = false := by
  rw [fromCounter_toList]
  intro c hMem
  rw [← List.append_assoc, List.mem_append] at hMem
  rcases hMem with hMem | hMem
  · revert c
    simp [RustText.isWhitespace]
  · exact digit_solid (RustText.isDigit_toDigits c hMem)

theorem utf8ByteSize_ofList_le (text : List Char) :
    (String.ofList text).utf8ByteSize ≤ 4 * text.length := by
  induction text using List.reverseRecOn with
  | nil => simp
  | append_singleton text c ih =>
    have hOne : (String.ofList [c]).utf8ByteSize = c.utf8Size := String.utf8ByteSize_singleton
    have hFour := c.utf8Size_le_four
    rw [String.ofList_append, String.utf8ByteSize_append, hOne, List.length_append,
      List.length_singleton]
    omega

theorem fromCounter_printable (counter : Nat) :
    (SessionId.fromCounter counter).value.toList.any isControl = false := by
  rw [fromCounter_toList, List.any_append, Bool.or_eq_false_iff]
  constructor
  · simp [isControl]
  · rw [List.any_eq_false]
    intro c hMem
    obtain ⟨hLow, hHigh⟩ := RustText.isDigit_iff.mp (RustText.isDigit_toDigits c hMem)
    simp [isControl]
    omega

/-- The bus method answers for every session that a run can begin. -/
theorem fromCounter_accepted {counter : Nat} (hBound : counter ≤ u64Max) :
    Client.Refused (SessionId.fromCounter counter).value = false := by
  have hDigits : (Nat.toDigits 10 counter).length ≤ 20 := by
    rw [Nat.length_toDigits_le_iff (by decide) (by decide)]
    unfold u64Max at hBound
    omega
  have hSize : (SessionId.fromCounter counter).value.utf8ByteSize ≤ 4 * 28 := by
    have hText := utf8ByteSize_ofList_le (SessionId.fromCounter counter).value.toList
    rw [String.ofList_toList, fromCounter_toList, List.length_append] at hText
    have hHead : "session-".toList.length = 8 := rfl
    omega
  rw [Client.Refused, fromCounter_nonempty, fromCounter_printable]
  simp
  omega

/-- The client waits for the session that its `Stop` has found. -/
theorem enter_accepted {counter now : Nat} {session reply : String}
    (hNames : Daemon.Names session (.fromCounter counter))
    (hAccepted : Daemon.Accepted (.fromCounter counter) reply) :
    Client.enter session now (.ok reply) =
      .waiting (SessionId.fromCounter counter).value (now + sessionResultWaitTimeout) := by
  have hRequested : Client.requestedSession session reply =
      (SessionId.fromCounter counter).value := by
    rw [Client.requestedSession]
    split
    · obtain ⟨rest, hReply⟩ := hAccepted
      rw [hReply, RustText.markedWord_cons (by simp) (fromCounter_solid counter),
        Option.getD_some, String.ofList_toList]
    · rename_i hSession
      exact hNames.resolve_left hSession
  rw [Client.enter, hRequested, fromCounter_nonempty]
  rfl

theorem session_named {log : List SessionEntry} {m : SessionMachine} (h : SessionHistory log m)
    {s : SessionId} (hs : m.state.session = some s) :
    ∃ counter, counter ≤ (begun log).length ∧ s = .fromCounter counter := by
  have hMem := h.session_begun hs
  rw [h.ids] at hMem
  obtain ⟨k, hk, rfl⟩ := List.mem_map.mp hMem
  exact ⟨k + 1, List.mem_range.mp hk, rfl⟩

end Reading

section Waiting

variable (config : Config) (registry : ProviderRegistry) (wake : WakeHandle)

/-- The effects of a run with a client. -/
def clientEffects (inputs : List ClientInput) : List DaemonEffect :=
  ((clientMachine config registry wake).log inputs).flatMap Prod.snd

/-- What is known of the client at the end of a run. -/
def Knows (inputs : List ClientInput) : Client.Phase → Prop
  | .idle | .returned (.error _) => True
  | .waiting requested _ => ∃ counter, counter ≤ u64Max ∧
      requested = (SessionId.fromCounter counter).value ∧
        Asked (clientMachine config registry wake) inputs (.fromCounter counter)
  | .returned (.ok result) => ∃ s record, Asked (clientMachine config registry wake) inputs s ∧
      record ∈ announcedResults config registry wake (inputs.filterMap ClientInput.daemonInput) ∧
      record.session = s.value ∧ record.told = result ∧
      Happened (clientEffects config registry wake inputs) s result

variable {config registry wake}

theorem announcedResults_snoc (inputs : List ClientInput) (i : ClientInput) :
    announcedResults config registry wake (inputs.filterMap ClientInput.daemonInput) ⊆
      announcedResults config registry wake
        ((inputs ++ [i]).filterMap ClientInput.daemonInput) := by
  rw [List.filterMap_append]
  obtain ⟨more, hMore⟩ := announcedResults_append _ _
  rw [hMore]
  exact List.subset_append_left _ _

theorem clientEffects_snoc (inputs : List ClientInput) (i : ClientInput) :
    clientEffects config registry wake inputs ⊆
      clientEffects config registry wake (inputs ++ [i]) := by
  rw [clientEffects, clientEffects, Transition.Machine.log_snoc, List.flatMap_append]
  exact List.subset_append_left _ _

/-- A step that leaves the client as it is. -/
theorem Knows.stays {inputs : List ClientInput} {phase : Client.Phase}
    (h : Knows config registry wake inputs phase) (i : ClientInput)
    (hCall : ∀ env session now, i = .stopWait env session now → ∃ requested deadline,
      phase = .waiting requested deadline ∧
        ((clientMachine config registry wake).state inputs).phase = phase) :
    Knows config registry wake (inputs ++ [i]) phase := by
  cases phase with
  | idle => trivial
  | waiting requested deadline =>
    obtain ⟨counter, hBound, rfl, hAsked⟩ := h
    refine ⟨counter, hBound, rfl, hAsked.snoc i ?_⟩
    intro env session now hInput
    obtain ⟨_, _, _, hPhase⟩ := hCall env session now hInput
    exact ⟨deadline, hPhase⟩
  | returned result =>
    cases result with
    | error error => trivial
    | ok result =>
      obtain ⟨s, record, hAsked, hRecord, hNamed, hTold, hHappened⟩ := h
      refine ⟨s, record, hAsked.snoc i ?_, announcedResults_snoc inputs i hRecord, hNamed, hTold,
        hHappened.mono (clientEffects_snoc inputs i)⟩
      intro env session now hInput
      obtain ⟨_, _, hPhase, _⟩ := hCall env session now hInput
      cases hPhase

theorem Knows.called {inputs : List ClientInput}
    (h : Knows config registry wake inputs
      ((clientMachine config registry wake).state inputs).phase)
    (hStarts : (begun (commandLog (clientEffects config registry wake inputs))).length ≤ u64Max)
    (env : Environment) (session : String) (now : Nat) :
    Knows config registry wake (inputs ++ [.stopWait env session now])
      (((clientMachine config registry wake).state inputs).step
        (.stopWait env session now)).2.phase := by
  have hTold := client_told config registry wake inputs
  have hSystem := (client_follows config registry wake).state inputs
  have hHistory := daemon_history config registry wake
    (inputs.filterMap ClientInput.daemonInput) (hTold ▸ hStarts)
  generalize hState : (clientMachine config registry wake).state inputs = self at *
  rw [← hSystem] at hHistory
  cases hPhase : self.phase with
  | waiting requested deadline =>
    rw [hPhase] at h
    have hSame := h.stays (.stopWait env session now) fun _ _ _ _ =>
      ⟨requested, deadline, rfl, by rw [hState, hPhase]⟩
    simpa only [ClientSystem.step, hPhase] using hSame
  | idle | returned =>
    have hFree : ∀ requested deadline,
        ((clientMachine config registry wake).state inputs).phase ≠ .waiting requested deadline := by
      rw [hState, hPhase]
      rintro _ _ ⟨⟩
    simp only [ClientSystem.step, hPhase]
    cases hReply : ((Daemon.stop (self.system.boundary env) session).run
        self.system.daemon).result with
    | error error => trivial
    | ok reply =>
      obtain ⟨s, mode, hListening, hNames, hAccepted⟩ := Daemon.stop_accepted hReply
      obtain ⟨counter, hCounter, rfl⟩ := session_named hHistory
        (show self.system.daemon.state.session = some s by rw [hListening]; rfl)
      rw [enter_accepted hNames hAccepted]
      refine ⟨counter, ?_, rfl, .now hFree (by rw [hState]; exact hListening) hNames⟩
      rw [← hTold] at hCounter
      exact hCounter.trans hStarts

theorem Knows.turned {inputs : List ClientInput}
    (h : Knows config registry wake inputs
      ((clientMachine config registry wake).state inputs).phase) (now : Nat) :
    Knows config registry wake (inputs ++ [.turn now])
      (((clientMachine config registry wake).state inputs).step (.turn now)).2.phase := by
  have hTold := client_told config registry wake inputs
  have hSystem := (client_follows config registry wake).state inputs
  generalize (clientMachine config registry wake).state inputs = self at *
  have hSame := h.stays (.turn now) (by rintro _ _ _ ⟨⟩)
  cases hPhase : self.phase with
  | idle | returned =>
    simp only [ClientSystem.step, hPhase]
    rw [hPhase] at hSame
    exact hSame
  | waiting requested deadline =>
    rw [hPhase] at hSame
    simp only [ClientSystem.step, hPhase]
    rcases Client.turn_cases self.system.daemon requested deadline now with
      ⟨error, hTurn⟩ | hTurn | ⟨r, hResult, hTurn⟩
    · rw [hTurn]
      trivial
    · rw [hTurn]
      exact hSame
    · rw [hTurn]
      obtain ⟨counter, _, rfl, hAsked⟩ := hSame
      have hFound : r.session = (SessionId.fromCounter counter).value := by
        simpa using List.find?_some hResult
      have hMem : r ∈ self.system.daemon.app.sessionResults :=
        List.mem_reverse.mp (List.mem_of_find?_eq_some hResult)
      rw [hSystem] at hMem
      obtain ⟨s, hHappened⟩ := results_backed config registry wake _ r hMem
      have hNamed : s = .fromCounter counter :=
        value_injective (hHappened.session.symm.trans hFound)
      have hRecord : r ∈ announcedResults config registry wake
          (inputs.filterMap ClientInput.daemonInput) := by
        rw [hSystem, session_result_announced] at hResult
        split at hResult
        · exact List.mem_reverse.mp (List.mem_of_find?_eq_some hResult)
        · cases hResult
      subst hNamed
      refine ⟨.fromCounter counter, r, hAsked, announcedResults_snoc inputs _ hRecord, hFound, ?_,
        .mono ?_ (clientEffects_snoc inputs _)⟩
      · rw [TerminalSessionResult.told, hFound]
      · rw [clientEffects, hTold, ← hFound]
        exact hHappened

theorem Knows.disconnected {inputs : List ClientInput}
    (h : Knows config registry wake inputs
      ((clientMachine config registry wake).state inputs).phase) (message : String) :
    Knows config registry wake (inputs ++ [.disconnect message])
      (((clientMachine config registry wake).state inputs).step
        (.disconnect message)).2.phase := by
  generalize (clientMachine config registry wake).state inputs = self at *
  cases hPhase : self.phase with
  | waiting requested deadline =>
    simp only [ClientSystem.step, hPhase]
    trivial
  | idle | returned =>
    simp only [ClientSystem.step, hPhase]
    rw [hPhase] at h
    apply h.stays
    rintro _ _ _ ⟨⟩

theorem knows_run (inputs : List ClientInput)
    (hStarts : (begun (commandLog (clientEffects config registry wake inputs))).length ≤ u64Max) :
    Knows config registry wake inputs ((clientMachine config registry wake).state inputs).phase := by
  induction inputs using List.reverseRecOn with
  | nil => trivial
  | append_singleton inputs i ih =>
    have hEarlier : (begun (commandLog (clientEffects config registry wake inputs))).length ≤
        u64Max := by
      rw [clientEffects, Transition.Machine.log_snoc, List.flatMap_append, commandLog_append,
        begun_append, List.length_append] at hStarts
      unfold clientEffects
      omega
    have hKnows := ih hEarlier
    rw [Transition.Machine.state_snoc]
    cases i with
    | daemon input =>
      apply hKnows.stays
      rintro _ _ _ ⟨⟩
    | stopWait env session now => exact hKnows.called hEarlier env session now
    | turn now => exact hKnows.turned now
    | disconnect message => exact hKnows.disconnected message

end Waiting

/-- A client stops a session, asks in vain, and waits on when there is a result. -/
def waitingDictation : List ClientInput :=
  [.daemon (.start workingBoundary ""), .stopWait workingBoundary "" 0, .turn 1,
    .daemon (.workerReturns 0 answeringRoute), .daemon (.pollRecognition workingBoundary)]

theorem waiting_dictation :
    ((clientMachine dictationConfig ⟨[cloud]⟩ .disabled).state waitingDictation).phase =
      .waiting "session-1" sessionResultWaitTimeout := rfl

def stoppedDictation : List ClientInput := waitingDictation ++ [.turn 2]

theorem returned_dictation :
    ((clientMachine dictationConfig ⟨[cloud]⟩ .disabled).state stoppedDictation).phase =
      .returned (.ok ⟨"session-1", "completed", "", "fcitx5", 5⟩) := rfl

theorem starts_dictation :
    (begun (commandLog (clientEffects dictationConfig ⟨[cloud]⟩ .disabled
      waitingDictation))).length ≤ u64Max ∧
    (begun (commandLog (clientEffects dictationConfig ⟨[cloud]⟩ .disabled
      stoppedDictation))).length ≤ u64Max := by
  decide +kernel

section Waiting

variable (config : Config) (registry : ProviderRegistry) (wake : WakeHandle)

/-- What `stop_wait` returns is the record of the session it has stopped, and the daemon's run has
ended that session so. -/
theorem stop_wait_reports (inputs : List ClientInput)
    (hStarts : (begun (commandLog (clientEffects config registry wake inputs))).length ≤ u64Max)
    {result : SessionResult}
    (hReturned : ((clientMachine config registry wake).state inputs).phase =
      .returned (.ok result)) :
    ∃ s record, Asked (clientMachine config registry wake) inputs s ∧
      record ∈ announcedResults config registry wake (inputs.filterMap ClientInput.daemonInput) ∧
      record.session = s.value ∧ record.told = result ∧
      Happened (clientEffects config registry wake inputs) s result := by
  have hKnows := knows_run inputs hStarts
  rw [hReturned] at hKnows
  exact hKnows

theorem stop_wait_reports_dictation : ∃ s record,
    Asked (clientMachine dictationConfig ⟨[cloud]⟩ .disabled) stoppedDictation s ∧
      record ∈ announcedResults dictationConfig ⟨[cloud]⟩ .disabled
        (stoppedDictation.filterMap ClientInput.daemonInput) ∧
      record.session = s.value ∧ record.told = ⟨"session-1", "completed", "", "fcitx5", 5⟩ ∧
      Happened (clientEffects dictationConfig ⟨[cloud]⟩ .disabled stoppedDictation) s
        ⟨"session-1", "completed", "", "fcitx5", 5⟩ :=
  stop_wait_reports dictationConfig ⟨[cloud]⟩ .disabled stoppedDictation starts_dictation.2
    returned_dictation

/-- Without late cancels it is the one record that session ever has. -/
theorem stop_wait_exact (inputs : List ClientInput)
    (hStarts : (begun (commandLog (clientEffects config registry wake inputs))).length ≤ u64Max)
    (hLate : (clientMachine config registry wake).Along (fun _ self i =>
      ∀ input, i.daemonInput = some input → ¬ LateCancel self.system input) inputs)
    {result : SessionResult}
    (hReturned : ((clientMachine config registry wake).state inputs).phase =
      .returned (.ok result)) :
    ∃ s record, Asked (clientMachine config registry wake) inputs s ∧ record.told = result ∧
      resultsOf config registry wake (inputs.filterMap ClientInput.daemonInput) s = [record] := by
  have hKnows := knows_run inputs hStarts
  rw [hReturned] at hKnows
  obtain ⟨s, record, hAsked, hRecord, hNamed, hTold, _⟩ := hKnows
  rw [clientEffects, client_told] at hStarts
  have hEnded := ended_nodup hStarts ((client_follows config registry wake).along hLate)
  refine ⟨s, record, hAsked, hTold, ?_⟩
  rw [resultsOf, ← hNamed]
  exact filter_session (announced_nodup hStarts hEnded) hRecord

theorem stop_wait_exact_dictation : ∃ s record,
    Asked (clientMachine dictationConfig ⟨[cloud]⟩ .disabled) stoppedDictation s ∧
      record.told = ⟨"session-1", "completed", "", "fcitx5", 5⟩ ∧
      resultsOf dictationConfig ⟨[cloud]⟩ .disabled
        (stoppedDictation.filterMap ClientInput.daemonInput) s = [record] := by
  refine stop_wait_exact dictationConfig ⟨[cloud]⟩ .disabled stoppedDictation
    starts_dictation.2 ?_ returned_dictation
  rintro before i after hInputs input hInput ⟨requested, s, rfl, -⟩
  have hMem : SystemInput.cancel requested ∈
      stoppedDictation.filterMap ClientInput.daemonInput := by
    rw [hInputs]
    exact List.mem_filterMap.mpr ⟨i, by simp, hInput⟩
  simp [stoppedDictation, waitingDictation, ClientInput.daemonInput] at hMem

/-- A turn of a waiting client returns a result exactly when the session has one that the daemon has
not let go of. -/
theorem stop_wait_turn (inputs : List ClientInput)
    (hStarts : (begun (commandLog (clientEffects config registry wake inputs))).length ≤ u64Max)
    {requested : String} {deadline : Nat}
    (hWaiting : ((clientMachine config registry wake).state inputs).phase =
      .waiting requested deadline) (now : Nat) :
    (∃ result, ((clientMachine config registry wake).state (inputs ++ [.turn now])).phase =
        .returned (.ok result)) ↔
      (∃ record ∈ announcedResults config registry wake
          (inputs.filterMap ClientInput.daemonInput), record.session = requested) ∧
        Recent.since TerminalSessionResult.session requested (announcedResults config registry wake
          (inputs.filterMap ClientInput.daemonInput)) < maxSessionResults := by
  have hKnows := knows_run inputs hStarts
  rw [hWaiting] at hKnows
  obtain ⟨counter, hBound, rfl, _⟩ := hKnows
  have hSystem := (client_follows config registry wake).state inputs
  have hTurn : ((clientMachine config registry wake).state (inputs ++ [.turn now])).phase =
      Client.turn (SessionId.fromCounter counter).value deadline now
        (((clientMachine config registry wake).state inputs).system.daemon.sessionResult
          (SessionId.fromCounter counter).value) := by
    rw [Transition.Machine.state_snoc]
    change (ClientSystem.step _ _).2.phase = _
    simp only [ClientSystem.step, hWaiting]
  rw [hTurn, Client.turn_returns (fromCounter_accepted hBound), hSystem, session_result_announced]
  constructor
  · rintro ⟨r, hResult⟩
    split at hResult
    · rename_i hRecent
      refine ⟨⟨r, List.mem_reverse.mp (List.mem_of_find?_eq_some hResult), ?_⟩, hRecent⟩
      simpa using List.find?_some hResult
    · cases hResult
  · rintro ⟨⟨record, hMem, hNamed⟩, hRecent⟩
    rw [if_pos hRecent]
    apply Option.isSome_iff_exists.mp
    rw [List.find?_isSome]
    exact ⟨record, List.mem_reverse.mpr hMem, decide_eq_true hNamed⟩

theorem stop_wait_turn_dictation :
    ∃ result, ((clientMachine dictationConfig ⟨[cloud]⟩ .disabled).state
      (waitingDictation ++ [.turn 2])).phase = .returned (.ok result) := by
  apply (stop_wait_turn dictationConfig ⟨[cloud]⟩ .disabled waitingDictation starts_dictation.1
    waiting_dictation 2).mpr
  decide +kernel

end Waiting

end VoxType
