import VoxType.App.ControllerCalls
import VoxType.Core.SessionHistory

/-!
# Terminal outcomes of sessions

A terminal state queues a `SessionFinished` record. The machine also accepts a
`Cancel` or a `Fail` of a session that is already over, which queues another.
-/

namespace VoxType

set_option autoImplicit false

abbrev ControllerEntry : Type := ControllerCall × ControllerAnswer

namespace ControllerEntry

def session : ControllerEntry → Option SessionEntry
  | (.apply c, .applied result) => some (c, result)
  | _ => none

def drained : ControllerEntry → List AppEvent
  | (_, .drained events) => events
  | _ => []

/-- The session of an accepted `InsertionComplete`. -/
def awaiting : ControllerEntry → Option SessionId
  | (.apply (.insertionComplete s), .applied (.ok _)) => some s
  | _ => none

end ControllerEntry

/-- The calls of a log that were commands. -/
def sessionLog (log : List ControllerEntry) : List SessionEntry :=
  log.filterMap ControllerEntry.session

/-- The session whose insertion the last call completed. -/
def awaitsFinish (log : List ControllerEntry) : Option SessionId :=
  log.getLast?.bind ControllerEntry.awaiting

def AppEvent.record : AppEvent → Option TerminalSessionResult
  | .sessionFinished session outcome errorCode backend charCount =>
    some ⟨session, outcome, errorCode, backend, charCount⟩
  | .stateChanged .. => none

/-- The terminal records queued so far, drained or pending. -/
def finishes (log : List ControllerEntry) (c : AppController) : List TerminalSessionResult :=
  (log.flatMap ControllerEntry.drained ++ c.events).filterMap AppEvent.record

/-- `finish_session` is called right after an accepted `InsertionComplete`, and only then. -/
def FinishDiscipline (log : List ControllerEntry) (_ : AppController) : ControllerCall → Prop
  | .finishSession s _ _ _ _ => awaitsFinish log = some s
  | _ => awaitsFinish log = none

/-- A command that ends a session again, and is not held back by the event bound. -/
def LateEnd (c : AppController) (call : ControllerCall) : Prop :=
  ∃ s, c.machine.state.session = some s ∧ c.machine.state.isTerminal = true ∧
    c.events.length ≤ maxPendingEvents - 2 ∧
    (call = .apply (.cancel s) ∨ ∃ error, call = .apply (.fail s error))

@[simp] theorem sessionLog_append (left right : List ControllerEntry) :
    sessionLog (left ++ right) = sessionLog left ++ sessionLog right := List.filterMap_append

@[simp] theorem awaitsFinish_snoc (log : List ControllerEntry) (entry : ControllerEntry) :
    awaitsFinish (log ++ [entry]) = entry.awaiting := by
  rw [awaitsFinish, List.getLast?_concat]
  rfl

theorem filterMap_event (results : List TerminalSessionResult) :
    (results.map TerminalSessionResult.event).filterMap AppEvent.record = results := by
  rw [List.filterMap_map]
  exact List.filterMap_some

theorem finishes_publish (log : List ControllerEntry) (self : AppController) (c : Command)
    (e : CommandEffect) (m' : SessionMachine) :
    finishes (log ++ [(.apply c, .applied (.ok e))]) ({ self with machine := m' }.publish c) =
      finishes log self ++ c.record.toList := by
  rw [finishes, finishes, AppController.publish_events, List.flatMap_append, List.filterMap_append,
    List.filterMap_append, List.filterMap_append, List.filterMap_append]
  have hNone : ([(.apply c, .applied (.ok e))] : List ControllerEntry).flatMap
      ControllerEntry.drained = [] := rfl
  rw [hNone, List.filterMap_nil, List.append_nil, List.append_assoc]
  congr 2
  exact filterMap_event _

theorem finishes_finished (log : List ControllerEntry) (self : AppController)
    (result : TerminalSessionResult) (call : ControllerCall) (answer : Except VoxError Unit) :
    finishes (log ++ [(call, .finished answer)]) (self.queueSessionFinished result).notify =
      finishes log self ++ [result] := by
  have hNone : ([(call, .finished answer)] : List ControllerEntry).flatMap
      ControllerEntry.drained = [] := rfl
  have hEvents : (self.queueSessionFinished result).notify.events = self.events ++ [result.event] :=
    rfl
  rw [finishes, finishes, List.flatMap_append, hNone, hEvents, List.append_nil, ← List.append_assoc,
    List.filterMap_append]
  rfl

theorem finishes_same {log : List ControllerEntry} {self self' : AppController}
    {entry : ControllerEntry} (hEvents : entry.drained ++ self'.events = self.events) :
    finishes (log ++ [entry]) self' = finishes log self := by
  rw [finishes, finishes, List.flatMap_append, List.append_assoc, ← hEvents]
  simp

/-- A call only adds records. -/
theorem finishes_call (log : List ControllerEntry) (c : AppController) (call : ControllerCall) :
    ∃ extra, finishes (log ++ [(call, (c.call call).1)]) (c.call call).2 =
      finishes log c ++ extra := by
  cases call with
  | apply command =>
    rcases c.apply_cases command with ⟨error, hApply⟩ | ⟨e, m', _, _, hApply⟩
    · refine ⟨[], ?_⟩
      rw [AppController.call, hApply, List.append_nil]
      exact finishes_same rfl
    · refine ⟨command.record.toList, ?_⟩
      rw [AppController.call, hApply]
      exact finishes_publish log c command e m'
  | finishSession s outcome errorCode backend charCount =>
    rw [AppController.call, AppController.finishSession]
    split
    · refine ⟨[], ?_⟩
      rw [List.append_nil]
      exact finishes_same rfl
    · exact ⟨_, finishes_finished log c _ _ _⟩
  | drainEvents =>
    refine ⟨[], ?_⟩
    rw [List.append_nil]
    exact finishes_same (List.append_nil _)
  | replaceRegistry registry =>
    refine ⟨[], ?_⟩
    rw [List.append_nil]
    exact finishes_same rfl
  | recordRouteResult result audioMillis now =>
    refine ⟨[], ?_⟩
    rw [List.append_nil]
    exact finishes_same (c.recordRouteResult_lifecycle result audioMillis now).2.1

/-- The cache keeps the most recent records when sessions do not repeat. -/
theorem makeRoom_fresh {records : List TerminalSessionResult} {session : String}
    (hFresh : ∀ r ∈ records, r.session ≠ session) :
    AppController.makeRoom (records.drop (records.length - maxSessionResults)) session =
      records.drop (records.length + 1 - maxSessionResults) := by
  have hNone : (records.drop (records.length - maxSessionResults)).findIdx?
      (fun r => r.session == session) = none := by
    rw [List.findIdx?_eq_none_iff]
    intro r hr
    exact beq_eq_false_iff_ne.mpr (hFresh r (List.mem_of_mem_drop hr))
  rw [AppController.makeRoom, hNone]
  dsimp only
  rw [List.length_drop]
  split
  · rw [List.drop_drop]
    congr 1
    unfold maxSessionResults at *
    omega
  · congr 1
    unfold maxSessionResults at *
    omega

theorem record_ends (c : Command) (e : CommandEffect) :
    c.record.toList.map (·.session) ++
        (ControllerEntry.awaiting (.apply c, .applied (.ok e))).toList.map (·.value) =
      c.ends.toList.map (·.value) := by
  cases c <;> rfl

/-- A command that ends a session ends an active one, unless it comes late. -/
theorem ends_active {self : AppController} {c : Command} {e : CommandEffect} {m' : SessionMachine}
    {s : SessionId} (hAccepts : self.machine.Accepts c e m') (hEnds : c.ends = some s)
    (hRoom : self.events.length ≤ maxPendingEvents - 2) (hLate : ¬ LateEnd self (.apply c)) :
    self.machine.state.session = some s ∧ self.machine.state.isActive = true := by
  have openSession : ∀ {t}, self.machine.state.session = some t →
      (c = .cancel t ∨ ∃ error, c = .fail t error) → self.machine.state.isActive = true := by
    intro t ht hc
    rcases SessionState.active_or_terminal ht with ⟨hActive, _⟩ | ⟨_, hTerminal⟩
    · exact hActive
    · refine absurd ⟨t, ht, hTerminal, hRoom, ?_⟩ hLate
      rcases hc with rfl | ⟨error, rfl⟩
      · exact .inl rfl
      · exact .inr ⟨error, rfl⟩
  cases hAccepts with
  | cancel hState => cases hEnds; exact ⟨hState, openSession hState (.inl rfl)⟩
  | fail error hState => cases hEnds; exact ⟨hState, openSession hState (.inr ⟨error, rfl⟩)⟩
  | noSpeech hState => cases hEnds; rw [hState]; exact ⟨rfl, rfl⟩
  | insertionComplete hState => cases hEnds; rw [hState]; exact ⟨rfl, rfl⟩
  | start | stop | captureReady | captureStopped | transcriptReady | reset => cases hEnds

theorem terminal_ends {m m' : SessionMachine} {c : Command} {e : CommandEffect} {s : SessionId}
    (hAccepts : m.Accepts c e m') (hs : m'.state.session = some s)
    (hTerminal : m'.state.isTerminal = true) : c.ends = some s := by
  cases hAccepts with
  | cancel | fail | noSpeech | insertionComplete => exact hs
  | start | stop | captureReady | captureStopped | transcriptReady | reset => cases hTerminal

/-- The records are those of the ended sessions, in order, short of the one being completed. -/
structure Outcomes (log : List ControllerEntry) (c : AppController) : Prop where
  history : SessionHistory (sessionLog log) c.machine
  recorded : (finishes log c).map (·.session) ++ (awaitsFinish log).toList.map (·.value) =
    (ended (sessionLog log)).map (·.value)
  distinct : (ended (sessionLog log)).Nodup
  latest : ∀ s, c.machine.state.session = some s → c.machine.state.isTerminal = true →
    (ended (sessionLog log)).getLast? = some s
  cache : c.sessionResults =
    (finishes log c).drop ((finishes log c).length - maxSessionResults)
  room : ∀ s, awaitsFinish log = some s → c.events.length < maxPendingEvents

theorem initial_outcomes (registry : ProviderRegistry) (wake : WakeHandle) :
    Outcomes [] (AppController.withWake registry wake) where
  history := initial_history
  recorded := rfl
  distinct := List.nodup_nil
  latest := by intro s hs; cases hs
  cache := rfl
  room := by intro s hs; cases hs

namespace Outcomes

variable {log : List ControllerEntry} {c : AppController}

theorem sessions (h : Outcomes log c) (hSettled : awaitsFinish log = none) :
    (finishes log c).map (·.session) = (ended (sessionLog log)).map (·.value) := by
  have hRecorded := h.recorded
  rwa [hSettled, Option.toList_none, List.map_nil, List.append_nil] at hRecorded

/-- No record of a session that has not ended. -/
theorem fresh (h : Outcomes log c) {s : SessionId} (hs : s ∉ ended (sessionLog log)) :
    ∀ r ∈ finishes log c, r.session ≠ s.value := by
  intro r hr hSession
  have hMem : r.session ∈ (ended (sessionLog log)).map (·.value) := by
    rw [← h.recorded]
    exact List.mem_append_left _ (List.mem_map_of_mem hr)
  obtain ⟨t, ht, hValue⟩ := List.mem_map.mp hMem
  have hSame : t = s := by
    cases t
    cases s
    exact congrArg SessionId.mk (hValue.trans hSession)
  exact hs (hSame ▸ ht)

theorem cache_push (h : Outcomes log c) {result : TerminalSessionResult}
    (hFresh : ∀ r ∈ finishes log c, r.session ≠ result.session) :
    AppController.makeRoom c.sessionResults result.session ++ [result] =
      (finishes log c ++ [result]).drop
        ((finishes log c ++ [result]).length - maxSessionResults) := by
  rw [h.cache, makeRoom_fresh hFresh, List.length_append, List.length_singleton,
    List.drop_append_of_le_length]
  unfold maxSessionResults
  omega

theorem rejected (h : Outcomes log c) (hSettled : awaitsFinish log = none) (command : Command)
    (error : VoxError) : Outcomes (log ++ [(.apply command, .applied (.error error))]) c := by
  have hFinishes : finishes (log ++ [(.apply command, .applied (.error error))]) c =
      finishes log c := finishes_same rfl
  have hSession : sessionLog (log ++ [(.apply command, .applied (.error error))]) =
      sessionLog log ++ [(command, .error error)] := sessionLog_append _ _
  have hEnded : ended (sessionLog log ++ [(command, .error error)]) = ended (sessionLog log) := by
    simp [ended, SessionEntry.ended]
  have hAwaiting : ControllerEntry.awaiting (.apply command, .applied (.error error)) = none := by
    cases command <;> rfl
  constructor
  case history => rw [hSession]; exact h.history.rejected command error
  case recorded =>
    rw [hFinishes, awaitsFinish_snoc, hAwaiting, hSession, hEnded, h.sessions hSettled]
    exact List.append_nil _
  case distinct => rw [hSession, hEnded]; exact h.distinct
  case latest => rw [hSession, hEnded]; exact h.latest
  case cache => rw [hFinishes]; exact h.cache
  case room =>
    intro s hs
    rw [awaitsFinish_snoc, hAwaiting] at hs
    cases hs

theorem accepted (h : Outcomes log c) (hSettled : awaitsFinish log = none) {command : Command}
    {e : CommandEffect} {m' : SessionMachine} (hAccepts : c.machine.Accepts command e m')
    (hRoom : c.events.length ≤ maxPendingEvents - 2) (hLate : ¬ LateEnd c (.apply command))
    (hBound : (begun (sessionLog log ++ [(command, .ok e)])).length ≤ u64Max) :
    Outcomes (log ++ [(.apply command, .applied (.ok e))])
      ({ c with machine := m' }.publish command) := by
  have hFinishes := finishes_publish log c command e m'
  have hSession : sessionLog (log ++ [(.apply command, .applied (.ok e))]) =
      sessionLog log ++ [(command, .ok e)] := sessionLog_append _ _
  have hEnded : ended (sessionLog log ++ [(command, .ok e)]) =
      ended (sessionLog log) ++ command.ends.toList := by
    cases hCase : command.ends <;> simp [ended, SessionEntry.ended, hCase]
  have hFresh : ∀ s, command.ends = some s → s ∉ ended (sessionLog log) := by
    intro s hs
    obtain ⟨hCurrent, hActive⟩ := ends_active hAccepts hs hRoom hLate
    exact h.history.open_active s hCurrent hActive
  constructor
  case history =>
    rw [hSession, AppController.publish_machine]
    exact h.history.accepted hAccepts hBound
  case recorded =>
    rw [hFinishes, awaitsFinish_snoc, hSession, hEnded, List.map_append, List.append_assoc,
      record_ends, h.sessions hSettled, List.map_append]
  case distinct =>
    rw [hSession, hEnded]
    cases hEnds : command.ends with
    | none => rw [Option.toList_none, List.append_nil]; exact h.distinct
    | some s =>
      exact List.nodup_append_comm.mp (List.nodup_cons.mpr ⟨hFresh s hEnds, h.distinct⟩)
  case latest =>
    intro s hs hTerminal
    rw [AppController.publish_machine] at hs hTerminal
    rw [hSession, hEnded, terminal_ends hAccepts hs hTerminal]
    exact List.getLast?_concat
  case cache =>
    rw [hFinishes, AppController.publish_sessionResults]
    cases hRecord : command.record with
    | none => rw [Option.toList_none, List.append_nil]; exact h.cache
    | some result =>
      have hEnds : ∃ s, command.ends = some s ∧ result.session = s.value := by
        cases command <;> simp [Command.record, Command.terminal] at hRecord <;>
          (subst hRecord; exact ⟨_, rfl, rfl⟩)
      obtain ⟨s, hs, hValue⟩ := hEnds
      refine h.cache_push ?_
      rw [hValue]
      exact h.fresh (hFresh s hs)
  case room =>
    intro s hs
    rw [awaitsFinish_snoc] at hs
    have hRecord : command.record = none := by
      cases command <;> first | rfl | cases hs
    rw [AppController.publish_events, hRecord]
    simp only [Option.toList_none, List.map_nil, List.length_append, List.length_singleton]
    unfold maxPendingEvents at *
    omega

theorem finished (h : Outcomes log c) {s : SessionId} (hAwaits : awaitsFinish log = some s)
    (outcome errorCode backend : String) (charCount : Nat) (answer : Except VoxError Unit) :
    Outcomes (log ++ [(.finishSession s outcome errorCode backend charCount, .finished answer)])
      (c.queueSessionFinished ⟨s.value, outcome, errorCode, backend, charCount⟩).notify := by
  have hFinishes := finishes_finished log c ⟨s.value, outcome, errorCode, backend, charCount⟩
    (.finishSession s outcome errorCode backend charCount) answer
  have hSession : sessionLog (log ++
      [(.finishSession s outcome errorCode backend charCount, .finished answer)]) =
      sessionLog log := by
    rw [sessionLog_append]
    exact List.append_nil _
  have hRecorded := h.recorded
  rw [hAwaits, Option.toList_some, List.map_singleton] at hRecorded
  constructor
  case history => rw [hSession]; exact h.history
  case recorded =>
    rw [hFinishes, hSession, awaitsFinish_snoc, List.map_append, ← hRecorded]
    exact List.append_nil _
  case distinct => rw [hSession]; exact h.distinct
  case latest => rw [hSession]; exact h.latest
  case cache =>
    rw [hFinishes]
    refine h.cache_push ?_
    have hNodup : ((finishes log c).map (·.session) ++ [s.value]).Nodup := by
      rw [hRecorded]
      refine h.distinct.map ?_
      rintro ⟨a⟩ ⟨b⟩ hValue
      exact congrArg SessionId.mk hValue
    intro r hr hSame
    exact (List.nodup_append.mp hNodup).2.2 r.session (List.mem_map_of_mem hr) s.value
      (List.mem_singleton_self _) hSame
  case room => intro t ht; rw [awaitsFinish_snoc] at ht; cases ht

/-- Calls that leave the lifecycle alone, draining apart. -/
theorem aside (h : Outcomes log c) (hSettled : awaitsFinish log = none) {entry : ControllerEntry}
    {c' : AppController} (hEntry : entry.session = none ∧ entry.awaiting = none)
    (hMachine : c'.machine = c.machine) (hEvents : entry.drained ++ c'.events = c.events)
    (hResults : c'.sessionResults = c.sessionResults) : Outcomes (log ++ [entry]) c' := by
  have hFinishes : finishes (log ++ [entry]) c' = finishes log c := finishes_same hEvents
  have hNone : sessionLog [entry] = [] := by simp [sessionLog, hEntry.1]
  have hSession : sessionLog (log ++ [entry]) = sessionLog log := by
    rw [sessionLog_append, hNone, List.append_nil]
  constructor
  case history => rw [hSession, hMachine]; exact h.history
  case recorded =>
    rw [hFinishes, hSession, awaitsFinish_snoc, hEntry.2, h.sessions hSettled]
    exact List.append_nil _
  case distinct => rw [hSession]; exact h.distinct
  case latest => rw [hSession, hMachine]; exact h.latest
  case cache => rw [hFinishes, hResults]; exact h.cache
  case room => intro s hs; rw [awaitsFinish_snoc, hEntry.2] at hs; cases hs

theorem step (h : Outcomes log c) (call : ControllerCall)
    (hDiscipline : FinishDiscipline log c call) (hLate : ¬ LateEnd c call)
    (hBound : (begun (sessionLog (log ++ [(call, (c.call call).1)]))).length ≤ u64Max) :
    Outcomes (log ++ [(call, (c.call call).1)]) (c.call call).2 := by
  cases call with
  | apply command =>
    rw [AppController.call] at hBound ⊢
    rcases c.apply_cases command with ⟨error, hApply⟩ | ⟨e, m', hRoom, hAccepts, hApply⟩
    · rw [hApply]
      exact h.rejected hDiscipline command error
    · rw [hApply] at hBound ⊢
      rw [sessionLog_append] at hBound
      exact h.accepted hDiscipline hAccepts hRoom hLate hBound
  | finishSession s outcome errorCode backend charCount =>
    rw [AppController.call, AppController.finishSession_room (Nat.ne_of_lt (h.room s hDiscipline))]
    exact h.finished hDiscipline outcome errorCode backend charCount _
  | drainEvents => exact h.aside hDiscipline ⟨rfl, rfl⟩ rfl (List.append_nil _) rfl
  | replaceRegistry registry => exact h.aside hDiscipline ⟨rfl, rfl⟩ rfl rfl rfl
  | recordRouteResult result audioMillis now =>
    obtain ⟨hMachine, hEvents, hResults⟩ := c.recordRouteResult_lifecycle result audioMillis now
    exact h.aside hDiscipline ⟨rfl, rfl⟩ hMachine hEvents hResults

end Outcomes

end VoxType
