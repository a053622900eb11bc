import VoxType.App.TerminalOutcome

/-!
# One terminal outcome per session

Exactly the runs without a late `Cancel` or `Fail` announce one outcome for
each session that ends, and keep it.
-/

namespace VoxType

set_option autoImplicit false

section Runs

variable (registry : ProviderRegistry) (wake : WakeHandle)

/-- The terminal records of one session in a run. -/
def outcomesOf (calls : List ControllerCall) (s : SessionId) : List TerminalSessionResult :=
  (finishes ((controllerMachine registry wake).log calls)
    ((controllerMachine registry wake).state calls)).filter fun r => r.session == s.value

/-- Once a session is over and its record queued, that record is the only one, the cache holds
it, and later calls add none and change nothing of it short of its eviction. -/
def OneOutcome (calls : List ControllerCall) : Prop :=
  ∀ reached later rest s, calls = reached ++ later ++ rest →
    ((controllerMachine registry wake).state reached).machine.state.session = some s →
    ((controllerMachine registry wake).state reached).machine.state.isTerminal = true →
    awaitsFinish ((controllerMachine registry wake).log reached) = none →
    ∃ record, outcomesOf registry wake reached s = [record] ∧
      ((controllerMachine registry wake).state reached).sessionResult s.value = some record ∧
      outcomesOf registry wake (reached ++ later) s = [record] ∧
      (((controllerMachine registry wake).state (reached ++ later)).sessionResult s.value =
          some record ∨
        ((controllerMachine registry wake).state (reached ++ later)).sessionResult s.value = none)

end Runs

variable {registry : ProviderRegistry} {wake : WakeHandle}

/-- A late end queues a second record. -/
theorem late_end_record (log : List ControllerEntry) {c : AppController} {call : ControllerCall}
    {s : SessionId} (hSession : c.machine.state.session = some s)
    (hRoom : c.events.length ≤ maxPendingEvents - 2)
    (hCall : call = .apply (.cancel s) ∨ ∃ error, call = .apply (.fail s error)) :
    ∃ record : TerminalSessionResult, record.session = s.value ∧
      finishes (log ++ [(call, (c.call call).1)]) (c.call call).2 =
        finishes log c ++ [record] := by
  rcases hCall with rfl | ⟨error, rfl⟩
  · refine ⟨⟨s.value, "cancelled", "", "", 0⟩, rfl, ?_⟩
    rw [AppController.call, AppController.apply_accepts hRoom (.cancel hSession)]
    exact finishes_publish log c (.cancel s) _ _
  · refine ⟨⟨s.value, "failed", error.code, "", 0⟩, rfl, ?_⟩
    rw [AppController.call, AppController.apply_accepts hRoom (.fail error hSession)]
    exact finishes_publish log c (.fail s error) _ _

theorem filter_session {records : List TerminalSessionResult} {record : TerminalSessionResult}
    (hNodup : (records.map (·.session)).Nodup) (hMem : record ∈ records) :
    records.filter (fun r => r.session == record.session) = [record] := by
  induction records with
  | nil => cases hMem
  | cons r records ih =>
    rw [List.map_cons, List.nodup_cons] at hNodup
    obtain ⟨hHead, hTail⟩ := hNodup
    rcases List.mem_cons.mp hMem with rfl | hMem
    · rw [List.filter_cons, if_pos (beq_self_eq_true _), List.cons.injEq, List.filter_eq_nil_iff]
      refine ⟨rfl, ?_⟩
      intro r hr hSame
      exact hHead (eq_of_beq hSame ▸ List.mem_map_of_mem hr)
    · have hOther : ¬ (r.session == record.session) = true := by
        intro hSame
        exact hHead (eq_of_beq hSame ▸ List.mem_map_of_mem hMem)
      rw [List.filter_cons, if_neg hOther, ih hTail hMem]

/-- What the cache returns for a session is one of its records. -/
theorem sessionResult_cached {c : AppController} {records : List TerminalSessionResult} {k : Nat}
    {record : TerminalSessionResult} (hCache : c.sessionResults = records.drop k)
    (hOnly : records.filter (fun r => r.session == record.session) = [record]) :
    c.sessionResult record.session = some record ∨ c.sessionResult record.session = none := by
  rw [AppController.sessionResult]
  cases hFind : c.sessionResults.reverse.find? (fun r => r.session == record.session) with
  | none => exact .inr rfl
  | some found =>
    have hMem : found ∈ records := by
      refine List.mem_of_mem_drop (i := k) ?_
      rw [← hCache]
      exact List.mem_reverse.mp (List.mem_of_find?_eq_some hFind)
    have hSame := List.find?_some hFind
    have hFiltered : found ∈ records.filter (fun r => r.session == record.session) :=
      List.mem_filter.mpr ⟨hMem, hSame⟩
    rw [hOnly, List.mem_singleton] at hFiltered
    rw [hFiltered]
    exact .inl rfl

theorem sessionResult_latest {c : AppController} (records : List TerminalSessionResult)
    {record : TerminalSessionResult}
    (hCache : c.sessionResults =
      (records ++ [record]).drop ((records ++ [record]).length - maxSessionResults)) :
    c.sessionResult record.session = some record := by
  have hDrop : (records ++ [record]).length - maxSessionResults ≤ records.length := by
    rw [List.length_append, List.length_singleton]
    unfold maxSessionResults
    omega
  rw [AppController.sessionResult, hCache, List.drop_append_of_le_length hDrop,
    List.reverse_append, List.reverse_singleton, List.singleton_append, List.find?_cons,
    beq_self_eq_true]

theorem value_injective : Function.Injective SessionId.value := by
  rintro ⟨a⟩ ⟨b⟩ hValue
  exact congrArg SessionId.mk hValue

namespace Outcomes

variable {log : List ControllerEntry} {c : AppController}

theorem records_nodup (h : Outcomes log c) : ((finishes log c).map (·.session)).Nodup := by
  have hEnded : ((ended (sessionLog log)).map (·.value)).Nodup := h.distinct.map value_injective
  rw [← h.recorded] at hEnded
  exact (List.nodup_append.mp hEnded).1

/-- The session that is over has the last record. -/
theorem settled (h : Outcomes log c) (hSettled : awaitsFinish log = none) {s : SessionId}
    (hSession : c.machine.state.session = some s) (hTerminal : c.machine.state.isTerminal = true) :
    ∃ records record, finishes log c = records ++ [record] ∧ record.session = s.value := by
  have hLast : ((finishes log c).map (·.session)).getLast? = some s.value := by
    rw [h.sessions hSettled, List.getLast?_map, h.latest s hSession hTerminal]
    rfl
  rw [List.getLast?_map] at hLast
  cases hRecords : (finishes log c).getLast? with
  | none => rw [hRecords] at hLast; cases hLast
  | some record =>
    obtain ⟨records, hSplit⟩ := List.getLast?_eq_some_iff.mp hRecords
    rw [hRecords] at hLast
    exact ⟨records, record, hSplit, Option.some.inj hLast⟩

end Outcomes

theorem finishes_run (registry : ProviderRegistry) (wake : WakeHandle)
    (before after : List ControllerCall) :
    ∃ extra, finishes ((controllerMachine registry wake).log (before ++ after))
        ((controllerMachine registry wake).state (before ++ after)) =
      finishes ((controllerMachine registry wake).log before)
        ((controllerMachine registry wake).state before) ++ extra := by
  induction after using List.reverseRecOn with
  | nil => exact ⟨[], by rw [List.append_nil, List.append_nil]⟩
  | append_singleton after call ih =>
    obtain ⟨extra, hExtra⟩ := ih
    obtain ⟨more, hMore⟩ := finishes_call ((controllerMachine registry wake).log (before ++ after))
      ((controllerMachine registry wake).state (before ++ after)) call
    refine ⟨extra ++ more, ?_⟩
    rw [← List.append_assoc before, Transition.Machine.log_snoc, Transition.Machine.state_snoc,
      ← List.append_assoc _ extra, ← hExtra]
    exact hMore

theorem outcomes_run {calls : List ControllerCall}
    (hDiscipline : (controllerMachine registry wake).Along FinishDiscipline calls)
    (hLate : (controllerMachine registry wake).Along (fun _ c call => ¬ LateEnd c call) calls)
    (hStarts : (begun (sessionLog ((controllerMachine registry wake).log calls))).length ≤
      u64Max) :
    Outcomes ((controllerMachine registry wake).log calls)
      ((controllerMachine registry wake).state calls) := by
  induction calls using List.reverseRecOn with
  | nil => exact initial_outcomes registry wake
  | append_singleton calls call ih =>
    obtain ⟨hDiscipline, hCall⟩ := (Transition.Machine.along_snoc _ _ _ _).mp hDiscipline
    obtain ⟨hLate, hNotLate⟩ := (Transition.Machine.along_snoc _ _ _ _).mp hLate
    rw [Transition.Machine.log_snoc] at hStarts
    rw [Transition.Machine.log_snoc, Transition.Machine.state_snoc]
    refine (ih hDiscipline hLate ?_).step call hCall hNotLate hStarts
    rw [sessionLog_append, begun_append, List.length_append] at hStarts
    omega

theorem begun_prefix_run (registry : ProviderRegistry) (wake : WakeHandle)
    (before after : List ControllerCall) :
    (begun (sessionLog ((controllerMachine registry wake).log before))).length ≤
      (begun (sessionLog ((controllerMachine registry wake).log (before ++ after)))).length := by
  rw [Transition.Machine.log_append, sessionLog_append, begun_append, List.length_append]
  omega

/-- One session end of a run without late ends: its one record stays the answer until it is evicted. -/
theorem one_outcome_of_outcomes {reached later : List ControllerCall} {s : SessionId}
    (hReached : Outcomes ((controllerMachine registry wake).log reached)
      ((controllerMachine registry wake).state reached))
    (hLater : Outcomes ((controllerMachine registry wake).log (reached ++ later))
      ((controllerMachine registry wake).state (reached ++ later)))
    (hSession : ((controllerMachine registry wake).state reached).machine.state.session = some s)
    (hTerminal : ((controllerMachine registry wake).state reached).machine.state.isTerminal = true)
    (hSettled : awaitsFinish ((controllerMachine registry wake).log reached) = none) :
    ∃ record, outcomesOf registry wake reached s = [record] ∧
      ((controllerMachine registry wake).state reached).sessionResult s.value = some record ∧
      outcomesOf registry wake (reached ++ later) s = [record] ∧
      (((controllerMachine registry wake).state (reached ++ later)).sessionResult s.value =
          some record ∨
        ((controllerMachine registry wake).state (reached ++ later)).sessionResult s.value =
          none) := by
  obtain ⟨records, record, hRecords, hValue⟩ := hReached.settled hSettled hSession hTerminal
  obtain ⟨extra, hExtra⟩ := finishes_run registry wake reached later
  have hMem : record ∈ finishes ((controllerMachine registry wake).log reached)
      ((controllerMachine registry wake).state reached) := by
    rw [hRecords]
    exact List.mem_append_right _ (List.mem_singleton_self _)
  have hMemLater : record ∈ finishes ((controllerMachine registry wake).log (reached ++ later))
      ((controllerMachine registry wake).state (reached ++ later)) := by
    rw [hExtra]
    exact List.mem_append_left _ hMem
  have hOnly := filter_session hLater.records_nodup hMemLater
  refine ⟨record, ?_, ?_, ?_, ?_⟩
  · rw [outcomesOf, ← hValue]
    exact filter_session hReached.records_nodup hMem
  · rw [← hValue]
    refine sessionResult_latest records ?_
    rw [← hRecords]
    exact hReached.cache
  · rw [outcomesOf, ← hValue]
    exact hOnly
  · rw [← hValue]
    exact sessionResult_cached hLater.cache hOnly

theorem one_outcome_iff (registry : ProviderRegistry) (wake : WakeHandle)
    (calls : List ControllerCall)
    (hDiscipline : (controllerMachine registry wake).Along FinishDiscipline calls)
    (hStarts : (begun (sessionLog ((controllerMachine registry wake).log calls))).length ≤
      u64Max) :
    OneOutcome registry wake calls ↔
      (controllerMachine registry wake).Along (fun _ c call => ¬ LateEnd c call) calls := by
  constructor
  · rintro hOne before call after hCalls ⟨s, hSession, hTerminal, hRoom, hCall⟩
    have hSettled : awaitsFinish ((controllerMachine registry wake).log before) = none := by
      have hAt := hDiscipline before call after hCalls
      rcases hCall with rfl | ⟨error, rfl⟩ <;> exact hAt
    obtain ⟨record, hFirst, _, hSecond, _⟩ := hOne before [call] after s
      (by rw [hCalls, List.append_assoc, List.singleton_append]) hSession hTerminal hSettled
    obtain ⟨again, hAgain, hFinishes⟩ := late_end_record
      ((controllerMachine registry wake).log before) hSession hRoom hCall
    rw [outcomesOf, Transition.Machine.log_snoc, Transition.Machine.state_snoc] at hSecond
    change (finishes _ (AppController.call _ call).2).filter _ = _ at hSecond
    rw [outcomesOf] at hFirst
    have hLength := congrArg List.length hSecond
    rw [show (controllerMachine registry wake).step = AppController.call from rfl, hFinishes,
      List.filter_append, hFirst, List.filter_cons_of_pos (by rw [hAgain]; exact beq_self_eq_true _)]
      at hLength
    cases hLength
  · intro hLate reached later rest s hCalls hSession hTerminal hSettled
    subst hCalls
    have hLaterRun : (controllerMachine registry wake).Along FinishDiscipline (reached ++ later) :=
      hDiscipline.earlier
    have hLaterLate := Transition.Machine.Along.earlier hLate
    have hLaterStarts := Nat.le_trans (begun_prefix_run registry wake
      (reached ++ later) rest) hStarts
    exact one_outcome_of_outcomes
      (outcomes_run hLaterRun.earlier hLaterLate.earlier
        (Nat.le_trans (begun_prefix_run registry wake reached later) hLaterStarts))
      (outcomes_run hLaterRun hLaterLate hLaterStarts) hSession hTerminal hSettled

/-- A session that is cancelled once, and its event drained. -/
theorem one_outcome_cancelledOnce :
    OneOutcome ⟨[]⟩ .disabled
      [.apply (.start ⟨.toggle, none⟩), .apply (.cancel ⟨"session-1"⟩), .drainEvents] := by
  refine (one_outcome_iff ⟨[]⟩ .disabled _ ?_ (by decide)).mpr ?_
  · rw [Transition.Machine.along_iff_alongFrom]
    exact ⟨rfl, rfl, rfl, trivial⟩
  · rw [Transition.Machine.along_iff_alongFrom]
    refine ⟨?_, ?_, ?_, trivial⟩
    · rintro ⟨s, _, hTerminal, _⟩
      cases hTerminal
    · rintro ⟨s, _, hTerminal, _⟩
      cases hTerminal
    · rintro ⟨s, _, _, _, hCall | ⟨error, hCall⟩⟩ <;> cases hCall

/-- A second `Cancel` of a cancelled session is accepted and announced again. -/
theorem two_outcomes_cancelledTwice :
    let calls : List ControllerCall := [.apply (.start ⟨.toggle, none⟩),
      .apply (.cancel ⟨"session-1"⟩), .apply (.cancel ⟨"session-1"⟩)]
    (controllerMachine ⟨[]⟩ .disabled).Along FinishDiscipline calls ∧
      (begun (sessionLog ((controllerMachine ⟨[]⟩ .disabled).log calls))).length ≤ u64Max ∧
      ¬ OneOutcome ⟨[]⟩ .disabled calls := by
  refine ⟨?_, by decide, ?_⟩
  · rw [Transition.Machine.along_iff_alongFrom]
    exact ⟨rfl, rfl, rfl, trivial⟩
  · intro hOne
    obtain ⟨record, _, _, hSecond, _⟩ := hOne
      [.apply (.start ⟨.toggle, none⟩), .apply (.cancel ⟨"session-1"⟩)]
      [.apply (.cancel ⟨"session-1"⟩)] [] ⟨"session-1"⟩ rfl rfl rfl rfl
    have hLength := congrArg List.length hSecond
    rw [List.length_singleton] at hLength
    revert hLength
    decide

end VoxType
