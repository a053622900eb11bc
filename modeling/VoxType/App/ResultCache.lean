import VoxType.App.TerminalOutcome
import VoxType.Library.Recent

/-!
# The cache of terminal results

What `session_result` answers after any calls: the latest record of the
session, as long as not too many other sessions have had theirs since.
-/

namespace VoxType

set_option autoImplicit false

/-- The terminal record of an accepted call. -/
def ControllerEntry.record : ControllerEntry → Option TerminalSessionResult
  | (.apply c, .applied (.ok _)) => c.record
  | (.finishSession session outcome errorCode backend charCount, .finished (.ok ())) =>
    some ⟨session.value, outcome, errorCode, backend, charCount⟩
  | _ => none

namespace AppController

theorem makeRoom_remember (results : List TerminalSessionResult) (result : TerminalSessionResult) :
    makeRoom results result.session ++ [result] =
      Recent.remember TerminalSessionResult.session maxSessionResults results result := by
  have hTest : (fun other : TerminalSessionResult => other.session == result.session) =
      fun other => decide (other.session = result.session) := by
    funext other
    exact beq_eq_decide _ _
  rw [makeRoom, Recent.remember, List.eraseP_eq_eraseIdx, hTest]
  cases results.findIdx? fun other => decide (other.session = result.session) <;> rfl

/-- A call queues the record it has, if any, and the cache remembers it. -/
theorem call_results (log : List ControllerEntry) (c : AppController) (call : ControllerCall) :
    (ControllerEntry.record (call, (c.call call).1) = none ∧
        finishes (log ++ [(call, (c.call call).1)]) (c.call call).2 = finishes log c ∧
        (c.call call).2.sessionResults = c.sessionResults) ∨
      ∃ result, ControllerEntry.record (call, (c.call call).1) = some result ∧
        finishes (log ++ [(call, (c.call call).1)]) (c.call call).2 = finishes log c ++ [result] ∧
        (c.call call).2.sessionResults = makeRoom c.sessionResults result.session ++ [result] := by
  cases call with
  | apply command =>
    rcases c.apply_cases command with ⟨error, hApply⟩ | ⟨e, m', _, _, hApply⟩
    · rw [AppController.call, hApply]
      exact .inl ⟨rfl, finishes_same rfl, rfl⟩
    · have hQueued := finishes_publish log c command e m'
      have hCached := publish_sessionResults { c with machine := m' } command
      rw [AppController.call, hApply]
      change (command.record = none ∧ finishes (log ++ [(.apply command, .applied (.ok e))])
        ({ c with machine := m' }.publish command) = _ ∧ _) ∨ ∃ result, command.record = _ ∧ _
      cases hRecord : command.record with
      | none =>
        rw [hRecord] at hQueued hCached
        exact .inl ⟨rfl, hQueued.trans (List.append_nil _), hCached⟩
      | some result =>
        rw [hRecord] at hQueued hCached
        exact .inr ⟨result, rfl, hQueued, hCached⟩
  | finishSession s outcome errorCode backend charCount =>
    rw [AppController.call, AppController.finishSession]
    split
    · exact .inl ⟨rfl, finishes_same rfl, rfl⟩
    · exact .inr ⟨_, rfl, finishes_finished log c _ _ _, rfl⟩
  | drainEvents => exact .inl ⟨rfl, finishes_same (List.append_nil _), rfl⟩
  | replaceRegistry registry => exact .inl ⟨rfl, finishes_same rfl, rfl⟩
  | recordRouteResult result audioMillis now =>
    have hSame := c.recordRouteResult_lifecycle result audioMillis now
    exact .inl ⟨rfl, finishes_same hSame.2.1, hSame.2.2⟩

end AppController

section Runs

variable (registry : ProviderRegistry) (wake : WakeHandle) (calls : List ControllerCall)

/-- The terminal records that a run has queued. -/
def queuedResults : List TerminalSessionResult :=
  finishes ((controllerMachine registry wake).log calls)
    ((controllerMachine registry wake).state calls)

/-- How many sessions have had a record since the latest one of the session. -/
def sessionsSince (session : String) : Nat :=
  Recent.since TerminalSessionResult.session session (queuedResults registry wake calls)

/-- The latest record queued for the session. -/
def latestResult (session : String) : Option TerminalSessionResult :=
  (queuedResults registry wake calls).reverse.find? fun result => result.session = session

theorem sessionResults_recent :
    ((controllerMachine registry wake).state calls).sessionResults =
      Recent.recent TerminalSessionResult.session maxSessionResults
        (queuedResults registry wake calls) := by
  refine (controllerMachine registry wake).invariant
    (P := fun log c => c.sessionResults =
      Recent.recent TerminalSessionResult.session maxSessionResults (finishes log c)) rfl ?_ calls
  intro log c call hCached
  change (c.call call).2.sessionResults = Recent.recent _ _
    (finishes (log ++ [(call, (c.call call).1)]) (c.call call).2)
  rcases c.call_results log call with ⟨_, hQueued, hSame⟩ | ⟨result, _, hQueued, hRemembered⟩
  · rw [hQueued, hSame, hCached]
  · rw [hQueued, hRemembered, AppController.makeRoom_remember, hCached]
    exact (Recent.recent_snoc 31 _ result).symm

/-- What is queued are the records of the accepted calls, in their order. -/
theorem queuedResults_log :
    queuedResults registry wake calls =
      ((controllerMachine registry wake).log calls).filterMap ControllerEntry.record := by
  refine (controllerMachine registry wake).invariant
    (P := fun log c => finishes log c = log.filterMap ControllerEntry.record) rfl ?_ calls
  intro log c call hQueued
  change finishes (log ++ [(call, (c.call call).1)]) (c.call call).2 =
    (log ++ [(call, (c.call call).1)]).filterMap ControllerEntry.record
  rw [List.filterMap_append, ← hQueued]
  rcases c.call_results log call with ⟨hNone, hSame, _⟩ | ⟨result, hSome, hAdded, _⟩
  · rw [hSame, List.filterMap_cons_none hNone, List.filterMap_nil, List.append_nil]
  · rw [hAdded, List.filterMap_cons_some hSome, List.filterMap_nil]

/-- The cache answers by the history. -/
theorem sessionResult_history (session : String) :
    ((controllerMachine registry wake).state calls).sessionResult session =
      if sessionsSince registry wake calls session < maxSessionResults then
        latestResult registry wake calls session
      else none := by
  have hTest : (fun result : TerminalSessionResult => result.session == session) =
      fun result => decide (result.session = session) := by
    funext result
    exact beq_eq_decide _ _
  rw [AppController.sessionResult, sessionResults_recent, hTest, Recent.find?_recent]
  rfl

/-- The cache holds distinct sessions within its bound, and answers by the records of the accepted
calls. -/
theorem sessionResult_recent :
    (((controllerMachine registry wake).state calls).sessionResults.map
        TerminalSessionResult.session).Nodup ∧
      ((controllerMachine registry wake).state calls).sessionResults.length ≤ maxSessionResults ∧
      queuedResults registry wake calls =
        ((controllerMachine registry wake).log calls).filterMap ControllerEntry.record ∧
      ∀ session, ((controllerMachine registry wake).state calls).sessionResult session =
        if sessionsSince registry wake calls session < maxSessionResults then
          latestResult registry wake calls session
        else none := by
  have hCached := sessionResults_recent registry wake calls
  refine ⟨?_, ?_, queuedResults_log registry wake calls, sessionResult_history registry wake calls⟩
  · rw [hCached]
    exact Recent.nodup_keys_recent _ _
  · rw [hCached]
    exact Recent.length_recent_le _ _

end Runs

end VoxType
