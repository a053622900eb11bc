import VoxType.App.TerminalOutcome

/-!
# The event log of the controller

Drained and pending events together replay the session machine on the accepted
commands: one state for each, and its terminal record right behind it.
-/

namespace VoxType

set_option autoImplicit false

/-- The events of a run, drained or still pending. -/
def published (log : List ControllerEntry) (c : AppController) : List AppEvent :=
  log.flatMap ControllerEntry.drained ++ c.events

def AppEvent.change : AppEvent → Option (String × String)
  | .stateChanged state session => some (state, session)
  | .sessionFinished .. => none

/-- The `StateChanged` events of a list. -/
def stateChanges (events : List AppEvent) : List (String × String) :=
  events.filterMap AppEvent.change

def ControllerEntry.accepted : ControllerEntry → Option Command
  | (.apply c, .applied (.ok _)) => some c
  | _ => none

def accepted (log : List ControllerEntry) : List Command := log.filterMap ControllerEntry.accepted

def SessionMachine.snapshot (m : SessionMachine) : String × String :=
  (m.state.name, AppController.sessionText m.state)

/-- The session machine, telling the state it reaches. -/
def visitor : Transition.Machine SessionMachine Command (String × String) where
  start := sessionMachine.start
  step m c := (((sessionMachine.step m c).2).snapshot, (sessionMachine.step m c).2)

/-- The states the session machine reaches, one for each command. -/
def visits (commands : List Command) : List (String × String) :=
  (visitor.log commands).map Prod.snd

/-- The session machine, telling the events of an answered call. -/
def announcer : Transition.Machine SessionMachine ControllerEntry (List AppEvent) where
  start := sessionMachine.start
  step m
    | (.apply c, .applied (.ok _)) =>
      (.stateChanged (visitor.step m c).1.1 (visitor.step m c).1.2 ::
          c.record.toList.map TerminalSessionResult.event,
        (visitor.step m c).2)
    | (.finishSession session outcome errorCode backend charCount, .finished (.ok ())) =>
      ([.sessionFinished session.value outcome errorCode backend charCount], m)
    | _ => ([], m)

def announced (log : List ControllerEntry) : List AppEvent :=
  .stateChanged "idle" "" :: (announcer.log log).flatMap Prod.snd

/-- The events and the states of a run. -/
structure EventLog (registry : ProviderRegistry) (wake : WakeHandle)
    (calls : List ControllerCall) : Prop where
  /-- One `StateChanged` for each accepted command, after the initial one. -/
  changes : stateChanges (published ((controllerMachine registry wake).log calls)
      ((controllerMachine registry wake).state calls)) =
    ("idle", "") :: visits (accepted ((controllerMachine registry wake).log calls))
  machine : ((controllerMachine registry wake).state calls).machine =
    sessionMachine.state (accepted ((controllerMachine registry wake).log calls))
  /-- A command that ends a session has its record next to its state. -/
  terminal : ∀ before c e after record,
    (controllerMachine registry wake).log calls =
      before ++ (.apply c, .applied (.ok e)) :: after →
    c.record = some record →
    ∃ left right,
      published ((controllerMachine registry wake).log calls)
          ((controllerMachine registry wake).state calls) =
        left ++ .stateChanged (sessionMachine.state (accepted before ++ [c])).snapshot.1
            (sessionMachine.state (accepted before ++ [c])).snapshot.2 ::
          record.event :: right ∧
      stateChanges left = ("idle", "") :: visits (accepted before)
  rejected : ∀ before call after error, calls = before ++ call :: after →
    (((controllerMachine registry wake).state before).call call).1 = .applied (.error error) ∨
      (((controllerMachine registry wake).state before).call call).1 = .finished (.error error) →
    (((controllerMachine registry wake).state before).call call).2 =
      (controllerMachine registry wake).state before
  bounded : ∀ before after, calls = before ++ after →
    ((controllerMachine registry wake).state before).events.length ≤ maxPendingEvents

@[simp] theorem stateChanges_append (left right : List AppEvent) :
    stateChanges (left ++ right) = stateChanges left ++ stateChanges right :=
  List.filterMap_append

@[simp] theorem accepted_append (left right : List ControllerEntry) :
    accepted (left ++ right) = accepted left ++ accepted right := List.filterMap_append

theorem visits_snoc (commands : List Command) (c : Command) :
    visits (commands ++ [c]) = visits commands ++ [(visitor.step (visitor.state commands) c).1] := by
  rw [visits, visitor.log_snoc, List.map_append]
  rfl

/-- Both machines take the steps of the session machine. -/
theorem visitor_state (commands : List Command) :
    visitor.state commands = sessionMachine.state commands := by
  induction commands using List.reverseRecOn with
  | nil => rfl
  | append_singleton commands c ih =>
    rw [visitor.state_snoc, sessionMachine.state_snoc, ih]
    rfl

theorem announcer_step (m : SessionMachine) (entry : ControllerEntry) :
    (entry.accepted = none ∧ (announcer.step m entry).2 = m ∧
        stateChanges (announcer.step m entry).1 = []) ∨
      ∃ c, entry.accepted = some c ∧ (announcer.step m entry).2 = (visitor.step m c).2 ∧
        (announcer.step m entry).1 =
          .stateChanged (visitor.step m c).1.1 (visitor.step m c).1.2 ::
            c.record.toList.map TerminalSessionResult.event := by
  obtain ⟨call, answer⟩ := entry
  cases call with
  | apply c =>
    cases answer with
    | applied result =>
      cases result with
      | ok e => exact .inr ⟨c, rfl, rfl, rfl⟩
      | error => exact .inl ⟨rfl, rfl, rfl⟩
    | _ => exact .inl ⟨rfl, rfl, rfl⟩
  | finishSession =>
    cases answer with
    | finished result =>
      cases result with
      | ok => exact .inl ⟨rfl, rfl, rfl⟩
      | error => exact .inl ⟨rfl, rfl, rfl⟩
    | _ => exact .inl ⟨rfl, rfl, rfl⟩
  | _ => exact .inl ⟨rfl, rfl, rfl⟩

theorem announcer_state (log : List ControllerEntry) :
    announcer.state log = visitor.state (accepted log) := by
  induction log using List.reverseRecOn with
  | nil => rfl
  | append_singleton log entry ih =>
    rw [announcer.state_snoc, accepted_append, ih]
    rcases announcer_step (visitor.state (accepted log)) entry with
      ⟨hNone, hState, _⟩ | ⟨c, hSome, hState, _⟩
    · rw [hState, show accepted [entry] = [] from List.filterMap_cons_none hNone, List.append_nil]
    · rw [hState, show accepted [entry] = [c] from List.filterMap_cons_some hSome,
        visitor.state_snoc]

theorem announced_snoc (log : List ControllerEntry) (entry : ControllerEntry) :
    announced (log ++ [entry]) =
      announced log ++ (announcer.step (visitor.state (accepted log)) entry).1 := by
  rw [announced, announcer.log_snoc, List.flatMap_append, announcer_state]
  exact congrArg (fun events => announced log ++ events) (List.append_nil _)

theorem stateChanges_records (results : List TerminalSessionResult) :
    stateChanges (results.map TerminalSessionResult.event) = [] := by
  induction results with
  | nil => rfl
  | cons result results ih => exact ih

theorem stateChanges_announced (log : List ControllerEntry) :
    stateChanges (announced log) = ("idle", "") :: visits (accepted log) := by
  induction log using List.reverseRecOn with
  | nil => rfl
  | append_singleton log entry ih =>
    rw [announced_snoc, stateChanges_append, ih, accepted_append]
    rcases announcer_step (visitor.state (accepted log)) entry with
      ⟨hNone, _, hEvents⟩ | ⟨c, hSome, _, hEvents⟩
    · rw [hEvents, show accepted [entry] = [] from List.filterMap_cons_none hNone, List.append_nil,
        List.append_nil]
    · rw [show accepted [entry] = [c] from List.filterMap_cons_some hSome, visits_snoc, hEvents]
      change _ ++ _ :: stateChanges (c.record.toList.map _) = _
      rw [stateChanges_records]
      rfl

/-- What has been published refines the announcements of the session machine. -/
structure Announces (log : List ControllerEntry) (c : AppController) : Prop where
  events : published log c = announced log
  machine : c.machine = visitor.state (accepted log)
  bounded : c.events.length ≤ maxPendingEvents

theorem Announces.initial (registry : ProviderRegistry) (wake : WakeHandle) :
    Announces [] (AppController.withWake registry wake) :=
  ⟨rfl, rfl, Nat.le_of_ble_eq_true rfl⟩

theorem published_snoc (log : List ControllerEntry) (entry : ControllerEntry) (c : AppController) :
    published (log ++ [entry]) c =
      log.flatMap ControllerEntry.drained ++ (entry.drained ++ c.events) := by
  rw [published, List.flatMap_append, List.append_assoc]
  exact congrArg (fun events => _ ++ (events ++ c.events)) (List.append_nil _)

namespace Announces

variable {log : List ControllerEntry} {c c' : AppController}

/-- Calls that publish nothing. -/
theorem silent (h : Announces log c) {entry : ControllerEntry}
    (hNone : entry.accepted = none) (hAnnounced : ∀ m, (announcer.step m entry).1 = [])
    (hMachine : c'.machine = c.machine) (hEvents : entry.drained ++ c'.events = c.events) :
    Announces (log ++ [entry]) c' := by
  have hAccepted : accepted (log ++ [entry]) = accepted log := by
    rw [accepted_append, show accepted [entry] = [] from List.filterMap_cons_none hNone,
      List.append_nil]
  refine ⟨?_, ?_, ?_⟩
  · rw [published_snoc, hEvents, announced_snoc, hAnnounced, List.append_nil]
    exact h.events
  · rw [hMachine, hAccepted]
    exact h.machine
  · have hLength := congrArg List.length hEvents
    rw [List.length_append] at hLength
    have hBounded := h.bounded
    omega

theorem accept (h : Announces log c) {command : Command} {e : CommandEffect} {m' : SessionMachine}
    (hRoom : c.events.length ≤ maxPendingEvents - 2) (hAccepts : c.machine.Accepts command e m') :
    Announces (log ++ [(.apply command, .applied (.ok e))])
      ({ c with machine := m' }.publish command) := by
  have hStep : visitor.step (visitor.state (accepted log)) command = (m'.snapshot, m') := by
    rw [← h.machine]
    change (((c.machine.apply command).2).snapshot, (c.machine.apply command).2) = _
    rw [hAccepts.apply_eq]
  have hEvents := AppController.publish_events { c with machine := m' } command
  refine ⟨?_, ?_, ?_⟩
  · rw [published_snoc, announced_snoc, hEvents, ← h.events, published, List.append_assoc]
    change _ ++ ([] ++ (c.events ++ _)) = _ ++ (c.events ++ (_ :: _))
    rw [hStep]
    rfl
  · rw [AppController.publish_machine, accepted_append]
    change m' = visitor.state (accepted log ++ [command])
    rw [visitor.state_snoc, hStep]
  · rw [hEvents, List.length_append, List.length_cons, List.length_map]
    have hRecord : command.record.toList.length ≤ 1 := Option.length_toList_le
    change c.events.length + _ ≤ _
    unfold maxPendingEvents at *
    omega

theorem call (h : Announces log c) (call : ControllerCall) :
    Announces (log ++ [(call, (c.call call).1)]) (c.call call).2 := by
  cases call with
  | apply command =>
    rcases c.apply_cases command with ⟨error, hApply⟩ | ⟨e, m', hRoom, hAccepts, hApply⟩
    · rw [AppController.call, hApply]
      exact h.silent rfl (fun _ => rfl) rfl rfl
    · rw [AppController.call, hApply]
      exact h.accept hRoom hAccepts
  | finishSession session outcome errorCode backend charCount =>
    rw [AppController.call, AppController.finishSession]
    split
    · exact h.silent rfl (fun _ => rfl) rfl rfl
    · rename_i hRoom
      refine ⟨?_, ?_, ?_⟩
      · rw [published_snoc, announced_snoc, ← h.events, published, List.append_assoc]
        rfl
      · rw [accepted_append]
        exact h.machine.trans (congrArg visitor.state (List.append_nil _).symm)
      · have hBounded := h.bounded
        change (c.events ++ [_]).length ≤ _
        rw [List.length_append, List.length_singleton]
        omega
  | drainEvents => exact h.silent rfl (fun _ => rfl) rfl (List.append_nil _)
  | replaceRegistry registry => exact h.silent rfl (fun _ => rfl) rfl rfl
  | recordRouteResult result audioMillis now =>
    obtain ⟨hMachine, hEvents, _⟩ := c.recordRouteResult_lifecycle result audioMillis now
    exact h.silent rfl (fun _ => rfl) hMachine hEvents

end Announces

section Runs

variable (registry : ProviderRegistry) (wake : WakeHandle)

theorem announces_run (calls : List ControllerCall) :
    Announces ((controllerMachine registry wake).log calls)
      ((controllerMachine registry wake).state calls) :=
  (controllerMachine registry wake).invariant (.initial registry wake)
    (fun _ _ call h => h.call call) calls

theorem rejected_unchanged (c : AppController) (call : ControllerCall) {error : VoxError}
    (h : (c.call call).1 = .applied (.error error) ∨ (c.call call).1 = .finished (.error error)) :
    (c.call call).2 = c := by
  cases call with
  | apply command =>
    rcases c.apply_cases command with ⟨error', hApply⟩ | ⟨e, m', _, _, hApply⟩
    · rw [AppController.call, hApply]
      rfl
    · rw [AppController.call, hApply] at h
      rcases h with h | h <;> cases h
  | finishSession session outcome errorCode backend charCount =>
    rw [AppController.call, AppController.finishSession] at h ⊢
    split
    · rfl
    · rename_i hRoom
      rw [if_neg hRoom] at h
      rcases h with h | h <;> cases h
  | drainEvents | replaceRegistry | recordRouteResult => rcases h with h | h <;> cases h

/-- The events of every run are those of the session machine, in order. -/
theorem event_log (calls : List ControllerCall) : EventLog registry wake calls where
  changes := by
    rw [(announces_run registry wake calls).events]
    exact stateChanges_announced _
  machine := (announces_run registry wake calls).machine.trans (visitor_state _)
  terminal := by
    intro before c e after record hLog hRecord
    have hEvents := (announces_run registry wake calls).events
    refine ⟨announced before, ((announcer.runFrom (announcer.step
      (visitor.state (accepted before)) (.apply c, .applied (.ok e))).2 after).1.flatMap Prod.snd),
      ?_, stateChanges_announced before⟩
    rw [hEvents, hLog, announced, announcer.log_append, List.flatMap_append, announcer_state,
      ← visitor_state, visitor.state_snoc]
    change _ = _ :: (announcer.log before).flatMap Prod.snd ++ _
    rw [List.cons_append]
    congr 2
    change (AppEvent.stateChanged _ _ :: c.record.toList.map TerminalSessionResult.event) ++ _ = _
    rw [hRecord]
    rfl
  rejected := by
    intro before call after error _ hError
    exact rejected_unchanged _ call hError
  bounded := by
    intro before after _
    exact (announces_run registry wake before).bounded

end Runs

end VoxType
