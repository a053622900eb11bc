import VoxType.App.ResultCache
import VoxType.App.TerminalOnce
import VoxType.Daemon.Controlled
import VoxType.Daemon.History

/-!
# The controller of a running daemon

The daemon drives its controller as a sequence of calls: what the effects of a
run tell of commands and drained events is the log of that sequence, and the
controller it leaves is the one in the daemon, short of the wake token.
-/

namespace VoxType

set_option autoImplicit false

def DaemonEffect.drainedEvents : DaemonEffect → List AppEvent
  | .drained events => events
  | _ => []

/-- The events drained along a trace, in order. -/
def drainedEvents (trace : List DaemonEffect) : List AppEvent :=
  trace.flatMap DaemonEffect.drainedEvents

@[simp] theorem drainedEvents_append (left right : List DaemonEffect) :
    drainedEvents (left ++ right) = drainedEvents left ++ drainedEvents right :=
  List.flatMap_append

theorem outside_silent {trace : List DaemonEffect} (h : ∀ effect ∈ trace, effect.Outside) :
    commandLog trace = [] ∧ drainedEvents trace = [] := by
  constructor
  · rw [commandLog, List.filterMap_eq_nil_iff]
    intro effect hMem
    have hEffect := h effect hMem
    cases effect <;> first | rfl | exact hEffect.elim
  · rw [drainedEvents, List.flatMap_eq_nil_iff]
    intro effect hMem
    have hEffect := h effect hMem
    cases effect <;> first | rfl | exact hEffect.elim

namespace AppController

/-- Calls on a controller that has been in use. -/
def runs (self : AppController) :
    Transition.Machine AppController ControllerCall ControllerAnswer where
  start := self
  step := AppController.call

/-- The wake token is all that may differ. -/
def SameButWake (c c' : AppController) : Prop := { c' with wake := c.wake } = c

namespace SameButWake

variable {c c' c'' : AppController}

theorem refl (c : AppController) : SameButWake c c := rfl

theorem trans (h : SameButWake c c') (h' : SameButWake c' c'') : SameButWake c c'' := by
  unfold SameButWake at *
  rw [← h, ← h']

theorem machine (h : SameButWake c c') : c.machine = c'.machine := by
  unfold SameButWake at h
  rw [← h]

theorem publish {command : Command} (h : SameButWake c c') :
    SameButWake (c.publish command) (c'.publish command) := by
  unfold SameButWake at *
  rw [← h]
  unfold AppController.publish
  cases command.terminal <;> rfl

theorem recordAttempts (audioMillis now : Nat) (attempts : List RouteAttempt)
    (h : SameButWake c c') : SameButWake (attempts.foldl (recordAttempt audioMillis now) c)
      (attempts.foldl (recordAttempt audioMillis now) c') := by
  induction attempts generalizing c c' with
  | nil => exact h
  | cons attempt attempts ih =>
    apply ih
    unfold SameButWake at *
    rw [← h, recordAttempt, recordAttempt]
    cases attempt.error with
    | none => rfl
    | some error =>
      dsimp only
      split <;> rfl

/-- The wake token decides nothing. -/
theorem call (h : SameButWake c c') (call : ControllerCall) :
    (c.call call).1 = (c'.call call).1 ∧ SameButWake (c.call call).2 (c'.call call).2 := by
  cases call with
  | apply command =>
    have hSame := h
    unfold SameButWake at h
    rw [AppController.call, AppController.call, apply, apply, ← h]
    dsimp only
    split
    · exact ⟨rfl, rfl⟩
    · split
      · exact ⟨rfl, rfl⟩
      · exact ⟨rfl, publish rfl⟩
  | finishSession session outcome errorCode backend charCount =>
    unfold SameButWake at h
    rw [AppController.call, AppController.call, finishSession, finishSession, ← h]
    dsimp only
    split <;> exact ⟨rfl, rfl⟩
  | drainEvents =>
    unfold SameButWake at h
    rw [← h]
    exact ⟨rfl, rfl⟩
  | replaceRegistry registry =>
    unfold SameButWake at h
    rw [← h]
    exact ⟨rfl, rfl⟩
  | recordRouteResult result audioMillis now =>
    refine ⟨rfl, ?_⟩
    have hAttempts := h.recordAttempts audioMillis now result.attempts
    rw [AppController.call, AppController.call, recordRouteResult, recordRouteResult]
    cases result.outcome with
    | error error => exact hAttempts
    | ok success =>
      unfold SameButWake at hAttempts
      dsimp only
      rw [← hAttempts]
      rfl

theorem runFrom (h : SameButWake c c') (calls : List ControllerCall) :
    c.runs.log calls = c'.runs.log calls ∧
      SameButWake (c.runs.state calls) (c'.runs.state calls) := by
  induction calls using List.reverseRecOn with
  | nil => exact ⟨rfl, h⟩
  | append_singleton calls call ih =>
    obtain ⟨hLog, hState⟩ := ih
    obtain ⟨hAnswer, hNext⟩ := hState.call call
    rw [Transition.Machine.log_snoc, Transition.Machine.log_snoc, Transition.Machine.state_snoc,
      Transition.Machine.state_snoc, hLog]
    exact ⟨congrArg (fun answer => _ ++ [(call, answer)]) hAnswer, hNext⟩

end SameButWake

end AppController

/-- The calls on the controller between two states of the daemon. -/
structure Drives (d : VoxTypeDaemon) (trace : List DaemonEffect) (d' : VoxTypeDaemon)
    (calls : List ControllerCall) : Prop where
  commands : sessionLog (d.app.runs.log calls) = commandLog trace
  drained : (d.app.runs.log calls).flatMap ControllerEntry.drained = drainedEvents trace
  app : AppController.SameButWake d'.app (d.app.runs.state calls)
  discipline : d.app.runs.Along FinishDiscipline calls
  settled : awaitsFinish (d.app.runs.log calls) = none

theorem awaitsFinish_append {left right : List ControllerEntry} (h : awaitsFinish left = none) :
    awaitsFinish (left ++ right) = awaitsFinish right := by
  rcases List.eq_nil_or_concat right with rfl | ⟨right, last, rfl⟩
  · rw [List.append_nil, h]
    rfl
  · rw [List.concat_eq_append, ← List.append_assoc, awaitsFinish_snoc, awaitsFinish_snoc]

theorem disciplined_append {log : List ControllerEntry} (h : awaitsFinish log = none)
    (later : List ControllerEntry) (c c' : AppController) (call : ControllerCall) :
    FinishDiscipline (log ++ later) c call ↔ FinishDiscipline later c' call := by
  unfold FinishDiscipline
  cases call <;> simp only [awaitsFinish_append h]

/-- Calls on the controller, one run after another. -/
theorem AppController.runs_append {c c' : AppController} {first : List ControllerCall}
    (hSame : c'.SameButWake (c.runs.state first)) (second : List ControllerCall) :
    c.runs.log (first ++ second) = c.runs.log first ++ c'.runs.log second ∧
      AppController.SameButWake (c'.runs.state second) (c.runs.state (first ++ second)) := by
  obtain ⟨hLog, hState⟩ := hSame.runFrom second
  have hRest : c.runs.runFrom (c.runs.state first) second =
      (c.runs.state first).runs.runFrom (c.runs.state first) second := by
    apply Transition.Machine.runFrom_congr
    rfl
  have hWhole : c.runs.state (first ++ second) =
      (c.runs.runFrom (c.runs.state first) second).2 := by
    rw [Transition.Machine.state, Transition.Machine.runFrom_append]
    rfl
  rw [Transition.Machine.log_append, hLog, hWhole, hRest]
  exact ⟨rfl, hState⟩

theorem Drives.trans {d d' d'' : VoxTypeDaemon} {trace later : List DaemonEffect}
    {first second : List ControllerCall} (h : Drives d trace d' first)
    (h' : Drives d' later d'' second) : Drives d (trace ++ later) d'' (first ++ second) := by
  obtain ⟨hLog, hState⟩ := AppController.runs_append h.app second
  constructor
  case commands => rw [hLog, sessionLog_append, h.commands, h'.commands, commandLog_append]
  case drained => rw [hLog, List.flatMap_append, h.drained, h'.drained, drainedEvents_append]
  case app => exact h'.app.trans hState
  case settled => rw [hLog, awaitsFinish_append h.settled, h'.settled]
  case discipline =>
    intro before call after hCalls
    rcases List.append_eq_append_iff.mp hCalls with ⟨more, hBefore, hSecond⟩ | ⟨more, hFirst, hRest⟩
    · subst hBefore
      rw [(AppController.runs_append h.app more).1,
        disciplined_append h.settled _ _ (d'.app.runs.state more)]
      exact h'.discipline more call after hSecond
    · cases more with
      | nil =>
        rw [List.append_nil] at hFirst
        subst hFirst
        have hFirst' := h'.discipline [] call after hRest.symm
        have hNone := (AppController.runs_append h.app []).1
        rw [List.append_nil] at hNone
        rw [hNone, disciplined_append h.settled _ _ d'.app]
        exact hFirst'
      | cons next more =>
        cases hRest
        exact h.discipline before call more hFirst

/-- Some sequence of calls on the controller leads from one state of the daemon to the other. -/
def Driven (d : VoxTypeDaemon) (trace : List DaemonEffect) (d' : VoxTypeDaemon) : Prop :=
  ∃ calls, Drives d trace d' calls

/-- `InsertionComplete` and the `finish_session` behind it. -/
def Daemon.completeSession (session : SessionId) (backend : String) (charCount : Nat) :
    DaemonCall Unit := do
  let _ ← (applyCommand (.insertionComplete session)).mapError mapError
  (finishSession session "completed" "" backend charCount).mapError mapError

namespace Driven

open Effects (Call)
open Effects.Call (Within)

theorem none {d d' : VoxTypeDaemon} {trace : List DaemonEffect}
    (hApp : AppController.SameButWake d'.app d.app)
    (hTrace : ∀ effect ∈ trace, effect.Outside) : Driven d trace d' := by
  obtain ⟨hCommands, hDrained⟩ := outside_silent hTrace
  refine ⟨[], hCommands.symm, hDrained.symm, hApp, Transition.Machine.along_nil _ _, rfl⟩

/-- One call. -/
theorem one {d d' : VoxTypeDaemon} {trace : List DaemonEffect} (call : ControllerCall)
    (hCommands : commandLog trace =
      (ControllerEntry.session (call, (d.app.call call).1)).toList)
    (hDrained : drainedEvents trace = ControllerEntry.drained (call, (d.app.call call).1))
    (hApp : d'.app = (d.app.call call).2) (hCall : FinishDiscipline [] d.app call)
    (hSettled : ControllerEntry.awaiting (call, (d.app.call call).1) = .none) :
    Driven d trace d' := by
  have hLog : d.app.runs.log [call] = [(call, (d.app.call call).1)] := rfl
  refine ⟨[call], ?_, ?_, ?_, ?_, ?_⟩
  · rw [hLog, hCommands, sessionLog, List.filterMap_cons, List.filterMap_nil]
    cases ControllerEntry.session (call, (d.app.call call).1) <;> rfl
  · rw [hDrained]
    exact List.append_nil _
  · rw [hApp]
    rfl
  · intro before next after hCalls
    cases before with
    | nil =>
      cases hCalls
      exact hCall
    | cons first before => cases before <;> cases hCalls
  · exact hSettled

theorem completed (session : SessionId) (backend : String) (charCount : Nat) :
    Within Driven (Daemon.completeSession session backend charCount) := by
  intro d
  cases hAnswer : d.answer (.insertionComplete session) with
  | error error =>
    rw [Daemon.completeSession, Call.bind_error (Daemon.mapped_error d hAnswer)]
    have hCall : d.app.call (.apply (.insertionComplete session)) =
        (.applied (.error error), (d.applied (.insertionComplete session)).app) := by
      rw [AppController.call, ← hAnswer]
      rfl
    refine one (.apply (.insertionComplete session)) ?_ ?_ ?_ rfl ?_ <;> rw [hCall] <;> rfl
  | ok e =>
    rw [Daemon.completeSession, Call.bind_ok (Daemon.mapped_ok d hAnswer)]
    have hCall : d.app.call (.apply (.insertionComplete session)) =
        (.applied (.ok e), (d.applied (.insertionComplete session)).app) := by
      rw [AppController.call, ← hAnswer]
      rfl
    refine ⟨[.apply (.insertionComplete session),
      .finishSession session "completed" "" backend charCount], ?_, ?_, rfl, ?_, rfl⟩
    · change sessionLog [(_, (d.app.call _).1), _] = _
      rw [hCall]
      rfl
    · change List.flatMap ControllerEntry.drained [(_, (d.app.call _).1), _] = _
      rw [hCall]
      rfl
    · rw [Transition.Machine.along_iff_alongFrom]
      refine ⟨rfl, ?_, trivial⟩
      change awaitsFinish [(_, (d.app.call _).1)] = some session
      rw [hCall]
      rfl

theorem composes : Call.Composes Driven where
  refl d := none rfl (by simp)
  trans := by
    rintro _ _ _ _ _ ⟨_, h⟩ ⟨_, h'⟩
    exact ⟨_, h.trans h'⟩

theorem command (c : Command) (hOther : c.completes = false) :
    Within Driven (Daemon.applyCommand c) := by
  intro d
  refine one (.apply c) rfl rfl rfl rfl ?_
  cases c with
  | insertionComplete s => cases hOther
  | _ => rfl

theorem handed (env : Environment) (session : SessionId) (providerId text : String)
    (vadResult : Option Vad.VadResult) :
    Within Driven (Daemon.handOver env session providerId text vadResult) := by
  have hInsert : Within Driven (Daemon.insertText env session text) := by
    intro d
    obtain ⟨trace, answer, hInsertion, hRun⟩ := Daemon.insertion_run env d session text
    rw [hRun]
    apply none rfl
    cases hInsertion <;> simp [DaemonEffect.Outside]
  refine .bind composes (.attempt hInsert) fun answer => ?_
  cases answer with
  | error error =>
    exact .bind composes (.attempt (command _ rfl)) fun _ => .throw composes _
  | ok insertion =>
    have hRest : Within Driven (do
        Call.modify fun self => self.remember text
        pure (s!"session={session.value} provider={providerId} chars={text.length}" ++
          s!" backend={insertion.backend} clipboard_restored={insertion.clipboardRestored}" ++
          s!" vad={describeVad vadResult}") : DaemonCall String) := by
      refine .bind composes (fun d => ?_) fun _ => .pure composes _
      apply none _ (by simp)
      exact (VoxTypeDaemon.remember_app d text).symm ▸ .refl d.app
    have hDone := Within.bind composes (completed session insertion.backend text.length)
      fun _ => hRest
    rwa [Daemon.completeSession, Call.bind_assoc] at hDone

theorem controlled : Controlled Driven where
  composes := composes
  quiet hApp hTrace := none (by rw [hApp]; rfl) hTrace
  notified hApp := none (by rw [hApp]; rfl) (by simp)
  replaced registry hApp := one (.replaceRegistry registry) rfl rfl hApp rfl rfl
  recorded d result audioMillis now :=
    one (.recordRouteResult result audioMillis now) rfl rfl rfl rfl rfl
  drained hApp := one .drainEvents rfl (List.append_nil _) hApp rfl rfl
  command := command
  handed := handed

end Driven

/-- Where the ended sessions are distinct, no end comes late. -/
theorem never_late {registry : ProviderRegistry} {wake : WakeHandle} {calls : List ControllerCall}
    (hDiscipline : (controllerMachine registry wake).Along FinishDiscipline calls)
    (hStarts : (begun (sessionLog ((controllerMachine registry wake).log calls))).length ≤ u64Max)
    (hDistinct : (ended (sessionLog ((controllerMachine registry wake).log calls))).Nodup) :
    (controllerMachine registry wake).Along (fun _ c call => ¬ LateEnd c call) calls := by
  induction calls using List.reverseRecOn with
  | nil => exact Transition.Machine.along_nil _ _
  | append_singleton calls call ih =>
    rw [Transition.Machine.log_snoc, sessionLog_append] at hStarts hDistinct
    rw [begun_append, List.length_append] at hStarts
    rw [ended_append, List.nodup_append] at hDistinct
    obtain ⟨hEarlier, _, hApart⟩ := hDistinct
    have hDone := (Transition.Machine.along_snoc _ _ _ _).mp hDiscipline
    have hLate := ih hDone.1 (by omega) hEarlier
    rw [Transition.Machine.along_snoc]
    refine ⟨hLate, ?_⟩
    rintro ⟨s, hSession, hTerminal, hRoom, hCall⟩
    have hHistory := (outcomes_run hDone.1 hLate (by omega)).history
    have hBefore := hHistory.ended_terminal s hSession hTerminal
    refine hApart s hBefore s ?_ rfl
    rcases hCall with rfl | ⟨error, rfl⟩
    · change s ∈ ended (sessionLog [(_, (AppController.call _ _).1)])
      rw [AppController.call, AppController.apply_accepts hRoom (.cancel hSession)]
      exact List.mem_singleton_self s
    · change s ∈ ended (sessionLog [(_, (AppController.call _ _).1)])
      rw [AppController.call, AppController.apply_accepts hRoom (.fail error hSession)]
      exact List.mem_singleton_self s

section Runs

variable (config : Config) (registry : ProviderRegistry) (wake : WakeHandle)

/-- A run of the daemon is one of its controller, and so is every part of it. -/
theorem daemon_drives (before after : List SystemInput) :
    ∃ calls more,
      Drives (VoxTypeDaemon.composed config registry wake)
          (effects ((systemMachine config registry wake).log before))
          ((systemMachine config registry wake).state before).daemon calls ∧
        Drives (VoxTypeDaemon.composed config registry wake)
          (effects ((systemMachine config registry wake).log (before ++ after)))
          ((systemMachine config registry wake).state (before ++ after)).daemon
          (calls ++ more) := by
  obtain ⟨calls, hCalls⟩ := Driven.controlled.runFrom (systemMachine config registry wake) rfl
    (systemMachine config registry wake).start before
  obtain ⟨more, hMore⟩ := Driven.controlled.runFrom (systemMachine config registry wake) rfl
    ((systemMachine config registry wake).state before) after
  refine ⟨calls, more, hCalls, ?_⟩
  have hWhole := hCalls.trans hMore
  rw [Transition.Machine.log, Transition.Machine.state, Transition.Machine.runFrom_append,
    effects_append]
  exact hWhole

/-- Every run of the daemon is a disciplined run of the controller: of the same commands and
answers, with the same events drained, to the same controller short of its wake token. -/
theorem daemon_refines_controller (inputs : List SystemInput) :
    ∃ calls, (controllerMachine registry wake).Along FinishDiscipline calls ∧
      sessionLog ((controllerMachine registry wake).log calls) =
        commandLog (effects ((systemMachine config registry wake).log inputs)) ∧
      ((controllerMachine registry wake).log calls).flatMap ControllerEntry.drained =
        drainedEvents (effects ((systemMachine config registry wake).log inputs)) ∧
      awaitsFinish ((controllerMachine registry wake).log calls) = none ∧
      AppController.SameButWake ((systemMachine config registry wake).state inputs).daemon.app
        ((controllerMachine registry wake).state calls) := by
  obtain ⟨calls, _, hDrives, _⟩ := daemon_drives config registry wake inputs []
  exact ⟨calls, hDrives.discipline, hDrives.commands, hDrives.drained, hDrives.settled, hDrives.app⟩

/-- The terminal records announced in a run, drained or still pending. -/
def announcedResults (inputs : List SystemInput) : List TerminalSessionResult :=
  (drainedEvents (effects ((systemMachine config registry wake).log inputs)) ++
    ((systemMachine config registry wake).state inputs).daemon.app.events).filterMap
      AppEvent.record

variable {config registry wake}

theorem Drives.finishes {inputs : List SystemInput} {calls : List ControllerCall}
    (h : Drives (VoxTypeDaemon.composed config registry wake)
      (effects ((systemMachine config registry wake).log inputs))
      ((systemMachine config registry wake).state inputs).daemon calls) :
    VoxType.finishes ((controllerMachine registry wake).log calls)
        ((controllerMachine registry wake).state calls) =
      announcedResults config registry wake inputs ∧
      ∀ session, ((controllerMachine registry wake).state calls).sessionResult session =
        ((systemMachine config registry wake).state inputs).daemon.app.sessionResult session := by
  have hApp := h.app
  unfold AppController.SameButWake at hApp
  refine ⟨?_, fun session => ?_⟩
  · rw [VoxType.finishes, announcedResults, ← h.drained, ← hApp]
    rfl
  · rw [← hApp]
    rfl

theorem announcedResults_append (before after : List SystemInput) :
    ∃ more, announcedResults config registry wake (before ++ after) =
      announcedResults config registry wake before ++ more := by
  obtain ⟨calls, later, hBefore, hWhole⟩ := daemon_drives config registry wake before after
  obtain ⟨more, hMore⟩ := finishes_run registry wake calls later
  rw [hBefore.finishes.1, hWhole.finishes.1] at hMore
  exact ⟨more, hMore⟩

variable (config registry wake)

/-- `SessionResult` answers by what has been announced: the latest record of the session, unless too
many other sessions have ended since. -/
theorem session_result_announced (inputs : List SystemInput) (session : String) :
    ((systemMachine config registry wake).state inputs).daemon.app.sessionResult session =
      if Recent.since TerminalSessionResult.session session
          (announcedResults config registry wake inputs) < maxSessionResults then
        (announcedResults config registry wake inputs).reverse.find?
          fun result => result.session = session
      else none := by
  obtain ⟨calls, _, hDrives, _⟩ := daemon_drives config registry wake inputs []
  obtain ⟨hFinishes, hResult⟩ := hDrives.finishes
  rw [← hResult, sessionResult_history, sessionsSince, latestResult,
    queuedResults, hFinishes]

end Runs

end VoxType
