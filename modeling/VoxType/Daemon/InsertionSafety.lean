import VoxType.Daemon.History
import VoxType.Daemon.Phase

/-!
# Insertion safety of the daemon

Text is handed to the insertion adapter once for a session at most, into the
target armed for it, and only as its own worker returned it.
-/

namespace VoxType

set_option autoImplicit false

def DaemonEffect.commit : DaemonEffect → Option SessionId
  | .committed session _ _ _ _ => some session
  | _ => none

/-- The sessions of the calls of `insertion_adapter.commit`, in order. -/
def commits (trace : List DaemonEffect) : List SessionId := trace.filterMap DaemonEffect.commit

@[simp] theorem commits_append (left right : List DaemonEffect) :
    commits (left ++ right) = commits left ++ commits right := List.filterMap_append

theorem commits_inert {trace : List DaemonEffect} (hInert : ∀ effect ∈ trace, effect.Inert) :
    commits trace = [] := by
  rw [commits, List.filterMap_eq_nil_iff]
  intro effect hMem
  have hEffect := hInert effect hMem
  cases effect <;> first | rfl | exact absurd hEffect id

theorem mem_commits {trace : List DaemonEffect} {session : SessionId} {state : SessionState}
    {arm : InsertionArm} {text : String} {answer : Except VoxError InsertionOutcome}
    (hMem : .committed session state arm text answer ∈ trace) : session ∈ commits trace :=
  List.mem_filterMap.mpr ⟨_, hMem, rfl⟩

/-- The trace begins with the transcript of the worker and its one commit. -/
def HandsOver (job : RecognitionJob) (success : RecognitionSuccess) (trace : List DaemonEffect) :
    Prop :=
  ∃ arm answer rest, arm.session = job.session ∧ commits rest = [] ∧
    trace = .command (.transcriptReady job.session success.transcript.text)
      (.ok (.insertText job.session success.transcript.text)) ::
        .committed job.session (.inserting job.session success.transcript.text) arm
          success.transcript.text answer :: rest

theorem HandsOver.append {job : RecognitionJob} {success : RecognitionSuccess}
    {trace later : List DaemonEffect} (h : HandsOver job success trace)
    (hLater : commits later = []) : HandsOver job success (trace ++ later) := by
  obtain ⟨arm, answer, rest, hArm, hRest, rfl⟩ := h
  refine ⟨arm, answer, rest ++ later, hArm, ?_, rfl⟩
  rw [commits_append, hRest, hLater]
  rfl

/-- The commit of one step, where it has one. -/
inductive CommitStep (self : System) (trace : List DaemonEffect) : Prop
  | none (hNone : commits trace = [])
  | one {env : Environment} {job : RecognitionJob} {received : RecognitionRouteResult}
    {success : RecognitionSuccess} (hJob : self.daemon.recognitionJob = some job)
    (hReceives : Daemon.Receives (self.boundary env) job received)
    (hOutcome : received.outcome = .ok success)
    (hState : self.daemon.state = .finalizing job.session) (hTrace : HandsOver job success trace)

namespace Daemon

variable {env : Environment} {d : VoxTypeDaemon}

theorem Insertion.handsOver {job : RecognitionJob} {success : RecognitionSuccess}
    {effects : List DaemonEffect} {answer : Except VoxError InsertionOutcome}
    (hState : d.state = .finalizing job.session) (hRoom : d.Room)
    (hText : RustText.isBlank success.transcript.text = false)
    (h : Insertion env (d.applied (.transcriptReady job.session success.transcript.text))
      job.session success.transcript.text effects answer)
    {later : List DaemonEffect} (hLater : commits later = []) :
    commits (.command (.transcriptReady job.session success.transcript.text)
      (.ok (.insertText job.session success.transcript.text)) :: (effects ++ later)) = [] ∨
      HandsOver job success (.command (.transcriptReady job.session success.transcript.text)
        (.ok (.insertText job.session success.transcript.text)) :: (effects ++ later)) := by
  cases h with
  | notArmed => exact .inl hLater
  | committed hArm hSession =>
    rw [VoxTypeDaemon.state_applied hRoom (.transcriptReady hState hText)]
    exact .inr ⟨_, _, later, hSession, hLater, rfl⟩

theorem DeliverOutcome.commit {job : RecognitionJob}
    {outcome : Except VoxError RecognitionSuccess} {o : DaemonOutcome String}
    (hState : d.state = .finalizing job.session) (h : DeliverOutcome env d job outcome o) :
    commits o.trace = [] ∨ ∃ success, outcome = .ok success ∧ HandsOver job success o.trace := by
  cases h with
  | failed | blank | full => exact .inl rfl
  | notInserted hRoom hText _ hInsertion | inserted hRoom hText _ hInsertion
  | cut hRoom hText _ hInsertion =>
    exact (hInsertion.handsOver hState hRoom hText rfl).imp_right fun h => ⟨_, rfl, h⟩

end Daemon

theorem StepOutcome.commit {self : System} {i : SystemInput} {d' : VoxTypeDaemon}
    {trace : List DaemonEffect} (h : StepOutcome self i d' trace) : CommitStep self trace := by
  cases h with
  | kept _ hTrace =>
    refine .none (commits_inert ?_)
    intro effect hMem
    obtain ⟨events, rfl⟩ := hTrace effect hMem
    trivial
  | started hStart => exact .none (commits_inert hStart.inert)
  | stopped hStop =>
    rcases hStop.spawns with ⟨_, hInert⟩ | ⟨_, _, _, hTrace, hInert, _⟩
    · exact .none (commits_inert hInert)
    · refine .none ?_
      rw [hTrace, commits_append, commits_inert hInert]
      rfl
  | cancelled hCancel =>
    cases hCancel with
    | refused => exact .none rfl
    | rejected => exact .none rfl
    | cancelled =>
      exact .none (commits_inert (Daemon.inert_append (Daemon.inert_command _ _)
        (Daemon.release_inert _)))
  | wasReset hReset => cases hReset <;> exact .none rfl
  | quitted => exact .none (commits_inert (Daemon.release_inert _))
  | @polled i env o hPoll =>
    cases hPoll with
    | idle => exact .none rfl
    | stale => exact .none (commits_inert (VoxTypeDaemon.removal_inert _ _))
    | @delivered job received hJob hReceives hState o hDeliver =>
      have hTail : ∀ path, commits (Daemon.releaseOnError o ++ o.state.removal path) = [] :=
        fun path => commits_inert (Daemon.inert_append (Daemon.releaseOnError_inert o)
          (VoxTypeDaemon.removal_inert _ path))
      have hNow := (Daemon.receiving_lifecycle (self.boundary env) self.daemon job received).1
      rw [List.append_assoc]
      rcases hDeliver.commit (hNow.trans hState) with hNone | ⟨success, hOutcome, hTrace⟩
      · refine .none ?_
        rw [commits_append, hNone, hTail]
        rfl
      · exact .one hJob hReceives hOutcome hState (hTrace.append (hTail _))

theorem CommitStep.sublist {self : System} {trace : List DaemonEffect}
    (h : CommitStep self trace) : (commits trace).Sublist (inserted (commandLog trace)) := by
  cases h with
  | none hNone =>
    rw [hNone]
    exact List.nil_sublist _
  | @one env job received success _ _ _ _ hTrace =>
    obtain ⟨arm, answer, rest, _, hRest, rfl⟩ := hTrace
    change (job.session :: commits rest).Sublist (job.session :: _)
    rw [hRest]
    exact List.cons_sublist_cons.mpr (List.nil_sublist _)

/-- What holds of every step of a run that hands text to the insertion adapter. -/
structure SafeCommit (log : List SystemEntry) (pre : List DaemonEffect) (session : SessionId)
    (state : SessionState) (arm : InsertionArm) (text : String) : Prop where
  inserting : state = .inserting session text
  armed : arm.session = session
  nonblank : RustText.isBlank text = false
  returned : ∃ k work route answer success, .workerStarted k work ∈ effects log ∧
    work.session = session ∧ (.workerReturns k route, answer) ∈ log ∧
    (work.run route).outcome = .ok success ∧ success.transcript.text = text
  not_over : ∀ c e, .command c (.ok e) ∈ effects log ++ pre → c.ends ≠ some session

structure InsertionSafety (M : Transition.Machine System SystemInput SystemAnswer)
    (inputs : List SystemInput) : Prop where
  once : (commits (effects (M.log inputs))).Nodup
  safe : ∀ before i after pre session state arm text answer post,
    inputs = before ++ i :: after →
    (M.step (M.state before) i).1.effects =
      pre ++ .committed session state arm text answer :: post →
    SafeCommit (M.log before) pre session state arm text

section Runs

variable (config : Config) (registry : ProviderRegistry) (wake : WakeHandle)

theorem commits_sublist (inputs : List SystemInput) :
    (commits (effects ((systemMachine config registry wake).log inputs))).Sublist
      (inserted (commandLog (effects ((systemMachine config registry wake).log inputs)))) := by
  induction inputs using List.reverseRecOn with
  | nil => exact List.nil_sublist _
  | append_singleton inputs i ih =>
    rw [Transition.Machine.log_snoc, effects_snoc, commits_append, commandLog_append,
      inserted_append]
    exact ih.append (System.step_outcome _ i).commit.sublist

theorem safe_commit {log : List SystemEntry} {sys : System} {i : SystemInput}
    (hHistory : SessionHistory (commandLog (effects log)) sys.daemon.app.machine)
    (hWorkers : WorkerHistory log sys) {pre post : List DaemonEffect} {session : SessionId}
    {state : SessionState} {arm : InsertionArm} {text : String}
    {answer : Except VoxError InsertionOutcome}
    (hStep : (sys.step i).1.effects = pre ++ .committed session state arm text answer :: post) :
    SafeCommit log pre session state arm text := by
  have hMem : session ∈ commits (sys.step i).1.effects :=
    mem_commits (hStep ▸ List.mem_append_right _ List.mem_cons_self)
  cases (System.step_outcome sys i).commit with
  | none hNone =>
    rw [hNone] at hMem
    cases hMem
  | @one env job received success hJob hReceives hOutcome hState hTrace =>
    obtain ⟨arm', answer', rest, hArm, hRest, hTrace⟩ := hTrace
    rw [hTrace] at hStep
    rcases pre with _ | ⟨first, _ | ⟨second, pre⟩⟩
    · cases hStep
    · obtain ⟨hFirst, hTail⟩ := List.cons.inj hStep
      obtain ⟨hCommit, _⟩ := List.cons.inj hTail
      cases hFirst
      cases hCommit
      constructor
      case inserting => rfl
      case armed => exact hArm
      case nonblank => exact hWorkers.received_nonblank hJob hReceives hOutcome
      case returned =>
        obtain ⟨work, route, answer, hStarted, hSession, hReturned, hResult⟩ :=
          hWorkers.received hJob hReceives hOutcome
        exact ⟨_, work, route, answer, success, hStarted, hSession, hReturned,
          hResult ▸ hOutcome, rfl⟩
      case not_over =>
        intro c e hCommand hEnds
        rcases List.mem_append.mp hCommand with hEarlier | hNow
        · have hOpen := hHistory.open_active job.session (by
            change sys.daemon.state.session = _
            rw [hState]
            rfl) (by
            change sys.daemon.state.isActive = _
            rw [hState]
            rfl)
          refine hOpen (List.mem_filterMap.mpr ⟨(c, .ok e), ?_, hEnds⟩)
          exact List.mem_filterMap.mpr ⟨_, hEarlier, rfl⟩
        · cases List.mem_singleton.mp hNow
          cases hEnds
    · obtain ⟨_, hTail⟩ := List.cons.inj hStep
      obtain ⟨_, hTail⟩ := List.cons.inj hTail
      have hLate : session ∈ commits rest := by
        rw [hTail]
        exact mem_commits (List.mem_append_right _ List.mem_cons_self)
      rw [hRest] at hLate
      cases hLate

theorem insertion_safety (inputs : List SystemInput)
    (hStarts : (begun (commandLog (effects
      ((systemMachine config registry wake).log inputs)))).length ≤ u64Max) :
    InsertionSafety (systemMachine config registry wake) inputs := by
  constructor
  case once =>
    exact (daemon_history config registry wake inputs hStarts).inserted_nodup.sublist
      (commits_sublist config registry wake inputs)
  case safe =>
    intro before i after pre session state arm text answer post hInputs hStep
    refine safe_commit (daemon_history config registry wake before ?_)
      (worker_history config registry wake before) hStep
    subst hInputs
    rw [Transition.Machine.log_append, effects_append, commandLog_append, begun_append,
      List.length_append] at hStarts
    omega

theorem insertion_safety_dictation :
    InsertionSafety (systemMachine dictationConfig ⟨[cloud]⟩ .disabled) dictation :=
  insertion_safety dictationConfig ⟨[cloud]⟩ .disabled dictation (by decide)

end Runs

end VoxType
