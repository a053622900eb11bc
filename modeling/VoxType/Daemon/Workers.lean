import VoxType.App.RouteSafety
import VoxType.Daemon.Steps

/-!
# The job of the daemon and the worker behind it

A worker is known by what it was started with and by what its channel holds;
the effects of the daemon only add workers and set their tokens.
-/

namespace VoxType

set_option autoImplicit false

abbrev WorkerFace : Type := RecognitionWork × WorkerChannel

def Worker.face (worker : Worker) : WorkerFace := (worker.work, worker.channel)

namespace WorkerFace

/-- A worker that answers or exits fills its pending channel. -/
def fill (channel : RecognitionWork → WorkerChannel) : WorkerFace → WorkerFace
  | (work, .pending) => (work, channel work)
  | face => face

theorem fill_closed {channel : RecognitionWork → WorkerChannel} {face : WorkerFace}
    (h : face.2 ≠ .pending) : fill channel face = face := by
  obtain ⟨work, _ | _ | _⟩ := face
  · exact absurd rfl h
  · rfl
  · rfl

end WorkerFace

namespace System

/-- A worker that answers or exits closes its channel. -/
def closing (self : System) (index : Nat) (channel : Worker → WorkerChannel) : System :=
  { self with workers := self.workers.modify index fun w => w.close (channel w) }

def faces (self : System) : List (RecognitionWork × WorkerChannel) := self.workers.map Worker.face

theorem faces_closing (self : System) (index : Nat) (channel : RecognitionWork → WorkerChannel) :
    (self.closing index fun worker => channel worker.work).faces =
      self.faces.modify index (WorkerFace.fill channel) := by
  have hFace : ∀ worker : Worker,
      (worker.close (channel worker.work)).face = WorkerFace.fill channel worker.face := by
    intro worker
    rw [Worker.close, Worker.face]
    cases hChannel : worker.channel <;> simp only [WorkerFace.fill, Worker.face, hChannel]
  have hModify : ∀ (workers : List Worker) (k : Nat),
      (workers.modify k fun worker => worker.close (channel worker.work)).map Worker.face =
        (workers.map Worker.face).modify k (WorkerFace.fill channel) := by
    intro workers
    induction workers with
    | nil => exact fun k => by simp
    | cons worker workers ih =>
      intro k
      cases k with
      | zero => simp only [List.modify_zero_cons, List.map_cons, hFace]
      | succ k => simp only [List.modify_succ_cons, List.map_cons, ih]
  exact hModify self.workers index

theorem map_face_modify {f : Worker → Worker} (hFace : ∀ worker, (f worker).face = worker.face)
    (workers : List Worker) (k : Nat) :
    (workers.modify k f).map Worker.face = workers.map Worker.face := by
  induction workers generalizing k with
  | nil => rw [List.modify_nil]
  | cons worker workers ih =>
    cases k with
    | zero => rw [List.modify_zero_cons, List.map_cons, List.map_cons, hFace]
    | succ k => rw [List.modify_succ_cons, List.map_cons, List.map_cons, ih]

theorem faces_absorb {trace : List DaemonEffect} (hNone : ∀ k work, .workerStarted k work ∉ trace)
    (workers : List Worker) :
    (trace.foldl absorb workers).map Worker.face = workers.map Worker.face := by
  induction trace generalizing workers with
  | nil => rfl
  | cons effect trace ih =>
    rw [List.foldl_cons, ih fun k work hMem => hNone k work (List.mem_cons_of_mem _ hMem)]
    cases effect with
    | workerStarted k work => exact absurd List.mem_cons_self (hNone k work)
    | tokenCancelled k =>
      rw [absorb, map_face_modify]
      exact fun worker => rfl
    | _ => rfl

end System

/-- What a trace does to the job slot of a daemon with `n` workers. -/
inductive JobStep (n : Nat) (job : Option RecognitionJob) :
    List DaemonEffect → Option RecognitionJob → Prop
  | kept {trace : List DaemonEffect} (hNone : ∀ k work, .workerStarted k work ∉ trace) :
    JobStep n job trace job
  | dropped {trace : List DaemonEffect} (hNone : ∀ k work, .workerStarted k work ∉ trace) :
    JobStep n job trace none
  | started {earlier : List DaemonEffect} (hNone : ∀ k work, .workerStarted k work ∉ earlier)
    {work : RecognitionWork} {next : RecognitionJob} (hSession : next.session = work.session)
    (hChannel : next.channel = n) :
    JobStep n job (earlier ++ [.workerStarted n work]) (some next)

namespace Daemon

variable {env : Environment} {d : VoxTypeDaemon}

theorem starts_none {trace : List DaemonEffect} (hInert : ∀ effect ∈ trace, effect.Inert) :
    ∀ k work, .workerStarted k work ∉ trace := fun _ _ hMem => hInert _ hMem

theorem starts_none_append {left right : List DaemonEffect}
    (hLeft : ∀ k work, .workerStarted k work ∉ left)
    (hRight : ∀ k work, .workerStarted k work ∉ right) :
    ∀ k work, .workerStarted k work ∉ left ++ right := by
  intro k work hMem
  rcases List.mem_append.mp hMem with hMem | hMem
  · exact hLeft k work hMem
  · exact hRight k work hMem

theorem release_inert (d : VoxTypeDaemon) :
    ∀ effect ∈ d.captureEffects ++ d.jobEffects ++ d.lease, effect.Inert := by
  refine inert_append (inert_append ?_ ?_) d.lease_inert
  · rw [VoxTypeDaemon.captureEffects]
    cases d.recording <;> simp [DaemonEffect.Inert]
  · rw [VoxTypeDaemon.jobEffects]
    cases d.recognitionJob <;> simp [DaemonEffect.Inert]

theorem StartOutcome.inert {profile : String} {o : DaemonOutcome String}
    (h : StartOutcome env d profile o) : ∀ effect ∈ o.trace, effect.Inert := by
  cases h with
  | refused => simp
  | rejected => exact inert_command _ _
  | begun _ _ _ hSession =>
    refine inert_append (inert_command _ _) ?_
    cases hSession with
    | armFailed => exact inert_command _ _
    | captureFailed | listening => simp [DaemonEffect.Inert]
    | full _ _ _ _ _ hInert => exact hInert

theorem StartOutcome.job {profile : String} {o : DaemonOutcome String}
    (h : StartOutcome env d profile o) : o.state.recognitionJob = d.recognitionJob := by
  cases h with
  | refused | rejected => rfl
  | begun _ _ _ hSession =>
    cases hSession with
    | armFailed | captureFailed | listening => rfl
    | full _ _ _ hJob => exact hJob

@[simp] theorem settled_job (d : VoxTypeDaemon) : (settled d).recognitionJob = d.recognitionJob := by
  rw [settled]
  split <;> rfl

/-- `stop` starts at most one worker, as its last effect. -/
theorem StopOutcome.spawns {requested : String} {o : DaemonOutcome String}
    (h : StopOutcome env d requested o) :
    (o.state.recognitionJob = d.recognitionJob ∧ ∀ effect ∈ o.trace, effect.Inert) ∨
      ∃ earlier work next, o.trace = earlier ++ [.workerStarted env.channel work] ∧
        (∀ effect ∈ earlier, effect.Inert) ∧ o.state.recognitionJob = some next ∧
        next.session = work.session ∧ next.channel = env.channel := by
  have hTelemetry := (telemetry_work env d).2.2.1
  cases h with
  | refused => exact .inl ⟨rfl, by simp⟩
  | rejected | missing => exact .inl ⟨hTelemetry, inert_command _ _⟩
  | stopFailed => exact .inl ⟨hTelemetry, by simp [DaemonEffect.Inert]⟩
  | @processed session mode recording audio _ _ _ _ o hProcess =>
    have hStopped : ∀ effect ∈ [DaemonEffect.command (.stop session) (.ok (.stopCapture session)),
        .captureStopped (.ok audio)], effect.Inert := by simp [DaemonEffect.Inert]
    cases hProcess with
    | silent =>
      refine .inl ⟨(settled_job _).trans hTelemetry, ?_⟩
      exact inert_append hStopped (inert_append (inert_append (VoxTypeDaemon.lease_inert _)
        (inert_command _ _)) (settledTrace_inert _ _))
    | failed =>
      refine .inl ⟨(settled_job _).trans hTelemetry, ?_⟩
      exact inert_append hStopped (inert_append (inert_append (inert_command _ _)
        (VoxTypeDaemon.lease_inert _)) (settledTrace_inert _ _))
    | full _ _ _ _ hInert =>
      exact .inl ⟨(settled_job _).trans hTelemetry, inert_append hStopped hInert⟩
    | started _ _ hWork hJob =>
      exact .inr ⟨_, _, _, rfl, hStopped, rfl, hJob.1.trans hWork.symm, hJob.2⟩

theorem DeliverOutcome.starts_none {job : RecognitionJob}
    {outcome : Except VoxError RecognitionSuccess} {o : DaemonOutcome String}
    (h : DeliverOutcome env d job outcome o) : ∀ k work, .workerStarted k work ∉ o.trace := by
  have hNone : ∀ {d' : VoxTypeDaemon} {session : SessionId} {text : String}
      {effects : List DaemonEffect} {answer : Except VoxError InsertionOutcome},
      Insertion env d' session text effects answer → ∀ k work, .workerStarted k work ∉ effects := by
    intro d' session text effects answer hInsertion
    cases hInsertion <;> simp
  cases h with
  | failed | blank | full => simp
  | notInserted _ _ _ hInsertion | cut _ _ _ hInsertion => simp [hNone hInsertion]
  | inserted _ _ _ hInsertion => simp [hNone hInsertion]

theorem DeliverOutcome.job {job : RecognitionJob}
    {outcome : Except VoxError RecognitionSuccess} {o : DaemonOutcome String}
    (h : DeliverOutcome env d job outcome o) : o.state.recognitionJob = d.recognitionJob := by
  cases h with
  | inserted => exact (VoxTypeDaemon.remember_work _ _).2.2.1
  | _ => rfl

theorem releaseOnError_inert (o : DaemonOutcome String) :
    ∀ effect ∈ releaseOnError o, effect.Inert := by
  rw [releaseOnError]
  cases o.result with
  | error => exact VoxTypeDaemon.lease_inert _
  | ok => simp

theorem PollOutcome.job {o : DaemonOutcome Bool} (h : PollOutcome env d o) (n : Nat) :
    JobStep n d.recognitionJob o.trace o.state.recognitionJob := by
  cases h with
  | idle => exact .kept (by simp)
  | stale => exact .dropped (Daemon.starts_none (VoxTypeDaemon.removal_inert _ _))
  | delivered _ _ _ hDeliver =>
    have hJob : ∀ (d' : VoxTypeDaemon), d'.withoutTarget.recognitionJob = d'.recognitionJob :=
      fun _ => rfl
    rw [hJob, hDeliver.job]
    exact .dropped (starts_none_append (starts_none_append hDeliver.starts_none
      (Daemon.starts_none (releaseOnError_inert _)))
      (Daemon.starts_none (VoxTypeDaemon.removal_inert _ _)))

end Daemon

theorem StepOutcome.job {self : System} {i : SystemInput} {d' : VoxTypeDaemon}
    {trace : List DaemonEffect} (h : StepOutcome self i d' trace) :
    JobStep self.workers.length self.daemon.recognitionJob trace d'.recognitionJob := by
  cases h with
  | kept hSame hTrace =>
    rw [hSame.recognitionJob]
    refine .kept ?_
    intro k work hMem
    obtain ⟨events, hEffect⟩ := hTrace _ hMem
    cases hEffect
  | started hStart =>
    rw [hStart.job]
    exact .kept (Daemon.starts_none hStart.inert)
  | stopped hStop =>
    rcases hStop.spawns with ⟨hJob, hInert⟩ | ⟨_, _, _, hTrace, hInert, hJob, hSession, hChannel⟩
    · rw [hJob]
      exact .kept (Daemon.starts_none hInert)
    · rw [hTrace, hJob]
      exact .started (Daemon.starts_none hInert) hSession hChannel
  | cancelled hCancel =>
    cases hCancel with
    | refused => exact .kept (by simp)
    | rejected => exact .kept (by simp)
    | cancelled =>
      exact .dropped (Daemon.starts_none (Daemon.inert_append (Daemon.inert_command _ _)
        (Daemon.release_inert _)))
  | wasReset hReset =>
    cases hReset with
    | rejected => exact .kept (by simp)
    | wasReset => exact .kept (by simp)
  | polled hPoll => exact hPoll.job _
  | quitted => exact .dropped (Daemon.starts_none (Daemon.release_inert _))

/-- What the log says about the workers and the job that waits for one of them. -/
structure WorkerHistory (log : List SystemEntry) (sys : System) : Prop where
  started : ∀ (k : Nat) work channel, sys.faces[k]? = some (work, channel) →
    .workerStarted k work ∈ effects log
  answered : ∀ (k : Nat) work result, sys.faces[k]? = some (work, .sent result) →
    ∃ route answer, (.workerReturns k route, answer) ∈ log ∧ result = work.run route
  job : ∀ job, sys.daemon.recognitionJob = some job →
    ∃ work channel, sys.faces[job.channel]? = some (work, channel) ∧ work.session = job.session

namespace WorkerHistory

variable {log : List SystemEntry} {sys next : System}

/-- A step of the daemon: the workers of the trace are added. -/
theorem daemon_step (h : WorkerHistory log sys) {i : SystemInput} {answer : SystemAnswer}
    (hWorkers : next.workers = answer.effects.foldl System.absorb sys.workers)
    (hStep : JobStep sys.workers.length sys.daemon.recognitionJob answer.effects
      next.daemon.recognitionJob) :
    WorkerHistory (log ++ [(i, answer)]) next := by
  have hAnswered : ∀ (k : Nat) work result, sys.faces[k]? = some (work, .sent result) →
      ∃ route found, (.workerReturns k route, found) ∈ log ++ [(i, answer)] ∧
        result = work.run route := by
    intro k work result hFace
    obtain ⟨route, found, hMem, hResult⟩ := h.answered k work result hFace
    exact ⟨route, found, List.mem_append_left _ hMem, hResult⟩
  have kept : (∀ k work, .workerStarted k work ∉ answer.effects) →
      (∀ job, next.daemon.recognitionJob = some job → sys.daemon.recognitionJob = some job) →
      WorkerHistory (log ++ [(i, answer)]) next := by
    intro hNone hJob
    have hFaces : next.faces = sys.faces := by
      rw [System.faces, hWorkers, System.faces_absorb hNone]
      rfl
    constructor
    case started =>
      intro k work channel hFace
      rw [hFaces] at hFace
      rw [effects_snoc]
      exact List.mem_append_left _ (h.started k work channel hFace)
    case answered => rw [hFaces]; exact hAnswered
    case job =>
      intro job hNext
      rw [hFaces]
      exact h.job job (hJob job hNext)
  generalize hTrace : answer.effects = trace at hStep
  generalize hNext : next.daemon.recognitionJob = job' at hStep
  cases hStep with
  | kept hNone =>
    refine kept (by rw [hTrace]; exact hNone) ?_
    intro job hJob
    rw [← hNext]
    exact hJob
  | dropped hNone =>
    refine kept (by rw [hTrace]; exact hNone) ?_
    intro job hJob
    rw [hNext] at hJob
    cases hJob
  | @started earlier hNone work next' hSession hChannel =>
    have hFaces : next.faces = sys.faces ++ [(work, .pending)] := by
      rw [System.faces, hWorkers, hTrace, List.foldl_append, List.foldl_cons, List.foldl_nil]
      change List.map Worker.face (_ ++ [_]) = _
      rw [List.map_append, System.faces_absorb hNone]
      rfl
    have hLength : sys.faces.length = sys.workers.length := List.length_map _
    have hOld : ∀ {k : Nat} {face : RecognitionWork × WorkerChannel},
        next.faces[k]? = some face →
        sys.faces[k]? = some face ∨ (k = sys.workers.length ∧ face = (work, .pending)) := by
      intro k face hFace
      rw [hFaces, List.getElem?_append] at hFace
      split at hFace
      · exact .inl hFace
      · obtain ⟨hIndex, hEq⟩ := List.getElem?_eq_some_iff.mp hFace
        rw [List.length_singleton] at hIndex
        rw [List.getElem_singleton] at hEq
        exact .inr ⟨by omega, hEq.symm⟩
    constructor
    case started =>
      intro k work' channel hFace
      rw [effects_snoc]
      rcases hOld hFace with hFace | ⟨rfl, hEq⟩
      · exact List.mem_append_left _ (h.started k work' channel hFace)
      · cases hEq
        rw [hTrace]
        exact List.mem_append_right _ (List.mem_append_right _ (List.mem_singleton_self _))
    case answered =>
      intro k work' result hFace
      rcases hOld hFace with hFace | ⟨_, hEq⟩
      · exact hAnswered k work' result hFace
      · cases hEq
    case job =>
      intro job hJob
      rw [hNext] at hJob
      cases hJob
      refine ⟨work, .pending, ?_, hSession.symm⟩
      rw [hFaces, hChannel, ← hLength, List.getElem?_concat_length]

/-- A worker that answers or exits: its channel alone changes, and only once. -/
theorem close_step (h : WorkerHistory log sys) {i : SystemInput} {answer : SystemAnswer}
    {index : Nat} {channel : Worker → WorkerChannel} (hEffects : answer.effects = [])
    (hSent : ∀ worker result, channel worker = .sent result →
      ∃ route, i = .workerReturns index route ∧ result = worker.work.run route) :
    WorkerHistory (log ++ [(i, answer)]) (sys.closing index channel) := by
  have hFace : ∀ (k : Nat), (sys.closing index channel).faces[k]? =
      (sys.workers[k]?).map fun w => if index = k then (w.close (channel w)).face else w.face := by
    intro k
    rw [System.faces, System.closing, List.getElem?_map, List.getElem?_modify]
    cases sys.workers[k]? with
    | none => rfl
    | some w =>
      change some (Worker.face (if index = k then w.close (channel w) else w)) = _
      rw [apply_ite Worker.face, Option.map_some]
  have hWork : ∀ w : Worker, (w.close (channel w)).work = w.work := by
    intro w
    rw [Worker.close]
    split <;> rfl
  have hOld : ∀ {k : Nat} {w : Worker}, sys.workers[k]? = some w →
      sys.faces[k]? = some (w.work, w.channel) := by
    intro k w hWorker
    rw [System.faces, List.getElem?_map, hWorker]
    rfl
  have hEffectsLog : effects (log ++ [(i, answer)]) = effects log := by
    rw [effects_snoc, hEffects, List.append_nil]
  constructor
  case started =>
    intro k work channel' hNow
    rw [hFace] at hNow
    obtain ⟨w, hWorker, hEq⟩ := Option.map_eq_some_iff.mp hNow
    have hSame : work = w.work := by
      split at hEq
      · exact (congrArg Prod.fst hEq).symm.trans (hWork w)
      · exact (congrArg Prod.fst hEq).symm
    rw [hEffectsLog, hSame]
    exact h.started k w.work w.channel (hOld hWorker)
  case answered =>
    intro k work result hNow
    rw [hFace] at hNow
    obtain ⟨w, hWorker, hEq⟩ := Option.map_eq_some_iff.mp hNow
    have earlier : w.face = (work, .sent result) → ∃ route found,
        (.workerReturns k route, found) ∈ log ++ [(i, answer)] ∧ result = work.run route := by
      intro hSame
      have hBefore := hOld hWorker
      change _ = some w.face at hBefore
      rw [hSame] at hBefore
      obtain ⟨route, found, hMem, hResult⟩ := h.answered k work result hBefore
      exact ⟨route, found, List.mem_append_left _ hMem, hResult⟩
    split at hEq
    · rename_i hIndex
      rw [Worker.close] at hEq
      split at hEq
      · obtain ⟨hWorkEq, hChannel⟩ := Prod.mk.inj hEq
        obtain ⟨route, hInput, hResult⟩ := hSent w result hChannel
        refine ⟨route, answer, ?_, hWorkEq ▸ hResult⟩
        rw [hInput, hIndex]
        exact List.mem_append_right _ (List.mem_singleton_self _)
      · exact earlier hEq
    · exact earlier hEq
  case job =>
    intro job hJob
    obtain ⟨work, channel', hNow, hSession⟩ := h.job job hJob
    rw [System.faces, List.getElem?_map] at hNow
    obtain ⟨w, hWorker, hEq⟩ := Option.map_eq_some_iff.mp hNow
    rw [hFace, hWorker, Option.map_some]
    have hSame : work = w.work := (congrArg Prod.fst hEq).symm
    split
    · exact ⟨_, _, rfl, (congrArg _ (hWork w)).trans (hSame ▸ hSession)⟩
    · exact ⟨_, _, rfl, hSame ▸ hSession⟩

theorem step (h : WorkerHistory log sys) (i : SystemInput) :
    WorkerHistory (log ++ [(i, (sys.step i).1)]) (sys.step i).2 := by
  cases i with
  | workerReturns index route =>
    refine h.close_step rfl ?_
    intro worker result hChannel
    cases hChannel
    exact ⟨route, rfl, rfl⟩
  | workerExits index =>
    refine h.close_step rfl ?_
    intro worker result hChannel
    cases hChannel
  | _ => exact h.daemon_step rfl (System.step_outcome sys _).job

/-- A transcript that reaches the daemon was returned by the worker its job waits for. -/
theorem received (h : WorkerHistory log sys) {job : RecognitionJob} {env : Environment}
    {result : RecognitionRouteResult} {success : RecognitionSuccess}
    (hJob : sys.daemon.recognitionJob = some job)
    (hReceives : Daemon.Receives (sys.boundary env) job result)
    (hOutcome : result.outcome = .ok success) :
    ∃ work route answer, .workerStarted job.channel work ∈ effects log ∧
      work.session = job.session ∧ (.workerReturns job.channel route, answer) ∈ log ∧
      result = work.run route := by
  obtain ⟨work, channel, hFace, hSession⟩ := h.job job hJob
  have hSome := hFace
  rw [System.faces, List.getElem?_map] at hSome
  obtain ⟨w, hWorker, hEq⟩ := Option.map_eq_some_iff.mp hSome
  cases hReceives with
  | disconnected => cases hOutcome
  | received hRecv =>
    change sys.tryRecv job.channel = _ at hRecv
    rw [System.tryRecv, hWorker] at hRecv
    dsimp only at hRecv
    cases hChannel : w.channel with
    | pending =>
      rw [hChannel] at hRecv
      cases hRecv
    | closed =>
      rw [hChannel] at hRecv
      cases hRecv
    | sent sent =>
      rw [hChannel] at hRecv
      cases hRecv
      have hSent : sys.faces[job.channel]? = some (work, .sent result) := by
        rw [hFace, ← hChannel]
        exact congrArg (fun face => some (work, face.2)) hEq.symm
      obtain ⟨route, answer, hMem, hResult⟩ := h.answered job.channel work result hSent
      exact ⟨work, route, answer, h.started job.channel work channel hFace, hSession, hMem,
        hResult⟩

theorem received_nonblank (h : WorkerHistory log sys) {job : RecognitionJob} {env : Environment}
    {result : RecognitionRouteResult} {success : RecognitionSuccess}
    (hJob : sys.daemon.recognitionJob = some job)
    (hReceives : Daemon.Receives (sys.boundary env) job result)
    (hOutcome : result.outcome = .ok success) :
    RustText.isBlank success.transcript.text = false := by
  obtain ⟨work, route, answer, _, _, _, hResult⟩ := h.received hJob hReceives hOutcome
  rw [hResult] at hOutcome
  exact route_transcript hOutcome

end WorkerHistory

theorem worker_history (config : Config) (registry : ProviderRegistry) (wake : WakeHandle)
    (inputs : List SystemInput) :
    WorkerHistory ((systemMachine config registry wake).log inputs)
      ((systemMachine config registry wake).state inputs) := by
  refine (systemMachine config registry wake).invariant ?_ (fun log sys i h => h.step i) inputs
  constructor
  case started | answered => intro k _ _ hFace; cases hFace
  case job => intro job hJob; cases hJob

end VoxType
