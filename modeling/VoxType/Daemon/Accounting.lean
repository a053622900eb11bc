import VoxType.App.Accounting
import VoxType.Daemon.Waiting

/-!
# Accounting of recognition workers

A result is accounted when it is polled, so a job that leaves the slot unpolled
takes its attempts with it. Every other worker is accounted once, with the
audio time of the job that was made for it.
-/

namespace VoxType

set_option autoImplicit false

namespace VoxTypeDaemon

/-- What has been accounted for each provider. -/
def usage (self : VoxTypeDaemon) : ProviderId → Option ProviderUsageSnapshot :=
  self.app.providerUsage

@[simp] theorem usage_applied (self : VoxTypeDaemon) (c : Command) :
    (self.applied c).usage = self.usage := (self.app.apply_providers c).providerUsage

end VoxTypeDaemon

namespace Daemon

variable {env : Environment} {d : VoxTypeDaemon}

@[simp] theorem usage_settled (d : VoxTypeDaemon) : (settled d).usage = d.usage :=
  congrArg AppController.providerUsage (settled_fields d).1

@[simp] theorem usage_stopping (env : Environment) (d : VoxTypeDaemon) (session : SessionId) :
    (stopping env d session).usage = d.usage :=
  (VoxTypeDaemon.usage_applied _ _).trans
    (congrArg AppController.providerUsage (telemetry_app env d))

theorem StartOutcome.usage {profile : String} {o : DaemonOutcome String}
    (h : StartOutcome env d profile o) : o.state.usage = d.usage := by
  cases h with
  | refused | rejected => rfl
  | @begun profileName _ _ _ _ hSession =>
    refine Eq.trans ?_ (VoxTypeDaemon.usage_applied d (.start ⟨.toggle, some profileName⟩))
    cases hSession with
    | armFailed | captureFailed | listening => exact VoxTypeDaemon.usage_applied _ _
    | full _ _ hApp => exact congrArg AppController.providerUsage hApp

theorem StopOutcome.usage {requested : String} {o : DaemonOutcome String}
    (h : StopOutcome env d requested o) : o.state.usage = d.usage := by
  cases h with
  | refused => rfl
  | rejected => exact congrArg AppController.providerUsage (telemetry_app env d)
  | @missing session =>
    exact (VoxTypeDaemon.usage_applied _ _).trans
      (congrArg AppController.providerUsage (telemetry_app env d))
  | stopFailed => exact (VoxTypeDaemon.usage_applied _ _).trans (usage_stopping env d _)
  | @processed session _ _ _ _ _ _ _ _ hProcess =>
    refine Eq.trans ?_ (usage_stopping env d session)
    cases hProcess with
    | silent | failed => exact (usage_settled _).trans (VoxTypeDaemon.usage_applied _ _)
    | full => exact usage_settled _
    | started => rfl

/-- Only a capture that was listened to starts a worker. -/
theorem StopOutcome.started_listening {requested : String} {o : DaemonOutcome String}
    (h : StopOutcome env d requested o) {k : Nat} {work : RecognitionWork}
    (hStarted : .workerStarted k work ∈ o.trace) :
    ∃ session mode, d.state = .listening session mode := by
  cases h with
  | refused | rejected => simp at hStarted
  | missing _ hState | stopFailed _ hState | processed _ hState => exact ⟨_, _, hState⟩

theorem DeliverOutcome.usage {job : RecognitionJob} {outcome : Except VoxError RecognitionSuccess}
    {o : DaemonOutcome String} (h : DeliverOutcome env d job outcome o) :
    o.state.usage = d.usage := by
  cases h with
  | failed | cut => exact VoxTypeDaemon.usage_applied _ _
  | blank | full => rfl
  | notInserted =>
    exact (VoxTypeDaemon.usage_applied _ _).trans (VoxTypeDaemon.usage_applied _ _)
  | inserted =>
    refine (congrArg AppController.providerUsage (VoxTypeDaemon.remember_app _ _)).trans ?_
    exact (AppController.finishSession_providers _ _ _ _ _ _).providerUsage.trans
      ((VoxTypeDaemon.usage_applied _ _).trans (VoxTypeDaemon.usage_applied _ _))

/-- With a job in the slot, a cancel that does not name its session is refused. -/
theorem cancel_refused {requested : String} {job : RecognitionJob}
    (hState : d.state = .finalizing job.session)
    (hNames : ¬(Names requested job.session ∧ d.Room)) :
    ((cancel requested).run d).state = d ∧
      ∀ k work, .workerStarted k work ∉ ((cancel requested).run d).trace := by
  rw [cancel]
  rcases activeSessionId_run d requested with
    ⟨error, hActive, _⟩ | ⟨active, hSession, hActiveNames, hActive⟩
  · rw [Effects.Call.bind_error hActive]
    exact ⟨rfl, by simp⟩
  · rw [hState] at hSession
    cases hSession
    have hFull : ¬ d.Room := fun hRoom => hNames ⟨hActiveNames, hRoom⟩
    obtain ⟨hAnswer, hApplied⟩ := VoxTypeDaemon.answer_full hFull (.cancel job.session)
    rw [Effects.Call.bind_ok hActive, Effects.Call.bind_error (mapped_error d hAnswer), hApplied]
    exact ⟨rfl, starts_none (inert_append (by simp) (inert_command _ _))⟩

end Daemon

namespace System

/-- The step takes the job out of the slot without looking at its result. -/
def Releases (self : System) (i : SystemInput) : Prop :=
  match self.daemon.recognitionJob, i with
  | some job, .cancel requested => Daemon.Names requested job.session ∧ self.daemon.Room
  | some _, .quit => True
  | _, _ => False

end System

/-- What a step does to the job slot and to the accounts. -/
inductive Booking (self : System) (i : SystemInput) (trace : List DaemonEffect)
    (d' : VoxTypeDaemon) : Prop
  | kept (hNone : ∀ k work, .workerStarted k work ∉ trace)
    (hJob : d'.recognitionJob = self.daemon.recognitionJob)
    (hUsage : d'.usage = self.daemon.usage) : Booking self i trace d'
  | started {earlier : List DaemonEffect} {work : RecognitionWork} {next : RecognitionJob}
    (hNone : ∀ k work, .workerStarted k work ∉ earlier)
    (hTrace : trace = earlier ++ [.workerStarted self.workers.length work])
    (hIdle : self.daemon.recognitionJob = none) (hJob : d'.recognitionJob = some next)
    (hChannel : next.channel = self.workers.length)
    (hUsage : d'.usage = self.daemon.usage) : Booking self i trace d'
  | booked {env : Environment} {job : RecognitionJob} {received : RecognitionRouteResult}
    (hNone : ∀ k work, .workerStarted k work ∉ trace)
    (hJob : self.daemon.recognitionJob = some job)
    (hReceives : Daemon.Receives (self.boundary env) job received)
    (hIdle : d'.recognitionJob = none)
    (hUsage : d'.usage =
      (self.daemon.app.recordRouteResult received job.audioMillis env.now).providerUsage) :
    Booking self i trace d'
  | released (hReleases : self.Releases i) : Booking self i trace d'

namespace Booking

open Daemon

variable {self : System} {env : Environment} {i : SystemInput}

theorem of_start {profile : String} {o : DaemonOutcome String}
    (h : StartOutcome env self.daemon profile o) : Booking self i o.trace o.state :=
  .kept (starts_none h.inert) h.job h.usage

theorem of_stop (hWaiting : Waiting self.daemon) {requested : String} {o : DaemonOutcome String}
    (h : StopOutcome (self.boundary env) self.daemon requested o) :
    Booking self i o.trace o.state := by
  rcases h.spawns with ⟨hJob, hInert⟩ | ⟨earlier, work, _, hTrace, hInert, hJob, _, hChannel⟩
  · exact .kept (starts_none hInert) hJob h.usage
  · have hStarted : .workerStarted self.workers.length work ∈ o.trace := by
      rw [hTrace]
      exact List.mem_append_right earlier (List.mem_singleton_self _)
    obtain ⟨_, _, hState⟩ := h.started_listening hStarted
    exact .started (starts_none hInert) hTrace (hWaiting.no_job_listening hState) hJob hChannel
      h.usage

theorem of_poll (hWaiting : Waiting self.daemon) {o : DaemonOutcome Bool}
    (h : PollOutcome (self.boundary env) self.daemon o) : Booking self i o.trace o.state := by
  cases h with
  | idle => exact .kept (by simp) rfl rfl
  | stale hJob hState => exact absurd (hWaiting.job _ hJob) hState
  | @delivered job received hJob hReceives _ _ hDeliver =>
    refine .booked ?_ hJob hReceives (hDeliver.job.trans rfl) hDeliver.usage
    exact starts_none_append (starts_none_append hDeliver.starts_none
      (starts_none (releaseOnError_inert _))) (starts_none (VoxTypeDaemon.removal_inert _ _))

theorem of_cancel (hWaiting : Waiting self.daemon) (requested : String) :
    Booking self (.cancel requested) ((cancel requested).run self.daemon).trace
      ((cancel requested).run self.daemon).state := by
  cases hJob : self.daemon.recognitionJob with
  | none =>
    have hOutcome := cancel_outcome self.daemon requested
    generalize (cancel requested).run self.daemon = o at hOutcome ⊢
    cases hOutcome with
    | refused => exact .kept (by simp) rfl rfl
    | rejected => exact .kept (by simp) rfl rfl
    | cancelled =>
      exact .kept (starts_none (inert_append (inert_command _ _) (release_inert _))) hJob.symm
        (VoxTypeDaemon.usage_applied _ _)
  | some job =>
    by_cases hNames : Names requested job.session ∧ self.daemon.Room
    · exact .released (by simpa only [System.Releases, hJob] using hNames)
    · obtain ⟨hState, hStarts⟩ := cancel_refused (hWaiting.job job hJob) hNames
      rw [hState]
      exact .kept hStarts rfl rfl

theorem of_quit :
    Booking self .quit (quit.run self.daemon).trace (quit.run self.daemon).state := by
  cases hJob : self.daemon.recognitionJob with
  | none =>
    rw [quit_run]
    exact .kept (starts_none (release_inert _)) hJob.symm rfl
  | some job => exact .released (by simp only [System.Releases, hJob])

theorem of_reset : Booking self i (reset.run self.daemon).trace (reset.run self.daemon).state := by
  have hOutcome := reset_outcome self.daemon
  generalize reset.run self.daemon = o at hOutcome ⊢
  cases hOutcome with
  | rejected => exact .kept (by simp) rfl rfl
  | wasReset => exact .kept (by simp) rfl (VoxTypeDaemon.usage_applied _ _)

end Booking

/-- The inputs that are steps of the daemon itself. -/
def SystemInput.OfDaemon : SystemInput → Prop
  | .workerReturns _ _ | .workerExits _ => False
  | _ => True

open Daemon in
theorem System.step_booking {self : System} (hWaiting : Waiting self.daemon) {i : SystemInput}
    (hDaemon : i.OfDaemon) : Booking self i (self.step i).1.effects (self.step i).2.daemon := by
  cases i with
  | start env profile => exact .of_start (start_outcome _ _ profile)
  | stop env session => exact .of_stop hWaiting (stop_outcome _ _ session)
  | toggle env profile =>
    rw [step, (perform_effects _ _ _).1, (perform_effects _ _ _).2.1, toggle_run]
    split
    · exact .of_stop hWaiting (stop_outcome _ _ "")
    · exact .of_start (start_outcome _ _ profile)
  | cancel session => exact .of_cancel hWaiting session
  | reset => exact .of_reset
  | reloadConfiguration env =>
    rw [step, (perform_effects _ _ _).1, (perform_effects _ _ _).2.1]
    rcases reload_outcome (self.boundary env) self.daemon with
      ⟨_, hRun⟩ | ⟨_, _, _, _, _, hRun⟩ <;>
    · rw [hRun]
      exact .kept (by simp) rfl rfl
  | enforceRecordingDeadline env =>
    rw [step, (perform_effects _ _ _).1, (perform_effects _ _ _).2.1]
    rcases enforce_outcome (self.boundary env) self.daemon with ⟨_, hRun⟩ | ⟨_, hState, hTrace⟩
    · rw [hRun]
      exact .kept (by simp) rfl rfl
    · rw [hState, hTrace]
      exact .of_stop hWaiting (stop_outcome _ _ "")
  | pollRecognition env => exact .of_poll hWaiting (poll_outcome _ _)
  | pollAudioTelemetry env =>
    refine .kept (by simp [step, perform, pollAudioTelemetry]) ?_ ?_
    · exact (telemetry_work (self.boundary env) self.daemon).2.2.1
    · exact congrArg AppController.providerUsage (telemetry_app (self.boundary env) self.daemon)
  | drainEvents =>
    refine .kept ?_ rfl rfl
    intro k work hMem
    cases List.mem_singleton.mp hMem
  | quit => exact .of_quit
  | workerReturns index route | workerExits index => exact hDaemon.elim
  | workerNotifies => exact .kept (fun k work hMem => by cases hMem) rfl rfl

namespace WorkerChannel

/-- The result has been returned. -/
def answered : WorkerChannel → Bool
  | sent _ => true
  | _ => false

/-- The attempts of a returned result, at the audio time of its session. -/
def charges (audioMillis : Nat) : WorkerChannel → List Charge
  | sent result => result.attempts.map fun attempt => (attempt, audioMillis)
  | _ => []

end WorkerChannel

/-- The attempts of all returned results, at the audio times of the jobs they belong to. -/
def ledger (faces : List WorkerFace) (jobs : List RecognitionJob) : List Charge :=
  (faces.zip jobs).flatMap fun entry => entry.1.2.charges entry.2.audioMillis

theorem ledger_snoc {faces : List WorkerFace} {jobs : List RecognitionJob}
    (hLength : faces.length = jobs.length) (face : WorkerFace) (job : RecognitionJob) :
    ledger (faces ++ [face]) (jobs ++ [job]) =
      ledger faces jobs ++ face.2.charges job.audioMillis := by
  rw [ledger, List.zip_append hLength, List.flatMap_append, ledger]
  exact congrArg _ (List.append_nil _)

namespace System

/-- The job that a step has made for a new worker. -/
def newJobs (self next : System) : List RecognitionJob :=
  if self.workers.length < next.workers.length then next.daemon.recognitionJob.toList else []

/-- The jobs that a run has made, in the order of their workers. -/
def jobsFrom (self : System) : List SystemInput → List RecognitionJob
  | [] => []
  | i :: rest => self.newJobs (self.step i).2 ++ (self.step i).2.jobsFrom rest

end System

section Jobs

variable (config : Config) (registry : ProviderRegistry) (wake : WakeHandle)

def sessionJobs (inputs : List SystemInput) : List RecognitionJob :=
  (systemMachine config registry wake).start.jobsFrom inputs

theorem sessionJobs_snoc (inputs : List SystemInput) (i : SystemInput) :
    sessionJobs config registry wake (inputs ++ [i]) =
      sessionJobs config registry wake inputs ++
        ((systemMachine config registry wake).state inputs).newJobs
          ((systemMachine config registry wake).state (inputs ++ [i])) := by
  rw [Transition.Machine.state_snoc]
  have hFrom : ∀ (s : System) (inputs : List SystemInput),
      s.jobsFrom (inputs ++ [i]) = s.jobsFrom inputs ++
        (((systemMachine config registry wake).runFrom s inputs).2).newJobs
          (((systemMachine config registry wake).runFrom s inputs).2.step i).2 := by
    intro s inputs
    induction inputs generalizing s with
    | nil => exact List.append_nil _
    | cons j inputs ih =>
      rw [List.cons_append, System.jobsFrom, ih, System.jobsFrom, List.append_assoc]
      rfl
  exact hFrom _ inputs

end Jobs

/-- The accounts: the workers that are done are charged, the one of the job is not yet. -/
structure Books (done waiting : List WorkerFace) (past jobs : List RecognitionJob)
    (sys : System) : Prop where
  faces : sys.faces = done ++ waiting
  jobs : jobs = past ++ sys.daemon.recognitionJob.toList
  length : done.length = past.length
  waiting : waiting.length = sys.daemon.recognitionJob.toList.length
  channel : ∀ job, sys.daemon.recognitionJob = some job → job.channel = done.length
  closed : ∀ face ∈ done, face.2 ≠ .pending
  counters : ∀ id, sys.daemon.app.counters id = (tally id (ledger done past)).saturated

def Balanced (jobs : List RecognitionJob) (sys : System) : Prop :=
  ∃ done waiting past, Books done waiting past jobs sys

theorem counters_congr {c c' : AppController} (h : c'.providerUsage = c.providerUsage)
    (id : ProviderId) : c'.counters id = c.counters id := by
  rw [AppController.counters, h, AppController.counters]

namespace Balanced

variable {jobs : List RecognitionJob} {sys next : System} {i : SystemInput}

/-- A step that starts no worker leaves the workers as they are. -/
theorem unstarted {trace : List DaemonEffect}
    (hWorkers : next.workers = trace.foldl System.absorb sys.workers)
    (hNone : ∀ k work, .workerStarted k work ∉ trace) :
    next.faces = sys.faces ∧ sys.newJobs next = [] := by
  have hFaces : next.faces = sys.faces := by
    rw [System.faces, hWorkers]
    exact System.faces_absorb hNone sys.workers
  have hLength := congrArg List.length hFaces
  rw [System.faces, List.length_map, System.faces, List.length_map] at hLength
  exact ⟨hFaces, if_neg (by omega)⟩

theorem daemon_step (h : Balanced jobs sys) {trace : List DaemonEffect}
    (hWorkers : next.workers = trace.foldl System.absorb sys.workers)
    (hBooking : Booking sys i trace next.daemon) (hKept : ¬ sys.Releases i) :
    Balanced (jobs ++ sys.newJobs next) next := by
  obtain ⟨done, waiting, past, books⟩ := h
  cases hBooking with
  | kept hNone hJob hUsage =>
    obtain ⟨hFaces, hNew⟩ := unstarted hWorkers hNone
    rw [hNew, List.append_nil]
    refine ⟨done, waiting, past, ?_⟩
    constructor
    case faces => rw [hFaces, books.faces]
    case jobs => rw [hJob, ← books.jobs]
    case length => exact books.length
    case waiting => rw [hJob, books.waiting]
    case channel => rw [hJob]; exact books.channel
    case closed => exact books.closed
    case counters => exact fun id => (counters_congr hUsage id).trans (books.counters id)
  | @started earlier work job hNone hTrace hIdle hJob hChannel hUsage =>
    have hWaiting : waiting = [] := by
      rw [← List.length_eq_zero_iff, books.waiting, hIdle]
      rfl
    have hFaces : next.faces = done ++ [(work, .pending)] := by
      rw [System.faces, hWorkers, hTrace, List.foldl_append, List.foldl_cons, List.foldl_nil]
      change List.map Worker.face (_ ++ [_]) = _
      rw [List.map_append, System.faces_absorb hNone]
      change sys.faces ++ _ = _
      rw [books.faces, hWaiting, List.append_nil]
      rfl
    have hLength : sys.workers.length = done.length := by
      have hOld := congrArg List.length books.faces
      rwa [System.faces, List.length_map, hWaiting, List.append_nil] at hOld
    have hNew : sys.newJobs next = [job] := by
      have hMore := congrArg List.length hFaces
      rw [System.faces, List.length_map, List.length_append, List.length_singleton] at hMore
      rw [System.newJobs, if_pos (by omega), hJob]
      rfl
    have hPast : jobs = past := by
      rw [books.jobs, hIdle]
      exact List.append_nil past
    refine ⟨done, [(work, .pending)], past, ?_⟩
    constructor
    case faces => exact hFaces
    case jobs => rw [hNew, hJob, hPast]; rfl
    case length => exact books.length
    case waiting => rw [hJob]; rfl
    case channel =>
      intro other hOther
      rw [hJob] at hOther
      cases hOther
      exact hChannel.trans hLength
    case closed => exact books.closed
    case counters => exact fun id => (counters_congr hUsage id).trans (books.counters id)
  | @booked env job received hNone hJob hReceives hIdle hUsage =>
    obtain ⟨hFaces, hNew⟩ := unstarted hWorkers hNone
    rw [hNew, List.append_nil]
    obtain ⟨face, hFace⟩ : ∃ face, waiting = [face] := by
      rw [← List.length_eq_one_iff, books.waiting, hJob]
      rfl
    have hAll : sys.faces = done ++ [face] := by rw [books.faces, hFace]
    have hWorker : ∃ worker, sys.workers[job.channel]? = some worker ∧ worker.face = face := by
      have hIndex : sys.faces[job.channel]? = some face := by
        rw [hAll, books.channel job hJob, List.getElem?_concat_length]
      rw [System.faces, List.getElem?_map] at hIndex
      exact Option.map_eq_some_iff.mp hIndex
    obtain ⟨worker, hWorker, rfl⟩ := hWorker
    have hCharges : worker.channel ≠ .pending ∧ worker.channel.charges job.audioMillis =
        received.attempts.map fun attempt => (attempt, job.audioMillis) := by
      cases hReceives with
      | received hRecv | disconnected hRecv =>
        change sys.tryRecv job.channel = _ at hRecv
        rw [System.tryRecv, hWorker] at hRecv
        dsimp only at hRecv
        split at hRecv <;> cases hRecv
        rename_i hChannel
        rw [hChannel]
        exact ⟨by simp, rfl⟩
    refine ⟨done ++ [worker.face], [], past ++ [job], ?_⟩
    constructor
    case faces => rw [hFaces, hAll, List.append_nil]
    case jobs => rw [hIdle, books.jobs, hJob]; exact (List.append_nil _).symm
    case length => rw [List.length_append, List.length_append, books.length]; rfl
    case waiting => rw [hIdle]; rfl
    case channel =>
      intro other hOther
      rw [hIdle] at hOther
      cases hOther
    case closed =>
      intro other hMem
      rcases List.mem_append.mp hMem with hMem | hMem
      · exact books.closed other hMem
      · cases List.mem_singleton.mp hMem
        exact hCharges.1
    case counters =>
      intro id
      rw [counters_congr hUsage, ledger_snoc books.length]
      change _ = (tally id (_ ++ worker.channel.charges job.audioMillis)).saturated
      rw [hCharges.2]
      exact AppController.counters_recordRouteResult (books.counters id)
  | released hReleases => exact absurd hReleases hKept

/-- Modifying one element keeps the elements that the modification fixes. -/
theorem modify_fixed {f : WorkerFace → WorkerFace} {done : List WorkerFace}
    (hFixed : ∀ face ∈ done, f face = face) (waiting : List WorkerFace) (k : Nat) :
    ∃ waiting', (done ++ waiting).modify k f = done ++ waiting' ∧
      waiting'.length = waiting.length := by
  induction done generalizing k with
  | nil => exact ⟨waiting.modify k f, rfl, List.length_modify _ _ _⟩
  | cons face done ih =>
    have hRest : ∀ other ∈ done, f other = other :=
      fun other hMem => hFixed other (List.mem_cons_of_mem _ hMem)
    cases k with
    | zero =>
      refine ⟨waiting, ?_, rfl⟩
      rw [List.cons_append, List.modify_zero_cons, hFixed face List.mem_cons_self]
    | succ k =>
      obtain ⟨waiting', hModify, hLength⟩ := ih hRest k
      exact ⟨waiting', by rw [List.cons_append, List.modify_succ_cons, hModify]; rfl, hLength⟩

theorem close_step (h : Balanced jobs sys) (index : Nat)
    (channel : RecognitionWork → WorkerChannel) :
    Balanced (jobs ++ sys.newJobs (sys.closing index fun worker => channel worker.work))
      (sys.closing index fun worker => channel worker.work) := by
  obtain ⟨done, waiting, past, books⟩ := h
  have hNew : sys.newJobs (sys.closing index fun worker => channel worker.work) = [] := by
    refine if_neg ?_
    rw [System.closing, List.length_modify]
    exact Nat.lt_irrefl _
  have hFixed : ∀ face ∈ done, WorkerFace.fill channel face = face :=
    fun face hMem => WorkerFace.fill_closed (books.closed face hMem)
  obtain ⟨waiting', hModify, hLength⟩ := modify_fixed hFixed waiting index
  rw [hNew, List.append_nil]
  exact ⟨done, waiting', past, by rw [System.faces_closing, books.faces, hModify], books.jobs,
    books.length, hLength.trans books.waiting, books.channel, books.closed, books.counters⟩

theorem step (h : Balanced jobs sys) (hWaiting : Waiting sys.daemon) {i : SystemInput}
    (hKept : ¬ sys.Releases i) :
    Balanced (jobs ++ sys.newJobs (sys.step i).2) (sys.step i).2 := by
  cases i with
  | workerReturns index route => exact h.close_step index fun work => .sent (work.run route)
  | workerExits index => exact h.close_step index fun _ => .closed
  | _ =>
    refine h.daemon_step rfl (System.step_booking hWaiting ?_) hKept
    trivial

/-- Without a job every worker is done. -/
theorem settled (h : Balanced jobs sys) (hIdle : sys.daemon.recognitionJob = none) :
    ∀ id, sys.daemon.app.counters id = (tally id (ledger sys.faces jobs)).saturated := by
  obtain ⟨done, waiting, past, books⟩ := h
  have hNone : waiting = [] := by
    rw [← List.length_eq_zero_iff, books.waiting, hIdle]
    rfl
  rw [books.faces, hNone, books.jobs, hIdle, Option.toList_none, List.append_nil, List.append_nil]
  exact books.counters

end Balanced

section Runs

variable (config : Config) (registry : ProviderRegistry) (wake : WakeHandle)

theorem balanced_run {inputs : List SystemInput}
    (hKept : (systemMachine config registry wake).Along (fun _ sys i => ¬ sys.Releases i)
      inputs) :
    Balanced (sessionJobs config registry wake inputs)
      ((systemMachine config registry wake).state inputs) := by
  induction inputs using List.reverseRecOn with
  | nil =>
    exact ⟨[], [], [], rfl, rfl, rfl, rfl, nofun, fun _ hMem => absurd hMem List.not_mem_nil,
      fun id => rfl⟩
  | append_singleton inputs i ih =>
    obtain ⟨hBefore, hLast⟩ := (Transition.Machine.along_snoc _ _ inputs i).mp hKept
    rw [sessionJobs_snoc, Transition.Machine.state_snoc]
    exact (ih hBefore).step (waiting_run config registry wake inputs) hLast

/-- A poll after the last answer empties the slot. -/
theorem poll_empties {sys : System} (env : Environment)
    (hWorkers : ∀ job, sys.daemon.recognitionJob = some job →
      ∃ worker, sys.workers[job.channel]? = some worker ∧ worker.channel.answered = true) :
    (sys.step (.pollRecognition env)).2.daemon.recognitionJob = none := by
  have hOutcome := Daemon.poll_outcome (sys.boundary env) sys.daemon
  change ((Daemon.pollRecognition (sys.boundary env)).run sys.daemon).state.recognitionJob = none
  generalize (Daemon.pollRecognition (sys.boundary env)).run sys.daemon = o at hOutcome ⊢
  cases hOutcome with
  | idle hIdle =>
    cases hJob : sys.daemon.recognitionJob with
    | none => rfl
    | some job =>
      obtain ⟨worker, hWorker, hAnswered⟩ := hWorkers job hJob
      have hEmpty := hIdle job hJob
      change sys.tryRecv job.channel = _ at hEmpty
      rw [System.tryRecv, hWorker] at hEmpty
      dsimp only at hEmpty
      cases hChannel : worker.channel with
      | pending =>
        rw [hChannel] at hAnswered
        cases hAnswered
      | sent result | closed =>
        rw [hChannel] at hEmpty
        cases hEmpty
  | stale => rfl
  | delivered _ _ _ hDeliver => exact hDeliver.job.trans rfl

/-- Every attempt is accounted, in a run in which no job is taken out of the slot unpolled. -/
theorem accounted (inputs : List SystemInput) (env : Environment)
    (hKept : (systemMachine config registry wake).Along (fun _ sys i => ¬ sys.Releases i) inputs)
    (hReturned : ∀ worker ∈ ((systemMachine config registry wake).state inputs).workers,
      worker.channel.answered = true) :
    ∀ id, ((systemMachine config registry wake).state
        (inputs ++ [.pollRecognition env])).daemon.app.counters id =
      (tally id (ledger
        ((systemMachine config registry wake).state (inputs ++ [.pollRecognition env])).faces
        (sessionJobs config registry wake (inputs ++ [.pollRecognition env])))).saturated := by
  have hBalanced := balanced_run config registry wake hKept
  have hWaiting := waiting_run config registry wake inputs
  have hWorkers := worker_history config registry wake inputs
  rw [sessionJobs_snoc, Transition.Machine.state_snoc]
  generalize (systemMachine config registry wake).state inputs = sys at *
  have hPoll : ¬ sys.Releases (.pollRecognition env) := by simp [System.Releases]
  refine (hBalanced.step hWaiting hPoll).settled (poll_empties env fun job hJob => ?_)
  obtain ⟨work, channel, hFace, _⟩ := hWorkers.job job hJob
  rw [System.faces, List.getElem?_map] at hFace
  obtain ⟨worker, hWorker, _⟩ := Option.map_eq_some_iff.mp hFace
  exact ⟨worker, hWorker, hReturned worker (List.mem_of_getElem? hWorker)⟩

end Runs

/-- A session that is cancelled while its worker uploads, and then answered and polled. -/
def cancelledDictation : List SystemInput :=
  [.start workingBoundary "", .stop workingBoundary "", .cancel "",
    .workerReturns 0 answeringRoute]

theorem cancelled_unaccounted :
    (∀ worker ∈ ((systemMachine dictationConfig ⟨[cloud]⟩ .disabled).state
      cancelledDictation).workers, worker.channel.answered = true) ∧
    ((systemMachine dictationConfig ⟨[cloud]⟩ .disabled).state
      (cancelledDictation ++ [.pollRecognition workingBoundary])).daemon.app.counters cloud =
        ⟨0, 0, 0⟩ ∧
    (tally cloud (ledger ((systemMachine dictationConfig ⟨[cloud]⟩ .disabled).state
        (cancelledDictation ++ [.pollRecognition workingBoundary])).faces
      (sessionJobs dictationConfig ⟨[cloud]⟩ .disabled
        (cancelledDictation ++ [.pollRecognition workingBoundary])))).saturated =
        ⟨1, 1, 1000⟩ := by
  decide +kernel

theorem accounted_dictation :
    ((systemMachine dictationConfig ⟨[cloud]⟩ .disabled).state dictation).daemon.app.counters
      cloud = ⟨1, 1, 1000⟩ := by
  have hAccounted := accounted dictationConfig ⟨[cloud]⟩ .disabled
    [.start workingBoundary "", .stop workingBoundary "", .workerReturns 0 answeringRoute]
    workingBoundary
    ((Transition.Machine.along_iff_alongFrom _ _ _).mpr
      (by simp [Transition.Machine.alongFrom, System.Releases]))
    (by decide +kernel) cloud
  refine hAccounted.trans ?_
  decide +kernel

end VoxType
