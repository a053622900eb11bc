import VoxType.Daemon.Signals

/-!
# The loop of the daemon process

The loop holds the daemon's lock for one round of maintenance, releases it and
blocks on the wake channel. Bus methods run under the lock; workers send their
result, and notify after that, at any time.
-/

namespace VoxType

set_option autoImplicit false

/-- `Duration::from_millis(100)` in nanoseconds -/
def recordingWait : Nat := 100 * 10 ^ 6

def VoxTypeDaemon.maintenanceWait (self : VoxTypeDaemon) (now : Nat) : Nat :=
  if self.quit then 0
  else
    match self.recordingStartedAt with
    | none => 60 * 10 ^ 9
    | some startedAt =>
      min recordingWait (self.config.audio.maximumDurationSeconds * 10 ^ 9 - (now - startedAt))

/-- A computed wait, with the capture and the session that it was computed for. -/
structure MaintenanceWait where
  nanos : Nat
  startedAt : Option Nat
  machine : SessionMachine
  deriving DecidableEq, Repr

/-- What the loop does next; the lock is held from `telemetry` to `measuring`. -/
inductive LoopPhase
  | unlocked
  | telemetry
  | deadline
  | polling
  | draining
  | measuring
  | emitting (wait : MaintenanceWait)
  | blocked (wait : MaintenanceWait)
  | exited
  deriving DecidableEq, Repr

namespace LoopPhase

/-- The lock is free. -/
def free : LoopPhase → Bool
  | unlocked | emitting _ | blocked _ => true
  | _ => false

/-- The results of this round have been polled. -/
def polled : LoopPhase → Bool
  | draining | measuring | emitting _ | blocked _ => true
  | _ => false

/-- The events of this round have been drained. -/
def drained : LoopPhase → Bool
  | measuring | emitting _ | blocked _ => true
  | _ => false

def wait? : LoopPhase → Option MaintenanceWait
  | emitting wait | blocked wait => some wait
  | _ => none

end LoopPhase

/-- The methods of the bus interface that change the daemon. -/
inductive BusCall
  | start (env : Environment) (profile : String)
  | stop (env : Environment) (session : String)
  | toggle (env : Environment) (profile : String)
  | cancel (session : String)
  | reset
  | reloadConfiguration (env : Environment)
  | clearHistory
  | quit

inductive LoopInput
  | lock
  | call (env : Environment)
  | block
  | receive
  | timeout
  | bus (call : BusCall)
  | workerReturns (worker : Nat) (route : RouteEnvironment)
  | workerExits (worker : Nat)
  | workerNotifies (worker : Nat)

structure LoopSystem where
  system : System
  notified : List Nat
  phase : LoopPhase

namespace System

def busCall (self : System) : BusCall → System
  | .start env profile => (self.step (.start env profile)).2
  | .stop env session => (self.step (.stop env session)).2
  | .toggle env profile => (self.step (.toggle env profile)).2
  | .cancel session => (self.step (.cancel session)).2
  | .reset => (self.step .reset).2
  | .reloadConfiguration env => (self.step (.reloadConfiguration env)).2
  | .clearHistory => { self with daemon := { self.daemon with transcriptHistory := [] } }
  | .quit => (self.step .quit).2

/-- A result has been sent through the channel of the worker. -/
def hasSent (self : System) (worker : Nat) : Bool :=
  match self.tryRecv worker with
  | .received _ => true
  | _ => false

/-- The token has been taken out of the wake channel. -/
def received (self : System) : System :=
  { self with daemon := { self.daemon with app := { self.daemon.app with wake := .channel false } } }

end System

namespace LoopSystem

/-- A call of the locked part of a round. -/
def call (self : LoopSystem) (env : Environment) : Option LoopSystem :=
  match self.phase with
  | .telemetry =>
    some { self with
      system := (self.system.step (.pollAudioTelemetry env)).2, phase := .deadline }
  | .deadline =>
    some { self with
      system := (self.system.step (.enforceRecordingDeadline env)).2, phase := .polling }
  | .polling =>
    some { self with
      system := (self.system.step (.pollRecognition env)).2, phase := .draining }
  | .draining =>
    some { self with system := (self.system.step .drainEvents).2, phase := .measuring }
  | .measuring =>
    some { self with
      phase := .emitting ⟨self.system.daemon.maintenanceWait env.now,
        self.system.daemon.recordingStartedAt, self.system.daemon.app.machine⟩ }
  | _ => none

/-- A step of the process; none where the step cannot be taken. -/
def step (self : LoopSystem) : LoopInput → Option LoopSystem
  | .lock =>
    if self.phase = .unlocked then
      some { self with phase := if self.system.daemon.quit then .exited else .telemetry }
    else none
  | .call env => self.call env
  | .block =>
    match self.phase with
    | .emitting wait => some { self with phase := .blocked wait }
    | _ => none
  | .receive =>
    match self.phase, self.system.daemon.app.wake with
    | .blocked _, .channel true =>
      some { self with system := self.system.received, phase := .unlocked }
    | _, _ => none
  | .timeout =>
    match self.phase with
    | .blocked _ => some { self with phase := .unlocked }
    | _ => none
  | .bus call =>
    if self.phase.free then some { self with system := self.system.busCall call } else none
  | .workerReturns worker route =>
    some { self with system := (self.system.step (.workerReturns worker route)).2 }
  | .workerExits worker =>
    some { self with system := (self.system.step (.workerExits worker)).2 }
  | .workerNotifies worker =>
    if self.system.hasSent worker ∧ worker ∉ self.notified then
      some { self with
        system := (self.system.step .workerNotifies).2, notified := worker :: self.notified }
    else none

def composed (config : Config) (registry : ProviderRegistry) : LoopSystem where
  system := { daemon := VoxTypeDaemon.composed config registry (.channel false), workers := [] }
  notified := []
  phase := .unlocked

inductive Reachable (config : Config) (registry : ProviderRegistry) : LoopSystem → Prop
  | start : Reachable config registry (composed config registry)
  | step {s s' : LoopSystem} {i : LoopInput} (hReachable : Reachable config registry s)
    (hStep : s.step i = some s') : Reachable config registry s'

end LoopSystem

/-- What is known of the wake channel and of the workers that have notified. -/
structure Wired (sys : System) (notified : List Nat) : Prop where
  channel : ∃ full, sys.daemon.app.wake = .channel full
  sent : ∀ k ∈ notified, ∃ work result, sys.faces[k]? = some (work, .sent result)

/-- What the loop has not seen yet is announced by the token in the channel. -/
structure Announced (sys : System) (notified : List Nat) (phase : LoopPhase) : Prop where
  events : phase.drained = true → sys.daemon.app.events ≠ [] →
    sys.daemon.app.wake = .channel true
  results : phase.polled = true → ∀ job, sys.daemon.recognitionJob = some job →
    job.channel ∈ notified → sys.daemon.app.wake = .channel true
  capture : ∀ wait, phase.wait? = some wait → ∀ startedAt,
    sys.daemon.recordingStartedAt = some startedAt → sys.daemon.app.wake = .channel true ∨
      (wait.machine = sys.daemon.app.machine ∧ wait.startedAt = some startedAt ∧
        wait.nanos ≤ recordingWait)

/-- A step of the daemon or of a worker, seen by the loop. -/
structure Seen (sys next : System) : Prop where
  signals : sys.daemon.Signals next.daemon
  sent : ∀ (k : Nat) work result, sys.faces[k]? = some (work, .sent result) →
    next.faces[k]? = some (work, .sent result)
  job : ∀ job, next.daemon.recognitionJob = some job →
    sys.daemon.recognitionJob = some job ∨ job.channel = sys.faces.length

theorem Announced.full {sys : System} {notified : List Nat} {phase : LoopPhase}
    (h : sys.daemon.app.wake = .channel true) : Announced sys notified phase :=
  ⟨fun _ _ => h, fun _ _ _ _ => h, fun _ _ _ _ => .inl h⟩

/-- Before the poll nothing has been promised. -/
theorem Announced.early {sys : System} {notified : List Nat} {phase : LoopPhase}
    (h : phase.polled = false) : Announced sys notified phase := by
  constructor
  case events => cases phase <;> simp_all [LoopPhase.polled, LoopPhase.drained]
  case results => simp [h]
  case capture => cases phase <;> simp_all [LoopPhase.polled, LoopPhase.wait?]

namespace Wired

variable {sys next : System} {notified : List Nat} {phase : LoopPhase}

theorem step (h : Wired sys notified) (hSeen : Seen sys next) : Wired next notified where
  channel := by
    obtain ⟨full, hFull⟩ := h.channel
    rcases hSeen.signals.wake with hSame | hWoken
    · exact ⟨full, hSame.trans hFull⟩
    · exact ⟨true, by rw [hWoken, hFull]; rfl⟩
  sent := by
    intro k hMem
    obtain ⟨work, result, hFace⟩ := h.sent k hMem
    exact ⟨work, result, hSeen.sent k work result hFace⟩

/-- A worker that has notified is one of the workers. -/
theorem known (h : Wired sys notified) {k : Nat} (hMem : k ∈ notified) : k < sys.faces.length := by
  obtain ⟨work, result, hFace⟩ := h.sent k hMem
  exact (List.getElem?_eq_some_iff.mp hFace).1

theorem announced (h : Wired sys notified) (hAnnounced : Announced sys notified phase)
    (hSeen : Seen sys next) : Announced next notified phase := by
  obtain ⟨full, hFull⟩ := h.channel
  rcases hSeen.signals with hWoken | ⟨hWake, hEvents, hMachine, hStarted⟩
  · exact .full (by rw [hWoken, hFull]; rfl)
  · constructor
    case events =>
      rw [hWake, hEvents]
      exact hAnnounced.events
    case results =>
      intro hPolled job hJob hMem
      rw [hWake]
      rcases hSeen.job job hJob with hOld | hNew
      · exact hAnnounced.results hPolled job hOld hMem
      · exact absurd (h.known hMem) (by omega)
    case capture =>
      intro wait hWait startedAt hSome
      rw [hWake, hMachine]
      rcases hStarted with hSame | hNone
      · exact hAnnounced.capture wait hWait startedAt (hSame ▸ hSome)
      · rw [hNone] at hSome
        cases hSome

end Wired

namespace Seen

variable {sys : System}

theorem of_step {i : SystemInput} (hDrain : i ≠ .drainEvents)
    (hWorkers : (sys.step i).2.workers = (sys.step i).1.effects.foldl System.absorb sys.workers) :
    Seen sys (sys.step i).2 where
  signals := System.step_signals hDrain
  sent := by
    intro k work result hFace
    rw [System.faces, hWorkers]
    exact System.faces_absorb_old _ _ hFace
  job := by
    intro job hJob
    have hStep := (System.step_outcome sys i).job
    rw [hJob] at hStep
    generalize (sys.step i).1.effects = trace at hStep
    generalize hNext : some job = next at hStep
    cases hStep with
    | kept => exact .inl rfl
    | dropped => cases hNext
    | started _ _ hChannel =>
      cases hNext
      exact .inr (hChannel.trans (List.length_map _).symm)

theorem of_closing (index : Nat) (channel : RecognitionWork → WorkerChannel) :
    Seen sys (sys.closing index fun worker => channel worker.work) where
  signals := .refl _
  sent := by
    intro k work result hFace
    rw [System.faces_closing, List.getElem?_modify, hFace]
    split <;> rfl
  job := fun job hJob => .inl hJob

theorem of_bus (call : BusCall) : Seen sys (sys.busCall call) := by
  cases call with
  | clearHistory => exact ⟨.of_app rfl (.inl rfl), fun _ _ _ h => h, fun _ h => .inl h⟩
  | _ => exact of_step nofun rfl

end Seen

namespace LoopSystem

/-- The invariant of the process. -/
structure Sound (s : LoopSystem) : Prop where
  wired : Wired s.system s.notified
  announced : Announced s.system s.notified s.phase

theorem Sound.seen {s : LoopSystem} (h : Sound s) {next : System} (hSeen : Seen s.system next) :
    Sound { s with system := next } :=
  ⟨h.wired.step hSeen, h.wired.announced h.announced hSeen⟩

/-- After a poll the channel of a job that is left holds nothing. -/
theorem poll_announced {sys : System} {notified : List Nat} (h : Wired sys notified)
    (env : Environment) :
    Announced (sys.step (.pollRecognition env)).2 notified .draining := by
  constructor
  case events => exact nofun
  case capture => exact nofun
  case results =>
    intro _ job hJob hMem
    have hOutcome := Daemon.poll_outcome (sys.boundary env) sys.daemon
    change ((Daemon.pollRecognition (sys.boundary env)).run sys.daemon).state.recognitionJob = _
      at hJob
    generalize (Daemon.pollRecognition (sys.boundary env)).run sys.daemon = o at hOutcome hJob
    cases hOutcome with
    | idle hIdle =>
      obtain ⟨work, result, hFace⟩ := h.sent _ hMem
      rw [System.faces, List.getElem?_map] at hFace
      obtain ⟨worker, hWorker, hEq⟩ := Option.map_eq_some_iff.mp hFace
      have hEmpty := hIdle job hJob
      have hChannel : worker.channel = .sent result := congrArg Prod.snd hEq
      change sys.tryRecv job.channel = _ at hEmpty
      rw [System.tryRecv, hWorker] at hEmpty
      dsimp only at hEmpty
      rw [hChannel] at hEmpty
      cases hEmpty
    | stale => cases hJob
    | delivered _ _ _ hDeliver => cases hJob.symm.trans (hDeliver.job.trans rfl)

theorem maintenanceWait_capture {d : VoxTypeDaemon} {startedAt : Nat}
    (h : d.recordingStartedAt = some startedAt) (now : Nat) :
    d.maintenanceWait now ≤ recordingWait := by
  rw [VoxTypeDaemon.maintenanceWait, h]
  split
  · exact Nat.zero_le _
  · exact Nat.min_le_left _ _

theorem Sound.call {s s' : LoopSystem} (h : Sound s) {env : Environment}
    (hStep : s.call env = some s') : Sound s' := by
  obtain ⟨system, notified, phase⟩ := s
  cases phase <;> cases hStep
  case telemetry =>
    exact ⟨h.wired.step (.of_step nofun rfl), .early rfl⟩
  case deadline =>
    exact ⟨h.wired.step (.of_step nofun rfl), .early rfl⟩
  case polling =>
    exact ⟨h.wired.step (.of_step nofun rfl), poll_announced h.wired env⟩
  case draining =>
    exact ⟨⟨h.wired.channel, h.wired.sent⟩, fun _ hSome => absurd rfl hSome, h.announced.results,
      nofun⟩
  case measuring =>
    refine ⟨h.wired, h.announced.events, h.announced.results, ?_⟩
    intro wait hWait startedAt hStarted
    cases hWait
    exact .inr ⟨rfl, hStarted, maintenanceWait_capture hStarted env.now⟩

theorem Sound.notify {s : LoopSystem} (h : Sound s) {worker : Nat}
    (hSent : s.system.hasSent worker = true) :
    Sound { s with system := (s.system.step .workerNotifies).2,
                   notified := worker :: s.notified } := by
  obtain ⟨full, hFull⟩ := h.wired.channel
  have hWake : (s.system.step .workerNotifies).2.daemon.app.wake = .channel true := by
    change s.system.daemon.app.wake.notify = _
    rw [hFull]
    rfl
  refine ⟨⟨⟨true, hWake⟩, ?_⟩, .full hWake⟩
  intro k hMem
  rcases List.mem_cons.mp hMem with rfl | hMem
  · rw [System.hasSent, System.tryRecv] at hSent
    change ∃ work result, s.system.faces[k]? = _
    cases hWorker : s.system.workers[k]? with
    | none =>
      rw [hWorker] at hSent
      cases hSent
    | some found =>
      rw [hWorker] at hSent
      dsimp only at hSent
      cases hChannel : found.channel with
      | sent result =>
        refine ⟨found.work, result, ?_⟩
        rw [System.faces, List.getElem?_map, hWorker, Option.map_some, Worker.face, hChannel]
      | pending | closed =>
        rw [hChannel] at hSent
        cases hSent
  · exact h.wired.sent k hMem

theorem Sound.step {s s' : LoopSystem} {i : LoopInput} (h : Sound s) (hStep : s.step i = some s') :
    Sound s' := by
  cases i with
  | lock =>
    rw [LoopSystem.step] at hStep
    split at hStep
    · cases hStep
      refine ⟨h.wired, .early ?_⟩
      change (if _ then LoopPhase.exited else LoopPhase.telemetry).polled = false
      split <;> rfl
    · cases hStep
  | call env => exact h.call hStep
  | block =>
    obtain ⟨system, notified, phase⟩ := s
    cases phase <;> cases hStep
    exact ⟨h.wired, h.announced.events, h.announced.results, h.announced.capture⟩
  | receive =>
    rw [LoopSystem.step] at hStep
    split at hStep
    · cases hStep
      exact ⟨⟨⟨false, rfl⟩, h.wired.sent⟩, .early rfl⟩
    · cases hStep
  | timeout =>
    obtain ⟨system, notified, phase⟩ := s
    cases phase <;> cases hStep
    exact ⟨h.wired, .early rfl⟩
  | bus call =>
    rw [LoopSystem.step] at hStep
    split at hStep
    · cases hStep
      exact h.seen (.of_bus call)
    · cases hStep
  | workerReturns worker route =>
    cases hStep
    exact h.seen (.of_closing worker fun work => .sent (work.run route))
  | workerExits worker =>
    cases hStep
    exact h.seen (.of_closing worker fun _ => .closed)
  | workerNotifies worker =>
    rw [LoopSystem.step] at hStep
    split at hStep
    · rename_i hNotifies
      cases hStep
      exact h.notify hNotifies.1
    · cases hStep

theorem Reachable.sound {config : Config} {registry : ProviderRegistry} {s : LoopSystem}
    (h : Reachable config registry s) : Sound s := by
  induction h with
  | start => exact ⟨⟨⟨false, rfl⟩, nofun⟩, .early rfl⟩
  | step _ hStep ih => exact ih.step hStep

theorem Reachable.run {config : Config} {registry : ProviderRegistry} {inputs : List LoopInput}
    {s s' : LoopSystem} (h : Reachable config registry s)
    (hRun : inputs.foldlM LoopSystem.step s = some s') : Reachable config registry s' := by
  induction inputs generalizing s with
  | nil =>
    cases hRun
    exact h
  | cons i inputs ih =>
    rw [List.foldlM_cons] at hRun
    obtain ⟨next, hStep, hRest⟩ := Option.bind_eq_some_iff.mp hRun
    exact ih (h.step hStep) hRest

/-- What a loop that is blocked has dealt with. -/
structure NothingMissed (s : LoopSystem) (wait : MaintenanceWait) : Prop where
  events : s.system.daemon.app.events = []
  results : ∀ job result, s.system.daemon.recognitionJob = some job →
    s.system.tryRecv job.channel = .received result → job.channel ∉ s.notified
  capture : ∀ startedAt, s.system.daemon.recordingStartedAt = some startedAt →
    wait.machine = s.system.daemon.app.machine ∧ wait.startedAt = some startedAt ∧
      wait.nanos ≤ recordingWait

/-- While the loop is blocked on an empty channel there is nothing it should have been woken for. -/
theorem no_lost_wakeup {config : Config} {registry : ProviderRegistry} {s : LoopSystem}
    {wait : MaintenanceWait} (hReachable : Reachable config registry s)
    (hBlocked : s.phase = .blocked wait) (hEmpty : s.system.daemon.app.wake = .channel false) :
    NothingMissed s wait := by
  have hSound := hReachable.sound.announced
  rw [hBlocked] at hSound
  have hNotFull : s.system.daemon.app.wake ≠ .channel true := by
    rw [hEmpty]
    exact nofun
  constructor
  case events =>
    by_contra hSome
    exact hNotFull (hSound.events rfl hSome)
  case results => exact fun job _ hJob _ hMem => hNotFull (hSound.results rfl job hJob hMem)
  case capture =>
    intro startedAt hStarted
    exact (hSound.capture wait rfl startedAt hStarted).resolve_left hNotFull

/-- A round of maintenance, up to the wait. -/
def maintenanceRound : List LoopInput :=
  .lock :: List.replicate 5 (.call workingBoundary) ++ [.block]

/-- The loop waits, a dictation is started, and the loop waits for the dictation. -/
def startedWhileWaiting : List LoopInput :=
  maintenanceRound ++ [.bus (.start workingBoundary ""), .receive] ++ maintenanceRound

theorem no_lost_wakeup_listening : ∃ s,
    startedWhileWaiting.foldlM LoopSystem.step (composed dictationConfig ⟨[cloud]⟩) = some s ∧
      s.system.daemon.recordingStartedAt = some 0 ∧
      NothingMissed s ⟨recordingWait, some 0, ⟨.listening ⟨"session-1"⟩ .toggle, 2⟩⟩ := by
  have hShown : (startedWhileWaiting.foldlM LoopSystem.step
      (composed dictationConfig ⟨[cloud]⟩)).map (fun s =>
        (s.phase, s.system.daemon.app.wake, s.system.daemon.recordingStartedAt)) =
      some (.blocked ⟨recordingWait, some 0, ⟨.listening ⟨"session-1"⟩ .toggle, 2⟩⟩,
        .channel false, some 0) := by
    decide +kernel
  obtain ⟨s, hRun, hState⟩ := Option.map_eq_some_iff.mp hShown
  rw [Prod.mk.injEq, Prod.mk.injEq] at hState
  obtain ⟨hBlocked, hEmpty, hStarted⟩ := hState
  exact ⟨s, hRun, hStarted, no_lost_wakeup (Reachable.start.run hRun) hBlocked hEmpty⟩

end LoopSystem

end VoxType
