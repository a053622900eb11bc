import VoxType.Daemon.Operations

/-!
# The daemon and its recognition workers

A worker returns at any time, if ever, through the channel it was started
with. The job of the daemon holds the only receiver of that channel.
-/

namespace VoxType

set_option autoImplicit false

inductive WorkerChannel
  | pending
  | sent (result : RecognitionRouteResult)
  | closed

structure Worker where
  work : RecognitionWork
  cancelled : Bool
  channel : WorkerChannel

structure System where
  daemon : VoxTypeDaemon
  workers : List Worker

inductive DaemonReply
  | text (value : String)
  | handled (value : Bool)
  | done
  deriving DecidableEq, Repr

structure SystemAnswer where
  reply : Except FdoError DaemonReply
  effects : List DaemonEffect

inductive SystemInput
  | start (env : Environment) (profile : String)
  | stop (env : Environment) (session : String)
  | toggle (env : Environment) (profile : String)
  | cancel (session : String)
  | reset
  | reloadConfiguration (env : Environment)
  | enforceRecordingDeadline (env : Environment)
  | pollRecognition (env : Environment)
  | pollAudioTelemetry (env : Environment)
  | drainEvents
  | quit
  | workerReturns (worker : Nat) (route : RouteEnvironment)
  | workerExits (worker : Nat)
  | workerNotifies

/-- The result of a worker, by the route, registry and recording it was started with. -/
def RecognitionWork.run (work : RecognitionWork) (route : RouteEnvironment) :
    RecognitionRouteResult :=
  runRecognitionRoute work.registry work.route work.input route

def Worker.close (worker : Worker) (channel : WorkerChannel) : Worker :=
  match worker.channel with
  | .pending => { worker with channel }
  | _ => worker

namespace System

def tryRecv (self : System) (channel : Nat) : TryRecv :=
  match self.workers[channel]? with
  | none => .disconnected
  | some worker =>
    match worker.channel with
    | .pending => .empty
    | .sent result => .received result
    | .closed => .disconnected

/-- The channels of an environment are those of the workers. -/
def boundary (self : System) (env : Environment) : Environment :=
  { env with channel := self.workers.length, tryRecv := self.tryRecv }

def absorb (workers : List Worker) : DaemonEffect → List Worker
  | .workerStarted _ work => workers ++ [⟨work, false, .pending⟩]
  | .tokenCancelled channel => workers.modify channel fun worker => { worker with cancelled := true }
  | _ => workers

def perform {α : Type} (self : System) (call : DaemonCall α) (reply : α → DaemonReply) :
    SystemAnswer × System :=
  let o := call.run self.daemon
  ({ reply := o.result.map reply, effects := o.trace },
    { daemon := o.state, workers := o.trace.foldl absorb self.workers })

def silent (self : System) : SystemAnswer × System := ({ reply := .ok .done, effects := [] }, self)

def done (_ : Unit) : DaemonReply := .done

def step (self : System) : SystemInput → SystemAnswer × System
  | .start env profile => self.perform (Daemon.start (self.boundary env) profile) .text
  | .stop env session => self.perform (Daemon.stop (self.boundary env) session) .text
  | .toggle env profile => self.perform (Daemon.toggle (self.boundary env) profile) .text
  | .cancel session => self.perform (Daemon.cancel session) done
  | .reset => self.perform Daemon.reset done
  | .reloadConfiguration env =>
    self.perform (Daemon.reloadConfiguration (self.boundary env)) done
  | .enforceRecordingDeadline env =>
    self.perform (Daemon.enforceRecordingDeadline (self.boundary env)) .handled
  | .pollRecognition env => self.perform (Daemon.pollRecognition (self.boundary env)) .handled
  | .pollAudioTelemetry env =>
    self.perform (Daemon.pollAudioTelemetry (self.boundary env)) done
  | .drainEvents => self.perform Daemon.drainEvents done
  | .quit => self.perform Daemon.quit done
  | .workerReturns index route =>
    { self with workers :=
        self.workers.modify index fun worker => worker.close (.sent (worker.work.run route)) }.silent
  | .workerExits index =>
    { self with workers := self.workers.modify index fun worker => worker.close .closed }.silent
  | .workerNotifies =>
    { self with daemon := { self.daemon with app := self.daemon.app.notify } }.silent

end System

/-- Runs of a composed daemon with its workers. -/
def systemMachine (config : Config) (registry : ProviderRegistry) (wake : WakeHandle) :
    Transition.Machine System SystemInput SystemAnswer where
  start := { daemon := VoxTypeDaemon.composed config registry wake, workers := [] }
  step := System.step

abbrev SystemEntry : Type := SystemInput × SystemAnswer

/-- Every effect of a run, in order. -/
def effects (log : List SystemEntry) : List DaemonEffect := log.flatMap fun entry => entry.2.effects

@[simp] theorem effects_append (left right : List SystemEntry) :
    effects (left ++ right) = effects left ++ effects right := List.flatMap_append

@[simp] theorem effects_snoc (log : List SystemEntry) (entry : SystemEntry) :
    effects (log ++ [entry]) = effects log ++ entry.2.effects := by
  rw [effects_append]
  exact congrArg _ (List.append_nil _)

end VoxType
