import VoxType.Core.SessionTransitions
import VoxType.App.Provider

/-!
# The application controller

The single owner of session state, provider runtime state and lifecycle
events. Times are nanoseconds of one monotonic clock.
-/

namespace VoxType

set_option autoImplicit false

def maxPendingEvents : Nat := 256

def maxSessionResults : Nat := 32

inductive AppEvent
  | stateChanged (state session : String)
  | sessionFinished (session outcome errorCode backend : String) (charCount : Nat)
  deriving DecidableEq, Repr

structure TerminalSessionResult where
  session : String
  outcome : String
  errorCode : String
  backend : String
  charCount : Nat
  deriving DecidableEq, Repr

def TerminalSessionResult.event (result : TerminalSessionResult) : AppEvent :=
  .sessionFinished result.session result.outcome result.errorCode result.backend result.charCount

structure ProviderHealthState where
  consecutiveFailures : Nat
  blockedUntil : Option Nat
  lastSuccessAt : Option Nat
  lastFailureAt : Option Nat
  lastErrorCategory : Option ErrorCategory
  lastErrorCode : Option String
  deriving DecidableEq, Repr

structure ProviderUsageSnapshot where
  attempts : Nat
  requests : Nat
  successes : Nat
  failures : Nat
  audioMillis : Nat
  tokenReports : Nat
  inputTokens : Nat
  outputTokens : Nat
  totalTokens : Nat
  reportedTokens : Nat
  deriving DecidableEq, Repr

/-- A handle of the capacity-one wake channel; `channel true` holds a token. -/
inductive WakeHandle
  | disabled
  | channel (full : Bool)
  deriving DecidableEq, Repr

def WakeHandle.notify : WakeHandle → WakeHandle
  | disabled => disabled
  | channel _ => channel true

def saturatingAdd (a b : Nat) : Nat := min (a + b) u64Max

namespace ProviderHealthState

def initial : ProviderHealthState := ⟨0, none, none, none, none, none⟩

def isAvailableAt (self : ProviderHealthState) (now : Nat) : Bool :=
  match self.blockedUntil with
  | none => true
  | some deadline => deadline ≤ now

def recordSuccessAt (self : ProviderHealthState) (now : Nat) : ProviderHealthState :=
  { self with lastSuccessAt := some now, consecutiveFailures := 0, blockedUntil := none }

def recordFailureAt (self : ProviderHealthState) (now : Nat) (error : VoxError) :
    ProviderHealthState :=
  let self := { self with
    lastFailureAt := some now
    lastErrorCategory := some error.category
    lastErrorCode := some error.code }
  if error.retryable then
    let failures := min (self.consecutiveFailures + 1) u32Max
    { self with
      consecutiveFailures := failures
      blockedUntil := if 3 ≤ failures then some (now + 60 * 10 ^ 9) else self.blockedUntil }
  else self

end ProviderHealthState

namespace ProviderUsageSnapshot

def initial : ProviderUsageSnapshot := ⟨0, 0, 0, 0, 0, 0, 0, 0, 0, 0⟩

def recordSuccess (self : ProviderUsageSnapshot) (usage : ProviderUsage) :
    ProviderUsageSnapshot :=
  let self := { self with successes := saturatingAdd self.successes 1 }
  if usage.inputTokens.isNone && usage.outputTokens.isNone && usage.totalTokens.isNone then self
  else
    let reported := usage.totalTokens.getD
      (saturatingAdd (usage.inputTokens.getD 0) (usage.outputTokens.getD 0))
    { self with
      tokenReports := saturatingAdd self.tokenReports 1
      inputTokens := saturatingAdd self.inputTokens (usage.inputTokens.getD 0)
      outputTokens := saturatingAdd self.outputTokens (usage.outputTokens.getD 0)
      totalTokens := saturatingAdd self.totalTokens (usage.totalTokens.getD 0)
      reportedTokens := saturatingAdd self.reportedTokens reported }

end ProviderUsageSnapshot

structure AppController where
  machine : SessionMachine
  events : List AppEvent
  sessionResults : List TerminalSessionResult
  registry : ProviderRegistry
  providerHealth : ProviderId → Option ProviderHealthState
  providerUsage : ProviderId → Option ProviderUsageSnapshot
  wake : WakeHandle

def backpressureError : VoxError :=
  (VoxError.new .unavailable "app.event_backpressure"
    "application event queue is temporarily full").withRetryable true

/-- The terminal record an accepted command announces. -/
def Command.terminal : Command → Option (SessionId × String × String)
  | .cancel session => some (session, "cancelled", "")
  | .noSpeech session => some (session, "no-speech", "")
  | .fail session error => some (session, "failed", error.code)
  | _ => none

namespace AppController

def withWake (registry : ProviderRegistry) (wake : WakeHandle) : AppController :=
  { machine := SessionMachine.initial
    events := [.stateChanged "idle" ""]
    sessionResults := []
    registry
    providerHealth := fun _ => none
    providerUsage := fun _ => none
    wake }

def sessionText (state : SessionState) : String :=
  match state.session with
  | none => ""
  | some session => session.value

def stateSnapshot (self : AppController) : String × String :=
  (self.machine.state.name, sessionText self.machine.state)

def queueCurrentState (self : AppController) : AppController :=
  { self with events := self.events ++
      [.stateChanged self.machine.state.name (sessionText self.machine.state)] }

/-- Removes the record of the session, and the oldest one when the cache is full. -/
def makeRoom (results : List TerminalSessionResult) (session : String) :
    List TerminalSessionResult :=
  let results :=
    match results.findIdx? (fun result => result.session == session) with
    | some position => results.eraseIdx position
    | none => results
  if results.length = maxSessionResults then results.drop 1 else results

def queueSessionFinished (self : AppController) (result : TerminalSessionResult) :
    AppController :=
  { self with
    sessionResults := makeRoom self.sessionResults result.session ++ [result]
    events := self.events ++ [result.event] }

def notify (self : AppController) : AppController := { self with wake := self.wake.notify }

/-- Publishes the lifecycle sequence of an accepted command. -/
def publish (self : AppController) (command : Command) : AppController :=
  let self := self.queueCurrentState
  let self := match command.terminal with
    | none => self
    | some (session, outcome, errorCode) =>
      self.queueSessionFinished ⟨session.value, outcome, errorCode, "", 0⟩
  self.notify

def apply (self : AppController) (command : Command) :
    Except VoxError CommandEffect × AppController :=
  if maxPendingEvents - 2 < self.events.length then (.error backpressureError, self)
  else
    let applied := self.machine.apply command
    match applied.1 with
    | .error error => (.error error, { self with machine := applied.2 })
    | .ok effect => (.ok effect, { self with machine := applied.2 }.publish command)

def finishSession (self : AppController) (session : SessionId)
    (outcome errorCode backend : String) (charCount : Nat) :
    Except VoxError Unit × AppController :=
  if self.events.length = maxPendingEvents then (.error backpressureError, self)
  else
    (.ok (), (self.queueSessionFinished
      ⟨session.value, outcome, errorCode, backend, charCount⟩).notify)

def sessionResult (self : AppController) (session : String) : Option TerminalSessionResult :=
  self.sessionResults.reverse.find? fun result => result.session == session

def drainEvents (self : AppController) : List AppEvent × AppController :=
  (self.events, { self with events := [] })

def replaceRegistry (self : AppController) (registry : ProviderRegistry) : AppController :=
  { self with registry, providerHealth := fun _ => none }

def planRoute (self : AppController) (policy : RoutingPolicy) (now : Nat) :
    Except VoxError RoutePlan :=
  let health := fun id =>
    if id ∈ policy.primary :: policy.fallbacks then
      some
        { available := self.registry.contains id &&
            (match self.providerHealth id with
              | none => true
              | some state => state.isAvailableAt now)
          consecutiveFailures :=
            match self.providerHealth id with
            | none => 0
            | some state => state.consecutiveFailures }
    else none
  OrderedRouter.plan policy health

/-- `entry(id).or_default()` and an update of the value. -/
def updateHealth (self : AppController) (id : ProviderId)
    (update : ProviderHealthState → ProviderHealthState) : AppController :=
  let state := (self.providerHealth id).getD .initial
  { self with providerHealth := Function.update self.providerHealth id (some (update state)) }

def updateUsage (self : AppController) (id : ProviderId)
    (update : ProviderUsageSnapshot → ProviderUsageSnapshot) : AppController :=
  let usage := (self.providerUsage id).getD .initial
  { self with providerUsage := Function.update self.providerUsage id (some (update usage)) }

def countAttempt (attempt : RouteAttempt) (audioMillis : Nat) (usage : ProviderUsageSnapshot) :
    ProviderUsageSnapshot :=
  let usage := { usage with attempts := saturatingAdd usage.attempts 1 }
  let usage := if attempt.transportStarted then
      { usage with requests := saturatingAdd usage.requests 1 } else usage
  let usage := if attempt.audioAcceptance.mayHaveLeftProcess then
      { usage with audioMillis := saturatingAdd usage.audioMillis audioMillis } else usage
  match attempt.error with
  | none => usage
  | some error =>
    if error.category = .cancelled then usage
    else { usage with failures := saturatingAdd usage.failures 1 }

/-- One turn of the loop over the attempts of a route result. -/
def recordAttempt (audioMillis now : Nat) (self : AppController) (attempt : RouteAttempt) :
    AppController :=
  let self := self.updateUsage attempt.providerId (countAttempt attempt audioMillis)
  match attempt.error with
  | none => self
  | some error =>
    if error.category = .cancelled then self
    else self.updateHealth attempt.providerId (·.recordFailureAt now error)

def recordRouteResult (self : AppController) (result : RecognitionRouteResult)
    (audioMillis now : Nat) : AppController :=
  let self := result.attempts.foldl (recordAttempt audioMillis now) self
  match result.outcome with
  | .error _ => self
  | .ok success =>
    (self.updateHealth success.providerId (·.recordSuccessAt now)).updateUsage
      success.providerId (·.recordSuccess success.transcript.usage)

end AppController

inductive ControllerCall
  | apply (command : Command)
  | finishSession (session : SessionId) (outcome errorCode backend : String) (charCount : Nat)
  | drainEvents
  | replaceRegistry (registry : ProviderRegistry)
  | recordRouteResult (result : RecognitionRouteResult) (audioMillis now : Nat)

inductive ControllerAnswer
  | applied (result : Except VoxError CommandEffect)
  | finished (result : Except VoxError Unit)
  | drained (events : List AppEvent)
  | done

def AppController.call (self : AppController) : ControllerCall → ControllerAnswer × AppController
  | .apply command => ((self.apply command).map .applied id)
  | .finishSession session outcome errorCode backend charCount =>
    (self.finishSession session outcome errorCode backend charCount).map .finished id
  | .drainEvents => self.drainEvents.map .drained id
  | .replaceRegistry registry => (.done, self.replaceRegistry registry)
  | .recordRouteResult result audioMillis now =>
    (.done, self.recordRouteResult result audioMillis now)

/-- Sequences of calls on a new controller. -/
def controllerMachine (registry : ProviderRegistry) (wake : WakeHandle) :
    Transition.Machine AppController ControllerCall ControllerAnswer where
  start := AppController.withWake registry wake
  step := AppController.call

end VoxType
