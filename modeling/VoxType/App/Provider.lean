import VoxType.Core.Routing
import VoxType.Library.Text

/-!
# Route execution

The adapters and the cancellation token belong to the environment, which
answers each call by its position in the route. The trace records every token
read and every adapter call.
-/

namespace VoxType

set_option autoImplicit false

structure ProviderUsage where
  inputTokens : Option Nat
  outputTokens : Option Nat
  totalTokens : Option Nat
  deriving DecidableEq, Repr

structure ProviderTranscript where
  text : String
  usage : ProviderUsage
  deriving DecidableEq, Repr

structure ProviderSuccess where
  transcript : ProviderTranscript
  transportStarted : Bool
  audioAcceptance : AudioAcceptance
  deriving DecidableEq, Repr

structure RecognitionInput where
  pcmPath : String
  language : String
  deriving DecidableEq, Repr

/-- The registered identifiers; what their adapters answer is in `RouteEnvironment`. -/
structure ProviderRegistry where
  adapters : List ProviderId

def ProviderRegistry.contains (registry : ProviderRegistry) (id : ProviderId) : Bool :=
  decide (id ∈ registry.adapters)

structure RouteEnvironment where
  isCancelled : Nat → Bool
  recognize : Nat → ProviderId → RecognitionInput →
    Except ProviderAttemptFailure ProviderSuccess

structure RouteAttempt where
  providerId : ProviderId
  transportStarted : Bool
  audioAcceptance : AudioAcceptance
  error : Option VoxError
  deriving DecidableEq

structure RecognitionSuccess where
  providerId : ProviderId
  transcript : ProviderTranscript
  deriving DecidableEq

structure RecognitionRouteResult where
  attempts : List RouteAttempt
  outcome : Except VoxError RecognitionSuccess

inductive RouteEvent
  | tokenRead (position : Nat) (cancelled : Bool)
  | invoked (position : Nat) (provider : ProviderId)
  deriving DecidableEq

structure RouteRun where
  events : List RouteEvent
  result : RecognitionRouteResult

def fallbackReason : ErrorCategory → Option FallbackReason
  | .connection => some .connection
  | .timeout => some .timeout
  | .rateLimited => some .rateLimited
  | .unavailable => some .unavailable
  | .invalidArgument | .invalidState | .configuration | .authentication | .permission
  | .protocol | .cancelled | .internal => none

def cancelledError : VoxError :=
  VoxError.new .cancelled "provider.cancelled" "provider work was cancelled"

def notRegisteredError (id : ProviderId) : VoxError :=
  VoxError.new .configuration "provider.not_registered"
    s!"provider {id.value} has no runtime adapter"

def emptyTranscriptError : VoxError :=
  VoxError.new .protocol "provider.empty_transcript"
    "provider returned an empty final transcript"

def noRouteError : VoxError :=
  VoxError.new .unavailable "provider.no_route" "no provider was attempted"

namespace RouteRun

/-- The end of the loop: whatever error was last recorded is the outcome. -/
def finish (lastError : Option VoxError) : RouteRun :=
  { events := [], result := { attempts := [], outcome := .error (lastError.getD noRouteError) } }

def prepend (events : List RouteEvent) (attempts : List RouteAttempt) (run : RouteRun) : RouteRun :=
  { events := events ++ run.events,
    result := { attempts := attempts ++ run.result.attempts, outcome := run.result.outcome } }

end RouteRun

/-- The loop of `run_recognition_route` from `position` on. -/
def routeLoop (registry : ProviderRegistry) (replay : ReplayPolicy) (input : RecognitionInput)
    (env : RouteEnvironment) : Nat → List ProviderId → Option VoxError → RouteRun
  | _, [], lastError => .finish lastError
  | position, id :: rest, _ =>
    if env.isCancelled position then
      (RouteRun.finish (some cancelledError)).prepend [.tokenRead position true] []
    else if !registry.contains id then
      let error := notRegisteredError id
      (RouteRun.finish (some error)).prepend [.tokenRead position false]
        [{ providerId := id, transportStarted := false, audioAcceptance := .notAccepted,
           error := some error }]
    else
      let events := [.tokenRead position false, .invoked position id]
      match env.recognize position id input with
      | .ok success =>
        if !RustText.isBlank success.transcript.text then
          { events
            result :=
              { attempts := [{ providerId := id, transportStarted := success.transportStarted,
                               audioAcceptance := success.audioAcceptance, error := none }]
                outcome := .ok { providerId := id, transcript := success.transcript } } }
        else
          (RouteRun.finish (some emptyTranscriptError)).prepend events
            [{ providerId := id, transportStarted := success.transportStarted,
               audioAcceptance := success.audioAcceptance, error := some emptyTranscriptError }]
      | .error failure =>
        let retryable := failure.error.retryable
        let cancelled := failure.error.category == .cancelled
        let fallbackAllowed := (fallbackReason failure.error.category).any
          fun reason => mayFallback reason failure.audioAcceptance replay
        let attempt : RouteAttempt :=
          { providerId := id, transportStarted := failure.transportStarted,
            audioAcceptance := failure.audioAcceptance, error := some failure.error }
        if cancelled || !retryable || !fallbackAllowed then
          (RouteRun.finish (some failure.error)).prepend events [attempt]
        else
          (routeLoop registry replay input env (position + 1) rest (some failure.error)).prepend
            events [attempt]

def routeRun (registry : ProviderRegistry) (route : RoutePlan) (input : RecognitionInput)
    (env : RouteEnvironment) : RouteRun :=
  routeLoop registry route.replay input env 0 route.providers none

def runRecognitionRoute (registry : ProviderRegistry) (route : RoutePlan)
    (input : RecognitionInput) (env : RouteEnvironment) : RecognitionRouteResult :=
  (routeRun registry route input env).result

end VoxType
