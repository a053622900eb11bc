import VoxType.Daemon.Validation
import VoxType.Doubao.Bootstrap
import VoxType.Doubao.WebSocketSpec

/-!
# The managed provider

What a configured provider makes of its timing, and what the attempt and its
handshake allow. Durations are in nanoseconds.
-/

namespace VoxType.Doubao

set_option autoImplicit false

def seconds (value : Nat) : Nat := value * 1000000000

structure ManagedCredentialBundle where
  bootstrap : BootstrapHttpConfig
  context : BootstrapRequestContext
  registered : RegisteredDevice
  websocketEndpoint : String
  websocketHeaders : List (String × String)
  sessionJson : Bytes
  deriving DecidableEq, Repr

structure ManagedDoubaoConfig where
  credentials : ManagedCredentialBundle
  phaseTimeout : Nat
  totalTimeout : Nat
  frameInterval : Nat
  deriving DecidableEq, Repr

structure DoubaoAdapter where
  id : ProviderId
  secret : String
  phaseTimeout : Nat
  totalTimeout : Nat
  frameInterval : Nat

/-- The adapter that is registered for a provider of this kind. -/
def doubaoAdapter (id : ProviderId) : ProviderConfig → Option DoubaoAdapter
  | .doubaoUnofficial secret phaseTimeoutSeconds totalTimeoutSeconds frameIntervalMillis =>
    some
      { id, secret
        phaseTimeout := seconds phaseTimeoutSeconds
        totalTimeout := seconds totalTimeoutSeconds
        frameInterval := millis frameIntervalMillis }
  | _ => none

/-- What `recognize` builds once the credentials have been parsed. -/
def DoubaoAdapter.config (adapter : DoubaoAdapter) (credentials : ManagedCredentialBundle) :
    ManagedDoubaoConfig :=
  { credentials
    phaseTimeout := adapter.phaseTimeout
    totalTimeout := adapter.totalTimeout
    frameInterval := adapter.frameInterval }

namespace ManagedDoubaoConfig

def websocket (config : ManagedDoubaoConfig) : WebSocketSpec where
  endpoint := config.credentials.websocketEndpoint
  headers := config.credentials.websocketHeaders
  connectTimeout := config.phaseTimeout
  pollInterval := millis 10

def run (config : ManagedDoubaoConfig) (requestId : String) : DoubaoRunConfig where
  requestId := requestId
  sessionJson := config.credentials.sessionJson
  phaseTimeout := config.phaseTimeout
  totalTimeout := config.totalTimeout
  frameInterval := config.frameInterval

end ManagedDoubaoConfig

def bootstrapFailure (error : VoxError) : ProviderAttemptFailure :=
  if error.category = .configuration then .beforeTransport error
  else .afterTransport error .notAccepted

/-- `initial` and `refresh` are what the settings request answers, `requestId` what the clock
allows. -/
def transcribeManagedPcm (env retryEnv : Surroundings) (config : ManagedDoubaoConfig)
    (initial : Except VoxError String) (requestId : Except ProviderAttemptFailure String)
    (refresh : Except VoxError String) (cancelled : Bool) :
    Option (Except ProviderAttemptFailure DoubaoTranscription) :=
  match initial with
  | .error error => some (.error (bootstrapFailure error))
  | .ok token =>
    match requestId with
    | .error failure => some (.error failure)
    | .ok requestId =>
      (transcribePcmWithTokenRefresh env retryEnv (config.run requestId) token refresh
        cancelled).result

end VoxType.Doubao
