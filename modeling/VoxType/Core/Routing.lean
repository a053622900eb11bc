import VoxType.Core.Provider

/-! # Provider selection and privacy-aware fallback policy -/

namespace VoxType

set_option autoImplicit false

inductive ReplayPolicy
  | never
  | beforeAudioAccepted
  | bufferedWithConsent
  deriving DecidableEq, Repr

inductive FallbackReason
  | connection
  | timeout
  | rateLimited
  | unavailable
  deriving DecidableEq, Repr

structure ProviderHealth where
  available : Bool
  consecutiveFailures : Nat
  deriving DecidableEq, Repr

structure RoutingPolicy where
  primary : ProviderId
  fallbacks : List ProviderId
  replay : ReplayPolicy

structure RoutePlan where
  providers : List ProviderId
  replay : ReplayPolicy

/-- A provider without a health entry counts as available. -/
def OrderedRouter.plan (policy : RoutingPolicy) (health : ProviderId → Option ProviderHealth) :
    Except VoxError RoutePlan :=
  let providers := (policy.primary :: policy.fallbacks).filter fun id =>
    match health id with
    | none => true
    | some status => status.available
  if providers.isEmpty then
    .error ((VoxError.new .unavailable "routing.no_provider"
      "no configured provider is currently available").withRetryable true)
  else .ok { providers, replay := policy.replay }

def mayFallback (reason : FallbackReason) (audioAcceptance : AudioAcceptance)
    (replay : ReplayPolicy) : Bool :=
  let transient :=
    match reason with
    | .connection | .timeout | .rateLimited | .unavailable => true
  transient && (audioAcceptance == .notAccepted || replay == .bufferedWithConsent)

end VoxType
