import VoxType.Core.Error

/-! # Provider identifiers and attempt evidence -/

namespace VoxType

set_option autoImplicit false

inductive AudioAcceptance
  | notAccepted
  | possiblyAccepted
  | accepted
  deriving DecidableEq, Repr

def AudioAcceptance.mayHaveLeftProcess : AudioAcceptance → Bool
  | notAccepted => false
  | _ => true

structure ProviderAttemptFailure where
  error : VoxError
  transportStarted : Bool
  audioAcceptance : AudioAcceptance
  deriving DecidableEq, Repr

namespace ProviderAttemptFailure

def beforeTransport (error : VoxError) : ProviderAttemptFailure :=
  { error, transportStarted := false, audioAcceptance := .notAccepted }

def afterTransport (error : VoxError) (audioAcceptance : AudioAcceptance) :
    ProviderAttemptFailure :=
  { error, transportStarted := true, audioAcceptance }

end ProviderAttemptFailure

/-- ASCII identifiers, so that the length in bytes is the length in characters. -/
def validProviderId (value : String) : Bool :=
  !value.isEmpty && value.toList.length ≤ 64 &&
    value.toList.all fun c =>
      (97 ≤ c.toNat && c.toNat ≤ 122) || (48 ≤ c.toNat && c.toNat ≤ 57) || c == '-'

structure ProviderId where
  value : String
  valid : validProviderId value = true
  deriving DecidableEq

def ProviderId.new (value : String) : Except VoxError ProviderId :=
  if h : validProviderId value = true then .ok ⟨value, h⟩
  else .error (VoxError.new .invalidArgument "provider.invalid_id"
    "provider ID must contain lowercase ASCII letters, digits, or hyphens")

end VoxType
