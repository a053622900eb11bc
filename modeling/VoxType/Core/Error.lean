import Mathlib

/-! # The error taxonomy shared by every layer -/

namespace VoxType

set_option autoImplicit false

inductive ErrorCategory
  | invalidArgument
  | invalidState
  | configuration
  | authentication
  | permission
  | connection
  | timeout
  | protocol
  | rateLimited
  | unavailable
  | cancelled
  | internal
  deriving DecidableEq, Repr

structure VoxError where
  category : ErrorCategory
  code : String
  message : String
  retryable : Bool
  deriving DecidableEq, Repr

namespace VoxError

def new (category : ErrorCategory) (code message : String) : VoxError :=
  { category, code, message, retryable := false }

def withRetryable (error : VoxError) (retryable : Bool) : VoxError := { error with retryable }

/-- `Display` -/
def toString (error : VoxError) : String := s!"{error.code}: {error.message}"

end VoxError

end VoxType
