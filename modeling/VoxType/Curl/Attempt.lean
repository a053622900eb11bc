import VoxType.App.Provider
import VoxType.Library.Lossy

/-!
# One curl attempt

What `finish_curl_attempt` makes of an exit status, the bounded outputs and an
error on the private input. An input error is the text that it displays.
-/

namespace VoxType.Curl

set_option autoImplicit false

def httpStatusMarker : List Char := "VOXTYPE_HTTP_STATUS:".toList

def uploadBytesMarker : List Char := "VOXTYPE_UPLOAD_BYTES:".toList

structure CurlResponse where
  httpStatus : Nat
  body : List UInt8
  deriving DecidableEq, Repr

structure CurlFailure where
  category : ErrorCategory
  retryable : Bool
  message : String
  httpStatus : Option Nat
  curlExitCode : Option Int
  transportStarted : Bool
  audioAcceptance : AudioAcceptance
  deriving DecidableEq, Repr

namespace CurlFailure

def intoVoxError (failure : CurlFailure) (code : String) : VoxError :=
  (VoxError.new failure.category code failure.message).withRetryable failure.retryable

def intoAttemptFailure (failure : CurlFailure) (code : String) : ProviderAttemptFailure :=
  { error := failure.intoVoxError code,
    transportStarted := failure.transportStarted,
    audioAcceptance := failure.audioAcceptance }

def withTransportEvidence (failure : CurlFailure) (audioAcceptance : AudioAcceptance) :
    CurlFailure :=
  { failure with transportStarted := true, audioAcceptance }

end CurlFailure

/-- `code` is absent for a child that a signal ended. -/
structure ExitStatus where
  code : Option Int
  deriving DecidableEq, Repr

def ExitStatus.success (status : ExitStatus) : Bool := status.code == some 0

structure BoundedRead where
  bytes : List UInt8
  overflowed : Bool
  deriving DecidableEq, Repr

def failure (category : ErrorCategory) (retryable : Bool) (message : String)
    (httpStatus : Option Nat) (curlExitCode : Option Int) : CurlFailure :=
  { category, retryable, message, httpStatus, curlExitCode,
    transportStarted := false, audioAcceptance := .notAccepted }

def cancelledFailure : CurlFailure :=
  failure .cancelled false "provider request was cancelled" none none

def parseHttpStatus (stderr : List UInt8) : Option Nat :=
  (RustText.lines (RustText.fromUtf8Lossy stderr)).reverse.findSome? fun line =>
    ((RustText.stripPrefix? httpStatusMarker (RustText.trimChars line)).bind
      (RustText.parseUnsigned 16)).filter (· != 0)

def parseUploadBytes (stderr : List UInt8) : Option Nat :=
  (RustText.lines (RustText.fromUtf8Lossy stderr)).reverse.findSome? fun line =>
    (RustText.stripPrefix? uploadBytesMarker (RustText.trimChars line)).bind fun value =>
      RustText.parseUnsigned 64 (value.takeWhile (· != '.'))

def isRedirect (status : Nat) : Bool := 300 ≤ status && status < 400

def isSuccess (status : Nat) : Bool := 200 ≤ status && status < 300

def classifyAudioAcceptance (uploadedBytes : Option Nat) (curlExitCode : Option Int)
    (httpStatus : Option Nat) (wasCancelled : Bool) : AudioAcceptance :=
  if uploadedBytes.any (0 < ·) then
    if curlExitCode == some 0 && httpStatus.any (!isRedirect ·) then .accepted
    else .possiblyAccepted
  else if uploadedBytes == some 0 ||
      (!wasCancelled && curlExitCode.any ([5, 6, 7, 35, 60].contains ·)) then .notAccepted
  else .possiblyAccepted

def sanitizedDiagnostic (stderr : List UInt8) : Option String :=
  (((RustText.lines (RustText.fromUtf8Lossy stderr)).map RustText.trimChars).find? fun line =>
    !line.isEmpty && (RustText.stripPrefix? httpStatusMarker line).isNone &&
      (RustText.stripPrefix? uploadBytesMarker line).isNone).map fun line =>
    String.ofList (line.take 300)

def classifyHttpFailure (httpStatus : Nat) (curlExitCode : Option Int)
    (diagnostic : Option String) : CurlFailure :=
  let (category, retryable, defaultMessage) : ErrorCategory × Bool × String :=
    if httpStatus = 401 ∨ httpStatus = 403 ∨ httpStatus = 407 then
      (.authentication, false, "provider rejected authentication")
    else if httpStatus = 408 then (.timeout, true, "provider request timed out")
    else if httpStatus = 429 then (.rateLimited, true, "provider rate limit was reached")
    else if 500 ≤ httpStatus ∧ httpStatus ≤ 599 then
      (.unavailable, true, "provider service is unavailable")
    else if 300 ≤ httpStatus ∧ httpStatus ≤ 399 then
      (.protocol, false, "provider returned a redirect; redirects are disabled")
    else (.protocol, false, "provider rejected the request")
  failure category retryable s!"HTTP {httpStatus}: {diagnostic.getD defaultMessage}"
    (some httpStatus) curlExitCode

def oversizedMessage (maxResponseBytes : Nat) : String :=
  s!"provider response exceeded {maxResponseBytes} bytes"

/-- The arms that neither the exit code nor an HTTP status decides. -/
def classifyByStatus (curlExitCode : Option Int) (httpStatus : Option Nat)
    (diagnostic : Option String) : CurlFailure :=
  match httpStatus with
  | some status =>
    if !isSuccess status then classifyHttpFailure status curlExitCode diagnostic
    else failure .unavailable true (diagnostic.getD "provider transport failed") httpStatus
      curlExitCode
  | none => failure .unavailable true (diagnostic.getD "provider transport failed") httpStatus
      curlExitCode

def classifyCurlFailure (curlExitCode : Option Int) (httpStatus : Option Nat)
    (diagnostic : Option String) (maxResponseBytes : Nat) : CurlFailure :=
  if curlExitCode = some 22 ∧ httpStatus.isSome then
    classifyHttpFailure (httpStatus.getD 0) curlExitCode diagnostic
  else if curlExitCode = some 28 then
    failure .timeout true (diagnostic.getD "provider request timed out") httpStatus curlExitCode
  else if curlExitCode = some 63 then
    failure .protocol false (oversizedMessage maxResponseBytes) httpStatus curlExitCode
  else if curlExitCode.any ([5, 6, 7, 35, 52, 55, 56].contains ·) then
    failure .connection true (diagnostic.getD "provider connection failed") httpStatus curlExitCode
  else if curlExitCode = some 60 then
    failure .connection false (diagnostic.getD "provider TLS certificate validation failed")
      httpStatus curlExitCode
  else classifyByStatus curlExitCode httpStatus diagnostic

def finishCurlAttempt (status : ExitStatus) (wasCancelled : Bool) (body diagnostics : BoundedRead)
    (stdinError : Option String) (maxResponseBytes : Nat) : Except CurlFailure CurlResponse :=
  let curlExitCode := status.code
  let httpStatus := parseHttpStatus diagnostics.bytes
  let audioAcceptance := classifyAudioAcceptance (parseUploadBytes diagnostics.bytes) curlExitCode
    httpStatus wasCancelled
  if wasCancelled then .error (cancelledFailure.withTransportEvidence audioAcceptance)
  else
    let diagnostic := sanitizedDiagnostic diagnostics.bytes
    if body.overflowed then
      .error ((failure .protocol false (oversizedMessage maxResponseBytes) httpStatus
        curlExitCode).withTransportEvidence audioAcceptance)
    else
      match stdinError with
      | some error =>
        .error ((failure .connection true
          s!"could not provide curl request credentials: {error}" httpStatus
          curlExitCode).withTransportEvidence audioAcceptance)
      | none =>
        if !status.success then
          .error ((classifyCurlFailure curlExitCode httpStatus diagnostic
            maxResponseBytes).withTransportEvidence audioAcceptance)
        else
          match httpStatus with
          | none =>
            .error ((failure .protocol false "curl completed without an HTTP status" none
              curlExitCode).withTransportEvidence audioAcceptance)
          | some httpStatus =>
            if !isSuccess httpStatus then
              .error ((classifyHttpFailure httpStatus curlExitCode
                diagnostic).withTransportEvidence audioAcceptance)
            else .ok { httpStatus, body := body.bytes }

end VoxType.Curl
