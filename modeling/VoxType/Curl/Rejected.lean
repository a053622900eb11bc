import VoxType.App.RouteSafety
import VoxType.Curl.Attempt

/-!
# Rejected credentials and the route

A failure stops a route exactly when it is not retryable or not transient. The
exit codes of a broken connection and an input error are looked at before the
HTTP status, so they decide whether a rejection stops the route.
-/

namespace VoxType

set_option autoImplicit false

/-- After an adapter has failed so, the route invokes no later provider. -/
def StopsRoute (failure : ProviderAttemptFailure) : Prop :=
  ∀ (registry : ProviderRegistry) (route : RoutePlan) (input : RecognitionInput)
    (env : RouteEnvironment) (i : Nat) (id : ProviderId),
    env.recognize i id input = .error failure →
    .invoked i id ∈ (routeRun registry route input env).events →
    ∀ j provider, .invoked j provider ∈ (routeRun registry route input env).events → j ≤ i

theorem isTransient_of_mem {category : ErrorCategory}
    (h : category ∈ [ErrorCategory.connection, .timeout, .rateLimited, .unavailable]) :
    category.isTransient = true := by
  cases category <;> simp_all [ErrorCategory.isTransient]

section Permissive

variable (failure : ProviderAttemptFailure)

def permissiveProvider : ProviderId := ⟨"a", by decide +kernel⟩

def permissiveRegistry : ProviderRegistry := ⟨[permissiveProvider]⟩

def permissiveRoute : RoutePlan :=
  { providers := [permissiveProvider, permissiveProvider], replay := .bufferedWithConsent }

def failingEnvironment : RouteEnvironment :=
  { isCancelled := fun _ => false, recognize := fun _ _ _ => .error failure }

def someInput : RecognitionInput := ⟨"/run/user/1000/voxtype.pcm", "zh"⟩

theorem permissive_falls_back {failure : ProviderAttemptFailure}
    (hRetryable : failure.error.retryable = true)
    (hTransient : failure.error.category.isTransient = true) :
    ∀ j < 2, .invoked j permissiveProvider ∈
      (routeRun permissiveRegistry permissiveRoute someInput (failingEnvironment failure)).events := by
  have hContains : permissiveRegistry.contains permissiveProvider = true := by decide
  have hCategory : failure.error.category ≠ .cancelled := by
    intro hCancelled
    rw [hCancelled] at hTransient
    cases hTransient
  have hAllowed : (fallbackReason failure.error.category).any
      (fun reason => mayFallback reason failure.audioAcceptance .bufferedWithConsent) = true :=
    (fallback_allowed_iff _ _ _).mpr ⟨hTransient, .inr rfl⟩
  intro j hj
  have hEvents : (routeRun permissiveRegistry permissiveRoute someInput
      (failingEnvironment failure)).events =
      [.tokenRead 0 false, .invoked 0 permissiveProvider, .tokenRead 1 false,
        .invoked 1 permissiveProvider] := by
    simp [routeRun, permissiveRoute, routeLoop, failingEnvironment, hContains, hRetryable,
      hCategory, hAllowed, RouteRun.prepend, RouteRun.finish]
  rw [hEvents]
  obtain rfl | rfl : j = 0 ∨ j = 1 := by omega
  · simp
  · simp

end Permissive

theorem stopsRoute_iff (failure : ProviderAttemptFailure) :
    StopsRoute failure ↔
      ¬(failure.error.retryable = true ∧ failure.error.category.isTransient = true) := by
  constructor
  · rintro hStops ⟨hRetryable, hTransient⟩
    have hInvoked := permissive_falls_back hRetryable hTransient
    have hLate := hStops permissiveRegistry permissiveRoute someInput (failingEnvironment failure)
      0 permissiveProvider rfl (hInvoked 0 (by omega)) 1 permissiveProvider (hInvoked 1 (by omega))
    omega
  · intro hFinal registry route input env i id hAnswer hMem j provider hLater
    have consent := (routeRun_shape registry route input env).consents
    generalize routeRun registry route input env = run at consent hMem hLater
    by_contra hAfter
    obtain ⟨attempt, hAttempt, _, hRecords⟩ := consent.invoked_attempt i id hMem
    obtain ⟨attempt', error, hAttempt', hError, hRetryable, hTransient⟩ :=
      consent.fallback i j provider hLater (by omega)
    rw [hAttempt] at hAttempt'
    cases hAttempt'
    rw [hAnswer] at hRecords
    obtain ⟨_, _, hRecorded⟩ := hRecords
    rw [hError] at hRecorded
    cases hRecorded
    exact hFinal ⟨hRetryable, isTransient_of_mem hTransient⟩

namespace Curl

/-- The statuses with which a server or a proxy rejects credentials. -/
def rejectedStatuses : List Nat := [401, 403, 407]

/-- The exit codes that are classified before the HTTP status and as retryable. -/
def retryableExitCodes : List Int := [5, 6, 7, 28, 35, 52, 55, 56]

def asciiBytes (text : String) : List UInt8 := text.toList.map fun c => UInt8.ofNat c.toNat

@[simp] theorem stopsRoute_intoAttemptFailure (failure : CurlFailure) (code : String)
    (audioAcceptance : AudioAcceptance) :
    StopsRoute ((failure.withTransportEvidence audioAcceptance).intoAttemptFailure code) ↔
      ¬(failure.retryable = true ∧ failure.category.isTransient = true) :=
  stopsRoute_iff _

theorem rejected_http {httpStatus : Nat} (hRejected : httpStatus ∈ rejectedStatuses)
    (curlExitCode : Option Int) (diagnostic : Option String) :
    (classifyHttpFailure httpStatus curlExitCode diagnostic).retryable = false := by
  have hStatus : httpStatus = 401 ∨ httpStatus = 403 ∨ httpStatus = 407 := by
    simpa [rejectedStatuses] using hRejected
  rw [classifyHttpFailure, if_pos hStatus]
  rfl

theorem rejected_not_success {httpStatus : Nat} (hRejected : httpStatus ∈ rejectedStatuses) :
    isSuccess httpStatus = false := by
  simp only [rejectedStatuses, List.mem_cons, List.not_mem_nil, or_false] at hRejected
  rcases hRejected with rfl | rfl | rfl <;> rfl

theorem retryableExitCodes_any (curlExitCode : Option Int) :
    curlExitCode.any (retryableExitCodes.contains ·) = true ↔
      curlExitCode = some 28 ∨ curlExitCode.any ([5, 6, 7, 35, 52, 55, 56].contains ·) = true := by
  cases curlExitCode with
  | none => simp
  | some exit =>
    simp [retryableExitCodes]
    omega

/-- Of a rejected attempt that curl reports as failed, the exit code decides. -/
theorem rejected_exit {httpStatus : Nat} (hRejected : httpStatus ∈ rejectedStatuses)
    (curlExitCode : Option Int) (diagnostic : Option String) (maxResponseBytes : Nat) :
    ((classifyCurlFailure curlExitCode (some httpStatus) diagnostic maxResponseBytes).retryable =
        true ∧
      (classifyCurlFailure curlExitCode (some httpStatus) diagnostic
        maxResponseBytes).category.isTransient = true) ↔
      curlExitCode.any (retryableExitCodes.contains ·) = true := by
  have hHttp := rejected_http hRejected curlExitCode diagnostic
  rw [retryableExitCodes_any]
  by_cases hFail : curlExitCode = some 22
  · subst hFail
    simp [classifyCurlFailure, hHttp]
  · by_cases hTimeout : curlExitCode = some 28
    · subst hTimeout
      simp [classifyCurlFailure, failure, ErrorCategory.isTransient]
    · by_cases hSize : curlExitCode = some 63
      · subst hSize
        simp [classifyCurlFailure, failure]
      · by_cases hBroken : curlExitCode.any ([5, 6, 7, 35, 52, 55, 56].contains ·) = true
        · rw [classifyCurlFailure, if_neg (by simp [hFail]), if_neg hTimeout, if_neg hSize,
            if_pos hBroken]
          exact ⟨fun _ => .inr hBroken, fun _ => ⟨rfl, rfl⟩⟩
        · have hNone : ¬(curlExitCode = some 28 ∨
              curlExitCode.any ([5, 6, 7, 35, 52, 55, 56].contains ·) = true) := by
            rintro (h | h)
            · exact hTimeout h
            · exact hBroken h
          rw [classifyCurlFailure, if_neg (by simp [hFail]), if_neg hTimeout, if_neg hSize,
            if_neg hBroken]
          refine iff_of_false ?_ hNone
          rintro ⟨hRetryable, _⟩
          by_cases hTls : curlExitCode = some 60
          · rw [if_pos hTls] at hRetryable
            cases hRetryable
          · rw [if_neg hTls, classifyByStatus] at hRetryable
            simp [rejected_not_success hRejected, hHttp] at hRetryable

/-- A rejection stops the route unless an input error or a broken connection hides it. -/
theorem rejected_stops_iff (status : ExitStatus) (body diagnostics : BoundedRead)
    (stdinError : Option String) (maxResponseBytes httpStatus : Nat) (code : String)
    (hReported : parseHttpStatus diagnostics.bytes = some httpStatus)
    (hRejected : httpStatus ∈ rejectedStatuses) :
    (∃ failure, finishCurlAttempt status false body diagnostics stdinError maxResponseBytes =
        .error failure ∧ StopsRoute (failure.intoAttemptFailure code)) ↔
      body.overflowed = true ∨
        (stdinError = none ∧ status.code.any (retryableExitCodes.contains ·) = false) := by
  rw [finishCurlAttempt]
  cases hOverflow : body.overflowed with
  | true => simp [failure]
  | false =>
    cases stdinError with
    | some error => simp [failure, ErrorCategory.isTransient]
    | none =>
      cases hSuccess : status.success with
      | true =>
        have hExit : status.code = some 0 := by simpa [ExitStatus.success] using hSuccess
        simp [hReported, rejected_not_success hRejected, rejected_http hRejected, hExit,
          retryableExitCodes]
      | false => simp [hReported, rejected_exit hRejected]

/-- The server refuses the key and resets the connection before any audio was sent. -/
def resetDiagnostics : BoundedRead :=
  ⟨asciiBytes ("curl: (56) Recv failure: Connection reset by peer\n" ++
    "VOXTYPE_HTTP_STATUS:401\nVOXTYPE_UPLOAD_BYTES:0\n"), false⟩

def resetAttempt : Except CurlFailure CurlResponse :=
  finishCurlAttempt ⟨some 56⟩ false ⟨[], false⟩ resetDiagnostics none 1048576

def backupProvider : ProviderId := ⟨"b", by decide +kernel⟩

/-- The first provider's key is refused. -/
def resetEnvironment : RouteEnvironment where
  isCancelled := fun _ => false
  recognize := fun _ id _ =>
    match resetAttempt with
    | .error failure =>
      if id = permissiveProvider then .error (failure.intoAttemptFailure "provider.http_failed")
      else .ok ⟨⟨"text", ⟨none, none, none⟩⟩, true, .accepted⟩
    | .ok _ => .ok ⟨⟨"text", ⟨none, none, none⟩⟩, true, .accepted⟩

theorem rejection_falls_back :
    parseHttpStatus resetDiagnostics.bytes = some 401 ∧
    (∃ failure, resetAttempt = .error failure ∧
      ¬StopsRoute (failure.intoAttemptFailure "provider.http_failed")) ∧
    .invoked 1 backupProvider ∈ (routeRun ⟨[permissiveProvider, backupProvider]⟩
      ⟨[permissiveProvider, backupProvider], .never⟩ someInput resetEnvironment).events := by
  have hAttempt : ∃ failure, resetAttempt = .error failure ∧
      failure.retryable = true ∧ failure.category = .connection := by
    refine ⟨_, rfl, ?_, ?_⟩
    · decide
    · decide
  refine ⟨by decide, ?_, by decide⟩
  obtain ⟨failure, hFailure, hRetryable, hCategory⟩ := hAttempt
  refine ⟨failure, hFailure, fun hStops => (stopsRoute_iff _).mp hStops ⟨hRetryable, ?_⟩⟩
  change failure.category.isTransient = true
  rw [hCategory]
  rfl

theorem rejected_stops_iff_refused :
    parseHttpStatus (asciiBytes "\nVOXTYPE_HTTP_STATUS:403\nVOXTYPE_UPLOAD_BYTES:812\n") =
        some 403 ∧
      ∃ failure, finishCurlAttempt ⟨some 22⟩ false ⟨[], false⟩
          ⟨asciiBytes "\nVOXTYPE_HTTP_STATUS:403\nVOXTYPE_UPLOAD_BYTES:812\n", false⟩ none 1024 =
          .error failure ∧ StopsRoute (failure.intoAttemptFailure "provider.http_failed") := by
  have hReported : parseHttpStatus
      (asciiBytes "\nVOXTYPE_HTTP_STATUS:403\nVOXTYPE_UPLOAD_BYTES:812\n") = some 403 := by
    decide
  exact ⟨hReported, (rejected_stops_iff ⟨some 22⟩ ⟨[], false⟩
    ⟨asciiBytes "\nVOXTYPE_HTTP_STATUS:403\nVOXTYPE_UPLOAD_BYTES:812\n", false⟩ none 1024 403
    "provider.http_failed" hReported (by decide)).mpr (.inr ⟨rfl, by decide⟩)⟩

end Curl

end VoxType
