import VoxType.App.Provider

/-!
# Replay consent of a route

`RouteShape` names the ways the loop can go on or end; every property of a
route follows by induction on it.
-/

namespace VoxType

set_option autoImplicit false

/-- The categories a route may fall back after. -/
def ErrorCategory.isTransient : ErrorCategory → Bool
  | .connection | .timeout | .rateLimited | .unavailable => true
  | _ => false

/-- What an attempt records of the adapter's answer. -/
def RouteAttempt.Records (attempt : RouteAttempt) :
    Except ProviderAttemptFailure ProviderSuccess → Prop
  | .ok success => attempt.transportStarted = success.transportStarted ∧
      attempt.audioAcceptance = success.audioAcceptance
  | .error failure => attempt.transportStarted = failure.transportStarted ∧
      attempt.audioAcceptance = failure.audioAcceptance ∧ attempt.error = some failure.error

section Shape

variable (replay : ReplayPolicy) (input : RecognitionInput) (env : RouteEnvironment)

inductive RouteShape : Nat → List ProviderId → RouteRun → Prop
  | exhausted (n : Nat) (lastError : Option VoxError) : RouteShape n [] (.finish lastError)
  | cancelled (n : Nat) (id : ProviderId) (rest : List ProviderId)
    (hToken : env.isCancelled n = true) :
    RouteShape n (id :: rest)
      ((RouteRun.finish (some cancelledError)).prepend [.tokenRead n true] [])
  | unregistered (n : Nat) (rest : List ProviderId) (attempt : RouteAttempt) (error : VoxError)
    (hError : attempt.error = some error) (hToken : env.isCancelled n = false) :
    RouteShape n (attempt.providerId :: rest)
      ((RouteRun.finish (some error)).prepend [.tokenRead n false] [attempt])
  | stopped (n : Nat) (rest : List ProviderId) (attempt : RouteAttempt) (error : VoxError)
    (hError : attempt.error = some error)
    (hRecords : attempt.Records (env.recognize n attempt.providerId input))
    (hToken : env.isCancelled n = false) :
    RouteShape n (attempt.providerId :: rest)
      ((RouteRun.finish (some error)).prepend
        [.tokenRead n false, .invoked n attempt.providerId] [attempt])
  | answered (n : Nat) (rest : List ProviderId) (attempt : RouteAttempt)
    (transcript : ProviderTranscript) (hError : attempt.error = none)
    (hText : RustText.isBlank transcript.text = false)
    (hRecords : attempt.Records (env.recognize n attempt.providerId input))
    (hToken : env.isCancelled n = false) :
    RouteShape n (attempt.providerId :: rest)
      ⟨[.tokenRead n false, .invoked n attempt.providerId],
        ⟨[attempt], .ok ⟨attempt.providerId, transcript⟩⟩⟩
  | fellBack (n : Nat) (rest : List ProviderId) (attempt : RouteAttempt) (error : VoxError)
    (tail : RouteRun) (hError : attempt.error = some error)
    (hRecords : attempt.Records (env.recognize n attempt.providerId input))
    (hRetryable : error.retryable = true) (hTransient : error.category.isTransient = true)
    (hConsent : attempt.audioAcceptance = .notAccepted ∨ replay = .bufferedWithConsent)
    (hToken : env.isCancelled n = false) (hTail : RouteShape (n + 1) rest tail) :
    RouteShape n (attempt.providerId :: rest)
      (tail.prepend [.tokenRead n false, .invoked n attempt.providerId] [attempt])

end Shape

theorem fallback_allowed_iff (category : ErrorCategory) (acceptance : AudioAcceptance)
    (replay : ReplayPolicy) :
    (fallbackReason category).any (fun reason => mayFallback reason acceptance replay) = true ↔
      category.isTransient = true ∧
        (acceptance = .notAccepted ∨ replay = .bufferedWithConsent) := by
  cases category <;> simp [fallbackReason, ErrorCategory.isTransient, mayFallback]

theorem routeLoop_shape (registry : ProviderRegistry) (replay : ReplayPolicy)
    (input : RecognitionInput) (env : RouteEnvironment) (providers : List ProviderId) (n : Nat)
    (lastError : Option VoxError) :
    RouteShape replay input env n providers
      (routeLoop registry replay input env n providers lastError) := by
  induction providers generalizing n lastError with
  | nil => exact .exhausted n lastError
  | cons id rest ih =>
    rw [routeLoop]
    split
    · rename_i hToken
      exact .cancelled n id rest hToken
    · rename_i hRead
      have hToken : env.isCancelled n = false := Bool.eq_false_iff.mpr hRead
      split
      · exact .unregistered n rest ⟨id, false, .notAccepted, some (notRegisteredError id)⟩ _ rfl
          hToken
      · cases hAnswer : env.recognize n id input with
        | ok success =>
          cases hText : RustText.isBlank success.transcript.text with
          | false =>
            simp only [hText, Bool.not_false, if_true]
            exact .answered n rest ⟨id, success.transportStarted, success.audioAcceptance, none⟩
              success.transcript rfl hText (by rw [hAnswer]; exact ⟨rfl, rfl⟩) hToken
          | true =>
            simp only [hText, Bool.not_true, Bool.false_eq_true, if_false]
            exact .stopped n rest
              ⟨id, success.transportStarted, success.audioAcceptance, some emptyTranscriptError⟩
              _ rfl (by rw [hAnswer]; exact ⟨rfl, rfl⟩) hToken
        | error failure =>
          have hRecords : RouteAttempt.Records
              ⟨id, failure.transportStarted, failure.audioAcceptance, some failure.error⟩
              (env.recognize n id input) := by
            rw [hAnswer]
            exact ⟨rfl, rfl, rfl⟩
          generalize hAttempt : (⟨id, failure.transportStarted, failure.audioAcceptance,
            some failure.error⟩ : RouteAttempt) = attempt at hRecords
          have hId : id = attempt.providerId := by rw [← hAttempt]
          have hError : attempt.error = some failure.error := by rw [← hAttempt]
          have hAcceptance : failure.audioAcceptance = attempt.audioAcceptance := by rw [← hAttempt]
          simp only [hAttempt]
          subst hId
          split
          · exact .stopped n rest attempt _ hError hRecords hToken
          · rename_i hContinue
            simp only [Bool.or_eq_true, Bool.not_eq_true', not_or, Bool.not_eq_false] at hContinue
            obtain ⟨⟨_, hRetryable⟩, hAllowed⟩ := hContinue
            rw [fallback_allowed_iff, hAcceptance] at hAllowed
            exact .fellBack n rest attempt _ _ hError hRecords hRetryable hAllowed.1 hAllowed.2
              hToken (ih (n + 1) (some failure.error))

namespace RouteShape

variable {replay : ReplayPolicy} {input : RecognitionInput} {env : RouteEnvironment} {n : Nat}
  {providers : List ProviderId} {run : RouteRun}

theorem attempts_prefix (h : RouteShape replay input env n providers run) :
    run.result.attempts.map (·.providerId) <+: providers := by
  induction h with
  | exhausted | cancelled => exact List.nil_prefix
  | unregistered | stopped | answered => exact List.prefix_append [_] _
  | fellBack n rest attempt error tail _ _ _ _ _ _ _ ih =>
    exact List.cons_prefix_cons.mpr ⟨rfl, ih⟩

theorem reached (h : RouteShape replay input env n providers run) :
    run.events.countP (fun e => match e with | .tokenRead _ false => true | _ => false) =
      run.result.attempts.length := by
  induction h with
  | exhausted | cancelled | unregistered | stopped | answered => rfl
  | fellBack n rest attempt error tail _ _ _ _ _ _ _ ih =>
    change List.countP _ (_ :: _ :: tail.events) = tail.result.attempts.length + 1
    rw [List.countP_cons_of_pos (by rfl), List.countP_cons_of_neg (by simp), ih]

/-- The token is read as it stands when a provider's turn comes. -/
theorem token_read (h : RouteShape replay input env n providers run) :
    ∀ k cancelled, .tokenRead k cancelled ∈ run.events → cancelled = env.isCancelled k := by
  intro k cancelled hMem
  induction h with
  | exhausted => simp [RouteRun.finish] at hMem
  | cancelled n id rest hToken | unregistered n rest attempt error hError hToken =>
    simp [RouteRun.finish, RouteRun.prepend] at hMem
    obtain ⟨rfl, rfl⟩ := hMem
    exact hToken.symm
  | stopped n rest attempt error hError hRecords hToken =>
    simp [RouteRun.finish, RouteRun.prepend] at hMem
    obtain ⟨rfl, rfl⟩ := hMem
    exact hToken.symm
  | answered n rest attempt transcript hError hText hRecords hToken =>
    simp at hMem
    obtain ⟨rfl, rfl⟩ := hMem
    exact hToken.symm
  | fellBack n rest attempt error tail hError _ _ _ _ hToken _ ih =>
    rcases List.mem_cons.mp hMem with hFirst | hMem
    · cases hFirst
      exact hToken.symm
    · rcases List.mem_cons.mp hMem with hInvoked | hMem
      · cases hInvoked
      · exact ih hMem

/-- No adapter is invoked at or after a turn at which the token was set. -/
theorem uncancelled (h : RouteShape replay input env n providers run) :
    ∀ j provider, .invoked j provider ∈ run.events →
      ∀ k, n ≤ k → k ≤ j → env.isCancelled k = false := by
  intro j provider hMem k hFrom hUpTo
  induction h with
  | exhausted => simp [RouteRun.finish] at hMem
  | cancelled | unregistered => simp [RouteRun.finish, RouteRun.prepend] at hMem
  | stopped n rest attempt error hError hRecords hToken =>
    simp [RouteRun.finish, RouteRun.prepend] at hMem
    rw [show k = n by omega]
    exact hToken
  | answered n rest attempt transcript hError hText hRecords hToken =>
    simp at hMem
    rw [show k = n by omega]
    exact hToken
  | fellBack n rest attempt error tail hError _ _ _ _ hToken _ ih =>
    rcases Nat.eq_or_lt_of_le hFrom with rfl | hLater
    · exact hToken
    · rcases List.mem_cons.mp hMem with hRead | hMem
      · cases hRead
      · rcases List.mem_cons.mp hMem with hFirst | hMem
        · cases hFirst
          omega
        · exact ih hMem hLater

/-- A route that has seen the token set ends as cancelled. -/
theorem seen (h : RouteShape replay input env n providers run) :
    ∀ k, .tokenRead k true ∈ run.events → run.result.outcome = .error cancelledError := by
  intro k hMem
  induction h with
  | exhausted => simp [RouteRun.finish] at hMem
  | cancelled => rfl
  | unregistered | stopped => simp [RouteRun.finish, RouteRun.prepend] at hMem
  | answered => simp at hMem
  | fellBack n rest attempt error tail _ _ _ _ _ _ _ ih =>
    rcases List.mem_cons.mp hMem with hRead | hMem
    · cases hRead
    · rcases List.mem_cons.mp hMem with hInvoked | hMem
      · cases hInvoked
      · exact ih hMem

theorem token_last (h : RouteShape replay input env n providers run) :
    ∀ pre k post, run.events = pre ++ .tokenRead k true :: post → post = [] := by
  intro pre k post hEvents
  induction h generalizing pre with
  | exhausted => simp [RouteRun.finish] at hEvents
  | cancelled n id rest =>
    rcases pre with _ | ⟨first, pre⟩
    · exact (List.cons.inj hEvents).2.symm
    · simp [RouteRun.finish, RouteRun.prepend] at hEvents
  | unregistered n rest attempt error hError =>
    rcases pre with _ | ⟨first, pre⟩ <;> simp [RouteRun.finish, RouteRun.prepend] at hEvents
  | stopped n rest attempt error hError hRecords =>
    rcases pre with _ | ⟨first, _ | ⟨second, pre⟩⟩ <;>
      simp [RouteRun.finish, RouteRun.prepend] at hEvents
  | answered n rest attempt transcript hError hText hRecords =>
    rcases pre with _ | ⟨first, _ | ⟨second, pre⟩⟩ <;> simp at hEvents
  | fellBack n rest attempt error tail _ _ _ _ _ _ _ ih =>
    rcases pre with _ | ⟨first, _ | ⟨second, pre⟩⟩
    · simp [RouteRun.prepend] at hEvents
    · simp [RouteRun.prepend] at hEvents
    · refine ih pre ?_
      simp only [RouteRun.prepend, List.cons_append, List.nil_append, List.cons.injEq] at hEvents
      exact hEvents.2.2

theorem invoked_attempt (h : RouteShape replay input env n providers run) :
    ∀ j provider, .invoked j provider ∈ run.events → n ≤ j ∧
      ∃ attempt, run.result.attempts[j - n]? = some attempt ∧ attempt.providerId = provider ∧
        attempt.Records (env.recognize j provider input) := by
  intro j provider hMem
  induction h with
  | exhausted => simp [RouteRun.finish] at hMem
  | cancelled | unregistered => simp [RouteRun.finish, RouteRun.prepend] at hMem
  | stopped n rest attempt error hError hRecords =>
    simp only [RouteRun.finish, RouteRun.prepend, List.append_nil, List.mem_cons, reduceCtorEq,
      RouteEvent.invoked.injEq, List.not_mem_nil, or_false, false_or] at hMem
    obtain ⟨rfl, rfl⟩ := hMem
    exact ⟨Nat.le_refl _, attempt, by simp [RouteRun.prepend, RouteRun.finish], rfl, hRecords⟩
  | answered n rest attempt transcript hError hText hRecords =>
    simp only [List.mem_cons, reduceCtorEq, RouteEvent.invoked.injEq, List.not_mem_nil, or_false,
      false_or] at hMem
    obtain ⟨rfl, rfl⟩ := hMem
    exact ⟨Nat.le_refl _, attempt, by simp, rfl, hRecords⟩
  | fellBack n rest attempt error tail hError hRecords _ _ _ _ _ ih =>
    simp only [RouteRun.prepend, List.cons_append, List.nil_append, List.mem_cons, reduceCtorEq,
      RouteEvent.invoked.injEq, false_or] at hMem
    rcases hMem with ⟨rfl, rfl⟩ | hMem
    · exact ⟨Nat.le_refl _, attempt, by simp [RouteRun.prepend], rfl, hRecords⟩
    · obtain ⟨hLe, later, hLater, hRest⟩ := ih hMem
      refine ⟨by omega, later, ?_, hRest⟩
      have hIndex : j - n = (j - (n + 1)) + 1 := by omega
      rw [hIndex]
      exact hLater

/-- Every attempt before an invoked adapter was allowed to fall back. -/
theorem before_invoked (h : RouteShape replay input env n providers run) :
    ∀ i j provider, .invoked (n + j) provider ∈ run.events → i < j →
      ∃ attempt error, run.result.attempts[i]? = some attempt ∧ attempt.error = some error ∧
        error.retryable = true ∧ error.category.isTransient = true ∧
        (attempt.audioAcceptance = .notAccepted ∨ replay = .bufferedWithConsent) := by
  intro i j provider hMem hBefore
  induction h generalizing i j with
  | exhausted => simp [RouteRun.finish] at hMem
  | cancelled | unregistered => simp [RouteRun.finish, RouteRun.prepend] at hMem
  | stopped | answered =>
    simp [RouteRun.finish, RouteRun.prepend] at hMem
    omega
  | fellBack n rest attempt error tail hError hRecords hRetryable hTransient hConsent _ _ ih =>
    cases i with
    | zero => exact ⟨attempt, error, rfl, hError, hRetryable, hTransient, hConsent⟩
    | succ i =>
      cases j with
      | zero => omega
      | succ j =>
        simp only [RouteRun.prepend, List.cons_append, List.nil_append, List.mem_cons,
          reduceCtorEq, RouteEvent.invoked.injEq, false_or] at hMem
        have hLater : .invoked (n + 1 + j) provider ∈ tail.events := by
          rcases hMem with ⟨hIndex, _⟩ | hMem
          · omega
          · rwa [show n + 1 + j = n + (j + 1) by omega]
        exact ih i j hLater (by omega)

theorem carried (h : RouteShape replay input env n providers run) :
    ∀ i attempt, run.result.attempts[i]? = some attempt → i + 1 < run.result.attempts.length →
      attempt.error ≠ none := by
  intro i attempt hAttempt hLength
  induction h generalizing i with
  | exhausted => simp [RouteRun.finish] at hLength
  | cancelled | unregistered | stopped => simp [RouteRun.finish, RouteRun.prepend] at hLength
  | answered => simp at hLength
  | fellBack n rest first error tail hError _ _ _ _ _ _ ih =>
    cases i with
    | zero =>
      cases hAttempt
      rw [hError]
      simp
    | succ i => exact ih i hAttempt (Nat.lt_of_succ_lt_succ hLength)

/-- The outcome and the last attempt agree. -/
theorem outcome_last (h : RouteShape replay input env n providers run) :
    match run.result.outcome with
    | .ok success => ∃ attempt, run.result.attempts.getLast? = some attempt ∧
        attempt.error = none ∧ success.providerId = attempt.providerId ∧
        RustText.isBlank success.transcript.text = false
    | .error _ => ∀ attempt, run.result.attempts.getLast? = some attempt →
        attempt.error ≠ none := by
  induction h with
  | exhausted | cancelled => simp [RouteRun.finish, RouteRun.prepend]
  | unregistered n rest attempt error hError | stopped n rest attempt error hError =>
    simp [RouteRun.finish, RouteRun.prepend, hError]
  | answered n rest attempt transcript hError hText => exact ⟨attempt, rfl, hError, rfl, hText⟩
  | fellBack n rest attempt error tail hError _ _ _ _ _ _ ih =>
    change match tail.result.outcome with
      | .ok success => _
      | .error _ => _
    cases hOutcome : tail.result.outcome with
    | ok success =>
      rw [hOutcome] at ih
      obtain ⟨last, hLast, hRest⟩ := ih
      exact ⟨last, by simp [RouteRun.prepend, List.getLast?_cons, hLast], hRest⟩
    | error _ =>
      rw [hOutcome] at ih
      intro last hLast
      simp only [RouteRun.prepend, List.cons_append, List.nil_append, List.getLast?_cons,
        Option.some.injEq] at hLast
      cases hTail : tail.result.attempts.getLast? with
      | none =>
        rw [hTail] at hLast
        cases hLast
        simp [hError]
      | some later =>
        rw [hTail] at hLast
        cases hLast
        exact ih later hTail

end RouteShape

/-- A transcript that leaves the route is not blank. -/
theorem route_transcript {registry : ProviderRegistry} {route : RoutePlan}
    {input : RecognitionInput} {env : RouteEnvironment} {success : RecognitionSuccess}
    (hOutcome : (runRecognitionRoute registry route input env).outcome = .ok success) :
    RustText.isBlank success.transcript.text = false := by
  have last := (routeLoop_shape registry route.replay input env route.providers 0 none).outcome_last
  change (routeLoop _ _ _ _ _ _ _).result.outcome = _ at hOutcome
  rw [hOutcome] at last
  obtain ⟨_, _, _, _, hText⟩ := last
  exact hText

/-- What holds of every run of a route. Positions count the providers of the route. -/
structure RouteConsent (route : RoutePlan) (input : RecognitionInput) (env : RouteEnvironment)
    (run : RouteRun) : Prop where
  consent : ∀ i j provider attempt, run.result.attempts[i]? = some attempt →
    attempt.audioAcceptance ≠ .notAccepted → route.replay ≠ .bufferedWithConsent →
    .invoked j provider ∈ run.events → j ≤ i
  fallback : ∀ i j provider, .invoked j provider ∈ run.events → i < j →
    ∃ attempt error, run.result.attempts[i]? = some attempt ∧ attempt.error = some error ∧
      error.retryable = true ∧
      error.category ∈ [.connection, .timeout, .rateLimited, .unavailable]
  token_read : ∀ k cancelled, .tokenRead k cancelled ∈ run.events → cancelled = env.isCancelled k
  uncancelled : ∀ j provider, .invoked j provider ∈ run.events →
    ∀ k ≤ j, env.isCancelled k = false
  seen : ∀ k, .tokenRead k true ∈ run.events → run.result.outcome = .error cancelledError
  token_last : ∀ pre k post, run.events = pre ++ .tokenRead k true :: post → post = []
  invoked_attempt : ∀ j provider, .invoked j provider ∈ run.events →
    ∃ attempt, run.result.attempts[j]? = some attempt ∧ attempt.providerId = provider ∧
      attempt.Records (env.recognize j provider input)
  attempts_prefix : run.result.attempts.map (·.providerId) <+: route.providers
  reached : run.events.countP (fun e => match e with | .tokenRead _ false => true | _ => false) =
    run.result.attempts.length
  carried : ∀ i attempt, run.result.attempts[i]? = some attempt →
    i + 1 < run.result.attempts.length → attempt.error ≠ none
  outcome_ok : (∃ success, run.result.outcome = .ok success) ↔
    ∃ attempt, run.result.attempts.getLast? = some attempt ∧ attempt.error = none
  success : ∀ success, run.result.outcome = .ok success →
    ∃ attempt, run.result.attempts.getLast? = some attempt ∧
      success.providerId = attempt.providerId ∧
      RustText.isBlank success.transcript.text = false

theorem isTransient_mem {category : ErrorCategory} (h : category.isTransient = true) :
    category ∈ [ErrorCategory.connection, .timeout, .rateLimited, .unavailable] := by
  cases category <;> simp_all [ErrorCategory.isTransient]

theorem routeRun_shape (registry : ProviderRegistry) (route : RoutePlan)
    (input : RecognitionInput) (env : RouteEnvironment) :
    RouteShape route.replay input env 0 route.providers (routeRun registry route input env) :=
  routeLoop_shape registry _ _ _ _ 0 none

theorem RouteShape.consents {route : RoutePlan} {input : RecognitionInput}
    {env : RouteEnvironment} {run : RouteRun}
    (shape : RouteShape route.replay input env 0 route.providers run) :
    RouteConsent route input env run := by
  have before := shape.before_invoked
  simp only [Nat.zero_add] at before
  have last := shape.outcome_last
  constructor
  case consent =>
    intro i j provider attempt hAttempt hAccepted hReplay hMem
    by_contra hLater
    obtain ⟨attempt', _, hAttempt', _, _, _, hAllowed⟩ := before i j provider hMem (by omega)
    rw [hAttempt] at hAttempt'
    cases hAttempt'
    exact hAllowed.elim hAccepted hReplay
  case fallback =>
    intro i j provider hMem hBefore
    obtain ⟨attempt, error, hAttempt, hError, hRetryable, hTransient, _⟩ :=
      before i j provider hMem hBefore
    exact ⟨attempt, error, hAttempt, hError, hRetryable, isTransient_mem hTransient⟩
  case token_read => exact shape.token_read
  case uncancelled =>
    intro j provider hMem k hUpTo
    exact shape.uncancelled j provider hMem k (Nat.zero_le k) hUpTo
  case seen => exact shape.seen
  case token_last => exact shape.token_last
  case invoked_attempt =>
    intro j provider hMem
    exact (shape.invoked_attempt j provider hMem).2
  case attempts_prefix => exact shape.attempts_prefix
  case reached => exact shape.reached
  case carried => exact shape.carried
  case outcome_ok =>
    cases hOutcome : run.result.outcome with
    | ok success =>
      rw [hOutcome] at last
      obtain ⟨attempt, hLast, hError, _⟩ := last
      exact ⟨fun _ => ⟨attempt, hLast, hError⟩, fun _ => ⟨success, rfl⟩⟩
    | error _ =>
      rw [hOutcome] at last
      constructor
      · rintro ⟨success, h⟩
        cases h
      · rintro ⟨attempt, hLast, hError⟩
        exact absurd hError (last attempt hLast)
  case success =>
    intro success hOutcome
    rw [hOutcome] at last
    obtain ⟨attempt, hLast, _, hProvider, hText⟩ := last
    exact ⟨attempt, hLast, hProvider, hText⟩

theorem route_consent (registry : ProviderRegistry) (route : RoutePlan) (input : RecognitionInput)
    (env : RouteEnvironment) : RouteConsent route input env (routeRun registry route input env) :=
  (routeRun_shape registry route input env).consents

/-- An error that an adapter or the answer of an adapter accounts for. -/
def AttemptError (env : RouteEnvironment) (input : RecognitionInput) (error : VoxError) : Prop :=
  error = cancelledError ∨ error = emptyTranscriptError ∨
    ∃ i id failure, env.recognize i id input = .error failure ∧ failure.error = error

/-- With registered providers only, the loop has no error of its own. -/
theorem routeLoop_error {registry : ProviderRegistry} {replay : ReplayPolicy}
    {input : RecognitionInput} {env : RouteEnvironment} {providers : List ProviderId} {n : Nat}
    {lastError : Option VoxError} {error : VoxError}
    (hRegistered : ∀ id ∈ providers, registry.contains id = true)
    (hLast : providers ≠ [] ∨ ∃ last, lastError = some last ∧ AttemptError env input last)
    (hOutcome : (routeLoop registry replay input env n providers lastError).result.outcome =
      .error error) : AttemptError env input error := by
  induction providers generalizing n lastError with
  | nil =>
    obtain ⟨last, rfl, hAttempt⟩ := hLast.resolve_left (fun h => h rfl)
    cases hOutcome
    exact hAttempt
  | cons id rest ih =>
    rw [routeLoop, hRegistered id List.mem_cons_self] at hOutcome
    split at hOutcome
    · cases hOutcome
      exact .inl rfl
    · simp only [Bool.not_true, Bool.false_eq_true, if_false] at hOutcome
      cases hAnswer : env.recognize n id input with
      | ok success =>
        rw [hAnswer] at hOutcome
        dsimp only at hOutcome
        split at hOutcome
        · cases hOutcome
        · cases hOutcome
          exact .inr (.inl rfl)
      | error failure =>
        have hAttempt : AttemptError env input failure.error :=
          .inr (.inr ⟨n, id, failure, hAnswer, rfl⟩)
        rw [hAnswer] at hOutcome
        dsimp only at hOutcome
        split at hOutcome
        · cases hOutcome
          exact hAttempt
        · exact ih (fun other hMem => hRegistered other (List.mem_cons_of_mem _ hMem))
            (.inr ⟨_, rfl, hAttempt⟩) hOutcome

end VoxType
