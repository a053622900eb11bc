import VoxType.App.Accounting
import VoxType.App.CircuitBreaker

/-!
# Conservation of the usage counters

Every recorded attempt of a provider is a success, a failure or a cancellation
of it. Successes are counted by the outcome of a route and failures by its
attempts, which agree because of how routes end.
-/

namespace VoxType

set_option autoImplicit false

abbrev RecordedRoute : Type := RecognitionRouteResult × Nat

def ControllerCall.recordedRoute : ControllerCall → Option RecordedRoute
  | .recordRouteResult result audioMillis _ => some (result, audioMillis)
  | _ => none

/-- The results recorded by some calls, with their audio time. -/
def recordedRoutes (calls : List ControllerCall) : List RecordedRoute :=
  calls.filterMap ControllerCall.recordedRoute

def RouteAttempt.hasFailed (attempt : RouteAttempt) : Bool :=
  attempt.error.any fun error => error.category != .cancelled

def RouteAttempt.wasCancelled (attempt : RouteAttempt) : Bool :=
  attempt.error.any fun error => error.category == .cancelled

def RecognitionRouteResult.attemptsOf (result : RecognitionRouteResult) (id : ProviderId) :
    List RouteAttempt :=
  result.attempts.filter fun attempt => attempt.providerId = id

def RecognitionRouteResult.successOf (result : RecognitionRouteResult) (id : ProviderId) :
    Option RecognitionSuccess :=
  match result.outcome with
  | .ok success => if success.providerId = id then some success else none
  | .error _ => none

/-- How many attempts of the provider may have sent the audio. -/
def RecognitionRouteResult.timesSent (result : RecognitionRouteResult) (id : ProviderId) : Nat :=
  (result.attemptsOf id).countP fun attempt => attempt.audioAcceptance.mayHaveLeftProcess

def attemptsOf (id : ProviderId) (routes : List RecordedRoute) : List RouteAttempt :=
  routes.flatMap fun route => route.1.attemptsOf id

def successesOf (id : ProviderId) (routes : List RecordedRoute) : List RecognitionSuccess :=
  routes.filterMap fun route => route.1.successOf id

/-- The total, or what input and output add up to. -/
def ProviderUsage.reported (usage : ProviderUsage) : Nat :=
  usage.totalTokens.getD (usage.inputTokens.getD 0 + usage.outputTokens.getD 0)

/-- The counters of a provider after some routes have been recorded. -/
structure UsageConserved (id : ProviderId) (routes : List RecordedRoute)
    (usage : ProviderUsageSnapshot) : Prop where
  attempts : usage.attempts = min (attemptsOf id routes).length u64Max
  successes : usage.successes = min (successesOf id routes).length u64Max
  failures : usage.failures = min ((attemptsOf id routes).countP RouteAttempt.hasFailed) u64Max
  conserved : (attemptsOf id routes).length ≤ u64Max →
    usage.attempts = usage.successes + usage.failures +
      (attemptsOf id routes).countP RouteAttempt.wasCancelled
  requests : usage.requests =
    min ((attemptsOf id routes).countP fun attempt => attempt.transportStarted) u64Max
  audioMillis : usage.audioMillis =
    min (routes.map fun route => route.1.timesSent id * route.2).sum u64Max
  audioOnce : (∀ route ∈ routes, route.1.timesSent id ≤ 1) → usage.audioMillis =
    min ((routes.filter fun route => route.1.timesSent id ≠ 0).map Prod.snd).sum u64Max
  reportedTokens : usage.reportedTokens =
    min ((successesOf id routes).map fun success => success.transcript.usage.reported).sum u64Max

section Routes

variable {id : ProviderId}

/-- Every attempt has one of three ends. -/
theorem length_eq_ends (attempts : List RouteAttempt) :
    attempts.length = attempts.countP (fun attempt => attempt.error.isNone) +
      attempts.countP RouteAttempt.hasFailed + attempts.countP RouteAttempt.wasCancelled := by
  induction attempts with
  | nil => rfl
  | cons attempt attempts ih =>
    rw [List.length_cons, List.countP_cons, List.countP_cons, List.countP_cons, ih,
      RouteAttempt.hasFailed, RouteAttempt.wasCancelled]
    cases attempt.error with
    | none =>
      simp
      omega
    | some error =>
      by_cases hCancelled : error.category = .cancelled
      · simp [hCancelled]
        omega
      · simp [hCancelled]
        omega

/-- An attempt without an error is the last one of a route that succeeded. -/
theorem RecognitionRouteResult.Consistent.answered {result : RecognitionRouteResult}
    (h : result.Consistent) (id : ProviderId) :
    (result.attemptsOf id).countP (fun attempt => attempt.error.isNone) =
      (result.successOf id).toList.length := by
  have hFailed : ∀ {attempts : List RouteAttempt}, (∀ attempt ∈ attempts, attempt.error ≠ none) →
      (attempts.filter fun attempt => attempt.providerId = id).countP
        (fun attempt => attempt.error.isNone) = 0 := by
    intro attempts hErrors
    rw [List.countP_eq_zero]
    intro attempt hMem hNone
    exact hErrors attempt (List.mem_of_mem_filter hMem) (Option.isNone_iff_eq_none.mp hNone)
  rw [Consistent] at h
  rw [attemptsOf, successOf]
  cases hOutcome : result.outcome with
  | error error =>
    rw [hOutcome] at h
    exact hFailed h
  | ok success =>
    rw [hOutcome] at h
    obtain ⟨failed, attempt, hAttempts, hErrors, hNone, hProvider⟩ := h
    rw [hAttempts, List.filter_append, List.countP_append, hFailed hErrors, Nat.zero_add]
    dsimp only
    rw [← hProvider]
    by_cases hOwn : attempt.providerId = id
    · simp [hOwn, hNone]
    · simp [hOwn]

theorem routes_conserved {routes : List RecordedRoute}
    (h : ∀ route ∈ routes, route.1.Consistent) :
    (attemptsOf id routes).length = (successesOf id routes).length +
      (attemptsOf id routes).countP RouteAttempt.hasFailed +
        (attemptsOf id routes).countP RouteAttempt.wasCancelled := by
  induction routes with
  | nil => rfl
  | cons route routes ih =>
    rw [List.forall_mem_cons] at h
    have hRest := ih h.2
    have hFirst := length_eq_ends (route.1.attemptsOf id)
    rw [h.1.answered id] at hFirst
    have hSuccesses : (successesOf id (route :: routes)).length =
        (route.1.successOf id).toList.length + (successesOf id routes).length := by
      rw [successesOf, List.filterMap_cons]
      cases route.1.successOf id with
      | none => rw [Option.toList_none, List.length_nil, Nat.zero_add]; rfl
      | some success =>
        rw [Option.toList_some, List.length_singleton, Nat.add_comm]
        rfl
    rw [attemptsOf, List.flatMap_cons, List.length_append, List.countP_append, List.countP_append,
      hSuccesses]
    rw [attemptsOf] at hRest
    omega

/-- The charges of recorded routes. -/
def chargesOf (routes : List RecordedRoute) : List Charge :=
  routes.flatMap fun route => route.1.attempts.map fun attempt => (attempt, route.2)

theorem tally_chargesOf (routes : List RecordedRoute) :
    tally id (chargesOf routes) =
      { attempts := (attemptsOf id routes).length
        requests := (attemptsOf id routes).countP fun attempt => attempt.transportStarted
        audioMillis := (routes.map fun route => route.1.timesSent id * route.2).sum } := by
  have hOwn : (chargesOf routes).filter (fun charge => charge.1.providerId = id) =
      routes.flatMap fun route => (route.1.attemptsOf id).map fun attempt => (attempt, route.2) := by
    rw [chargesOf, List.filter_flatMap]
    congr 1
    funext route
    rw [RecognitionRouteResult.attemptsOf, List.filter_map]
    rfl
  have hSent : ∀ (attempts : List RouteAttempt) (audioMillis : Nat),
      (attempts.map fun attempt =>
        if attempt.audioAcceptance.mayHaveLeftProcess then audioMillis else 0).sum =
          (attempts.countP fun attempt => attempt.audioAcceptance.mayHaveLeftProcess) *
            audioMillis := by
    intro attempts audioMillis
    induction attempts with
    | nil => rw [List.map_nil, List.sum_nil, List.countP_nil, Nat.zero_mul]
    | cons attempt attempts ih =>
      rw [List.map_cons, List.sum_cons, ih, List.countP_cons, Nat.add_mul, Nat.add_comm]
      congr 1
      split <;> simp
  rw [tally, hOwn, UsageCounters.mk.injEq]
  refine ⟨?_, ?_, ?_⟩
  · rw [attemptsOf, List.length_flatMap, List.length_flatMap]
    simp only [List.length_map]
  · rw [attemptsOf, List.countP_flatMap, List.countP_flatMap]
    congr 2
    funext route
    rw [Function.comp_apply, Function.comp_apply, List.countP_map]
    rfl
  · rw [List.map_flatMap, List.flatMap_def, List.sum_flatten, List.map_map]
    congr 2
    funext route
    rw [Function.comp_apply, List.map_map]
    exact hSent (route.1.attemptsOf id) route.2

theorem sum_timesSent {routes : List RecordedRoute}
    (h : ∀ route ∈ routes, route.1.timesSent id ≤ 1) :
    (routes.map fun route => route.1.timesSent id * route.2).sum =
      ((routes.filter fun route => route.1.timesSent id ≠ 0).map Prod.snd).sum := by
  induction routes with
  | nil => rfl
  | cons route routes ih =>
    rw [List.forall_mem_cons] at h
    rw [List.map_cons, List.sum_cons, ih h.2, List.filter_cons]
    by_cases hSent : route.1.timesSent id = 0
    · rw [hSent, Nat.zero_mul, Nat.zero_add, if_neg (by simp)]
    · have hOnce : route.1.timesSent id = 1 := by
        have hBound := h.1
        omega
      rw [hOnce, Nat.one_mul, if_pos (by simp), List.map_cons, List.sum_cons]

end Routes

/-- The counters that tell how attempts ended. -/
structure OutcomeCounters where
  successes : Nat
  failures : Nat
  reportedTokens : Nat
  deriving DecidableEq, Repr

def OutcomeCounters.saturated (self : OutcomeCounters) : OutcomeCounters :=
  ⟨min self.successes u64Max, min self.failures u64Max, min self.reportedTokens u64Max⟩

def ProviderUsageSnapshot.outcomes (self : ProviderUsageSnapshot) : OutcomeCounters :=
  ⟨self.successes, self.failures, self.reportedTokens⟩

def usageOutcomes (id : ProviderId) (routes : List RecordedRoute) : OutcomeCounters :=
  { successes := (successesOf id routes).length
    failures := (attemptsOf id routes).countP RouteAttempt.hasFailed
    reportedTokens :=
      ((successesOf id routes).map fun success => success.transcript.usage.reported).sum }

namespace AppController

def usageOf (self : AppController) (id : ProviderId) : ProviderUsageSnapshot :=
  (self.providerUsage id).getD .initial

theorem usageOf_updateUsage (self : AppController) (other : ProviderId)
    (update : ProviderUsageSnapshot → ProviderUsageSnapshot) (id : ProviderId) :
    (self.updateUsage other update).usageOf id =
      if other = id then update (self.usageOf id) else self.usageOf id := by
  change (Function.update self.providerUsage other _ id).getD .initial = _
  split
  case isTrue hSame =>
    subst hSame
    rw [Function.update_self, Option.getD_some]
    rfl
  case isFalse hOther =>
    rw [Function.update_of_ne fun hSame => hOther hSame.symm]
    rfl

theorem usageOf_recordAttempt (audioMillis now : Nat) (self : AppController)
    (attempt : RouteAttempt) (id : ProviderId) :
    (recordAttempt audioMillis now self attempt).usageOf id =
      if attempt.providerId = id then countAttempt attempt audioMillis (self.usageOf id)
      else self.usageOf id := by
  have hUsage : (recordAttempt audioMillis now self attempt).usageOf id =
      (self.updateUsage attempt.providerId (countAttempt attempt audioMillis)).usageOf id := by
    rw [recordAttempt]
    cases attempt.error with
    | none => rfl
    | some error =>
      dsimp only
      split <;> rfl
  rw [hUsage, usageOf_updateUsage]

theorem countAttempt_outcomes (attempt : RouteAttempt) (audioMillis : Nat)
    (usage : ProviderUsageSnapshot) :
    (countAttempt attempt audioMillis usage).outcomes =
      ⟨usage.successes, if attempt.hasFailed then saturatingAdd usage.failures 1 else usage.failures,
        usage.reportedTokens⟩ := by
  rw [countAttempt, RouteAttempt.hasFailed]
  cases attempt.error with
  | none =>
    dsimp only
    split <;> split <;> rfl
  | some error =>
    dsimp only
    rw [Option.any_some]
    by_cases hCancelled : error.category = .cancelled
    · rw [if_pos hCancelled, hCancelled, bne_self_eq_false, if_neg Bool.false_ne_true]
      split <;> split <;> rfl
    · rw [if_neg hCancelled, if_pos (bne_iff_ne.mpr hCancelled)]
      split <;> split <;> rfl

/-- The attempts of one result, all of them recorded. -/
theorem outcomes_recordAttempts {self : AppController} {id : ProviderId} {audioMillis now : Nat}
    {sums : OutcomeCounters} (attempts : List RouteAttempt)
    (h : (self.usageOf id).outcomes = sums.saturated) :
    ((attempts.foldl (recordAttempt audioMillis now) self).usageOf id).outcomes =
      { sums with
        failures := sums.failures + (attempts.filter fun attempt =>
          attempt.providerId = id).countP RouteAttempt.hasFailed : OutcomeCounters }.saturated := by
  induction attempts generalizing self sums with
  | nil => exact h
  | cons attempt attempts ih =>
    rw [List.foldl_cons, List.filter_cons]
    by_cases hOwn : attempt.providerId = id
    · have hFirst : ((recordAttempt audioMillis now self attempt).usageOf id).outcomes =
          { sums with failures := sums.failures + if attempt.hasFailed then 1 else 0 :
            OutcomeCounters }.saturated := by
        obtain ⟨hSuccesses, hFailures, hTokens⟩ := OutcomeCounters.mk.inj h
        rw [usageOf_recordAttempt, if_pos hOwn, countAttempt_outcomes, hSuccesses, hFailures,
          hTokens, OutcomeCounters.saturated, saturatingAdd_min]
        congr 1
        split <;> rfl
      rw [if_pos (by simpa using hOwn), List.countP_cons, ih hFirst]
      dsimp only
      rw [Nat.add_assoc, Nat.add_comm (List.countP _ _)]
    · have hFirst : ((recordAttempt audioMillis now self attempt).usageOf id).outcomes =
          sums.saturated := by
        rw [usageOf_recordAttempt, if_neg hOwn, h]
      rw [if_neg (by simpa using hOwn), ih hFirst]

theorem recordSuccess_outcomes {usage : ProviderUsageSnapshot} {sums : OutcomeCounters}
    (h : usage.outcomes = sums.saturated) (reported : ProviderUsage) :
    (usage.recordSuccess reported).outcomes =
      { sums with
        successes := sums.successes + 1
        reportedTokens := sums.reportedTokens + reported.reported : OutcomeCounters }.saturated := by
  obtain ⟨hSuccesses, hFailures, hTokens⟩ := OutcomeCounters.mk.inj h
  rw [ProviderUsageSnapshot.recordSuccess]
  split
  case isTrue hNone =>
    simp only [Bool.and_eq_true, Option.isNone_iff_eq_none] at hNone
    obtain ⟨⟨hInput, hOutput⟩, hTotal⟩ := hNone
    have hZero : reported.reported = 0 := by
      rw [ProviderUsage.reported, hInput, hOutput, hTotal]
      rfl
    rw [hZero]
    change OutcomeCounters.mk (saturatingAdd usage.successes 1) usage.failures
      usage.reportedTokens = _
    rw [hSuccesses, hFailures, hTokens, saturatingAdd_min]
    rfl
  case isFalse =>
    change OutcomeCounters.mk (saturatingAdd usage.successes 1) usage.failures
      (saturatingAdd usage.reportedTokens (reported.totalTokens.getD
        (saturatingAdd (reported.inputTokens.getD 0) (reported.outputTokens.getD 0)))) = _
    rw [hSuccesses, hFailures, hTokens, saturatingAdd_min, saturatingAdd_min,
      OutcomeCounters.saturated, OutcomeCounters.mk.injEq]
    refine ⟨rfl, rfl, ?_⟩
    rw [ProviderUsage.reported]
    cases reported.totalTokens with
    | some total => rfl
    | none =>
      dsimp only [Option.getD_none]
      rw [saturatingAdd]
      omega

theorem outcomes_recordRouteResult {self : AppController} {id : ProviderId}
    {routes : List RecordedRoute} (h : (self.usageOf id).outcomes = (usageOutcomes id routes).saturated)
    (result : RecognitionRouteResult) (audioMillis now : Nat) :
    ((self.recordRouteResult result audioMillis now).usageOf id).outcomes =
      (usageOutcomes id (routes ++ [(result, audioMillis)])).saturated := by
  have hAttempts := @outcomes_recordAttempts self id audioMillis now _ result.attempts h
  have hFailures : (attemptsOf id (routes ++ [(result, audioMillis)])).countP
      RouteAttempt.hasFailed = (attemptsOf id routes).countP RouteAttempt.hasFailed +
        (result.attemptsOf id).countP RouteAttempt.hasFailed := by
    rw [attemptsOf, List.flatMap_append, List.flatMap_singleton, List.countP_append]
    rfl
  rw [recordRouteResult, usageOutcomes, hFailures, successesOf, List.filterMap_append,
    List.filterMap_cons, List.filterMap_nil, RecognitionRouteResult.successOf]
  cases hOutcome : result.outcome with
  | error error =>
    dsimp only
    rw [List.append_nil]
    exact hAttempts
  | ok success =>
    dsimp only
    rw [usageOf_updateUsage]
    by_cases hOwn : success.providerId = id
    · rw [if_pos hOwn, if_pos hOwn]
      refine (recordSuccess_outcomes hAttempts success.transcript.usage).trans ?_
      dsimp only [usageOutcomes]
      rw [List.length_append, List.map_append, List.sum_append, List.map_singleton,
        List.sum_singleton]
      rfl
    · rw [if_neg hOwn, if_neg hOwn, List.append_nil]
      exact hAttempts

end AppController

section Runs

variable {registry : ProviderRegistry} {wake : WakeHandle}

/-- Calls that record nothing leave the usage alone. -/
theorem call_usage {self : AppController} {call : ControllerCall}
    (h : call.recordedRoute = none) : (self.call call).2.providerUsage = self.providerUsage := by
  cases call with
  | apply command => exact (AppController.apply_providers self command).providerUsage
  | finishSession session outcome errorCode backend charCount =>
    exact (AppController.finishSession_providers self session outcome errorCode backend
      charCount).providerUsage
  | drainEvents => rfl
  | replaceRegistry next => rfl
  | recordRouteResult result audioMillis now => cases h

theorem recordedRoutes_snoc (calls : List ControllerCall) (call : ControllerCall) :
    recordedRoutes (calls ++ [call]) = recordedRoutes calls ++ call.recordedRoute.toList := by
  rw [recordedRoutes, List.filterMap_append, List.filterMap_cons, List.filterMap_nil]
  cases call.recordedRoute <;> rfl

theorem state_usage (id : ProviderId) (calls : List ControllerCall) :
    (((controllerMachine registry wake).state calls).usageOf id).outcomes =
        (usageOutcomes id (recordedRoutes calls)).saturated ∧
      ((controllerMachine registry wake).state calls).counters id =
        (tally id (chargesOf (recordedRoutes calls))).saturated := by
  induction calls using List.reverseRecOn with
  | nil => exact ⟨rfl, rfl⟩
  | append_singleton calls call ih =>
    rw [Transition.Machine.state_snoc, recordedRoutes_snoc]
    cases call with
    | recordRouteResult result audioMillis now =>
      have hCharges : chargesOf (recordedRoutes calls ++ [(result, audioMillis)]) =
          chargesOf (recordedRoutes calls) ++
            result.attempts.map fun attempt => (attempt, audioMillis) := by
        rw [chargesOf, List.flatMap_append, List.flatMap_singleton]
        rfl
      refine ⟨AppController.outcomes_recordRouteResult ih.1 result audioMillis now, ?_⟩
      change _ = (tally id (chargesOf (_ ++ [(result, audioMillis)]))).saturated
      rw [hCharges]
      exact AppController.counters_recordRouteResult ih.2
    | apply | finishSession | drainEvents | replaceRegistry =>
      change (((AppController.call _ _).2.providerUsage id).getD _).outcomes = _ ∧
        (((AppController.call _ _).2.providerUsage id).getD _).counters = _
      rw [call_usage rfl]
      simp only [ControllerCall.recordedRoute, Option.toList_none, List.append_nil]
      exact ih

theorem mem_recordedRoutes {calls : List ControllerCall} {route : RecordedRoute}
    (h : route ∈ recordedRoutes calls) :
    ∃ now, ControllerCall.recordRouteResult route.1 route.2 now ∈ calls := by
  obtain ⟨call, hCall, hRoute⟩ := List.mem_filterMap.mp h
  cases call with
  | recordRouteResult result audioMillis now =>
    cases hRoute
    exact ⟨now, hCall⟩
  | _ => cases hRoute

theorem usage_conserved (registry : ProviderRegistry) (wake : WakeHandle)
    (calls : List ControllerCall)
    (hRoutes : ∀ result audioMillis now,
      ControllerCall.recordRouteResult result audioMillis now ∈ calls → result.FromRoute)
    (id : ProviderId) :
    UsageConserved id (recordedRoutes calls)
      (((controllerMachine registry wake).state calls).usageOf id) := by
  obtain ⟨hOutcomes, hCounters⟩ := @state_usage registry wake id calls
  rw [tally_chargesOf] at hCounters
  obtain ⟨hSuccesses, hFailures, hTokens⟩ := OutcomeCounters.mk.inj hOutcomes
  obtain ⟨hAttempts, hRequests, hAudio⟩ := UsageCounters.mk.inj hCounters
  have hConsistent : ∀ route ∈ recordedRoutes calls, route.1.Consistent := by
    intro route hRoute
    obtain ⟨now, hCall⟩ := mem_recordedRoutes hRoute
    exact (hRoutes route.1 route.2 now hCall).consistent
  have hBalance := @routes_conserved id _ hConsistent
  dsimp only [usageOutcomes] at hSuccesses hFailures hTokens hAttempts hRequests hAudio
  exact {
    attempts := hAttempts
    successes := hSuccesses
    failures := hFailures
    conserved := by
      intro hBelow
      change (((controllerMachine registry wake).state calls).usageOf id).attempts = _ at hAttempts
      change (((controllerMachine registry wake).state calls).usageOf id).successes = _ at hSuccesses
      change (((controllerMachine registry wake).state calls).usageOf id).failures = _ at hFailures
      rw [hAttempts, hSuccesses, hFailures]
      omega
    requests := hRequests
    audioMillis := hAudio
    audioOnce := fun hOnce => hAudio.trans (by rw [sum_timesSent hOnce])
    reportedTokens := hTokens }

/-- A timeout after the audio may have been accepted. -/
def lostAnswer : Except ProviderAttemptFailure ProviderSuccess :=
  .error
    { error := (VoxError.new .timeout "rest.failed" "timed out").withRetryable true
      transportStarted := true
      audioAcceptance := .possiblyAccepted }

def otherProvider : ProviderId := ⟨"local", by decide⟩

/-- A route that falls back, with consent, to a provider that answers. -/
def answeredRoute : RecognitionRouteResult :=
  runRecognitionRoute ⟨[breakerProvider, otherProvider]⟩
    ⟨[breakerProvider, otherProvider], .bufferedWithConsent⟩
    ⟨"/run/user/1000/voxtype.pcm", "zh"⟩
    { isCancelled := fun _ => false
      recognize := fun position _ _ =>
        if position = 0 then lostAnswer
        else .ok ⟨⟨"hello", ⟨some 3, some 4, none⟩⟩, true, .accepted⟩ }

/-- One failed route, and one that falls back to a provider that answers. -/
theorem usage_conserved_fallback :
    UsageConserved otherProvider
      (recordedRoutes [.recordRouteResult failedRoute 1500 5,
        .recordRouteResult answeredRoute 900 7, .drainEvents])
      (((controllerMachine ⟨[breakerProvider, otherProvider]⟩ .disabled).state
        [.recordRouteResult failedRoute 1500 5, .recordRouteResult answeredRoute 900 7,
          .drainEvents]).usageOf otherProvider) := by
  refine usage_conserved _ _ _ ?_ otherProvider
  intro result audioMillis now hMem
  simp only [List.mem_cons, List.not_mem_nil, or_false, reduceCtorEq] at hMem
  rcases hMem with hMem | hMem
  · cases hMem
    exact ⟨_, _, _, _, rfl⟩
  · cases hMem
    exact ⟨_, _, _, _, rfl⟩

/-- A route that names one provider twice, with consent to send the audio again. -/
def repeatedRoute : RecognitionRouteResult :=
  runRecognitionRoute ⟨[breakerProvider]⟩
    ⟨[breakerProvider, breakerProvider], .bufferedWithConsent⟩
    ⟨"/run/user/1000/voxtype.pcm", "zh"⟩
    { isCancelled := fun _ => false, recognize := fun _ _ _ => lostAnswer }

/-- The audio of one result is counted once for each attempt that may have sent it. -/
theorem audio_counted_twice :
    repeatedRoute.FromRoute ∧
      (((controllerMachine ⟨[breakerProvider]⟩ .disabled).state
        [.recordRouteResult repeatedRoute 1000 5]).usageOf breakerProvider).audioMillis = 2000 ∧
      (((recordedRoutes [.recordRouteResult repeatedRoute 1000 5]).filter fun route =>
        route.1.timesSent breakerProvider ≠ 0).map Prod.snd).sum = 1000 := by
  refine ⟨⟨_, _, _, _, rfl⟩, ?_, ?_⟩
  · decide
  · decide

end Runs

end VoxType
