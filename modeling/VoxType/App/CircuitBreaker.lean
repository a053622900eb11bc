import VoxType.App.ControllerCalls
import VoxType.App.RouteSafety
import VoxType.Library.Breaker

/-!
# Which providers a route is planned over

The health of a provider is what a circuit breaker remembers of the attempts
recorded for it. Three retryable failures in a row block it for a minute.
-/

namespace VoxType

set_option autoImplicit false

open Breaker

def providerRule : Rule := { threshold := 3, cooldown := 60 * 10 ^ 9, positive := by decide }

/-- What an attempt at a time counts for in the history of a provider. -/
def RouteAttempt.record (id : ProviderId) (now : Nat) (attempt : RouteAttempt) : Record :=
  if attempt.providerId = id then
    match attempt.error with
    | none => .cleared
    | some error =>
      if error.retryable = true ∧ error.category ≠ .cancelled then .failure now else .neither
  else .neither

/-- The attempts that a call records for a provider; a new registry forgets them all. -/
def ControllerCall.records (id : ProviderId) : ControllerCall → List Record
  | .recordRouteResult result _ now => result.attempts.map (RouteAttempt.record id now)
  | .replaceRegistry _ => [.cleared]
  | _ => []

def healthHistory (id : ProviderId) (calls : List ControllerCall) : List Record :=
  calls.flatMap (ControllerCall.records id)

/-- The registry set last. -/
def currentRegistry (registry : ProviderRegistry) (calls : List ControllerCall) :
    ProviderRegistry :=
  calls.foldl (fun current call =>
    match call with
    | .replaceRegistry next => next
    | _ => current) registry

/-- A result that a route has had. -/
def RecognitionRouteResult.FromRoute (result : RecognitionRouteResult) : Prop :=
  ∃ registry route input env, result = runRecognitionRoute registry route input env

/-- All attempts failed, or all but the last one, which is the outcome's. -/
def RecognitionRouteResult.Consistent (result : RecognitionRouteResult) : Prop :=
  match result.outcome with
  | .ok success => ∃ failed attempt, result.attempts = failed ++ [attempt] ∧
      (∀ other ∈ failed, other.error ≠ none) ∧ attempt.error = none ∧
      attempt.providerId = success.providerId
  | .error _ => ∀ attempt ∈ result.attempts, attempt.error ≠ none

theorem RouteShape.consistent {replay : ReplayPolicy} {input : RecognitionInput}
    {env : RouteEnvironment} {n : Nat} {providers : List ProviderId} {run : RouteRun}
    (h : RouteShape replay input env n providers run) : run.result.Consistent := by
  induction h with
  | exhausted | cancelled =>
    simp [RecognitionRouteResult.Consistent, RouteRun.finish, RouteRun.prepend]
  | unregistered n rest attempt error hError | stopped n rest attempt error hError =>
    simp [RecognitionRouteResult.Consistent, RouteRun.finish, RouteRun.prepend, hError]
  | answered n rest attempt transcript hError =>
    exact ⟨[], attempt, rfl, List.forall_mem_nil _, hError, rfl⟩
  | fellBack n rest attempt error tail hError _ _ _ _ _ _ ih =>
    have hFirst : attempt.error ≠ none := by
      rw [hError]
      simp
    rw [RecognitionRouteResult.Consistent] at ih ⊢
    change match tail.result.outcome with
      | .ok success => _
      | .error _ => _
    cases hOutcome : tail.result.outcome with
    | ok success =>
      rw [hOutcome] at ih
      obtain ⟨failed, last, hAttempts, hFailed, hLast⟩ := ih
      refine ⟨attempt :: failed, last, ?_, List.forall_mem_cons.mpr ⟨hFirst, hFailed⟩, hLast⟩
      exact congrArg (attempt :: ·) hAttempts
    | error _ =>
      rw [hOutcome] at ih
      exact List.forall_mem_cons.mpr ⟨hFirst, ih⟩

theorem RecognitionRouteResult.FromRoute.consistent {result : RecognitionRouteResult}
    (h : result.FromRoute) : result.Consistent := by
  obtain ⟨registry, route, input, env, rfl⟩ := h
  exact (routeLoop_shape registry route.replay input env route.providers 0 none).consistent

/-- What is stored of a provider is what its breaker has to remember. -/
structure ProviderHealthState.Remembers (state : ProviderHealthState) (history : List Record) :
    Prop where
  failures : state.consecutiveFailures = min (streak history).length u32Max
  deadline : state.blockedUntil = providerRule.deadline history

namespace ProviderHealthState

theorem Remembers.initial : initial.Remembers [] := ⟨rfl, rfl⟩

theorem Remembers.forgotten {history : List Record} :
    ProviderHealthState.initial.Remembers (history ++ [.cleared]) where
  failures := by rw [streak_cleared]; rfl
  deadline := (providerRule.deadline_cleared history).symm

theorem Remembers.success {state : ProviderHealthState} {history : List Record} (now : Nat) :
    (state.recordSuccessAt now).Remembers (history ++ [.cleared]) where
  failures := by rw [streak_cleared]; rfl
  deadline := (providerRule.deadline_cleared history).symm

theorem Remembers.failure {state : ProviderHealthState} {history : List Record}
    (h : state.Remembers history) (now : Nat) {error : VoxError}
    (hRetryable : error.retryable = true) :
    (state.recordFailureAt now error).Remembers (history ++ [.failure now]) := by
  rw [recordFailureAt, if_pos hRetryable]
  constructor
  · simp only [h.failures, streak_failure, List.length_cons]
    omega
  · have hThree : 3 ≤ min (state.consecutiveFailures + 1) u32Max ↔
        providerRule.threshold ≤ (streak history).length + 1 := by
      have hMax : u32Max = 2 ^ 32 - 1 := rfl
      have hThreshold : providerRule.threshold = 3 := rfl
      rw [h.failures]
      omega
    rw [Rule.deadline_failure]
    exact if_congr hThree rfl h.deadline

theorem Remembers.neither {state : ProviderHealthState} {history : List Record}
    (h : state.Remembers history) : state.Remembers (history ++ [.neither]) where
  failures := by rw [streak_neither, h.failures]
  deadline := by rw [Rule.deadline_neither, h.deadline]

theorem Remembers.permanent {state : ProviderHealthState} {history : List Record}
    (h : state.Remembers history) (now : Nat) {error : VoxError}
    (hPermanent : error.retryable ≠ true) :
    (state.recordFailureAt now error).Remembers (history ++ [.neither]) := by
  rw [recordFailureAt, if_neg hPermanent]
  exact ⟨h.neither.failures, h.neither.deadline⟩

theorem Remembers.isAvailableAt {state : ProviderHealthState} {history : List Record}
    (h : state.Remembers history) (now : Nat) :
    state.isAvailableAt now = true ↔ providerRule.Passes history now := by
  rw [ProviderHealthState.isAvailableAt, h.deadline, Rule.passes_iff]
  cases providerRule.deadline history <;> simp

end ProviderHealthState

namespace AppController

def healthOf (self : AppController) (id : ProviderId) : ProviderHealthState :=
  (self.providerHealth id).getD .initial

theorem healthOf_updateHealth (self : AppController) (id other : ProviderId)
    (update : ProviderHealthState → ProviderHealthState) :
    (self.updateHealth id update).healthOf other =
      if id = other then update (self.healthOf other) else self.healthOf other := by
  rw [healthOf, updateHealth]
  dsimp only
  split
  case isTrue hSame =>
    subst hSame
    rw [Function.update_self]
    rfl
  case isFalse hOther =>
    rw [Function.update_of_ne (Ne.symm hOther)]
    rfl

theorem healthOf_updateUsage (self : AppController) (id other : ProviderId)
    (update : ProviderUsageSnapshot → ProviderUsageSnapshot) :
    (self.updateUsage id update).healthOf other = self.healthOf other := rfl

theorem recordAttempt_remembers {self : AppController} {id : ProviderId} {history : List Record}
    (h : (self.healthOf id).Remembers history) {attempt : RouteAttempt}
    (hError : attempt.error ≠ none) (audioMillis now : Nat) :
    ((recordAttempt audioMillis now self attempt).healthOf id).Remembers
      (history ++ [attempt.record id now]) := by
  obtain ⟨error, hSome⟩ := Option.ne_none_iff_exists'.mp hError
  rw [recordAttempt, RouteAttempt.record, hSome]
  dsimp only
  split
  case isTrue hCancelled =>
    have hRecord : (if attempt.providerId = id then
        if error.retryable = true ∧ error.category ≠ .cancelled then Record.failure now
        else .neither
      else .neither) = .neither := by
      split
      · exact if_neg fun hCounted => hCounted.2 hCancelled
      · rfl
    rw [hRecord]
    exact h.neither
  case isFalse hReal =>
    rw [healthOf_updateHealth, healthOf_updateUsage]
    split
    case isFalse => exact h.neither
    case isTrue =>
      by_cases hRetryable : error.retryable = true
      · rw [if_pos ⟨hRetryable, hReal⟩]
        exact h.failure now hRetryable
      · rw [if_neg fun hCounted => hRetryable hCounted.1]
        exact h.permanent now hRetryable

theorem recordAttempts_remembers {id : ProviderId} {attempts : List RouteAttempt}
    (hErrors : ∀ attempt ∈ attempts, attempt.error ≠ none) (audioMillis now : Nat)
    {self : AppController} {history : List Record} (h : (self.healthOf id).Remembers history) :
    ((attempts.foldl (recordAttempt audioMillis now) self).healthOf id).Remembers
      (history ++ attempts.map (RouteAttempt.record id now)) := by
  induction attempts generalizing self history with
  | nil =>
    rw [List.map_nil, List.append_nil]
    exact h
  | cons attempt attempts ih =>
    rw [List.forall_mem_cons] at hErrors
    have hFirst := recordAttempt_remembers h hErrors.1 audioMillis now
    have hRest := ih hErrors.2 hFirst
    rwa [List.append_assoc, List.singleton_append] at hRest

theorem recordRouteResult_remembers {self : AppController} {id : ProviderId}
    {history : List Record} (h : (self.healthOf id).Remembers history)
    {result : RecognitionRouteResult} (hConsistent : result.Consistent) (audioMillis now : Nat) :
    ((self.recordRouteResult result audioMillis now).healthOf id).Remembers
      (history ++ result.attempts.map (RouteAttempt.record id now)) := by
  rw [RecognitionRouteResult.Consistent] at hConsistent
  rw [recordRouteResult]
  cases hOutcome : result.outcome with
  | error _ =>
    rw [hOutcome] at hConsistent
    exact recordAttempts_remembers hConsistent audioMillis now h
  | ok success =>
    rw [hOutcome] at hConsistent
    obtain ⟨failed, attempt, hAttempts, hFailed, hNone, hProvider⟩ := hConsistent
    have hEarlier := recordAttempts_remembers hFailed audioMillis now h
    have hLast : attempt.record id now = if attempt.providerId = id then .cleared else .neither := by
      rw [RouteAttempt.record, hNone]
    have hSilent : ∀ controller : AppController,
        recordAttempt audioMillis now controller attempt =
          controller.updateUsage attempt.providerId (countAttempt attempt audioMillis) := by
      intro controller
      rw [recordAttempt, hNone]
    rw [hAttempts, List.foldl_append, List.foldl_cons, List.foldl_nil, hSilent, List.map_append,
      List.map_singleton, hLast, ← List.append_assoc]
    dsimp only
    rw [healthOf_updateUsage, healthOf_updateHealth, healthOf_updateUsage, ← hProvider]
    split
    case isTrue => exact .success now
    case isFalse => exact hEarlier.neither

theorem call_remembers {self : AppController} {id : ProviderId} {history : List Record}
    (h : (self.healthOf id).Remembers history) {call : ControllerCall}
    (hResult : ∀ result audioMillis now, call = .recordRouteResult result audioMillis now →
      result.Consistent) :
    ((self.call call).2.healthOf id).Remembers (history ++ call.records id) := by
  cases call with
  | apply command =>
    change ((self.apply command).2.healthOf id).Remembers (history ++ [])
    rw [List.append_nil, healthOf, (self.apply_providers command).providerHealth]
    exact h
  | finishSession session outcome errorCode backend charCount =>
    change ((self.finishSession session outcome errorCode backend charCount).2.healthOf
      id).Remembers (history ++ [])
    rw [List.append_nil, healthOf, (self.finishSession_providers session outcome errorCode backend
      charCount).providerHealth]
    exact h
  | drainEvents =>
    change (self.healthOf id).Remembers (history ++ [])
    rw [List.append_nil]
    exact h
  | replaceRegistry registry => exact .forgotten
  | recordRouteResult result audioMillis now =>
    exact recordRouteResult_remembers h (hResult result audioMillis now rfl) audioMillis now

/-- What `plan_route` looks at of a provider. -/
theorem planRoute_eq (self : AppController) (policy : RoutingPolicy) (now : Nat) :
    self.planRoute policy now =
      let providers := (policy.primary :: policy.fallbacks).filter fun id =>
        self.registry.contains id && (self.healthOf id).isAvailableAt now
      if providers.isEmpty then
        .error ((VoxError.new .unavailable "routing.no_provider"
          "no configured provider is currently available").withRetryable true)
      else .ok { providers, replay := policy.replay } := by
  unfold planRoute OrderedRouter.plan
  dsimp only
  rw [List.filter_congr (q := fun id =>
    self.registry.contains id && (self.healthOf id).isAvailableAt now)]
  intro id hMem
  rw [if_pos hMem, healthOf]
  cases self.providerHealth id <;> rfl

end AppController

section Runs

variable {registry : ProviderRegistry} {wake : WakeHandle} {calls : List ControllerCall}

theorem state_remembers (hRoutes : ∀ result audioMillis now,
      ControllerCall.recordRouteResult result audioMillis now ∈ calls → result.FromRoute)
    (id : ProviderId) :
    (((controllerMachine registry wake).state calls).healthOf id).Remembers
      (healthHistory id calls) := by
  induction calls using List.reverseRecOn with
  | nil => exact .initial
  | append_singleton calls call ih =>
    have hEarlier := ih fun result audioMillis now hMem =>
      hRoutes result audioMillis now (List.mem_append_left _ hMem)
    rw [Transition.Machine.state_snoc, healthHistory, List.flatMap_append, List.flatMap_singleton]
    refine AppController.call_remembers hEarlier ?_
    rintro result audioMillis now rfl
    exact (hRoutes result audioMillis now List.mem_concat_self).consistent

theorem state_registry :
    ((controllerMachine registry wake).state calls).registry = currentRegistry registry calls := by
  induction calls using List.reverseRecOn with
  | nil => rfl
  | append_singleton calls call ih =>
    have hLast : currentRegistry registry (calls ++ [call]) =
        currentRegistry (currentRegistry registry calls) [call] := List.foldl_append
    rw [Transition.Machine.state_snoc, hLast, ← ih]
    cases call with
    | apply command => exact (AppController.apply_providers _ command).registry
    | finishSession session outcome errorCode backend charCount =>
      exact (AppController.finishSession_providers _ session outcome errorCode backend
        charCount).registry
    | drainEvents => rfl
    | replaceRegistry next => rfl
    | recordRouteResult result audioMillis now =>
      exact (AppController.recordRouteResult_accounts _ result audioMillis now).registry

end Runs

/-- The provider is registered, and its breaker lets a request pass. -/
def Eligible (registry : ProviderRegistry) (calls : List ControllerCall) (now : Nat)
    (id : ProviderId) : Prop :=
  (currentRegistry registry calls).contains id = true ∧
    providerRule.Passes (healthHistory id calls) now

instance (registry : ProviderRegistry) (calls : List ControllerCall) (now : Nat) :
    DecidablePred (Eligible registry calls now) :=
  fun _ => inferInstanceAs (Decidable (_ ∧ _))

/-- A route is planned over the eligible providers of its policy, whenever it is asked for. -/
theorem plan_route_eligible (registry : ProviderRegistry) (wake : WakeHandle)
    (calls : List ControllerCall)
    (hRoutes : ∀ result audioMillis now,
      ControllerCall.recordRouteResult result audioMillis now ∈ calls → result.FromRoute)
    (policy : RoutingPolicy) (now : Nat) :
    (∀ plan, ((controllerMachine registry wake).state calls).planRoute policy now = .ok plan →
      plan.replay = policy.replay ∧
      plan.providers = (policy.primary :: policy.fallbacks).filter
        (Eligible registry calls now ·) ∧
      ∀ id ∈ policy.primary :: policy.fallbacks,
        (id ∈ plan.providers ↔ Eligible registry calls now id)) ∧
    ((∃ error, ((controllerMachine registry wake).state calls).planRoute policy now =
        .error error) ↔
      ∀ id ∈ policy.primary :: policy.fallbacks, ¬ Eligible registry calls now id) := by
  have hEligible : ∀ id ∈ policy.primary :: policy.fallbacks,
      (((controllerMachine registry wake).state calls).registry.contains id &&
        (((controllerMachine registry wake).state calls).healthOf id).isAvailableAt now) =
      decide (Eligible registry calls now id) := by
    intro id _
    rw [state_registry, Bool.eq_iff_iff, Bool.and_eq_true, decide_eq_true_iff,
      (state_remembers hRoutes id).isAvailableAt now, Eligible]
  rw [AppController.planRoute_eq]
  dsimp only
  rw [List.filter_congr hEligible]
  split
  case isTrue hNone =>
    refine ⟨nofun, fun _ id hMem hId => ?_, fun _ => ⟨_, rfl⟩⟩
    rw [List.isEmpty_iff, List.filter_eq_nil_iff] at hNone
    exact hNone id hMem (decide_eq_true hId)
  case isFalse hSome =>
    constructor
    · rintro plan ⟨⟩
      refine ⟨rfl, rfl, fun id hMem => ?_⟩
      rw [List.mem_filter, and_iff_right hMem, decide_eq_true_iff]
    · refine ⟨nofun, fun hNone => absurd ?_ hSome⟩
      rw [List.isEmpty_iff, List.filter_eq_nil_iff]
      exact fun id hMem hId => hNone id hMem (of_decide_eq_true hId)

theorem breakerProvider_valid : validProviderId "cloud" = true := by decide

def breakerProvider : ProviderId := ⟨"cloud", breakerProvider_valid⟩

def breakerPolicy : RoutingPolicy := { primary := breakerProvider, fallbacks := [], replay := .never }

/-- A route whose only provider fails in a way that may be tried again. -/
def failedRoute : RecognitionRouteResult :=
  runRecognitionRoute ⟨[breakerProvider]⟩ ⟨[breakerProvider], .never⟩
    ⟨"/run/user/1000/voxtype.pcm", "zh"⟩
    { isCancelled := fun _ => false
      recognize := fun _ _ _ => .error
        { error := (VoxError.new .timeout "rest.failed" "timed out").withRetryable true
          transportStarted := true
          audioAcceptance := .possiblyAccepted } }

/-- After three failures the provider is passed over for a minute. -/
theorem plan_route_eligible_third :
    ∃ error, ((controllerMachine ⟨[breakerProvider]⟩ .disabled).state
      (List.replicate 3 (.recordRouteResult failedRoute 0 5))).planRoute breakerPolicy 7 =
        .error error := by
  refine (plan_route_eligible _ _ _ ?_ breakerPolicy 7).2.mpr ?_
  · intro result audioMillis now hMem
    cases List.eq_of_mem_replicate hMem
    exact ⟨_, _, _, _, rfl⟩
  · decide

end VoxType
