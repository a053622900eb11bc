import VoxType.App.Controller

/-!
# What the usage counters add up to

A charge is an attempt with the audio time of its session. The counters of a
provider are the tally of its charges, each cut off at the largest `u64`.
-/

namespace VoxType

set_option autoImplicit false

/-- The counters that attempts are accounted in. -/
structure UsageCounters where
  attempts : Nat
  requests : Nat
  audioMillis : Nat
  deriving DecidableEq, Repr

abbrev Charge : Type := RouteAttempt × Nat

namespace UsageCounters

def saturated (self : UsageCounters) : UsageCounters :=
  ⟨min self.attempts u64Max, min self.requests u64Max, min self.audioMillis u64Max⟩

def add (left right : UsageCounters) : UsageCounters :=
  ⟨left.attempts + right.attempts, left.requests + right.requests,
    left.audioMillis + right.audioMillis⟩

/-- What one charge adds. -/
def ofCharge (charge : Charge) : UsageCounters :=
  ⟨1, if charge.1.transportStarted then 1 else 0,
    if charge.1.audioAcceptance.mayHaveLeftProcess then charge.2 else 0⟩

end UsageCounters

/-- The sums over the charges of one provider. -/
def tally (id : ProviderId) (charges : List Charge) : UsageCounters :=
  let own := charges.filter fun charge => charge.1.providerId = id
  { attempts := own.length
    requests := own.countP fun charge => charge.1.transportStarted
    audioMillis := (own.map fun charge =>
      if charge.1.audioAcceptance.mayHaveLeftProcess then charge.2 else 0).sum }

theorem tally_snoc (id : ProviderId) (charges : List Charge) (charge : Charge) :
    tally id (charges ++ [charge]) =
      if charge.1.providerId = id then (tally id charges).add (.ofCharge charge)
      else tally id charges := by
  split
  · rename_i hOwn
    have hFilter : (charges ++ [charge]).filter (fun charge => charge.1.providerId = id) =
        charges.filter (fun charge => charge.1.providerId = id) ++ [charge] := by
      rw [List.filter_append, List.filter_cons_of_pos (by simpa using hOwn), List.filter_nil]
    rw [tally, hFilter, tally, UsageCounters.add, UsageCounters.ofCharge, List.length_append,
      List.length_singleton, List.countP_append, List.countP_singleton, List.map_append,
      List.sum_append, List.map_singleton, List.sum_singleton]
  · rename_i hOther
    have hFilter : (charges ++ [charge]).filter (fun charge => charge.1.providerId = id) =
        charges.filter (fun charge => charge.1.providerId = id) := by
      rw [List.filter_append, List.filter_cons_of_neg (by simpa using hOther), List.filter_nil,
        List.append_nil]
    rw [tally, hFilter, tally]

theorem saturatingAdd_min (a b : Nat) : saturatingAdd (min a u64Max) b = min (a + b) u64Max := by
  rw [saturatingAdd]
  omega

def ProviderUsageSnapshot.counters (self : ProviderUsageSnapshot) : UsageCounters :=
  ⟨self.attempts, self.requests, self.audioMillis⟩

namespace AppController

def counters (self : AppController) (id : ProviderId) : UsageCounters :=
  ((self.providerUsage id).getD .initial).counters

theorem countAttempt_counters {attempt : RouteAttempt} {audioMillis : Nat}
    {usage : ProviderUsageSnapshot} {sums : UsageCounters} (h : usage.counters = sums.saturated) :
    (countAttempt attempt audioMillis usage).counters =
      (sums.add (.ofCharge (attempt, audioMillis))).saturated := by
  have hError : (countAttempt attempt audioMillis usage).counters =
      ⟨saturatingAdd usage.attempts 1,
        if attempt.transportStarted then saturatingAdd usage.requests 1 else usage.requests,
        if attempt.audioAcceptance.mayHaveLeftProcess then
          saturatingAdd usage.audioMillis audioMillis else usage.audioMillis⟩ := by
    rw [countAttempt]
    cases attempt.transportStarted <;> cases attempt.audioAcceptance.mayHaveLeftProcess <;>
      cases attempt.error <;> try rfl
    all_goals
      dsimp only
      split <;> rfl
  obtain ⟨hAttempts, hRequests, hAudio⟩ := UsageCounters.mk.inj h
  rw [hError, hAttempts, hRequests, hAudio, UsageCounters.saturated, UsageCounters.add,
    UsageCounters.ofCharge]
  simp only [saturatingAdd_min]
  congr 1
  · split <;> rfl
  · split <;> rfl

theorem counters_updateUsage (self : AppController) (other : ProviderId)
    (update : ProviderUsageSnapshot → ProviderUsageSnapshot) (id : ProviderId) :
    (self.updateUsage other update).counters id =
      if other = id then (update ((self.providerUsage id).getD .initial)).counters
      else self.counters id := by
  change ((Function.update self.providerUsage other _ id).getD .initial).counters = _
  split
  · rename_i hSame
    subst hSame
    rw [Function.update_self, Option.getD_some]
  · rename_i hOther
    rw [Function.update_of_ne fun hSame => hOther hSame.symm]
    rfl

theorem counters_recordAttempt {self : AppController} {attempt : RouteAttempt}
    {audioMillis now : Nat} {id : ProviderId} {charges : List Charge}
    (h : self.counters id = (tally id charges).saturated) :
    (recordAttempt audioMillis now self attempt).counters id =
      (tally id (charges ++ [(attempt, audioMillis)])).saturated := by
  have hUsage : (recordAttempt audioMillis now self attempt).counters id =
      (self.updateUsage attempt.providerId (countAttempt attempt audioMillis)).counters id := by
    rw [recordAttempt]
    cases attempt.error with
    | none => rfl
    | some error =>
      dsimp only
      split <;> rfl
  rw [hUsage, counters_updateUsage, tally_snoc]
  split
  · exact countAttempt_counters h
  · exact h

theorem counters_recordSuccess (usage : ProviderUsageSnapshot) (reported : ProviderUsage) :
    (usage.recordSuccess reported).counters = usage.counters := by
  rw [ProviderUsageSnapshot.recordSuccess]
  split <;> rfl

/-- A recorded result adds the charges of its attempts, and nothing else. -/
theorem counters_recordRouteResult {self : AppController} {result : RecognitionRouteResult}
    {audioMillis now : Nat} {id : ProviderId} {charges : List Charge}
    (h : self.counters id = (tally id charges).saturated) :
    (self.recordRouteResult result audioMillis now).counters id =
      (tally id (charges ++ result.attempts.map fun attempt => (attempt, audioMillis))).saturated := by
  have hAttempts : ∀ (attempts : List RouteAttempt) (c : AppController) (earlier : List Charge),
      c.counters id = (tally id earlier).saturated →
      (attempts.foldl (recordAttempt audioMillis now) c).counters id =
        (tally id (earlier ++ attempts.map fun attempt => (attempt, audioMillis))).saturated := by
    intro attempts
    induction attempts with
    | nil =>
      intro c earlier hNow
      rwa [List.map_nil, List.append_nil]
    | cons attempt attempts ih =>
      intro c earlier hNow
      rw [List.foldl_cons, List.map_cons, List.append_cons]
      exact ih _ _ (counters_recordAttempt hNow)
  rw [recordRouteResult, ← hAttempts result.attempts self charges h]
  cases result.outcome with
  | error error => rfl
  | ok success =>
    dsimp only
    rw [counters_updateUsage]
    split
    · rename_i hSame
      rw [counters_recordSuccess, ← hSame]
      rfl
    · rfl

end AppController

end VoxType
