import VoxType.App.Controller

/-!
# What one call does to the controller

A rejected command changes nothing. An accepted one steps the machine and
publishes its state, and its terminal record where it has one.
-/

namespace VoxType

set_option autoImplicit false

/-- The record an accepted command announces. -/
def Command.record (c : Command) : Option TerminalSessionResult :=
  c.terminal.map fun (session, outcome, errorCode) => ⟨session.value, outcome, errorCode, "", 0⟩

namespace AppController

@[simp] theorem publish_machine (self : AppController) (c : Command) :
    (self.publish c).machine = self.machine := by
  rw [publish]
  cases c.terminal <;> rfl

theorem publish_events (self : AppController) (c : Command) :
    (self.publish c).events = self.events ++
      .stateChanged self.machine.state.name (sessionText self.machine.state) ::
        c.record.toList.map TerminalSessionResult.event := by
  rw [publish, Command.record]
  cases c.terminal with
  | none => rfl
  | some terminal => exact List.append_assoc _ _ _

theorem publish_sessionResults (self : AppController) (c : Command) :
    (self.publish c).sessionResults =
      match c.record with
      | none => self.sessionResults
      | some result => makeRoom self.sessionResults result.session ++ [result] := by
  rw [publish, Command.record]
  cases c.terminal <;> rfl

theorem apply_cases (self : AppController) (c : Command) :
    (∃ error, self.apply c = (.error error, self)) ∨
      ∃ e m', self.events.length ≤ maxPendingEvents - 2 ∧ self.machine.Accepts c e m' ∧
        self.apply c = (.ok e, { self with machine := m' }.publish c) := by
  rw [apply]
  split
  · exact .inl ⟨_, rfl⟩
  · rename_i hRoom
    rcases self.machine.apply_cases c with ⟨e, m', hAccepts, hApply⟩ | ⟨error, hApply⟩
    · exact .inr ⟨e, m', Nat.le_of_not_lt hRoom, hAccepts, by rw [hApply]⟩
    · exact .inl ⟨error, by rw [hApply]⟩

theorem apply_accepts {self : AppController} {c : Command} {e : CommandEffect}
    {m' : SessionMachine} (hRoom : self.events.length ≤ maxPendingEvents - 2)
    (hAccepts : self.machine.Accepts c e m') :
    self.apply c = (.ok e, { self with machine := m' }.publish c) := by
  rw [apply, if_neg (Nat.not_lt.mpr hRoom), hAccepts.apply_eq]

/-- Commands leave the routing data alone. -/
theorem apply_planRoute (self : AppController) (c : Command) (policy : RoutingPolicy) (now : Nat) :
    (self.apply c).2.planRoute policy now = self.planRoute policy now := by
  have hPublish : ∀ controller : AppController,
      (controller.publish c).registry = controller.registry ∧
        (controller.publish c).providerHealth = controller.providerHealth := by
    intro controller
    rw [publish]
    cases c.terminal <;> exact ⟨rfl, rfl⟩
  rcases self.apply_cases c with ⟨error, hApply⟩ | ⟨e, m', _, _, hApply⟩
  · rw [hApply]
  · obtain ⟨hRegistry, hHealth⟩ := hPublish { self with machine := m' }
    rw [hApply, planRoute, planRoute, hRegistry, hHealth]

theorem finishSession_room {self : AppController} (hRoom : self.events.length ≠ maxPendingEvents)
    (session : SessionId) (outcome errorCode backend : String) (charCount : Nat) :
    self.finishSession session outcome errorCode backend charCount =
      (.ok (), (self.queueSessionFinished
        ⟨session.value, outcome, errorCode, backend, charCount⟩).notify) := by
  rw [finishSession, if_neg hRoom]

theorem finishSession_machine (self : AppController) (session : SessionId)
    (outcome errorCode backend : String) (charCount : Nat) :
    (self.finishSession session outcome errorCode backend charCount).2.machine = self.machine := by
  rw [finishSession]
  split <;> rfl

theorem sessionResult_finished (self : AppController) (result : TerminalSessionResult) :
    (self.queueSessionFinished result).sessionResult result.session = some result := by
  rw [queueSessionFinished, sessionResult]
  change (makeRoom _ _ ++ [result]).reverse.find? _ = _
  rw [List.reverse_append, List.reverse_singleton, List.singleton_append,
    List.find?_cons_of_pos]
  exact beq_self_eq_true _

/-- What is known of the providers is the same. -/
structure SameProviders (c c' : AppController) : Prop where
  registry : c'.registry = c.registry
  providerHealth : c'.providerHealth = c.providerHealth
  providerUsage : c'.providerUsage = c.providerUsage

/-- The lifecycle leaves the providers alone. -/
theorem apply_providers (self : AppController) (c : Command) :
    self.SameProviders (self.apply c).2 := by
  rcases self.apply_cases c with ⟨error, hApply⟩ | ⟨e, m', _, _, hApply⟩
  · rw [hApply]
    exact ⟨rfl, rfl, rfl⟩
  · rw [hApply, publish]
    cases c.terminal <;> exact ⟨rfl, rfl, rfl⟩

theorem finishSession_providers (self : AppController) (session : SessionId)
    (outcome errorCode backend : String) (charCount : Nat) :
    self.SameProviders (self.finishSession session outcome errorCode backend charCount).2 := by
  rw [finishSession]
  split <;> exact ⟨rfl, rfl, rfl⟩

/-- Health and usage of providers are all that may differ. -/
structure SameButAccounts (c c' : AppController) : Prop where
  machine : c'.machine = c.machine
  events : c'.events = c.events
  sessionResults : c'.sessionResults = c.sessionResults
  registry : c'.registry = c.registry
  wake : c'.wake = c.wake

theorem SameButAccounts.refl (c : AppController) : c.SameButAccounts c :=
  ⟨rfl, rfl, rfl, rfl, rfl⟩

theorem SameButAccounts.trans {c c' c'' : AppController} (h : c.SameButAccounts c')
    (h' : c'.SameButAccounts c'') : c.SameButAccounts c'' where
  machine := h'.machine.trans h.machine
  events := h'.events.trans h.events
  sessionResults := h'.sessionResults.trans h.sessionResults
  registry := h'.registry.trans h.registry
  wake := h'.wake.trans h.wake

theorem recordAttempt_accounts (audioMillis now : Nat) (self : AppController)
    (attempt : RouteAttempt) : self.SameButAccounts (recordAttempt audioMillis now self attempt) := by
  rw [recordAttempt]
  cases attempt.error with
  | none => exact ⟨rfl, rfl, rfl, rfl, rfl⟩
  | some error =>
    dsimp only
    split <;> exact ⟨rfl, rfl, rfl, rfl, rfl⟩

theorem recordRouteResult_accounts (self : AppController) (result : RecognitionRouteResult)
    (audioMillis now : Nat) :
    self.SameButAccounts (self.recordRouteResult result audioMillis now) := by
  have hAttempts : ∀ (attempts : List RouteAttempt) (c : AppController),
      c.SameButAccounts (attempts.foldl (recordAttempt audioMillis now) c) := by
    intro attempts
    induction attempts with
    | nil => exact .refl
    | cons attempt attempts ih =>
      exact fun c => (recordAttempt_accounts audioMillis now c attempt).trans (ih _)
  rw [recordRouteResult]
  cases result.outcome with
  | error error => exact hAttempts _ _
  | ok success => exact (hAttempts _ _).trans ⟨rfl, rfl, rfl, rfl, rfl⟩

/-- Accounting leaves the lifecycle alone. -/
theorem recordRouteResult_lifecycle (self : AppController) (result : RecognitionRouteResult)
    (audioMillis now : Nat) :
    (self.recordRouteResult result audioMillis now).machine = self.machine ∧
      (self.recordRouteResult result audioMillis now).events = self.events ∧
      (self.recordRouteResult result audioMillis now).sessionResults = self.sessionResults := by
  have hAccounts := self.recordRouteResult_accounts result audioMillis now
  exact ⟨hAccounts.machine, hAccounts.events, hAccounts.sessionResults⟩

end AppController

end VoxType
