import VoxType.Fcitx.Turns

/-!
# The context a text is committed to

A commit is checked in one turn of the event loop and dispatched in a later
one. In runs where no `ARM` in between moves the armed reference, the text goes
to the context the commit was checked against.
-/

namespace VoxType.Fcitx

set_option autoImplicit false

def schedules (effects : List BridgeEffect) : List (Checked × Option Bytes × Bytes) :=
  effects.filterMap fun
    | .scheduled checked requestId text => some (checked, requestId, text)
    | _ => none

/-- The last commit of the trace is this one, and it was checked against the last `ARM`
before it. -/
def Aimed (effects : List BridgeEffect) (checked : Checked) (requestId : Option Bytes)
    (text : Bytes) : Prop :=
  ∃ before after, effects = before ++ .scheduled checked requestId text :: after ∧
    (arms before).getLast? = some (checked.session, checked.context) ∧ schedules after = []

/-- Every text the step commits goes to the context armed for its session, and this context is
the last focused one, has focus and is not secure. -/
def DispatchedSafely (log : List BridgeEntry) (self : Addon) (i : BridgeInput) : Prop :=
  ∀ checked requestId context text,
    .committed checked requestId context text ∈ (self.step i).1 →
      context = checked.context ∧ Aimed (bridgeEffects log) checked requestId text ∧
        self.instance_.target = some context

/-- An `ARM` succeeds on another context than the armed one while a commit waits. -/
def Retargets (self : Addon) (i : BridgeInput) : Prop :=
  i.Arm ∧ self.bridge.pendingCommit.isSome ∧ self.instance_.target.isSome ∧
    self.instance_.target ≠ self.bridge.armedContext

instance (i : BridgeInput) : Decidable i.Arm := by
  cases i <;> unfold BridgeInput.Arm <;> infer_instance

instance (self : Addon) (i : BridgeInput) : Decidable (Retargets self i) :=
  inferInstanceAs (Decidable (_ ∧ _))

/-- The request and the text the deferred callback will read. -/
def VoxTypeBridge.content (self : VoxTypeBridge) : PendingCommit → Option Bytes × Bytes
  | .legacy _ pendingText _ => (none, pendingText)
  | .commit2 _ => (some self.pendingRequestId, self.pendingText)

/-- The armed reference is the one the waiting commit was checked against. -/
structure Targeted (effects : List BridgeEffect) (b : VoxTypeBridge) : Prop where
  armed : ∀ context, b.armedContext = some context →
    (arms effects).getLast? = some (b.armedSession, context)
  pending : ∀ p, b.pendingCommit = some p → b.armedContext = some p.checked.context ∧
    Aimed effects p.checked (b.content p).1 (b.content p).2

theorem Aimed.append {effects more : List BridgeEffect} {checked : Checked}
    {requestId : Option Bytes} {text : Bytes} (h : Aimed effects checked requestId text)
    (hMore : schedules more = []) : Aimed (effects ++ more) checked requestId text := by
  obtain ⟨before, after, hEffects, hLast, hAfter⟩ := h
  refine ⟨before, after ++ more, ?_, hLast, ?_⟩
  · rw [hEffects, List.append_assoc, List.cons_append]
  · rw [schedules, List.filterMap_append]
    exact List.append_eq_nil_iff.mpr ⟨hAfter, hMore⟩

namespace Targeted

variable {effects : List BridgeEffect} {b : VoxTypeBridge}

theorem initial : Targeted [] .initial :=
  ⟨fun _ h => (by cases h), fun _ h => (by cases h)⟩

/-- A bridge with nothing armed and nothing waiting. -/
theorem idle (hArmed : b.armedContext = none) (hPending : b.pendingCommit = none) :
    Targeted effects b := by
  constructor
  · intro context h
    rw [hArmed] at h
    cases h
  · intro p h
    rw [hPending] at h
    cases h

theorem append (h : Targeted effects b) {more : List BridgeEffect} (hArms : arms more = [])
    (hSchedules : schedules more = []) : Targeted (effects ++ more) b := by
  constructor
  · intro context hContext
    rw [arms_append, hArms, List.append_nil]
    exact h.armed context hContext
  · intro p hPending
    obtain ⟨hContext, hAimed⟩ := h.pending p hPending
    exact ⟨hContext, hAimed.append hSchedules⟩

theorem same (h : Targeted effects b) {b' : VoxTypeBridge} (hSame : b.SameWork b') :
    Targeted effects b' := by
  have hContent : b'.content = b.content := by
    funext p
    cases p with
    | legacy => rfl
    | commit2 =>
      rw [VoxTypeBridge.content, hSame.pendingRequestId, hSame.pendingText]
      rfl
  constructor
  · intro context hContext
    rw [hSame.armedSession]
    exact h.armed context (hSame.armedContext ▸ hContext)
  · intro p hPending
    rw [hSame.armedContext, hContent]
    exact h.pending p (hSame.pendingCommit ▸ hPending)

theorem arm (h : Targeted effects b) {session value : Bytes} {sender : Sender} {context : Nat}
    (hKept : b.pendingCommit.isSome → b.armedContext = some context) :
    Targeted (effects ++ [.armed session context, .sent value sender])
      (b.armed session context) := by
  constructor
  · intro context' hContext
    cases hContext
    rw [arms_append]
    exact List.getLast?_concat
  · intro p hPending
    obtain ⟨hArmed, hAimed⟩ := h.pending p hPending
    have hSome : b.pendingCommit.isSome := Option.isSome_of_mem hPending
    rw [hKept hSome] at hArmed
    refine ⟨hArmed, ?_⟩
    have hContent : (b.armed session context).content p = b.content p := by cases p <;> rfl
    rw [hContent]
    exact hAimed.append rfl

/-- A commit that is scheduled was checked against the reference armed now. -/
theorem schedule (h : Targeted effects b) {context : Nat} {requestId : Option Bytes} {text : Bytes}
    {b' : VoxTypeBridge} {p : PendingCommit} (hContext : b.armedContext = some context)
    (hArmed : b'.armedContext = b.armedContext) (hSession : b'.armedSession = b.armedSession)
    (hPending : b'.pendingCommit = some p) (hChecked : p.checked = ⟨b.armedSession, context⟩)
    (hContent : b'.content p = (requestId, text)) :
    Targeted (effects ++ [.scheduled ⟨b.armedSession, context⟩ requestId text]) b' := by
  constructor
  · intro context' hContext'
    rw [arms_append, hSession]
    exact (congrArg List.getLast? (List.append_nil _)).trans
      (h.armed context' (hArmed ▸ hContext'))
  · intro p' hPending'
    rw [hPending] at hPending'
    cases hPending'
    rw [hArmed, hChecked, hContent]
    exact ⟨hContext, effects, [], rfl, h.armed context hContext, rfl⟩

theorem step {self : Addon} (h : Targeted effects self.bridge) {i : BridgeInput}
    (hStep : ¬ Retargets self i) :
    Targeted (effects ++ (self.step i).1) (self.step i).2.bridge := by
  have hOutcome := self.step_outcome i
  generalize self.step i = turn at hOutcome
  cases hOutcome with
  | kept hSame =>
    rw [List.append_nil]
    exact h.same hSame
  | answered | repeated => exact h.append rfl rfl
  | cleared | dispatched | dispatched2 => exact .idle rfl rfl
  | @armed session value sender context hReceived hTarget hPlain =>
    refine h.arm ?_
    intro hPending
    by_contra hOther
    exact hStep ⟨hReceived, hPending, by rw [hTarget]; rfl, by rw [hTarget]; exact Ne.symm hOther⟩
  | scheduled _ hArmed => exact h.schedule hArmed rfl rfl rfl rfl rfl
  | scheduled2 _ _ _ hArmed => exact h.schedule hArmed rfl rfl rfl rfl rfl

theorem dispatched {self : Addon} {log : List BridgeEntry}
    (h : Targeted (bridgeEffects log) self.bridge) (i : BridgeInput) :
    DispatchedSafely log self i := by
  intro checked requestId context text hMem
  have hOutcome := self.step_outcome i
  generalize self.step i = turn at hOutcome hMem
  -- Both callbacks commit to the armed reference, which the waiting commit was checked against.
  have hFound : ∀ {p : PendingCommit}, self.bridge.pendingCommit = some p →
      self.dispatch = .committed context →
      context = p.checked.context ∧
        Aimed (bridgeEffects log) p.checked (self.bridge.content p).1 (self.bridge.content p).2 ∧
        self.instance_.target = some context := by
    intro p hPending hDispatch
    obtain ⟨hArmed, hTarget⟩ := Addon.dispatch_committed hDispatch
    obtain ⟨hChecked, hAimed⟩ := h.pending p hPending
    rw [hArmed] at hChecked
    exact ⟨Option.some.inj hChecked, hAimed, hTarget⟩
  cases hOutcome with
  | kept | answered | repeated | cleared | armed | scheduled | scheduled2 => simp [Addon.sends] at hMem
  | dispatched hPending =>
    have hMem := (List.mem_append.mp hMem).resolve_right (by simp)
    obtain ⟨hDispatch, rfl, rfl, rfl⟩ := Addon.Dispatch.mem_effects hMem
    exact hFound hPending hDispatch
  | dispatched2 hPending =>
    have hMem := (List.mem_append.mp hMem).resolve_right (by simp)
    obtain ⟨hDispatch, rfl, rfl, rfl⟩ := Addon.Dispatch.mem_effects hMem
    exact hFound hPending hDispatch

end Targeted

theorem targeted_run {inputs : List BridgeInput}
    (hRun : bridgeMachine.Along (fun _ self i => ¬ Retargets self i) inputs) :
    Targeted (bridgeEffects (bridgeMachine.log inputs)) (bridgeMachine.state inputs).bridge := by
  refine bridgeMachine.invariant_along
    (P := fun log self => Targeted (bridgeEffects log) self.bridge) .initial ?_ inputs hRun
  intro log self i h hStep
  rw [bridgeEffects_snoc]
  exact h.step hStep

theorem dispatched_safely (inputs : List BridgeInput)
    (hRun : bridgeMachine.Along (fun _ self i => ¬ Retargets self i) inputs) :
    bridgeMachine.Along DispatchedSafely inputs := by
  intro before i after hInputs
  exact (targeted_run (hInputs ▸ hRun).earlier).dispatched i

section Runs

def editor : InputContext where
  program := ascii "editor"
  frontendName := ascii "wayland"
  hasFocus := false
  capabilityFlags := ⟨false, false, false, false, false, false⟩
  surroundingText := ⟨false, [], 0, 0⟩

def client : Sender := ⟨ascii "voxtype", 8⟩

def datagram (fields : List String) : BridgeInput :=
  .datagram (List.intercalate [0] (fields.map ascii)) client

/-- A commit waits for the event loop; in between, the second context has come into focus. -/
def refocused : List BridgeInput :=
  [.context (.created editor), .context (.created editor), .context (.focusIn 0),
    datagram ["ARM", "first"], datagram ["COMMIT2", "request", "first", "text"],
    .context (.focusOut 0), .context (.focusIn 1)]

/-- The second session arms the second context, and the first one's text goes there. -/
def redirected : List BridgeInput := refocused ++ [datagram ["ARM", "second"], .deferred]

theorem dispatched_elsewhere : ¬ ∀ inputs, bridgeMachine.Along DispatchedSafely inputs := by
  intro h
  have hLast := h redirected (refocused ++ [datagram ["ARM", "second"]]) .deferred [] rfl
  have hCommitted := hLast ⟨ascii "first", 0⟩ (some (ascii "request")) 1 (ascii "text")
    (by decide +kernel)
  exact absurd hCommitted.1 (by decide)

def dictated : List BridgeInput :=
  refocused ++ [.context (.focusIn 0), datagram ["ARM", "first"], .deferred]

theorem dispatched_safely_dictated : bridgeMachine.Along DispatchedSafely dictated :=
  dispatched_safely dictated (by decide +kernel)

end Runs

end VoxType.Fcitx
