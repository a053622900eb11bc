import VoxType.Fcitx.Target

/-!
# One dispatch per request and per session

A client that loses an acknowledgement sends its request again. Where no
session is armed twice and the copies of a request are equal, no text is
dispatched twice, and the retry of a request that is over is answered from the
cache.
-/

namespace VoxType.Fcitx

set_option autoImplicit false

def armedSessions (effects : List BridgeEffect) : List Bytes := (arms effects).map Prod.fst

def dispatchedSessions (effects : List BridgeEffect) : List Bytes :=
  (dispatches effects).map Prod.fst

def dispatchedRequests (effects : List BridgeEffect) : List Bytes :=
  (dispatches effects).filterMap Prod.snd

/-- The requests the deferred callback is done with, and their responses. -/
def completions (effects : List BridgeEffect) : List (Bytes × Bytes) :=
  effects.filterMap fun
    | .completed requestId response => some (requestId, response)
    | _ => none

def requests (inputs : List BridgeInput) : List Request := inputs.filterMap BridgeInput.request

@[simp] theorem armedSessions_append (left right : List BridgeEffect) :
    armedSessions (left ++ right) = armedSessions left ++ armedSessions right := by
  rw [armedSessions, arms_append, List.map_append]
  rfl

@[simp] theorem dispatchedSessions_append (left right : List BridgeEffect) :
    dispatchedSessions (left ++ right) = dispatchedSessions left ++ dispatchedSessions right := by
  rw [dispatchedSessions, dispatches_append, List.map_append]
  rfl

@[simp] theorem dispatchedRequests_append (left right : List BridgeEffect) :
    dispatchedRequests (left ++ right) = dispatchedRequests left ++ dispatchedRequests right := by
  rw [dispatchedRequests, dispatches_append, List.filterMap_append]
  rfl

@[simp] theorem completions_append (left right : List BridgeEffect) :
    completions (left ++ right) = completions left ++ completions right :=
  List.filterMap_append

/-- No acknowledgement of a request is sent before its text is dispatched. -/
def Acknowledged (effects : List BridgeEffect) : Prop :=
  ∀ earlier requestId recipient later,
    effects = earlier ++ .sent (dispatchedResponse requestId) recipient :: later →
      requestId ∈ dispatchedRequests earlier

/-- The dispatches and the responses of a run. -/
structure AtMostOnce (inputs : List BridgeInput) : Prop where
  sessions : (dispatchedSessions (bridgeEffects (bridgeMachine.log inputs))).Nodup
  requests : (dispatchedRequests (bridgeEffects (bridgeMachine.log inputs))).Nodup
  acknowledged : Acknowledged (bridgeEffects (bridgeMachine.log inputs))
  /-- A copy of the request completed last gets its response again. -/
  replayed : ∀ before message sender after request response,
    inputs = before ++ .datagram message sender :: after →
    (BridgeInput.datagram message sender).request = some request →
    (completions (bridgeEffects (bridgeMachine.log before))).getLast? =
      some (request.requestId, response) →
    (bridgeMachine.state before).step (.datagram message sender) =
      ([.sent response sender], bridgeMachine.state before)

/-- The callback dispatches its commit, or nothing. -/
theorem Addon.Dispatch.dispatches_effects (found : Addon.Dispatch) (checked : Checked)
    (requestId : Option Bytes) (text : Bytes) {answer : List BridgeEffect}
    (hAnswer : dispatches answer = []) :
    dispatches (found.effects checked requestId text ++ answer) = [] ∨
      dispatches (found.effects checked requestId text ++ answer) =
        [(checked.session, requestId)] := by
  rw [dispatches_append, hAnswer, List.append_nil]
  cases found with
  | committed context => exact .inr rfl
  | refused value => exact .inl rfl

theorem Addon.Dispatch.mem_dispatches {found : Addon.Dispatch} {checked : Checked}
    {requestId : Option Bytes} {text : Bytes} {answer : List BridgeEffect}
    (hAnswer : dispatches answer = []) {entry : Bytes × Option Bytes}
    (h : entry ∈ dispatches (found.effects checked requestId text ++ answer)) :
    entry = (checked.session, requestId) := by
  rcases found.dispatches_effects checked requestId text hAnswer with hNone | hOne
  · rw [hNone] at h
    cases h
  · rw [hOne] at h
    exact List.mem_singleton.mp h

section Sessions

/-- The session is armed and still to be dispatched. -/
def Open (effects : List BridgeEffect) (session : Bytes) : Prop :=
  session ∈ armedSessions effects ∧ session ∉ dispatchedSessions effects

/-- Whatever may still be dispatched belongs to an open session. -/
structure Sessions (effects : List BridgeEffect) (b : VoxTypeBridge) : Prop where
  once : (dispatchedSessions effects).Nodup
  known : ∀ session ∈ dispatchedSessions effects, session ∈ armedSessions effects
  armed : ∀ context, b.armedContext = some context → Open effects b.armedSession
  pending : ∀ p, b.pendingCommit = some p → Open effects p.checked.session

variable {effects more : List BridgeEffect} {b b' : VoxTypeBridge}

theorem Open.append {session : Bytes} (h : Open effects session) (hMore : dispatches more = []) :
    Open (effects ++ more) session := by
  obtain ⟨hArmed, hFresh⟩ := h
  constructor
  · rw [armedSessions_append]
    exact List.mem_append_left _ hArmed
  · rw [dispatchedSessions_append, dispatchedSessions, dispatchedSessions, hMore, List.map_nil,
      List.append_nil]
    exact hFresh

namespace Sessions

theorem initial : Sessions [] .initial :=
  ⟨List.nodup_nil, fun _ h => (by cases h), fun _ h => (by cases h), fun _ h => (by cases h)⟩

/-- Effects that dispatch nothing keep what is dispatched. -/
theorem keep (h : Sessions effects b) (hMore : dispatches more = [])
    (hArmed : ∀ context, b'.armedContext = some context → Open (effects ++ more) b'.armedSession)
    (hPending : ∀ p, b'.pendingCommit = some p → Open (effects ++ more) p.checked.session) :
    Sessions (effects ++ more) b' := by
  have hSame : dispatchedSessions (effects ++ more) = dispatchedSessions effects := by
    rw [dispatchedSessions, dispatches_append, hMore, List.append_nil]
    rfl
  refine ⟨hSame ▸ h.once, ?_, hArmed, hPending⟩
  intro session hMem
  rw [armedSessions_append]
  exact List.mem_append_left _ (h.known session (hSame ▸ hMem))

theorem append (h : Sessions effects b) (hMore : dispatches more = []) :
    Sessions (effects ++ more) b :=
  h.keep hMore (fun context hContext => (h.armed context hContext).append hMore)
    fun p hPending => (h.pending p hPending).append hMore

theorem idle (h : Sessions effects b) (hMore : dispatches more = [])
    (hArmed : b'.armedContext = none) (hPending : b'.pendingCommit = none) :
    Sessions (effects ++ more) b' := by
  refine h.keep hMore ?_ ?_
  · intro context hContext
    rw [hArmed] at hContext
    cases hContext
  · intro p hSome
    rw [hPending] at hSome
    cases hSome

/-- A session armed for the first time is open. -/
theorem arm (h : Sessions effects b) {session value : Bytes} {sender : Sender} {context : Nat}
    (hNodup : (armedSessions (effects ++ [.armed session context, .sent value sender])).Nodup) :
    Sessions (effects ++ [.armed session context, .sent value sender])
      (b.armed session context) := by
  have hMore : dispatches [.armed session context, .sent value sender] = [] := rfl
  rw [armedSessions_append] at hNodup
  refine h.keep hMore ?_ fun p hPending => (h.pending p hPending).append hMore
  intro context' _
  constructor
  · rw [armedSessions_append]
    exact List.mem_append_right _ List.mem_cons_self
  · intro hMem
    rw [dispatchedSessions_append] at hMem
    have hKnown := h.known session ((List.mem_append.mp hMem).resolve_right (List.not_mem_nil))
    exact (List.nodup_append.mp hNodup).2.2 session hKnown session List.mem_cons_self rfl

/-- A commit is scheduled for the session that is armed. -/
theorem schedule (h : Sessions effects b) {context : Nat} {p : PendingCommit}
    (hMore : dispatches more = []) (hContext : b.armedContext = some context)
    (hSession : b'.armedSession = b.armedSession) (hPending : b'.pendingCommit = some p)
    (hChecked : p.checked.session = b.armedSession) : Sessions (effects ++ more) b' := by
  have hOpen := (h.armed context hContext).append hMore
  refine h.keep hMore ?_ ?_
  · intro context' _
    rw [hSession]
    exact hOpen
  · intro p' hPending'
    rw [hPending] at hPending'
    cases hPending'
    rw [hChecked]
    exact hOpen

/-- The commit that waits is dispatched, or dropped; nothing is armed after it. -/
theorem settle (h : Sessions effects b) {p : PendingCommit} (requestId : Option Bytes)
    (hPending : b.pendingCommit = some p)
    (hMore : dispatches more = [] ∨ dispatches more = [(p.checked.session, requestId)])
    (hArmed : b'.armedContext = none) (hDone : b'.pendingCommit = none) :
    Sessions (effects ++ more) b' := by
  rcases hMore with hMore | hMore
  · exact h.idle hMore hArmed hDone
  obtain ⟨hKnown, hFresh⟩ := h.pending p hPending
  have hSessions : dispatchedSessions (effects ++ more) =
      dispatchedSessions effects ++ [p.checked.session] := by
    rw [dispatchedSessions, dispatches_append, hMore, List.map_append]
    rfl
  refine ⟨?_, ?_, ?_, ?_⟩
  · rw [hSessions, ← List.concat_eq_append]
    exact h.once.concat hFresh
  · intro session hMem
    rw [hSessions] at hMem
    rw [armedSessions_append]
    refine List.mem_append_left _ ?_
    rcases List.mem_append.mp hMem with hMem | hMem
    · exact h.known session hMem
    · exact List.mem_singleton.mp hMem ▸ hKnown
  · intro context hContext
    rw [hArmed] at hContext
    cases hContext
  · intro p' hSome
    rw [hDone] at hSome
    cases hSome

theorem step {self : Addon} (h : Sessions effects self.bridge) (i : BridgeInput)
    (hNodup : (armedSessions (effects ++ (self.step i).1)).Nodup) :
    Sessions (effects ++ (self.step i).1) (self.step i).2.bridge := by
  have hOutcome := self.step_outcome i
  generalize self.step i = turn at hOutcome hNodup
  cases hOutcome with
  | kept hSame =>
    refine h.keep rfl ?_ ?_
    · intro context hContext
      rw [hSame.armedSession]
      exact (h.armed context (hSame.armedContext ▸ hContext)).append rfl
    · intro p hPending
      exact (h.pending p (hSame.pendingCommit ▸ hPending)).append rfl
  | answered | repeated => exact h.append rfl
  | cleared => exact h.idle rfl rfl rfl
  | armed => exact h.arm hNodup
  | scheduled _ hArmed | scheduled2 _ _ _ hArmed => exact h.schedule rfl hArmed rfl rfl rfl
  | dispatched hPending =>
    exact h.settle none hPending (self.dispatch.dispatches_effects _ none _ rfl) rfl rfl
  | dispatched2 hPending =>
    exact h.settle _ hPending (self.dispatch.dispatches_effects _ _ _ rfl) rfl rfl

end Sessions

theorem sessions_run (inputs : List BridgeInput)
    (hArmed : (armedSessions (bridgeEffects (bridgeMachine.log inputs))).Nodup) :
    Sessions (bridgeEffects (bridgeMachine.log inputs)) (bridgeMachine.state inputs).bridge := by
  refine bridgeMachine.invariant
    (P := fun log self => (armedSessions (bridgeEffects log)).Nodup →
      Sessions (bridgeEffects log) self.bridge) (fun _ => .initial) ?_ inputs hArmed
  intro log self i h hNodup
  rw [bridgeEffects_snoc] at hNodup ⊢
  have hEarlier := hNodup
  rw [armedSessions_append] at hEarlier
  exact (h (List.nodup_append.mp hEarlier).1).step i hNodup

end Sessions

section Requests

/-- The completed request is this one, with this response. -/
def VoxTypeBridge.Cached (self : VoxTypeBridge) (request : Request) (response : Bytes) : Prop :=
  self.completedRequestId = request.requestId ∧ self.completedSession = request.session ∧
    self.completedTextSize = request.text.length ∧
    self.completedTextFingerprint = textFingerprint request.text ∧
    self.completedResponse = response

/-- What waits and what is completed was received, and acknowledgements follow dispatches. -/
structure Requests (received : List Request) (effects : List BridgeEffect) (b : VoxTypeBridge) :
    Prop where
  pending : ∀ checked, b.pendingCommit = some (.commit2 checked) →
    b.pendingRequestId ≠ [] ∧ b.pendingSession = checked.session ∧
      ⟨b.pendingRequestId, checked.session, b.pendingText⟩ ∈ received
  dispatched : ∀ session requestId, (session, some requestId) ∈ dispatches effects →
    ∃ text, ⟨requestId, session, text⟩ ∈ received
  completed : ∀ requestId response, (completions effects).getLast? = some (requestId, response) →
    requestId ≠ [] ∧
      ∃ request ∈ received, request.requestId = requestId ∧ b.Cached request response
  response : ∀ requestId, b.completedResponse = dispatchedResponse requestId →
    requestId ∈ dispatchedRequests effects
  acknowledged : Acknowledged effects

variable {received new : List Request} {effects more : List BridgeEffect} {b b' : VoxTypeBridge}

namespace Acknowledged

theorem snoc (h : Acknowledged effects) {effect : BridgeEffect}
    (hEffect : ∀ requestId recipient, effect = .sent (dispatchedResponse requestId) recipient →
      requestId ∈ dispatchedRequests effects) : Acknowledged (effects ++ [effect]) := by
  intro earlier requestId recipient later hSplit
  rcases List.eq_nil_or_concat later with rfl | ⟨later, last, rfl⟩
  · obtain ⟨rfl, hLast⟩ := List.append_inj' hSplit rfl
    exact hEffect requestId recipient (List.cons.inj hLast).1
  · rw [List.concat_eq_append, ← List.cons_append, ← List.append_assoc] at hSplit
    exact h earlier requestId recipient later (List.append_inj' hSplit rfl).1

theorem append (h : Acknowledged effects)
    (hMore : ∀ requestId recipient, .sent (dispatchedResponse requestId) recipient ∈ more →
      requestId ∈ dispatchedRequests effects) : Acknowledged (effects ++ more) := by
  induction more using List.reverseRecOn with
  | nil => exact (List.append_nil effects).symm ▸ h
  | append_singleton more effect ih =>
    rw [← List.append_assoc]
    refine (ih fun requestId recipient hMem =>
      hMore requestId recipient (List.mem_append_left _ hMem)).snoc ?_
    rintro requestId recipient rfl
    rw [dispatchedRequests_append]
    exact List.mem_append_left _
      (hMore requestId recipient (List.mem_append_right _ List.mem_cons_self))

end Acknowledged

/-- Answers that acknowledge nothing. -/
theorem plain_answer {value : Bytes} {sender : Sender} (hPlain : Plain value) :
    ∀ requestId recipient, .sent (dispatchedResponse requestId) recipient ∈
      [BridgeEffect.sent value sender] → requestId ∈ dispatchedRequests effects := by
  intro requestId recipient hMem
  cases List.mem_singleton.mp hMem
  exact absurd rfl (hPlain requestId)

namespace Addon

theorem dispatch_refused {self : Addon} {value : Bytes} (h : self.dispatch = .refused value) :
    Plain value := by
  rw [dispatch] at h
  repeat' split at h
  all_goals cases h
  all_goals exact plain_err _

theorem result_plain (self : Addon) : Plain (self.dispatch.result (ok "dispatched")) := by
  cases hFound : self.dispatch with
  | committed context => exact plain_dispatched
  | refused value => exact dispatch_refused hFound

theorem Dispatch.sent_effects (found : Dispatch) (checked : Checked) (requestId : Option Bytes)
    (text : Bytes) {value : Bytes} {recipient : Sender} :
    .sent value recipient ∉ found.effects checked requestId text := by
  cases found <;> simp [effects]

/-- A result that acknowledges a request is the one of its dispatch. -/
theorem result_acknowledges {self : Addon} {requestId requestId' : Bytes} {checked : Checked}
    {text : Bytes}
    (h : self.dispatch.result (dispatchedResponse requestId) = dispatchedResponse requestId') :
    requestId' ∈ dispatchedRequests (self.dispatch.effects checked (some requestId) text) := by
  cases hFound : self.dispatch with
  | refused value =>
    rw [hFound] at h
    exact absurd h (dispatch_refused hFound requestId')
  | committed context =>
    rw [hFound] at h
    exact List.mem_singleton.mpr (dispatchedResponse_injective h).symm

end Addon

namespace Requests

theorem initial : Requests [] [] .initial where
  pending _ h := by cases h
  dispatched _ _ h := by cases h
  completed _ _ h := by cases h
  response requestId h := by
    have hLength := congrArg List.length h
    rw [dispatchedResponse, List.length_append, List.length_cons] at hLength
    change 0 = _ at hLength
    omega
  acknowledged earlier _ _ _ h := by
    have hLength := congrArg List.length h
    rw [List.length_append, List.length_cons] at hLength
    change 0 = _ at hLength
    omega

/-- Effects that neither dispatch nor complete a request. -/
theorem keep (h : Requests received effects b)
    (hDispatches : ∀ session requestId, (session, some requestId) ∉ dispatches more)
    (hCompletions : completions more = [])
    (hMore : ∀ requestId recipient, .sent (dispatchedResponse requestId) recipient ∈ more →
      requestId ∈ dispatchedRequests effects)
    (hCached : ∀ request response, b.Cached request response → b'.Cached request response)
    (hResponse : b'.completedResponse = b.completedResponse)
    (hPending : ∀ checked, b'.pendingCommit = some (.commit2 checked) →
      b'.pendingRequestId ≠ [] ∧ b'.pendingSession = checked.session ∧
        ⟨b'.pendingRequestId, checked.session, b'.pendingText⟩ ∈ received ++ new) :
    Requests (received ++ new) (effects ++ more) b' where
  pending := hPending
  dispatched session requestId hMem := by
    rw [dispatches_append] at hMem
    obtain ⟨text, hText⟩ := h.dispatched session requestId
      ((List.mem_append.mp hMem).resolve_right (hDispatches session requestId))
    exact ⟨text, List.mem_append_left _ hText⟩
  completed requestId response hLast := by
    rw [completions_append, hCompletions, List.append_nil] at hLast
    obtain ⟨hId, request, hMem, hSame, hRequest⟩ := h.completed requestId response hLast
    exact ⟨hId, request, List.mem_append_left _ hMem, hSame, hCached _ _ hRequest⟩
  response requestId hSame := by
    rw [dispatchedRequests_append]
    exact List.mem_append_left _ (h.response requestId (hResponse ▸ hSame))
  acknowledged := h.acknowledged.append hMore

theorem pending_append (h : Requests received effects b) (hCommit : b'.pendingCommit = b.pendingCommit)
    (hId : b'.pendingRequestId = b.pendingRequestId)
    (hSession : b'.pendingSession = b.pendingSession) (hText : b'.pendingText = b.pendingText) :
    ∀ checked, b'.pendingCommit = some (.commit2 checked) →
      b'.pendingRequestId ≠ [] ∧ b'.pendingSession = checked.session ∧
        ⟨b'.pendingRequestId, checked.session, b'.pendingText⟩ ∈ received ++ new := by
  intro checked hPending
  obtain ⟨hNonempty, hSame, hMem⟩ := h.pending checked (hCommit ▸ hPending)
  rw [hId, hSession, hText]
  exact ⟨hNonempty, hSame, List.mem_append_left _ hMem⟩

/-- The waiting request is completed, dispatched or not. -/
theorem complete {self : Addon} (h : Requests received effects self.bridge) {checked : Checked}
    (hPending : self.bridge.pendingCommit = some (.commit2 checked)) :
    Requests (received ++ new)
      (effects ++ (self.dispatch.effects checked (some self.bridge.pendingRequestId)
          self.bridge.pendingText ++
        [.completed self.bridge.pendingRequestId
            (self.dispatch.result (dispatchedResponse self.bridge.pendingRequestId)),
          .sent (self.dispatch.result (dispatchedResponse self.bridge.pendingRequestId))
            self.bridge.pendingSender]))
      (self.bridge.completed
        (self.dispatch.result (dispatchedResponse self.bridge.pendingRequestId))) := by
  obtain ⟨hId, hSession, hReceived⟩ := h.pending checked hPending
  have hReceived := List.mem_append_left new hReceived
  constructor
  · intro checked' hNone
    cases hNone
  · intro session requestId hMem
    rw [dispatches_append] at hMem
    rcases List.mem_append.mp hMem with hMem | hMem
    · obtain ⟨text, hText⟩ := h.dispatched session requestId hMem
      exact ⟨text, List.mem_append_left _ hText⟩
    · cases Addon.Dispatch.mem_dispatches rfl hMem
      exact ⟨_, hReceived⟩
  · intro requestId response hLast
    rw [← List.append_assoc, completions_append] at hLast
    cases List.getLast?_concat.symm.trans hLast
    exact ⟨hId, _, hReceived, rfl, rfl, hSession, rfl, rfl, rfl⟩
  · intro requestId hSame
    rw [dispatchedRequests_append, dispatchedRequests_append]
    exact List.mem_append_right _ (List.mem_append_left _ (Addon.result_acknowledges hSame))
  · rw [← List.append_assoc]
    refine (h.acknowledged.append ?_).append ?_
    · exact fun requestId recipient hMem => absurd hMem (self.dispatch.sent_effects _ _ _)
    · intro requestId recipient hMem
      rw [dispatchedRequests_append]
      cases hMem with
      | tail _ hMem =>
        exact List.mem_append_right _ (Addon.result_acknowledges
          (BridgeEffect.sent.inj (List.mem_singleton.mp hMem)).1.symm)

theorem step {self : Addon} (h : Requests received effects self.bridge) (i : BridgeInput) :
    Requests (received ++ requests [i]) (effects ++ (self.step i).1) (self.step i).2.bridge := by
  have hOutcome := self.step_outcome i
  generalize self.step i = turn at hOutcome
  cases hOutcome with
  | kept hSame =>
    refine h.keep nofun rfl (by simp) ?_ hSame.completedResponse
      (h.pending_append hSame.pendingCommit hSame.pendingRequestId hSame.pendingSession
        hSame.pendingText)
    intro request response hCached
    rw [VoxTypeBridge.Cached, hSame.completedRequestId, hSame.completedSession,
      hSame.completedTextSize, hSame.completedTextFingerprint, hSame.completedResponse]
    exact hCached
  | answered hPlain =>
    exact h.keep nofun rfl (plain_answer hPlain) (fun _ _ hCached => hCached) rfl
      (h.pending_append rfl rfl rfl rfl)
  | repeated =>
    refine h.keep nofun rfl ?_ (fun _ _ hCached => hCached) rfl (h.pending_append rfl rfl rfl rfl)
    intro requestId recipient hMem
    exact h.response requestId (BridgeEffect.sent.inj (List.mem_singleton.mp hMem)).1.symm
  | cleared hPlain =>
    refine h.keep nofun rfl (plain_answer hPlain) (fun _ _ hCached => hCached) rfl ?_
    intro checked hNone
    cases hNone
  | armed _ _ hPlain =>
    refine h.keep nofun rfl ?_ (fun _ _ hCached => hCached) rfl (h.pending_append rfl rfl rfl rfl)
    intro requestId recipient hMem
    exact plain_answer hPlain requestId recipient ((List.mem_cons.mp hMem).resolve_left nofun)
  | scheduled =>
    refine h.keep nofun rfl (by simp) (fun _ _ hCached => hCached) rfl ?_
    intro checked hLegacy
    cases hLegacy
  | scheduled2 hReceived hId =>
    refine h.keep nofun rfl (by simp) (fun _ _ hCached => hCached) rfl ?_
    intro checked hCommit
    cases hCommit
    refine ⟨hId, rfl, List.mem_append_right _ ?_⟩
    exact List.mem_filterMap.mpr ⟨i, List.mem_cons_self, hReceived⟩
  | dispatched hPending =>
    refine h.keep ?_ ?_ ?_ (fun _ _ hCached => hCached) rfl ?_
    · intro session requestId hMem
      cases Addon.Dispatch.mem_dispatches rfl hMem
    · cases hFound : self.dispatch <;> rfl
    · intro requestId recipient hMem
      have hMem := (List.mem_append.mp hMem).resolve_left (self.dispatch.sent_effects _ _ _)
      exact plain_answer self.result_plain requestId recipient hMem
    · intro checked hNone
      cases hNone
  | dispatched2 hPending => exact h.complete hPending

end Requests

theorem requests_run (inputs : List BridgeInput) :
    Requests (requests inputs) (bridgeEffects (bridgeMachine.log inputs))
      (bridgeMachine.state inputs).bridge := by
  induction inputs using List.reverseRecOn with
  | nil => exact .initial
  | append_singleton inputs i ih =>
    rw [bridgeMachine.log_snoc, bridgeMachine.state_snoc, bridgeEffects_snoc, requests,
      List.filterMap_append]
    exact ih.step i

end Requests

section Replay

namespace Addon

/-- A `COMMIT2` datagram is handed to `commit2`. -/
theorem step_request (self : Addon) {message : Bytes} {sender : Sender} {request : Request}
    (h : (BridgeInput.datagram message sender).request = some request) :
    self.step (.datagram message sender) =
      self.commit2 request.requestId request.session request.text sender := by
  rw [BridgeInput.request] at h
  split at h
  · rename_i hCommit2
    obtain ⟨hSize, hCommand⟩ := hCommit2
    cases h
    have hNonempty : ¬ message.isEmpty = true := by
      intro hEmpty
      rw [List.isEmpty_iff.mp hEmpty] at hCommand
      exact absurd hCommand (by decide +kernel)
    rw [step, receive, if_neg hNonempty, if_neg (Nat.not_lt.mpr hSize)]
    dsimp only
    rw [hCommand, if_neg (by decide +kernel), if_neg (by decide +kernel),
      if_neg (by decide +kernel), if_neg (by decide +kernel), if_pos rfl]
  · cases h

theorem commit2_cached {self : Addon} {request : Request} {response : Bytes}
    (hId : request.requestId ≠ []) (hCached : self.bridge.Cached request response)
    (sender : Sender) :
    self.commit2 request.requestId request.session request.text sender =
      ([.sent response sender], self) := by
  obtain ⟨hRequest, hSession, hSize, hFingerprint, hResponse⟩ := hCached
  have hNonempty : ¬ request.requestId.isEmpty = true := fun h => hId (List.isEmpty_iff.mp h)
  rw [commit2, if_neg hNonempty, if_pos hRequest.symm,
    if_pos ⟨hSession.symm, hSize.symm, hFingerprint.symm⟩, hResponse]
  rfl

end Addon

/-- A copy of a request carries the same session and text. -/
def Copied (received : List Request) : Prop :=
  ∀ first ∈ received, ∀ second ∈ received, first.requestId = second.requestId → first = second

instance (received : List Request) : Decidable (Copied received) :=
  inferInstanceAs (Decidable (∀ first ∈ received, ∀ second ∈ received, _))

theorem replayed {inputs : List BridgeInput} (hCopied : Copied (requests inputs))
    {before after : List BridgeInput} {message : Bytes} {sender : Sender} {request : Request}
    {response : Bytes} (hInputs : inputs = before ++ .datagram message sender :: after)
    (hRequest : (BridgeInput.datagram message sender).request = some request)
    (hLast : (completions (bridgeEffects (bridgeMachine.log before))).getLast? =
      some (request.requestId, response)) :
    (bridgeMachine.state before).step (.datagram message sender) =
      ([.sent response sender], bridgeMachine.state before) := by
  obtain ⟨hId, completed, hMem, hSame, hCached⟩ :=
    (requests_run before).completed request.requestId response hLast
  have hInputs : requests inputs = requests before ++ request :: requests after := by
    rw [hInputs, requests, List.filterMap_append, List.filterMap_cons_some hRequest]
    rfl
  have hEqual : completed = request := by
    refine hCopied completed ?_ request ?_ hSame
    · rw [hInputs]
      exact List.mem_append_left _ hMem
    · rw [hInputs]
      exact List.mem_append_right _ List.mem_cons_self
  rw [Addon.step_request _ hRequest]
  exact Addon.commit2_cached hId (hEqual ▸ hCached) sender

end Replay

/-- Two dispatches of one request would be two of its session. -/
theorem requests_nodup {received : List Request} (hCopied : Copied received)
    {entries : List (Bytes × Option Bytes)} (hSessions : (entries.map Prod.fst).Nodup)
    (hReceived : ∀ session requestId, (session, some requestId) ∈ entries →
      ∃ text, ⟨requestId, session, text⟩ ∈ received) :
    (entries.filterMap Prod.snd).Nodup := by
  induction entries with
  | nil => exact List.nodup_nil
  | cons entry entries ih =>
    obtain ⟨session, requestId⟩ := entry
    rw [List.map_cons, List.nodup_cons] at hSessions
    obtain ⟨hHead, hTail⟩ := hSessions
    have ih := ih hTail fun s r hMem => hReceived s r (List.mem_cons_of_mem _ hMem)
    cases requestId with
    | none => exact ih
    | some requestId =>
      have hRequests : ((session, some requestId) :: entries).filterMap Prod.snd =
          requestId :: entries.filterMap Prod.snd := rfl
      rw [hRequests, List.nodup_cons]
      refine ⟨?_, ih⟩
      intro hMem
      obtain ⟨⟨session', found⟩, hEntry, hFound⟩ := List.mem_filterMap.mp hMem
      cases hFound
      obtain ⟨text, hFirst⟩ := hReceived session requestId List.mem_cons_self
      obtain ⟨text', hSecond⟩ := hReceived session' requestId (List.mem_cons_of_mem _ hEntry)
      cases hCopied _ hFirst _ hSecond rfl
      exact hHead (List.mem_map_of_mem hEntry)

/-- Retries, delays and duplicates of datagrams dispatch no text a second time. -/
theorem at_most_once (inputs : List BridgeInput)
    (hArmed : (armedSessions (bridgeEffects (bridgeMachine.log inputs))).Nodup)
    (hCopied : Copied (requests inputs)) : AtMostOnce inputs where
  sessions := (sessions_run inputs hArmed).once
  requests := requests_nodup hCopied (sessions_run inputs hArmed).once
    (requests_run inputs).dispatched
  acknowledged := (requests_run inputs).acknowledged
  replayed _ _ _ _ _ _ hInputs hRequest hLast := replayed hCopied hInputs hRequest hLast

/-- The acknowledgement is lost; the client sends its request again. -/
def retried : List BridgeInput :=
  [.context (.created editor), .context (.focusIn 0), datagram ["ARM", "first"],
    datagram ["COMMIT2", "request", "first", "text"], .deferred,
    datagram ["COMMIT2", "request", "first", "text"], .deferred]

theorem at_most_once_retried : AtMostOnce retried :=
  at_most_once retried (by decide +kernel) (by decide +kernel)

end VoxType.Fcitx
