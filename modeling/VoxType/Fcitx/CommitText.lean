import VoxType.Fcitx.Client
import VoxType.Fcitx.Dispatch
import VoxType.Library.Checks

/-!
# The text a commit delivers

A commit that returns was acknowledged, and the acknowledged text is the last
field of its datagram. This is the text that was given where it has no NUL.
-/

namespace VoxType.Fcitx

set_option autoImplicit false

section Committed

/-- A text is committed for a request that was received with it. -/
theorem committed_received (inputs : List BridgeInput) {checked : Checked} {requestId : Bytes}
    {context : Nat} {text : Bytes}
    (h : .committed checked (some requestId) context text ∈
      bridgeEffects (bridgeMachine.log inputs)) :
    ⟨requestId, checked.session, text⟩ ∈ requests inputs := by
  induction inputs using List.reverseRecOn with
  | nil => cases h
  | append_singleton inputs i ih =>
    rw [bridgeMachine.log_snoc, bridgeEffects_snoc] at h
    rw [requests, List.filterMap_append]
    refine List.mem_append_left _ ?_
    rcases List.mem_append.mp h with hEarlier | hNow
    · exact ih hEarlier
    have hRequests := requests_run inputs
    have hOutcome := (bridgeMachine.state inputs).step_outcome i
    change _ ∈ ((bridgeMachine.state inputs).step i).1 at hNow
    generalize (bridgeMachine.state inputs).step i = turn at hOutcome hNow
    cases hOutcome with
    | kept | answered | repeated | cleared | armed | scheduled | scheduled2 =>
      simp [Addon.sends] at hNow
    | dispatched hPending =>
      rcases List.mem_append.mp hNow with hFound | hSent
      · cases (Addon.Dispatch.mem_effects hFound).2.2.1
      · simp at hSent
    | dispatched2 hPending =>
      rcases List.mem_append.mp hNow with hFound | hSent
      · obtain ⟨-, rfl, hId, rfl⟩ := Addon.Dispatch.mem_effects hFound
        cases hId
        exact (hRequests.pending _ hPending).2.2
      · simp at hSent

/-- What is acknowledged has been committed. -/
theorem acknowledged_committed {inputs : List BridgeInput} {requestId : Bytes} {sender : Sender}
    (h : .sent (dispatchedResponse requestId) sender ∈ bridgeEffects (bridgeMachine.log inputs)) :
    ∃ checked context text, .committed checked (some requestId) context text ∈
      bridgeEffects (bridgeMachine.log inputs) := by
  obtain ⟨earlier, later, hSplit⟩ := List.append_of_mem h
  have hMem := (requests_run inputs).acknowledged earlier requestId sender later hSplit
  obtain ⟨⟨session, found⟩, hEntry, hFound⟩ := List.mem_filterMap.mp hMem
  cases hFound
  obtain ⟨effect, hEffect, hDispatch⟩ := List.mem_filterMap.mp hEntry
  have hCommitted : effect ∈ bridgeEffects (bridgeMachine.log inputs) := by
    rw [hSplit]
    exact List.mem_append_left _ hEffect
  cases effect with
  | committed checked request context text =>
    cases hDispatch
    exact ⟨checked, context, text, hCommitted⟩
  | armed | scheduled | completed | sent => cases hDispatch

end Committed

section Answers

/-- The refusals of a `COMMIT2`. -/
def refusals : List String :=
  ["request-id-required", "request-id-mismatch", "commit-busy", "session-mismatch",
    "focus-changed", "secure-context", "empty-text"]

/-- What a `COMMIT2` with this request id is answered with. -/
def Answer (requestId value : Bytes) : Prop :=
  (∃ detail ∈ refusals, value = err detail) ∨ value = dispatchedResponse requestId

theorem Answer.refused {requestId : Bytes} {detail : String} (h : detail ∈ refusals) :
    Answer requestId (err detail) := .inl ⟨detail, h, rfl⟩

/-- What a datagram does to the answers that are still to be given. -/
structure Turned (b : VoxTypeBridge) (sender : Sender) (turn : Turn) : Prop where
  sent : ∀ value recipient, .sent value recipient ∈ turn.1 → recipient = sender
  completedRequestId : turn.2.bridge.completedRequestId = b.completedRequestId
  completedResponse : turn.2.bridge.completedResponse = b.completedResponse
  legacy : ∀ checked text recipient,
    turn.2.bridge.pendingCommit = some (.legacy checked text recipient) →
      recipient = sender ∨ b.pendingCommit = some (.legacy checked text recipient)
  pending : ∀ checked, turn.2.bridge.pendingCommit = some (.commit2 checked) →
    turn.2.bridge.pendingSender = sender ∨
      b.pendingCommit = some (.commit2 checked) ∧ turn.2.bridge.pendingSender = b.pendingSender ∧
        turn.2.bridge.pendingRequestId = b.pendingRequestId

namespace Addon

variable (self : Addon) (sender : Sender)

theorem sends_turned (value : Bytes) : Turned self.bridge sender (self.sends value sender) where
  sent _ _ h := (BridgeEffect.sent.inj (List.mem_singleton.mp h)).2
  completedRequestId := rfl
  completedResponse := rfl
  legacy _ _ _ h := .inr h
  pending _ h := .inr ⟨h, rfl, rfl⟩

theorem refuse_turned (clears : Bool) (value : Bytes) :
    Turned self.bridge sender (self.refuse clears value sender) := by
  cases clears with
  | false => exact self.sends_turned sender value
  | true =>
    constructor
    · exact fun _ _ h => (BridgeEffect.sent.inj (List.mem_singleton.mp h)).2
    · rfl
    · rfl
    · intro _ _ _ h
      cases h
    · intro _ h
      cases h

theorem arm_turned (session : Bytes) : Turned self.bridge sender (self.arm session sender) := by
  rw [arm]
  split
  · exact self.sends_turned sender _
  · split
    · exact self.sends_turned sender _
    · split
      · exact self.sends_turned sender _
      · constructor
        · intro value recipient h
          simp only [List.mem_cons, reduceCtorEq, BridgeEffect.sent.injEq, List.not_mem_nil,
            or_false, false_or] at h
          exact h.2
        · rfl
        · rfl
        · exact fun _ _ _ h => .inr h
        · exact fun _ h => .inr ⟨h, rfl, rfl⟩

theorem commit_turned (session text : Bytes) :
    Turned self.bridge sender (self.commit session text sender) := by
  rw [commit]
  split
  · exact self.sends_turned sender _
  · split
    · exact self.refuse_turned sender _ _
    · constructor
      · intro value recipient h
        simp at h
      · rfl
      · rfl
      · rintro checked text recipient ⟨⟩
        exact .inl rfl
      · intro _ h
        cases h

theorem commit2_turned (requestId session text : Bytes) :
    Turned self.bridge sender (self.commit2 requestId session text sender) := by
  rw [commit2]
  split
  · exact self.sends_turned sender _
  · split
    · split <;> exact self.sends_turned sender _
    · split
      · split
        · exact ⟨fun _ _ h => absurd h List.not_mem_nil, rfl, rfl, fun _ _ _ h => .inr h,
            fun _ _ => .inl rfl⟩
        · exact self.sends_turned sender _
      · split
        · exact self.sends_turned sender _
        · split
          · exact self.refuse_turned sender _ _
          · refine ⟨?_, rfl, rfl, ?_, fun _ _ => .inl rfl⟩
            · intro value recipient h
              simp at h
            · intro _ _ _ h
              cases h

theorem cancel_turned (session : Bytes) :
    Turned self.bridge sender (self.cancel session sender) := by
  rw [cancel]
  split
  · exact self.sends_turned sender _
  · exact self.refuse_turned sender true _

theorem receive_turned (message : Bytes) :
    Turned self.bridge sender (self.receive message sender) := by
  rw [receive]
  split
  · exact ⟨fun _ _ h => absurd h List.not_mem_nil, rfl, rfl, fun _ _ _ h => .inr h,
      fun _ h => .inr ⟨h, rfl, rfl⟩⟩
  · split
    · exact self.sends_turned sender _
    · dsimp only
      split_ifs
      · exact self.sends_turned sender _
      · exact self.sends_turned sender _
      · exact self.arm_turned sender _
      · exact self.commit_turned sender _ _
      · exact self.commit2_turned sender _ _ _
      · exact self.cancel_turned sender _
      · exact self.sends_turned sender _

end Addon

namespace Addon

theorem admission_refused {self : Addon} {session text : Bytes} {clears : Bool} {value : Bytes}
    (h : self.admission session text = .refused clears value) (requestId : Bytes) :
    Answer requestId value := by
  rw [admission] at h
  repeat' split at h
  all_goals cases h
  all_goals exact .refused (by decide)

theorem dispatch_answer (self : Addon) (requestId : Bytes) :
    Answer requestId (self.dispatch.result (dispatchedResponse requestId)) := by
  cases hFound : self.dispatch with
  | committed context => exact .inr rfl
  | refused value =>
    rw [dispatch] at hFound
    repeat' split at hFound
    all_goals cases hFound
    all_goals exact .refused (by decide)

theorem sends_answer {self : Addon} {sender recipient : Sender} {requestId value other : Bytes}
    (hAnswer : Answer requestId value) (h : .sent other recipient ∈ (self.sends value sender).1) :
    Answer requestId other := by
  rw [(BridgeEffect.sent.inj (List.mem_singleton.mp h)).1]
  exact hAnswer

/-- A `COMMIT2` leaves no commit to be answered that was not there, but its own. -/
structure Commit2Turned (b b' : VoxTypeBridge) (requestId : Bytes) : Prop where
  legacy : ∀ checked text recipient, b'.pendingCommit = some (.legacy checked text recipient) →
    b.pendingCommit = some (.legacy checked text recipient)
  pending : ∀ checked, b'.pendingCommit = some (.commit2 checked) → b'.pendingRequestId = requestId ∨
    b.pendingCommit = some (.commit2 checked) ∧ b'.pendingSender = b.pendingSender ∧
      b'.pendingRequestId = b.pendingRequestId

theorem Commit2Turned.refl (b : VoxTypeBridge) (requestId : Bytes) : Commit2Turned b b requestId :=
  ⟨fun _ _ _ h => h, fun _ h => .inr ⟨h, rfl, rfl⟩⟩

theorem commit2_answers (self : Addon) {requestId : Bytes}
    (hCached : self.bridge.completedRequestId = requestId →
      Answer requestId self.bridge.completedResponse) (session text : Bytes) (sender : Sender) :
    (∀ value recipient,
      .sent value recipient ∈ (self.commit2 requestId session text sender).1 →
        Answer requestId value) ∧
    Commit2Turned self.bridge (self.commit2 requestId session text sender).2.bridge requestId := by
  have hRefused : ∀ detail ∈ refusals,
      (∀ value recipient, .sent value recipient ∈ (self.sends (err detail) sender).1 →
        Answer requestId value) ∧
      Commit2Turned self.bridge (self.sends (err detail) sender).2.bridge requestId :=
    fun detail hDetail => ⟨fun _ _ h => sends_answer (.refused hDetail) h, .refl _ _⟩
  rw [commit2]
  split
  · exact hRefused _ (by decide)
  · split
    case isTrue hCompleted =>
      split
      · exact ⟨fun _ _ h => sends_answer (hCached hCompleted.symm) h, .refl _ _⟩
      · exact hRefused _ (by decide)
    case isFalse =>
      split
      case isTrue hPending =>
        split
        · exact ⟨fun _ _ h => absurd h List.not_mem_nil, fun _ _ _ h => h,
            fun _ _ => .inl hPending.symm⟩
        · exact hRefused _ (by decide)
      case isFalse =>
        split
        · exact hRefused _ (by decide)
        · split
          case h_1 clears value hAdmit =>
            have hAnswer := admission_refused hAdmit requestId
            cases clears with
            | false => exact ⟨fun _ _ h => sends_answer hAnswer h, .refl _ _⟩
            | true =>
              refine ⟨fun _ _ h => sends_answer hAnswer h, ?_, ?_⟩
              · intro _ _ _ h
                cases h
              · intro _ h
                cases h
          case h_2 context hAdmit =>
            refine ⟨?_, ?_, fun _ _ => .inl rfl⟩
            · intro value recipient h
              simp at h
            · intro _ _ _ h
              cases h

end Addon

/-- What the sockets of one client are sent. -/
structure Answers (own : Sender → Prop) (requestId : Bytes) (effects : List BridgeEffect)
    (b : VoxTypeBridge) : Prop where
  sent : ∀ value sender, own sender → .sent value sender ∈ effects → Answer requestId value
  cached : b.completedRequestId = requestId → Answer requestId b.completedResponse
  legacy : ∀ checked text sender, b.pendingCommit = some (.legacy checked text sender) →
    ¬ own sender
  pending : ∀ checked, b.pendingCommit = some (.commit2 checked) → own b.pendingSender →
    b.pendingRequestId = requestId

namespace Answers

variable {own : Sender → Prop} {requestId : Bytes} {effects : List BridgeEffect} {self : Addon}

theorem initial (hId : requestId ≠ []) : Answers own requestId [] .initial where
  sent _ _ _ h := absurd h List.not_mem_nil
  cached h := absurd h.symm hId
  legacy _ _ _ h := by cases h
  pending _ h := by cases h

/-- A datagram of another sender. -/
theorem foreign (h : Answers own requestId effects self.bridge) {sender : Sender}
    (hSender : ¬ own sender) {turn : Turn} (hTurned : Turned self.bridge sender turn) :
    Answers own requestId (effects ++ turn.1) turn.2.bridge := by
  constructor
  · intro value recipient hOwn hMem
    rcases List.mem_append.mp hMem with hEarlier | hNow
    · exact h.sent value recipient hOwn hEarlier
    · exact absurd (hTurned.sent value recipient hNow ▸ hOwn) hSender
  · rw [hTurned.completedRequestId, hTurned.completedResponse]
    exact h.cached
  · intro checked text recipient hPending
    rcases hTurned.legacy checked text recipient hPending with rfl | hOld
    · exact hSender
    · exact h.legacy checked text recipient hOld
  · intro checked hPending hOwn
    rcases hTurned.pending checked hPending with hNew | ⟨hOld, hSame, hId⟩
    · exact absurd (hNew ▸ hOwn) hSender
    · rw [hId]
      exact h.pending checked hOld (hSame ▸ hOwn)

/-- A copy of the client's own request. -/
theorem own_request (h : Answers own requestId effects self.bridge) {sender : Sender}
    (session text : Bytes) :
    Answers own requestId (effects ++ (self.commit2 requestId session text sender).1)
      (self.commit2 requestId session text sender).2.bridge := by
  have hTurned := self.commit2_turned sender requestId session text
  obtain ⟨hAnswers, hKept⟩ := self.commit2_answers h.cached session text sender
  constructor
  · intro value recipient hOwn hMem
    rcases List.mem_append.mp hMem with hEarlier | hNow
    · exact h.sent value recipient hOwn hEarlier
    · exact hAnswers value recipient hNow
  · rw [hTurned.completedRequestId, hTurned.completedResponse]
    exact h.cached
  · intro checked legacyText recipient hLegacy
    exact h.legacy checked legacyText recipient (hKept.legacy checked legacyText recipient hLegacy)
  · intro checked hCommit hOwn
    rcases hKept.pending checked hCommit with hId | ⟨hOld, hSame, hId⟩
    · exact hId
    · rw [hId]
      exact h.pending checked hOld (hSame ▸ hOwn)

/-- The deferred callback answers the request that waits. -/
theorem deferred (h : Answers own requestId effects self.bridge) :
    Answers own requestId (effects ++ self.deferred.1) self.deferred.2.bridge := by
  have hSilent : ∀ {found : Addon.Dispatch} {checked : Checked} {request : Option Bytes}
      {text value : Bytes} {sender : Sender},
      .sent value sender ∉ found.effects checked request text :=
    Addon.Dispatch.sent_effects _ _ _ _
  rw [Addon.deferred]
  split
  case h_1 =>
    rw [List.append_nil]
    exact h
  case h_2 checked text sender hPending =>
    refine ⟨?_, h.cached, fun _ _ _ hLater => (by cases hLater), fun _ hLater => (by cases hLater)⟩
    intro value recipient hOwn hMem
    rcases List.mem_append.mp hMem with hEarlier | hNow
    · exact h.sent value recipient hOwn hEarlier
    · rcases List.mem_append.mp hNow with hFound | hSent
      · exact absurd hFound hSilent
      · cases List.mem_singleton.mp hSent
        exact absurd hOwn (h.legacy checked text sender hPending)
  case h_3 checked hPending =>
    dsimp only
    refine ⟨?_, fun hSame => hSame ▸ self.dispatch_answer _, fun _ _ _ hLater => (by cases hLater),
      fun _ hLater => (by cases hLater)⟩
    intro value recipient hOwn hMem
    rcases List.mem_append.mp hMem with hEarlier | hNow
    · exact h.sent value recipient hOwn hEarlier
    · rcases List.mem_append.mp hNow with hFound | hSent
      · exact absurd hFound hSilent
      · simp only [List.mem_cons, reduceCtorEq, BridgeEffect.sent.injEq, List.not_mem_nil,
          or_false, false_or] at hSent
        obtain ⟨rfl, rfl⟩ := hSent
        rw [h.pending checked hPending hOwn]
        exact self.dispatch_answer requestId

end Answers

end Answers

section Client

variable {own : Sender → Prop} {requestId session text message : Bytes}

/-- The datagram is the request of the client. -/
structure Encodes (message requestId session text : Bytes) : Prop where
  size : message.length ≤ maxDatagramSize
  command : field message 0 = ascii "COMMIT2"
  requestId : field message 1 = requestId
  session : field message 2 = session
  text : field message 3 = text

theorem answers_run (hEncodes : Encodes message requestId session text) (hId : requestId ≠ [])
    (inputs : List BridgeInput)
    (hOwn : ∀ other sender, .datagram other sender ∈ inputs → own sender → other = message) :
    Answers own requestId (bridgeEffects (bridgeMachine.log inputs))
      (bridgeMachine.state inputs).bridge := by
  induction inputs using List.reverseRecOn with
  | nil => exact .initial hId
  | append_singleton inputs i ih =>
    have hEarlier := ih fun other sender hMem => hOwn other sender (List.mem_append_left _ hMem)
    rw [bridgeMachine.log_snoc, bridgeMachine.state_snoc, bridgeEffects_snoc]
    change Answers own requestId (_ ++ ((bridgeMachine.state inputs).step i).1)
      ((bridgeMachine.state inputs).step i).2.bridge
    cases i with
    | deferred => exact hEarlier.deferred
    | context event =>
      rw [Addon.step, List.append_nil]
      exact ⟨hEarlier.sent, hEarlier.cached, hEarlier.legacy, hEarlier.pending⟩
    | datagram other sender =>
      by_cases hSender : own sender
      · obtain rfl := hOwn other sender List.mem_concat_self hSender
        have hRequest : (BridgeInput.datagram other sender).request =
            some ⟨requestId, session, text⟩ := by
          rw [BridgeInput.request, if_pos ⟨hEncodes.size, hEncodes.command⟩, hEncodes.requestId,
            hEncodes.session, hEncodes.text]
        rw [Addon.step_request _ hRequest]
        exact hEarlier.own_request session text
      · exact hEarlier.foreign hSender (Addon.receive_turned _ sender other)

/-- No refusal is taken for an acknowledgement, or for an addon without `COMMIT2`. -/
theorem refusal_rejected {detail : String} (h : detail ∈ refusals) :
    ∃ error, expectOk ((err detail).take maxResponseSize) = .error error ∧
      contains error.message "unknown-command" = false := by
  have hAll : ∀ detail ∈ refusals,
      (((err detail).take maxResponseSize).splitOn 0)[0]? ≠ some (ascii "OK") ∧
        contains (bridgeRejected (((((err detail).take maxResponseSize).splitOn 0)[1]?.bind
          fromUtf8).getD "bridge-error")).message "unknown-command" = false := by
    decide +kernel
  obtain ⟨hRefused, hKnown⟩ := hAll detail h
  refine ⟨_, ?_, hKnown⟩
  rw [expectOk]
  exact if_neg hRefused

/-- The client takes only the acknowledgement of its own request for one. -/
theorem answer_accepted {value : Bytes} {requestId : String} (hAnswer : Answer (utf8 requestId) value) :
    value = dispatchedResponse (utf8 requestId) ∨
      ∃ error, expectDispatchedFor (value.take maxResponseSize) requestId = .error error ∧
        contains error.message "unknown-command" = false := by
  rcases hAnswer with ⟨detail, hDetail, rfl⟩ | hDispatched
  · obtain ⟨error, hError, hKnown⟩ := refusal_rejected hDetail
    refine .inr ⟨error, ?_, hKnown⟩
    rw [expectDispatchedFor, hError]
    rfl
  · exact .inl hDispatched

end Client

/-- The exchanges of a client within a run. Its sockets are its own, and so is its request id. -/
structure Exchange (transport : FcitxTransport) (own : Sender → Prop) (requestId message : Bytes)
    (inputs : List BridgeInput) : Prop where
  own_message : ∀ other sender, .datagram other sender ∈ inputs → own sender → other = message
  own_request : ∀ other sender, .datagram other sender ∈ inputs →
    field other 0 = ascii "COMMIT2" → field other 1 = requestId → other = message
  answered : ∀ exchange response, transport.requestMessageAt exchange message = .ok response →
    ∃ value sender, own sender ∧ .sent value sender ∈ bridgeEffects (bridgeMachine.log inputs) ∧
      response = value.take maxResponseSize

/-- A commit that returns has committed its text, and nothing else. -/
def CommitsExactly (requestId : String) (session : SessionId) (text : String) : Prop :=
  ∀ transport own message inputs,
    encodeMessage (commit2Parts requestId session text) = .ok message →
    Exchange transport own (utf8 requestId) message inputs →
    transport.commit requestId session text = .ok () →
    (∃ checked context, .committed checked (some (utf8 requestId)) context (utf8 text) ∈
      bridgeEffects (bridgeMachine.log inputs)) ∧
    ∀ checked context found, .committed checked (some (utf8 requestId)) context found ∈
      bridgeEffects (bridgeMachine.log inputs) → found = utf8 text

section Exact

variable {requestId : String} {session : SessionId} {text : String}

theorem encodes_of_agrees {message : Bytes} (h : Agrees (commit2Parts requestId session text))
    (hMessage : encodeMessage (commit2Parts requestId session text) = .ok message) :
    Encodes message (utf8 requestId) (utf8 session.value) (utf8 text) where
  size := (encodeMessage_ok hMessage).2.trans (by decide)
  command := h message hMessage 0 _ rfl
  requestId := h message hMessage 1 _ rfl
  session := h message hMessage 2 _ rfl
  text := h message hMessage 3 _ rfl

/-- A commit that returns took a response for an acknowledgement, or for one of an old addon. -/
theorem commit_ok {transport : FcitxTransport} {message : Bytes}
    (hMessage : encodeMessage (commit2Parts requestId session text) = .ok message)
    (h : transport.commit requestId session text = .ok ()) :
    ∃ exchange response, transport.requestMessageAt exchange message = .ok response ∧
      ∀ error, expectDispatchedFor response requestId = .error error →
        contains error.message "unknown-command" = true := by
  rw [FcitxTransport.commit, Checks.bind_ok] at h
  obtain ⟨response, hResponse, h⟩ := h
  have hKnown : ∀ error, expectDispatchedFor response requestId = .error error →
      contains error.message "unknown-command" = true := by
    intro error hError
    rw [hError] at h
    dsimp only at h
    split at h
    case isTrue hUnknown => exact hUnknown
    case isFalse => cases h
  rw [FcitxTransport.requestWithRetry, Checks.bind_ok] at hResponse
  obtain ⟨_, -, hResponse⟩ := hResponse
  obtain ⟨encoded, hEncoded, hResponse⟩ := Checks.bind_ok.mp hResponse
  obtain rfl := Except.ok.inj (hMessage.symm.trans hEncoded)
  split at hResponse
  case h_1 first hFirst =>
    cases hResponse
    exact ⟨0, response, hFirst, hKnown⟩
  case h_2 =>
    split at hResponse
    case isTrue => exact ⟨1, response, hResponse, hKnown⟩
    case isFalse => cases hResponse

theorem commitsExactly_of_agrees (hId : utf8 requestId ≠ [])
    (hAgrees : Agrees (commit2Parts requestId session text)) :
    CommitsExactly requestId session text := by
  intro transport own message inputs hMessage hExchange hCommit
  have hEncodes := encodes_of_agrees hAgrees hMessage
  have hRun := answers_run hEncodes hId inputs hExchange.own_message
  obtain ⟨exchange, response, hResponse, hKnown⟩ := commit_ok hMessage hCommit
  obtain ⟨value, sender, hOwn, hSent, rfl⟩ := hExchange.answered exchange response hResponse
  have hTexts : ∀ checked context found, .committed checked (some (utf8 requestId)) context found ∈
      bridgeEffects (bridgeMachine.log inputs) → found = utf8 text := by
    intro checked context found hCommitted
    obtain ⟨i, hMem, hRequest⟩ := List.mem_filterMap.mp (committed_received inputs hCommitted)
    cases i with
    | deferred | context event => cases hRequest
    | datagram other sender =>
      rw [BridgeInput.request] at hRequest
      split at hRequest
      case isFalse => cases hRequest
      case isTrue hCommand =>
        obtain ⟨hSameId, -, hText⟩ := Request.mk.inj (Option.some.inj hRequest)
        obtain rfl := hExchange.own_request other sender hMem hCommand.2 hSameId
        rw [← hText]
        exact hEncodes.text
  refine ⟨?_, hTexts⟩
  rcases answer_accepted (hRun.sent value sender hOwn hSent) with rfl | ⟨error, hError, hPlain⟩
  · obtain ⟨checked, context, found, hCommitted⟩ := acknowledged_committed hSent
    exact ⟨checked, context, hTexts checked context found hCommitted ▸ hCommitted⟩
  · have hUnknown := hKnown error hError
    rw [hPlain] at hUnknown
    cases hUnknown

end Exact

section Requests

theorem digits_plain (n : Nat) : '\x00' ∉ Nat.toDigits 10 n :=
  fun hMem => absurd (Nat.isDigit_of_mem_toDigits (by omega) (by omega) hMem) (by decide)

theorem commitRequestId_toList (processId counter : Nat) :
    (commitRequestId processId counter).toList =
      Nat.toDigits 10 processId ++ '-' :: Nat.toDigits 10 counter := by
  simp only [commitRequestId, String.toList_append, Nat.toString_eq_repr, Nat.toList_repr,
    List.append_assoc]
  rfl

theorem commitRequestId_plain (processId counter : Nat) :
    0 ∉ utf8 (commitRequestId processId counter) := by
  rw [zero_mem_utf8, commitRequestId_toList, List.mem_append, List.mem_cons]
  rintro (hMem | hDash | hMem)
  · exact digits_plain processId hMem
  · exact absurd hDash (by decide)
  · exact digits_plain counter hMem

theorem commitRequestId_nonempty (processId counter : Nat) :
    utf8 (commitRequestId processId counter) ≠ [] := by
  rw [utf8, commitRequestId_toList, List.flatMap_append, List.flatMap_cons]
  intro hEmpty
  have hDash := (List.append_eq_nil_iff.mp (List.append_eq_nil_iff.mp hEmpty).2).1
  exact absurd hDash (by decide)

theorem fromCounter_plain (counter : Nat) : 0 ∉ utf8 (SessionId.fromCounter counter).value := by
  have hText : (SessionId.fromCounter counter).value.toList =
      "session-".toList ++ Nat.toDigits 10 counter := by
    simp only [SessionId.fromCounter, String.toList_append, Nat.toString_eq_repr, Nat.toList_repr]
    rfl
  rw [zero_mem_utf8, hText, List.mem_append]
  rintro (hMem | hMem)
  · exact absurd hMem (by decide)
  · exact digits_plain counter hMem

/-- For a request that is short enough to be sent: both datagrams are read as they were written,
and a commit that returns has committed its text, exactly where the text has no NUL. -/
theorem commit_text_iff (processId counter session : Nat) (text : String)
    (hFits : ∃ message, encodeMessage (commit2Parts (commitRequestId processId counter)
      (.fromCounter session) text) = .ok message) :
    (Agrees (commit2Parts (commitRequestId processId counter) (.fromCounter session) text) ∧
      Agrees (commitParts (.fromCounter session) text) ∧
      CommitsExactly (commitRequestId processId counter) (.fromCounter session) text) ↔
    '\x00' ∉ text.toList := by
  obtain ⟨message, hMessage⟩ := hFits
  have hRequest := commitRequestId_plain processId counter
  have hNonempty := commitRequestId_nonempty processId counter
  have hSession := fromCounter_plain session
  rw [← zero_mem_utf8]
  constructor
  · rintro ⟨hAgrees, -, -⟩
    exact plain_of_agrees hMessage hAgrees (utf8 text) (by simp)
  · intro hText
    have hAgrees : Agrees (commit2Parts (commitRequestId processId counter)
        (.fromCounter session) text) := by
      refine agrees_of_plain ?_
      simp only [List.forall_mem_cons]
      exact ⟨by decide, hRequest, hSession, hText, List.forall_mem_nil _⟩
    refine ⟨hAgrees, agrees_of_plain ?_, commitsExactly_of_agrees hNonempty hAgrees⟩
    simp only [List.forall_mem_cons]
    exact ⟨by decide, hSession, hText, List.forall_mem_nil _⟩

/-- A text with a NUL is cut there, and acknowledged all the same. -/
def cutText : String := "a\x00b"

def cutMessage : Bytes :=
  ascii "COMMIT2" ++ 0 :: ascii "7-1" ++ 0 :: ascii "session-1" ++ [0, 97, 0, 98]

def cutClient : Sender := ⟨ascii "fcitx-client-7-2.sock", 21⟩

def cutRun : List BridgeInput :=
  [.context (.created editor), .context (.focusIn 0), datagram ["ARM", "session-1"],
    .datagram cutMessage cutClient, .deferred]

def cutTransport : FcitxTransport where
  runtimeDir := .ok ()
  requestMessageAt exchange message :=
    if exchange = 0 ∧ message = cutMessage then .ok (dispatchedResponse (ascii "7-1"))
    else .error (VoxError.new .unavailable "fcitx.transport_failed" "timed out")

theorem cut_text_committed :
    encodeMessage (commit2Parts (commitRequestId 7 1) (.fromCounter 1) cutText) = .ok cutMessage ∧
      field cutMessage 3 = utf8 "a" ∧
      ¬ Agrees (commit2Parts (commitRequestId 7 1) (.fromCounter 1) cutText) ∧
      ¬ CommitsExactly (commitRequestId 7 1) (.fromCounter 1) cutText := by
  have hMessage : encodeMessage (commit2Parts (commitRequestId 7 1) (.fromCounter 1) cutText) =
      .ok cutMessage := by decide
  have hCut : field cutMessage 3 = utf8 "a" := by decide
  have hDiffers : utf8 "a" ≠ utf8 cutText := by decide
  refine ⟨hMessage, hCut, ?_, ?_⟩
  · intro hAgrees
    exact hDiffers (hCut.symm.trans (hAgrees cutMessage hMessage 3 _ rfl))
  · intro hExact
    have hExchange : Exchange cutTransport (· = cutClient) (utf8 (commitRequestId 7 1)) cutMessage
        cutRun := by
      have hDatagrams : ∀ other sender, .datagram other sender ∈ cutRun →
          (sender = client ∧ field other 0 = ascii "ARM") ∨
            (other = cutMessage ∧ sender = cutClient) := by
        intro other sender hMem
        simp only [cutRun, datagram, List.mem_cons, reduceCtorEq, BridgeInput.datagram.injEq,
          List.not_mem_nil, or_false, false_or] at hMem
        rcases hMem with ⟨rfl, rfl⟩ | ⟨rfl, rfl⟩
        · exact .inl ⟨rfl, by decide⟩
        · exact .inr ⟨rfl, rfl⟩
      constructor
      · intro other sender hMem hOwn
        rcases hDatagrams other sender hMem with ⟨hClient, -⟩ | ⟨hOther, -⟩
        · exact absurd (hClient.symm.trans hOwn) (by decide)
        · exact hOther
      · intro other sender hMem hCommand _
        rcases hDatagrams other sender hMem with ⟨-, hArm⟩ | ⟨hOther, -⟩
        · exact absurd (hArm.symm.trans hCommand) (by decide)
        · exact hOther
      · intro exchange response hResponse
        rw [cutTransport] at hResponse
        dsimp only at hResponse
        split at hResponse
        case isFalse => cases hResponse
        case isTrue =>
          cases hResponse
          exact ⟨dispatchedResponse (ascii "7-1"), cutClient, rfl, by decide, rfl⟩
    have hCommitted : .committed ⟨ascii "session-1", 0⟩ (some (utf8 (commitRequestId 7 1))) 0
        (utf8 "a") ∈ bridgeEffects (bridgeMachine.log cutRun) := by decide
    have hTexts := (hExact cutTransport _ cutMessage cutRun hMessage hExchange (by decide)).2
    exact hDiffers (hTexts _ _ _ hCommitted)

theorem commit_text_iff_greeting :
    (Agrees (commit2Parts (commitRequestId 7 1) (.fromCounter 1) "hi") ∧
      Agrees (commitParts (.fromCounter 1) "hi") ∧
      CommitsExactly (commitRequestId 7 1) (.fromCounter 1) "hi") ↔ '\x00' ∉ "hi".toList :=
  commit_text_iff 7 1 1 "hi" ⟨ascii "COMMIT2" ++ 0 :: ascii "7-1" ++ 0 :: ascii "session-1" ++
    [0, 104, 105], by decide⟩

end Requests

end VoxType.Fcitx
