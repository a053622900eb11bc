import VoxType.Doubao.Outgoing

/-!
# How a session completes

A session finishes at most once, after everything that has to come first, with
the text of the last final result it accepted.
-/

namespace VoxType.Doubao

set_option autoImplicit false

open DoubaoSessionProtocol

def recognizedIn : SessionCall × SessionReply → Option RecognitionEvent
  | (_, .event (some (.recognition event))) => some event
  | _ => none

/-- The results that were accepted, in order. -/
def accepted (log : SessionLog) : List RecognitionEvent := log.filterMap recognizedIn

/-- The last final result that was accepted. -/
def lastFinal (log : SessionLog) : Option RecognitionEvent :=
  ((accepted log).filter fun event => event.finalResult).getLast?

def finishedIn : SessionCall × SessionReply → Option SessionOutcome
  | (_, .event (some (.finished outcome))) => some outcome
  | _ => none

def outcomes (log : SessionLog) : List SessionOutcome := log.filterMap finishedIn

def TaskSeen (log : SessionLog) : Prop :=
  ∃ message, (.handleBinary message, .event (some .taskStarted)) ∈ log

def SessionSeen (log : SessionLog) : Prop :=
  ∃ message, (.handleBinary message, .event (some .sessionStarted)) ∈ log

def FrameConfirmed (log : SessionLog) : Prop := (.confirmAudioSent, .done) ∈ log

def MarkerBuilt (log : SessionLog) : Prop :=
  ∃ timestampMillis bytes, (.finishAudio timestampMillis, .request bytes) ∈ log

def FinishBuilt (log : SessionLog) : Prop :=
  ∃ token bytes, (.finishSession token, .request bytes) ∈ log

/-- What must come before a session finishes. -/
structure Prepared (log : SessionLog) : Prop where
  task : TaskSeen log
  session : SessionSeen log
  frame : FrameConfirmed log
  marker : MarkerBuilt log
  finish : FinishBuilt log

/-- What is behind a session in a phase. -/
def Reached (log : SessionLog) : SessionPhase → Prop
  | .taskStarted | .sessionStarting => TaskSeen log
  | .streaming => TaskSeen log ∧ SessionSeen log
  | .finishing | .finished => Prepared log
  | _ => True

structure Milestones (log : SessionLog) (protocol : DoubaoSessionProtocol) : Prop where
  phase : Reached log protocol.phase
  frame : protocol.sentAudioFrames ≠ 0 → FrameConfirmed log
  marker : protocol.inputState = .finished → FrameConfirmed log ∧ MarkerBuilt log

structure Texts (log : SessionLog) (protocol : DoubaoSessionProtocol) : Prop where
  final : protocol.finalTranscript = (lastFinal log).bind RecognitionEvent.text
  nonblank : ∀ text, protocol.finalTranscript = some text → RustText.isBlank text = false
  packets : ∀ event ∈ accepted log, ∀ packet, event.packetNumber = some packet →
    ∃ last, protocol.lastPacketNumber = some last ∧ packet ≤ last

section Steps

variable {log : SessionLog} {entry : SessionCall × SessionReply}

theorem Prepared.mono (h : Prepared log) (more : SessionLog) : Prepared (log ++ more) where
  task := h.task.imp fun _ => List.mem_append_left more
  session := h.session.imp fun _ => List.mem_append_left more
  frame := List.mem_append_left more h.frame
  marker := h.marker.imp fun _ => Exists.imp fun _ => List.mem_append_left more
  finish := h.finish.imp fun _ => Exists.imp fun _ => List.mem_append_left more

theorem Reached.mono {phase : SessionPhase} (h : Reached log phase) (more : SessionLog) :
    Reached (log ++ more) phase := by
  cases phase with
  | taskStarted | sessionStarting => exact h.imp fun _ => List.mem_append_left more
  | streaming =>
    exact ⟨h.1.imp fun _ => List.mem_append_left more, h.2.imp fun _ => List.mem_append_left more⟩
  | finishing | finished => exact Prepared.mono h more
  | disconnected | taskStarting | failed | cancelled => trivial

namespace Milestones

variable {protocol after : DoubaoSessionProtocol}

theorem mono (h : Milestones log protocol) (more : SessionLog) :
    Milestones (log ++ more) protocol where
  phase := h.phase.mono more
  frame hSent := List.mem_append_left more (h.frame hSent)
  marker hInput := ⟨List.mem_append_left more (h.marker hInput).1,
    (h.marker hInput).2.imp fun _ => Exists.imp fun _ => List.mem_append_left more⟩

/-- The milestones depend on the phase and the input only. -/
theorem congr (h : Milestones log protocol) (hPhase : Reached log after.phase)
    (hInput : after.inputState = protocol.inputState)
    (hSent : after.sentAudioFrames = protocol.sentAudioFrames) : Milestones log after where
  phase := hPhase
  frame hNonzero := h.frame (hSent ▸ hNonzero)
  marker hFinished := h.marker (hInput ▸ hFinished)

theorem failing (h : Milestones log protocol) : Milestones log protocol.failing := by
  rw [DoubaoSessionProtocol.failing]
  split
  · exact h.congr trivial rfl rfl
  · exact h

theorem cancel (h : Milestones log protocol) : Milestones log protocol.cancel := by
  rw [DoubaoSessionProtocol.cancel]
  split
  · exact h.congr trivial rfl rfl
  · exact h

theorem refused (h : Milestones log protocol) (hRefused : protocol.Refused after) :
    Milestones log after := by
  cases hRefused with
  | unreceived => exact h
  | failing => exact h.failing
  | emptyFinal event =>
    have hNoting : Milestones log (noting event protocol) := h.congr h.phase rfl rfl
    exact hNoting.failing

theorem step (h : Milestones log protocol) {fromSlice : Bytes → Option Json} {call : SessionCall}
    {reply : SessionReply} (hTaken : Taken fromSlice protocol call reply after) :
    Milestones (log ++ [(call, reply)]) after := by
  have hMore := h.mono [(call, reply)]
  have hLast : (call, reply) ∈ log ++ [(call, reply)] :=
    List.mem_append_right _ (List.mem_singleton_self _)
  have hReached := hMore.phase
  cases hTaken with
  | startTask => exact hMore.congr trivial rfl rfl
  | startSession token sessionJson hPhase =>
    rw [hPhase] at hReached
    exact hMore.congr hReached rfl rfl
  | audioRequest timestampMillis opusPacket hPhase hInput => exact ⟨hReached, hMore.frame, nofun⟩
  | confirmAudioSent hPhase hInput => exact ⟨hReached, fun _ => hLast, nofun⟩
  | markAudioWriteAmbiguous => exact hMore.congr hReached rfl rfl
  | finishAudio timestampMillis hPhase hInput hSent =>
    exact ⟨hReached, hMore.frame, fun _ => ⟨hMore.frame hSent, _, _, hLast⟩⟩
  | finishSession token hPhase hInput =>
    rw [hPhase] at hReached
    obtain ⟨hFrame, hMarker⟩ := hMore.marker hInput
    exact ⟨⟨hReached.1, hReached.2, hFrame, hMarker, _, _, hLast⟩, hMore.frame, hMore.marker⟩
  | taskStarted message => exact hMore.congr ⟨message, hLast⟩ rfl rfl
  | sessionStarted message response hUsed hPhase =>
    rw [hPhase] at hReached
    exact ⟨⟨hReached, message, hLast⟩, hMore.frame, hMore.marker⟩
  | sessionFinished message response hUsed hPhase =>
    rw [hPhase] at hReached
    exact hMore.congr hReached rfl rfl
  | quiet | duplicate => exact hMore
  | recognized => exact hMore.congr hReached rfl rfl
  | cancelled => exact hMore.cancel
  | refused call error after hCall hRefused => exact hMore.refused hRefused

end Milestones

theorem accepted_append (left right : SessionLog) :
    accepted (left ++ right) = accepted left ++ accepted right :=
  List.filterMap_append

theorem outcomes_append (left right : SessionLog) :
    outcomes (left ++ right) = outcomes left ++ outcomes right :=
  List.filterMap_append

namespace Texts

variable {protocol after : DoubaoSessionProtocol}

/-- An entry that is no accepted result keeps the texts. -/
theorem keep (h : Texts log protocol) (hEntry : recognizedIn entry = none)
    (hFinal : after.finalTranscript = protocol.finalTranscript)
    (hPackets : ∀ last, protocol.lastPacketNumber = some last →
      ∃ last', after.lastPacketNumber = some last' ∧ last ≤ last') :
    Texts (log ++ [entry]) after := by
  have hAccepted : accepted (log ++ [entry]) = accepted log := by
    rw [accepted_append, accepted, accepted, List.filterMap_cons_none hEntry, List.filterMap_nil,
      List.append_nil]
  refine ⟨?_, ?_, ?_⟩
  · rw [hFinal, h.final, lastFinal, lastFinal, hAccepted]
  · rw [hFinal]
    exact h.nonblank
  · intro event hEvent packet hPacket
    obtain ⟨last, hLast, hLe⟩ := h.packets event (hAccepted ▸ hEvent) packet hPacket
    obtain ⟨last', hLast', hLe'⟩ := hPackets last hLast
    exact ⟨last', hLast', UInt64.le_trans hLe hLe'⟩

theorem keep_same (h : Texts log protocol) (hEntry : recognizedIn entry = none)
    (hFinal : after.finalTranscript = protocol.finalTranscript)
    (hPacket : after.lastPacketNumber = protocol.lastPacketNumber) :
    Texts (log ++ [entry]) after :=
  h.keep hEntry hFinal fun last hLast => ⟨last, hPacket.trans hLast, UInt64.le_refl last⟩

/-- An event that is not stale does not lower the packet number. -/
theorem noting_packet {event : RecognitionEvent} (hFresh : protocol.isStale event = false)
    {last : UInt64} (hLast : protocol.lastPacketNumber = some last) :
    ∃ last', (noting event protocol).lastPacketNumber = some last' ∧ last ≤ last' := by
  cases hPacket : event.packetNumber with
  | none => exact ⟨last, by rw [noting, hPacket]; exact hLast, UInt64.le_refl last⟩
  | some packet =>
    refine ⟨packet, by rw [noting, hPacket]; rfl, ?_⟩
    rw [isStale, hPacket, hLast] at hFresh
    exact UInt64.le_of_lt (UInt64.not_le.mp (of_decide_eq_false hFresh))

theorem failing_texts (protocol : DoubaoSessionProtocol) :
    protocol.failing.finalTranscript = protocol.finalTranscript ∧
      protocol.failing.lastPacketNumber = protocol.lastPacketNumber := by
  rw [failing]
  split <;> exact ⟨rfl, rfl⟩

theorem step (h : Texts log protocol) {fromSlice : Bytes → Option Json} {call : SessionCall}
    {reply : SessionReply} (hTaken : Taken fromSlice protocol call reply after) :
    Texts (log ++ [(call, reply)]) after := by
  cases hTaken with
  | cancelled =>
    rw [cancel]
    split <;> exact h.keep_same rfl rfl rfl
  | refused call error after hCall hRefused =>
    cases hRefused with
    | unreceived => exact h.keep_same rfl rfl rfl
    | failing => exact h.keep_same rfl (failing_texts _).1 (failing_texts _).2
    | emptyFinal event hReceiving hFresh =>
      obtain ⟨hFinal, hPacket⟩ := failing_texts (noting event protocol)
      refine h.keep rfl hFinal ?_
      rw [hPacket]
      exact fun last => noting_packet hFresh
  | recognized message response hUsed hPhase event hEvent hFresh hText =>
    have hAccepted : accepted (log ++ [(.handleBinary message, .event (some (.recognition event)))]) =
        accepted log ++ [event] := accepted_append log _
    refine ⟨?_, ?_, ?_⟩
    · rw [lastFinal, hAccepted, List.filter_append]
      cases hFinal : event.finalResult with
      | false =>
        rw [List.filter_cons_of_neg (by rw [hFinal]; exact Bool.false_ne_true), List.filter_nil,
          List.append_nil, finalText, hFinal, if_neg Bool.false_ne_true]
        exact h.final
      | true =>
        obtain ⟨text, hSome, _⟩ := hText hFinal
        rw [List.filter_cons_of_pos hFinal, List.filter_nil, List.getLast?_concat, finalText,
          if_pos hFinal, hSome]
        exact hSome.symm
    · intro text hSome
      cases hFinal : event.finalResult with
      | false =>
        rw [finalText, hFinal] at hSome
        exact h.nonblank text hSome
      | true =>
        obtain ⟨text', hText', hBlank⟩ := hText hFinal
        rw [finalText, hFinal, if_pos rfl, hText'] at hSome
        cases hSome
        exact hBlank
    · intro earlier hEarlier packet hPacket
      rw [hAccepted] at hEarlier
      rcases List.mem_append.mp hEarlier with hEarlier | hEarlier
      · obtain ⟨last, hLast, hLe⟩ := h.packets earlier hEarlier packet hPacket
        obtain ⟨last', hLast', hLe'⟩ := noting_packet hFresh hLast
        exact ⟨last', hLast', UInt64.le_trans hLe hLe'⟩
      · rw [List.mem_singleton] at hEarlier
        subst hEarlier
        exact ⟨packet, by rw [noting, hPacket]; rfl, UInt64.le_refl packet⟩
  | _ => exact h.keep_same rfl rfl rfl

end Texts

theorem terminal_failing {protocol : DoubaoSessionProtocol} : protocol.failing.Terminal := by
  rw [failing]
  split
  · exact .inr (.inl rfl)
  · rename_i hPhase
    exact .inr (.inr (not_not.mp hPhase))

/-- A session that has ended stays so, and only refuses. -/
theorem terminal_step {protocol after : DoubaoSessionProtocol} (h : protocol.Terminal)
    {fromSlice : Bytes → Option Json} {call : SessionCall} {reply : SessionReply}
    (hTaken : Taken fromSlice protocol call reply after) :
    after.Terminal ∧ ((call = .cancel ∧ reply = .cancelled) ∨ ∃ error, reply = .error error) := by
  have hEnded : ∀ phase, protocol.phase = phase →
      phase = .finished ∨ phase = .failed ∨ phase = .cancelled := by
    rintro phase rfl
    exact h
  have hReceiving : ¬ protocol.Receiving := by
    rintro (hPhase | hPhase) <;> exact absurd (hEnded _ hPhase) (by decide)
  cases hTaken with
  | cancelled =>
    refine ⟨?_, .inl ⟨rfl, rfl⟩⟩
    rw [cancel]
    split
    · exact .inr (.inr rfl)
    · exact h
  | refused call error after hCall hRefused =>
    refine ⟨?_, .inr ⟨error, rfl⟩⟩
    cases hRefused with
    | unreceived => exact h
    | failing => exact terminal_failing
    | emptyFinal => exact terminal_failing
  | quiet message response hUsed hPhase => exact absurd h hPhase
  | duplicate message response hUsed hPhase => exact absurd hPhase hReceiving
  | recognized message response hUsed hPhase => exact absurd hPhase hReceiving
  | startTask | startSession | audioRequest | confirmAudioSent | markAudioWriteAmbiguous
  | finishAudio | finishSession | taskStarted | sessionStarted | sessionFinished =>
    exact absurd (hEnded _ ‹protocol.phase = _›) (by decide)

/-- At most one outcome, and none while the session goes on. -/
def Once (log : SessionLog) (protocol : DoubaoSessionProtocol) : Prop :=
  outcomes log = [] ∨ ((outcomes log).length = 1 ∧ protocol.Terminal)

theorem once_step {protocol after : DoubaoSessionProtocol} (h : Once log protocol)
    {fromSlice : Bytes → Option Json} {call : SessionCall} {reply : SessionReply}
    (hTaken : Taken fromSlice protocol call reply after) : Once (log ++ [(call, reply)]) after := by
  rw [Once, outcomes_append]
  rcases h with hNone | ⟨hOne, hTerminal⟩
  · rw [hNone, List.nil_append]
    cases hTaken with
    | sessionFinished => exact .inr ⟨rfl, .inl rfl⟩
    | refused call error after => exact .inl (by cases call <;> rfl)
    | _ => exact .inl rfl
  · obtain ⟨hAfter, ⟨rfl, rfl⟩ | ⟨error, rfl⟩⟩ := terminal_step hTerminal hTaken
    · exact .inr ⟨by rw [List.length_append, hOne]; rfl, hAfter⟩
    · refine .inr ⟨?_, hAfter⟩
      rw [List.length_append, hOne]
      cases call <;> rfl

end Steps

section Runs

variable {requestId : String} {protocol : DoubaoSessionProtocol}
  (fromSlice : Bytes → Option Json)

structure SessionHistory (requestId : String) (log : SessionLog) (protocol : DoubaoSessionProtocol) :
    Prop where
  requestId : protocol.requestId = requestId
  milestones : Milestones log protocol
  texts : Texts log protocol
  once : Once log protocol

theorem session_history (hNew : DoubaoSessionProtocol.new requestId = .ok protocol)
    (calls : List SessionCall) :
    SessionHistory requestId ((protocolMachine fromSlice protocol).log calls)
      ((protocolMachine fromSlice protocol).state calls) := by
  refine (protocolMachine fromSlice protocol).invariant ?_ ?_ calls
  · rw [new_eq hNew]
    exact ⟨rfl, ⟨trivial, fun hSent => absurd rfl hSent, nofun⟩, ⟨rfl, nofun, nofun⟩, .inl rfl⟩
  · intro log protocol call h
    have hTaken := call_taken fromSlice protocol call
    exact ⟨hTaken.requestId.trans h.requestId, h.milestones.step hTaken, h.texts.step hTaken,
      once_step h.once hTaken⟩

/-- What the session says when it finishes has been prepared. -/
theorem finished_prepared {log : SessionLog} {state : DoubaoSessionProtocol}
    (h : SessionHistory requestId log state) {call : SessionCall} {outcome : SessionOutcome}
    (hReply : (state.call fromSlice call).1 = .event (some (.finished outcome))) :
    Prepared log ∧ RustText.isBlank outcome.transcript = false ∧
      ∃ event, lastFinal log = some event ∧ event.text = some outcome.transcript := by
  have hTaken := call_taken fromSlice state call
  rw [hReply] at hTaken
  generalize (state.call fromSlice call).2 = after at hTaken
  cases hTaken with
  | sessionFinished message response hUsed hPhase transcript hFinal =>
    have hReached := h.milestones.phase
    rw [hPhase] at hReached
    refine ⟨hReached, h.texts.nonblank transcript hFinal, ?_⟩
    rw [h.texts.final] at hFinal
    exact Option.bind_eq_some_iff.mp hFinal

/-- A response that is answered was from this session and reported no failure. -/
theorem answered_used {state : DoubaoSessionProtocol} {message : Bytes}
    {event : Option SessionEvent}
    (hReply : (state.call fromSlice (.handleBinary message)).1 = .event event) :
    ∃ response, state.Used message response := by
  have hTaken := call_taken fromSlice state (.handleBinary message)
  rw [hReply] at hTaken
  generalize (state.call fromSlice (.handleBinary message)).2 = after at hTaken
  cases hTaken with
  | taskStarted _ response hUsed => exact ⟨response, hUsed⟩
  | sessionStarted _ response hUsed => exact ⟨response, hUsed⟩
  | sessionFinished _ response hUsed => exact ⟨response, hUsed⟩
  | quiet _ response hUsed => exact ⟨response, hUsed⟩
  | duplicate _ response hUsed => exact ⟨response, hUsed⟩
  | recognized _ response hUsed => exact ⟨response, hUsed⟩

theorem ended_refuses {state : DoubaoSessionProtocol} (h : state.Terminal)
    (calls : List SessionCall) :
    ∀ entry ∈ ((protocolMachine fromSlice protocol).runFrom state calls).1, entry.1 ≠ .cancel →
      ∃ error, entry.2 = .error error := by
  induction calls generalizing state with
  | nil =>
    intro entry hEntry
    cases hEntry
  | cons call calls ih =>
    obtain ⟨hAfter, hReply⟩ := terminal_step h (call_taken fromSlice state call)
    intro entry hEntry hCall
    rcases List.mem_cons.mp hEntry with rfl | hEntry
    · rcases hReply with ⟨rfl, _⟩ | hError
      · exact absurd rfl hCall
      · exact hError
    · exact ih hAfter entry hEntry hCall

/-- The types of the messages that are not results. -/
def lifecycleTypes : List String :=
  ["TaskFailed", "SessionFailed", "TaskStarted", "SessionStarted", "SessionFinished"]

/-- A result that is accepted is newer than those accepted before. -/
theorem recognition_newer {log : SessionLog} {state : DoubaoSessionProtocol}
    (h : SessionHistory requestId log state) {call : SessionCall} {event : RecognitionEvent}
    (hReply : (state.call fromSlice call).1 = .event (some (.recognition event))) :
    ∀ earlier ∈ accepted log, ∀ previous packet, earlier.packetNumber = some previous →
      event.packetNumber = some packet → previous < packet := by
  intro earlier hEarlier previous packet hPrevious hPacket
  obtain ⟨last, hLast, hLe⟩ := h.texts.packets earlier hEarlier previous hPrevious
  have hTaken := call_taken fromSlice state call
  rw [hReply] at hTaken
  generalize (state.call fromSlice call).2 = after at hTaken
  cases hTaken with
  | recognized _ _ _ _ _ _ hFresh =>
    rw [isStale, hPacket, hLast] at hFresh
    exact UInt64.lt_of_le_of_lt hLe (UInt64.not_le.mp (of_decide_eq_false hFresh))

/-- A result that is not newer than an accepted one is ignored. -/
theorem stale_ignored {log : SessionLog} {state : DoubaoSessionProtocol}
    (h : SessionHistory requestId log state) {message : Bytes} {response : ResponseEnvelope}
    (hUsed : state.Used message response) (hReceiving : state.Receiving)
    (hType : response.messageType ∉ lifecycleTypes) {event : RecognitionEvent}
    (hEvent : parseRecognitionEvent fromSlice response = .ok (some event))
    {earlier : RecognitionEvent} (hEarlier : earlier ∈ accepted log) {previous packet : UInt64}
    (hPrevious : earlier.packetNumber = some previous)
    (hPacket : event.packetNumber = some packet) (hStale : packet ≤ previous) :
    state.call fromSlice (.handleBinary message) =
      (.event (some .duplicateIgnored), state) := by
  have hIsStale : state.isStale event = true := by
    obtain ⟨last, hLast, hLe⟩ := h.texts.packets earlier hEarlier previous hPrevious
    rw [isStale, hPacket, hLast]
    exact decide_eq_true (UInt64.le_trans hStale hLe)
  have hResult : response.resultJson ≠ [] := by
    intro hEmpty
    rw [parseRecognitionEvent, if_pos hEmpty] at hEvent
    cases hEvent
  have hPhase : ¬ (state.phase = .finished ∨ state.phase = .failed ∨ state.phase = .cancelled ∨
      state.phase = .disconnected) := by
    rcases hReceiving with hPhase | hPhase <;> rw [hPhase] <;> decide
  have hPhase' : ¬ (state.phase ≠ .streaming ∧ state.phase ≠ .finishing) := by
    rcases hReceiving with hPhase | hPhase <;> rw [hPhase] <;> decide
  have hService : ¬ (response.service ≠ "" ∧ response.service ≠ "ASR") := by
    rcases hUsed.service with hService | hService <;> rw [hService] <;> decide
  have hHandled : (handleResult fromSlice response).run state =
      ⟨.ok (some .duplicateIgnored), state, []⟩ := by
    rw [handleResult, if_neg hResult, Effects.Call.get_bind, if_neg hPhase', hEvent]
    dsimp only
    rw [if_pos hIsStale]
    rfl
  have hRun : (handleBinary fromSlice message).run state =
      ⟨.ok (some .duplicateIgnored), state, []⟩ := by
    rw [handleBinary, Effects.Call.get_bind, if_neg hPhase, hUsed.decoded]
    dsimp only
    rw [if_neg (not_not.mpr hUsed.requestId), if_neg hService,
      if_neg (not_not.mpr hUsed.statusCode), handleMessage, Effects.Call.get_bind]
    rw [lifecycleTypes] at hType
    split
    case h_6 => exact hHandled
    all_goals
      rename_i hMessage
      rw [hMessage] at hType
      exact absurd (by decide) hType
  rw [call, hRun]
  rfl

/-- A session completes at most once and only when everything is in place; stale results change
nothing, foreign responses are not used, and an ended session stays ended. -/
theorem completes_safely (hNew : DoubaoSessionProtocol.new requestId = .ok protocol)
    (calls : List SessionCall) :
    (outcomes ((protocolMachine fromSlice protocol).log calls)).length ≤ 1 ∧
    (∀ before call outcome later, (protocolMachine fromSlice protocol).log calls =
        before ++ (call, .event (some (.finished outcome))) :: later →
      Prepared before ∧ RustText.isBlank outcome.transcript = false ∧
        ∃ event, lastFinal before = some event ∧ event.text = some outcome.transcript) ∧
    (∀ before call event later, (protocolMachine fromSlice protocol).log calls =
        before ++ (call, .event (some (.recognition event))) :: later →
      ∀ earlier ∈ accepted before, ∀ previous packet, earlier.packetNumber = some previous →
        event.packetNumber = some packet → previous < packet) ∧
    (∀ message response event, ∀ earlier ∈ accepted ((protocolMachine fromSlice protocol).log calls),
      ∀ previous packet, ((protocolMachine fromSlice protocol).state calls).Used message response →
        ((protocolMachine fromSlice protocol).state calls).Receiving →
        response.messageType ∉ lifecycleTypes →
        parseRecognitionEvent fromSlice response = .ok (some event) →
        earlier.packetNumber = some previous → event.packetNumber = some packet →
        packet ≤ previous →
        ((protocolMachine fromSlice protocol).state calls).call fromSlice (.handleBinary message) =
          (.event (some .duplicateIgnored), (protocolMachine fromSlice protocol).state calls)) ∧
    (∀ message event, (.handleBinary message, .event event) ∈
        (protocolMachine fromSlice protocol).log calls →
      ∃ response, decodeResponse message = .ok response ∧ response.requestId = requestId ∧
        (response.service = "" ∨ response.service = "ASR") ∧ response.statusCode = 0) ∧
    (∀ more, ((protocolMachine fromSlice protocol).state calls).Terminal →
      ∀ entry ∈ ((protocolMachine fromSlice protocol).runFrom
          ((protocolMachine fromSlice protocol).state calls) more).1,
        entry.1 ≠ .cancel → ∃ error, entry.2 = .error error) := by
  have hHistory := session_history fromSlice hNew
  refine ⟨?_, ?_, ?_, ?_, ?_, ?_⟩
  · rcases (hHistory calls).once with hNone | ⟨hOne, _⟩
    · rw [hNone]
      exact Nat.zero_le 1
    · exact hOne.le
  · intro before call outcome later hLog
    obtain ⟨pre, call', post, _, rfl, hEntry⟩ :=
      (protocolMachine fromSlice protocol).log_split hLog
    obtain ⟨rfl, hReply⟩ := Prod.mk.inj hEntry
    exact finished_prepared fromSlice (hHistory pre) hReply.symm
  · intro before call event later hLog
    obtain ⟨pre, call', post, _, rfl, hEntry⟩ :=
      (protocolMachine fromSlice protocol).log_split hLog
    obtain ⟨rfl, hReply⟩ := Prod.mk.inj hEntry
    exact recognition_newer fromSlice (hHistory pre) hReply.symm
  · intro message response event earlier hEarlier previous packet hUsed hReceiving hType hEvent
      hPrevious hPacket hStale
    exact stale_ignored fromSlice (hHistory calls) hUsed hReceiving hType hEvent hEarlier hPrevious
      hPacket hStale
  · intro message event hMem
    obtain ⟨before, later, hLog⟩ := List.append_of_mem hMem
    obtain ⟨pre, call', post, _, rfl, hEntry⟩ :=
      (protocolMachine fromSlice protocol).log_split hLog
    obtain ⟨rfl, hReply⟩ := Prod.mk.inj hEntry
    obtain ⟨response, hUsed⟩ := answered_used fromSlice hReply.symm
    exact ⟨response, hUsed.decoded, hUsed.requestId.trans (hHistory pre).requestId,
      hUsed.service, hUsed.statusCode⟩
  · exact fun more hTerminal => ended_refuses fromSlice hTerminal more

end Runs

/-- Every text reads as one final result. -/
def finalGreeting (_ : Bytes) : Option Json :=
  some (.object [("results", .array [.object [("text", .string "hi"), ("is_interim", .bool false),
    ("is_vad_finished", .bool true)]])])

def greeting : List SessionCall :=
  opening ++ frame ++ [.finishAudio 20, .handleBinary (writeBytes (response "r" "Result") 7 [0]),
    .finishSession "t"]

theorem completes_safely_greeting :
    Prepared ((protocolMachine finalGreeting (idle "r")).log greeting) ∧
      RustText.isBlank "hi" = false ∧
      ∃ event, lastFinal ((protocolMachine finalGreeting (idle "r")).log greeting) = some event ∧
        event.text = some "hi" := by
  have hNew : DoubaoSessionProtocol.new "r" = .ok (idle "r") := by decide +kernel
  exact (completes_safely finalGreeting hNew
    (greeting ++ [.handleBinary (response "r" "SessionFinished")])).2.1 _
    (.handleBinary (response "r" "SessionFinished")) ⟨"hi", none, 1, none, false, true⟩ []
    (by decide +kernel)

end VoxType.Doubao
