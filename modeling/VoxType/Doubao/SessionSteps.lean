import VoxType.Doubao.Session
import VoxType.Library.Run

/-!
# What a call of the session can do

One constructor for each way in which a method can return; everything proved
about runs of a session comes from these.
-/

namespace VoxType.Doubao

set_option autoImplicit false

inductive SessionCall
  | startTask (token : String)
  | startSession (token : String) (sessionJson : Bytes)
  | audioRequest (timestampMillis : UInt64) (opusPacket : Bytes)
  | confirmAudioSent
  | markAudioWriteAmbiguous
  | finishAudio (timestampMillis : UInt64)
  | finishSession (token : String)
  | handleBinary (message : Bytes)
  | cancel
  deriving DecidableEq, Repr

inductive SessionReply
  | request (bytes : Bytes)
  | done
  | event (event : Option SessionEvent)
  | cancelled
  | error (error : SessionProtocolError)
  deriving DecidableEq, Repr

namespace DoubaoSessionProtocol

/-- How a method answers. -/
abbrev MethodOutcome (α : Type) : Type :=
  Effects.Outcome DoubaoSessionProtocol SessionProtocolError Empty α

def answer {α : Type} (reply : α → SessionReply) (outcome : MethodOutcome α) :
    SessionReply × DoubaoSessionProtocol :=
  match outcome.result with
  | .ok value => (reply value, outcome.state)
  | .error error => (.error error, outcome.state)

def call (fromSlice : Bytes → Option Json) (protocol : DoubaoSessionProtocol) :
    SessionCall → SessionReply × DoubaoSessionProtocol
  | .startTask token => answer .request ((startTask token).run protocol)
  | .startSession token sessionJson =>
    answer .request ((startSession fromSlice token sessionJson).run protocol)
  | .audioRequest timestampMillis opusPacket =>
    answer .request ((audioRequest timestampMillis opusPacket).run protocol)
  | .confirmAudioSent => answer (fun _ => .done) (confirmAudioSent.run protocol)
  | .markAudioWriteAmbiguous => answer (fun _ => .done) (markAudioWriteAmbiguous.run protocol)
  | .finishAudio timestampMillis => answer .request ((finishAudio timestampMillis).run protocol)
  | .finishSession token => answer .request ((finishSession token).run protocol)
  | .handleBinary message => answer .event ((handleBinary fromSlice message).run protocol)
  | .cancel => (.cancelled, protocol.cancel)

def Terminal (protocol : DoubaoSessionProtocol) : Prop :=
  protocol.phase = .finished ∨ protocol.phase = .failed ∨ protocol.phase = .cancelled

/-- The response is from this session and reports no failure. -/
structure Used (protocol : DoubaoSessionProtocol) (message : Bytes) (response : ResponseEnvelope) :
    Prop where
  decoded : decodeResponse message = .ok response
  requestId : response.requestId = protocol.requestId
  service : response.service = "" ∨ response.service = "ASR"
  statusCode : response.statusCode = 0

/-- The session takes recognition results. -/
def Receiving (protocol : DoubaoSessionProtocol) : Prop :=
  protocol.phase = .streaming ∨ protocol.phase = .finishing

def finalText (event : RecognitionEvent) : Option String :=
  if event.finalResult then event.text else none

/-- What a failing call leaves behind. -/
inductive Refused (protocol : DoubaoSessionProtocol) : DoubaoSessionProtocol → Prop
  | unreceived (h : protocol.Terminal ∨ protocol.phase = .disconnected) :
      Refused protocol protocol
  | failing : Refused protocol protocol.failing
  | emptyFinal (event : RecognitionEvent) (h : protocol.Receiving)
      (hFresh : protocol.isStale event = false) :
      Refused protocol (noting event protocol).failing

inductive Taken (fromSlice : Bytes → Option Json) (protocol : DoubaoSessionProtocol) :
    SessionCall → SessionReply → DoubaoSessionProtocol → Prop
  | startTask (token : String) (hPhase : protocol.phase = .disconnected) :
      Taken fromSlice protocol (.startTask token)
        (.request (encodeRequest token "StartTask" [] [] protocol.requestId none))
        { protocol with phase := .taskStarting }
  | startSession (token : String) (sessionJson : Bytes) (hPhase : protocol.phase = .taskStarted)
      (hLength : sessionJson.length ≤ maxSessionJsonBytes)
      (hObject : (fromSlice sessionJson).any Json.isObject) :
      Taken fromSlice protocol (.startSession token sessionJson)
        (.request (encodeRequest token "StartSession" sessionJson [] protocol.requestId none))
        { protocol with phase := .sessionStarting }
  | audioRequest (timestampMillis : UInt64) (opusPacket : Bytes)
      (hPhase : protocol.phase = .streaming) (hInput : protocol.inputState = .open)
      (hPacket : opusPacket ≠ []) (hLength : opusPacket.length ≤ maxOpusPacketBytes) :
      Taken fromSlice protocol (.audioRequest timestampMillis opusPacket)
        (.request (encodeRequest "" "TaskRequest" (timestampJson timestampMillis) opusPacket
          protocol.requestId
          (some (if protocol.sentAudioFrames = 0 then .first else .middle))))
        { protocol with inputState := .audioRequestPending }
  | confirmAudioSent (hPhase : protocol.phase = .streaming)
      (hInput : protocol.inputState = .audioRequestPending) :
      Taken fromSlice protocol .confirmAudioSent .done
        { protocol with
          inputState := .open
          sentAudioFrames := min (protocol.sentAudioFrames + 1) u64Max
          audioAcceptance := .possiblyAccepted }
  | markAudioWriteAmbiguous (hPhase : protocol.phase = .streaming)
      (hInput : protocol.inputState = .audioRequestPending) :
      Taken fromSlice protocol .markAudioWriteAmbiguous .done
        { protocol with audioAcceptance := .possiblyAccepted }
  | finishAudio (timestampMillis : UInt64) (hPhase : protocol.phase = .streaming)
      (hInput : protocol.inputState = .open) (hSent : protocol.sentAudioFrames ≠ 0) :
      Taken fromSlice protocol (.finishAudio timestampMillis)
        (.request (encodeRequest "" "TaskRequest" (timestampJson timestampMillis)
          (List.replicate lastFrameMarkerBytes 0) protocol.requestId (some .last)))
        { protocol with inputState := .finished }
  | finishSession (token : String) (hPhase : protocol.phase = .streaming)
      (hInput : protocol.inputState = .finished) :
      Taken fromSlice protocol (.finishSession token)
        (.request (encodeRequest token "FinishSession" [] [] protocol.requestId none))
        { protocol with phase := .finishing }
  | taskStarted (message : Bytes) (response : ResponseEnvelope)
      (hUsed : protocol.Used message response) (hPhase : protocol.phase = .taskStarting) :
      Taken fromSlice protocol (.handleBinary message) (.event (some .taskStarted))
        { protocol with
          taskId := if response.taskId = "" then protocol.taskId else some response.taskId
          phase := .taskStarted }
  | sessionStarted (message : Bytes) (response : ResponseEnvelope)
      (hUsed : protocol.Used message response) (hPhase : protocol.phase = .sessionStarting) :
      Taken fromSlice protocol (.handleBinary message) (.event (some .sessionStarted))
        { protocol with phase := .streaming }
  | sessionFinished (message : Bytes) (response : ResponseEnvelope)
      (hUsed : protocol.Used message response) (hPhase : protocol.phase = .finishing)
      (transcript : String) (hFinal : protocol.finalTranscript = some transcript) :
      Taken fromSlice protocol (.handleBinary message)
        (.event (some (.finished
          { transcript, taskId := protocol.taskId, sentAudioFrames := protocol.sentAudioFrames
            lastPacketNumber := protocol.lastPacketNumber
            providerVadStarted := protocol.providerVadStarted
            providerVadFinished := protocol.providerVadFinished })))
        { protocol with phase := .finished }
  | quiet (message : Bytes) (response : ResponseEnvelope) (hUsed : protocol.Used message response)
      (hPhase : ¬ protocol.Terminal) :
      Taken fromSlice protocol (.handleBinary message) (.event none) protocol
  | duplicate (message : Bytes) (response : ResponseEnvelope)
      (hUsed : protocol.Used message response) (hPhase : protocol.Receiving)
      (event : RecognitionEvent)
      (hEvent : parseRecognitionEvent fromSlice response = .ok (some event))
      (hStale : protocol.isStale event = true) :
      Taken fromSlice protocol (.handleBinary message) (.event (some .duplicateIgnored)) protocol
  | recognized (message : Bytes) (response : ResponseEnvelope)
      (hUsed : protocol.Used message response) (hPhase : protocol.Receiving)
      (event : RecognitionEvent)
      (hEvent : parseRecognitionEvent fromSlice response = .ok (some event))
      (hFresh : protocol.isStale event = false)
      (hText : event.finalResult = true → ∃ text, event.text = some text ∧
        RustText.isBlank text = false) :
      Taken fromSlice protocol (.handleBinary message) (.event (some (.recognition event)))
        { noting event protocol with
          finalTranscript := (finalText event).or protocol.finalTranscript }
  | cancelled : Taken fromSlice protocol .cancel .cancelled protocol.cancel
  | refused (call : SessionCall) (error : SessionProtocolError) (after : DoubaoSessionProtocol)
      (hCall : call ≠ .cancel) (h : protocol.Refused after) :
      Taken fromSlice protocol call (.error error) after

section Methods

open Effects (Call)

variable {protocol : DoubaoSessionProtocol} {α β : Type}

/-- The method fails and has changed nothing but the phase. -/
def Fails (method : Method α) (protocol : DoubaoSessionProtocol) : Prop :=
  ∃ error, method.run protocol = ⟨.error error, protocol.failing, []⟩

theorem failWithCategory_fails (category : ErrorCategory) (code message : String) :
    Fails (failWithCategory category code message : Method α) protocol :=
  ⟨_, rfl⟩

theorem fail_fails (code message : String) : Fails (fail code message : Method α) protocol :=
  ⟨_, rfl⟩

theorem failRemoteStatus_fails (statusCode : UInt64) :
    Fails (failRemoteStatus statusCode : Method α) protocol :=
  ⟨_, rfl⟩

theorem Fails.bind {method : Method α} (h : Fails method protocol) (f : α → Method β) :
    Fails (method >>= f) protocol := by
  obtain ⟨error, hRun⟩ := h
  exact ⟨error, Call.bind_error hRun f⟩

theorem requirePhase_run {expected : SessionPhase} (h : protocol.phase = expected)
    (code : String) : (requirePhase expected code).run protocol = ⟨.ok (), protocol, []⟩ := by
  rw [requirePhase, Call.get_bind, if_pos h]
  rfl

theorem requirePhase_fails {expected : SessionPhase} (h : protocol.phase ≠ expected)
    (code : String) : Fails (requirePhase expected code) protocol := by
  rw [Fails, requirePhase, Call.get_bind, if_neg h]
  exact fail_fails _ _

theorem requirePhase_bind {expected : SessionPhase} (h : protocol.phase = expected) (code : String)
    (f : Unit → Method β) :
    (requirePhase expected code >>= f).run protocol = (f ()).run protocol := by
  rw [Call.bind_ok (requirePhase_run h code), Call.after_nil]

theorem requireStreamingInput_bind (hPhase : protocol.phase = .streaming)
    (hInput : protocol.inputState ≠ .finished) (f : Unit → Method β) :
    (requireStreamingInput >>= f).run protocol = (f ()).run protocol := by
  have hRun : requireStreamingInput.run protocol = ⟨.ok (), protocol, []⟩ := by
    rw [requireStreamingInput, requirePhase_bind hPhase, Call.get_bind, if_neg hInput]
    rfl
  rw [Call.bind_ok hRun, Call.after_nil]

theorem requireStreamingInput_fails
    (h : ¬ (protocol.phase = .streaming ∧ protocol.inputState ≠ .finished)) :
    Fails requireStreamingInput protocol := by
  by_cases hPhase : protocol.phase = .streaming
  · have hInput : protocol.inputState = .finished := by
      by_contra hInput
      exact h ⟨hPhase, hInput⟩
    rw [Fails, requireStreamingInput, requirePhase_bind hPhase, Call.get_bind, if_pos hInput]
    exact fail_fails _ _
  · exact (requirePhase_fails hPhase _).bind _

end Methods

section Calls

open Effects (Call)

variable (fromSlice : Bytes → Option Json) (protocol : DoubaoSessionProtocol)

/-- The outcome of a call is one of those above. -/
def Answers {α : Type} (call : SessionCall) (reply : α → SessionReply) (outcome : MethodOutcome α) :
    Prop :=
  Taken fromSlice protocol call (answer reply outcome).1 (answer reply outcome).2

variable {fromSlice protocol} in
theorem Fails.answers {α : Type} {method : Method α} (h : Fails method protocol)
    {call : SessionCall} (hCall : call ≠ .cancel) (reply : α → SessionReply) :
    Answers fromSlice protocol call reply (method.run protocol) := by
  obtain ⟨error, hRun⟩ := h
  rw [Answers, answer, hRun]
  exact .refused call error _ hCall .failing

theorem startTask_taken (token : String) :
    Answers fromSlice protocol (.startTask token) .request ((startTask token).run protocol) := by
  by_cases hPhase : protocol.phase = .disconnected
  · rw [startTask, requirePhase_bind hPhase]
    exact .startTask token hPhase
  · exact ((requirePhase_fails hPhase _).bind _).answers (by nofun) _

theorem startSession_taken (token : String) (sessionJson : Bytes) :
    Answers fromSlice protocol (.startSession token sessionJson) .request
      ((startSession fromSlice token sessionJson).run protocol) := by
  by_cases hPhase : protocol.phase = .taskStarted
  · rw [startSession, requirePhase_bind hPhase]
    by_cases hJson : maxSessionJsonBytes < sessionJson.length ∨
        ¬ (fromSlice sessionJson).any Json.isObject
    · rw [if_pos hJson]
      exact (fail_fails _ _).answers (by nofun) _
    · rw [if_neg hJson]
      obtain ⟨hLength, hObject⟩ := not_or.mp hJson
      exact .startSession token sessionJson hPhase (Nat.le_of_not_lt hLength) (not_not.mp hObject)
  · exact ((requirePhase_fails hPhase _).bind _).answers (by nofun) _

theorem audioRequest_taken (timestampMillis : UInt64) (opusPacket : Bytes) :
    Answers fromSlice protocol (.audioRequest timestampMillis opusPacket) .request
      ((audioRequest timestampMillis opusPacket).run protocol) := by
  by_cases hOpen : protocol.phase = .streaming ∧ protocol.inputState ≠ .finished
  · rw [audioRequest, requireStreamingInput_bind hOpen.1 hOpen.2, Call.get_bind]
    cases hInput : protocol.inputState with
    | audioRequestPending =>
      rw [if_pos rfl]
      exact (fail_fails _ _).answers (by nofun) _
    | finished => exact absurd hInput hOpen.2
    | «open» =>
      rw [if_neg nofun]
      by_cases hPacket : opusPacket = [] ∨ maxOpusPacketBytes < opusPacket.length
      · rw [if_pos hPacket]
        exact (fail_fails _ _).answers (by nofun) _
      · rw [if_neg hPacket]
        obtain ⟨hNe, hLength⟩ := not_or.mp hPacket
        exact .audioRequest timestampMillis opusPacket hOpen.1 hInput hNe (Nat.le_of_not_lt hLength)
  · exact ((requireStreamingInput_fails hOpen).bind _).answers (by nofun) _

theorem confirmAudioSent_taken :
    Answers fromSlice protocol .confirmAudioSent (fun _ => .done) (confirmAudioSent.run protocol) := by
  by_cases hPhase : protocol.phase = .streaming
  · rw [confirmAudioSent, requirePhase_bind hPhase, Call.get_bind]
    by_cases hInput : protocol.inputState = .audioRequestPending
    · rw [if_neg (not_not.mpr hInput)]
      exact .confirmAudioSent hPhase hInput
    · rw [if_pos hInput]
      exact (fail_fails _ _).answers (by nofun) _
  · exact ((requirePhase_fails hPhase _).bind _).answers (by nofun) _

theorem markAudioWriteAmbiguous_taken :
    Answers fromSlice protocol .markAudioWriteAmbiguous (fun _ => .done)
      (markAudioWriteAmbiguous.run protocol) := by
  by_cases hPhase : protocol.phase = .streaming
  · rw [markAudioWriteAmbiguous, requirePhase_bind hPhase, Call.get_bind]
    by_cases hInput : protocol.inputState = .audioRequestPending
    · rw [if_neg (not_not.mpr hInput)]
      exact .markAudioWriteAmbiguous hPhase hInput
    · rw [if_pos hInput]
      exact (fail_fails _ _).answers (by nofun) _
  · exact ((requirePhase_fails hPhase _).bind _).answers (by nofun) _

theorem finishAudio_taken (timestampMillis : UInt64) :
    Answers fromSlice protocol (.finishAudio timestampMillis) .request
      ((finishAudio timestampMillis).run protocol) := by
  by_cases hOpen : protocol.phase = .streaming ∧ protocol.inputState ≠ .finished
  · rw [finishAudio, requireStreamingInput_bind hOpen.1 hOpen.2, Call.get_bind]
    cases hInput : protocol.inputState with
    | audioRequestPending =>
      rw [if_pos rfl]
      exact (fail_fails _ _).answers (by nofun) _
    | finished => exact absurd hInput hOpen.2
    | «open» =>
      rw [if_neg nofun]
      by_cases hSent : protocol.sentAudioFrames = 0
      · rw [if_pos hSent]
        exact (fail_fails _ _).answers (by nofun) _
      · rw [if_neg hSent]
        exact .finishAudio timestampMillis hOpen.1 hInput hSent
  · exact ((requireStreamingInput_fails hOpen).bind _).answers (by nofun) _

theorem finishSession_taken (token : String) :
    Answers fromSlice protocol (.finishSession token) .request ((finishSession token).run protocol) := by
  by_cases hPhase : protocol.phase = .streaming
  · rw [finishSession, requirePhase_bind hPhase, Call.get_bind]
    by_cases hInput : protocol.inputState = .finished
    · rw [if_neg (not_not.mpr hInput)]
      exact .finishSession token hPhase hInput
    · rw [if_pos hInput]
      exact (fail_fails _ _).answers (by nofun) _
  · exact ((requirePhase_fails hPhase _).bind _).answers (by nofun) _

variable {protocol}

theorem handleResult_taken {message : Bytes} {response : ResponseEnvelope}
    (hUsed : protocol.Used message response) (hPhase : ¬ protocol.Terminal) :
    Answers fromSlice protocol (.handleBinary message) .event
      ((handleResult fromSlice response).run protocol) := by
  rw [handleResult]
  by_cases hEmpty : response.resultJson = []
  · rw [if_pos hEmpty]
    exact .quiet message response hUsed hPhase
  · rw [if_neg hEmpty, Call.get_bind]
    by_cases hReceiving : protocol.phase ≠ .streaming ∧ protocol.phase ≠ .finishing
    · rw [if_pos hReceiving]
      exact (fail_fails _ _).answers (by nofun) _
    · have hReceiving' : protocol.Receiving := by
        by_contra hNot
        exact hReceiving (not_or.mp hNot)
      rw [if_neg hReceiving]
      cases hEvent : parseRecognitionEvent fromSlice response with
      | error error => exact (fail_fails _ _).answers (by nofun) _
      | ok parsed =>
        cases parsed with
        | none => exact .quiet message response hUsed hPhase
        | some event =>
          dsimp only
          cases hStale : protocol.isStale event with
          | true =>
            rw [if_pos rfl]
            exact .duplicate message response hUsed hReceiving' event hEvent hStale
          | false =>
            rw [if_neg Bool.false_ne_true, Call.modify_bind]
            have hKept := Taken.recognized message response hUsed hReceiving' event hEvent hStale
            cases hFinal : event.finalResult with
            | false =>
              have hRetain : (retainFinal event).run (noting event protocol) =
                  ⟨.ok (), noting event protocol, []⟩ := by
                rw [retainFinal, hFinal]
                rfl
              rw [Call.bind_ok hRetain]
              rw [finalText, hFinal] at hKept
              exact hKept nofun
            | true =>
              cases hText : event.text.filter fun text => !RustText.isBlank text with
              | none =>
                have hRetain : Fails (retainFinal event) (noting event protocol) := by
                  rw [Fails, retainFinal, hFinal, if_pos rfl, hText]
                  exact fail_fails _ _
                obtain ⟨error, hRun⟩ := hRetain
                rw [Call.bind_error hRun]
                exact .refused _ error _ nofun (.emptyFinal event hReceiving' hStale)
              | some text =>
                obtain ⟨hSome, hBlank⟩ := Option.filter_eq_some_iff.mp hText
                have hRetain : (retainFinal event).run (noting event protocol) =
                    ⟨.ok (), { noting event protocol with finalTranscript := some text }, []⟩ := by
                  rw [retainFinal, hFinal, if_pos rfl, hText]
                  rfl
                rw [Call.bind_ok hRetain]
                rw [finalText, hFinal, if_pos rfl, hSome] at hKept
                exact hKept fun _ => ⟨text, rfl, by simpa using hBlank⟩

theorem handleSessionFinished_taken {message : Bytes} {response : ResponseEnvelope}
    (hUsed : protocol.Used message response) :
    Answers fromSlice protocol (.handleBinary message) .event
      (handleSessionFinished.run protocol) := by
  by_cases hPhase : protocol.phase = .finishing
  · rw [handleSessionFinished, requirePhase_bind hPhase, Call.get_bind]
    cases hFinal : protocol.finalTranscript with
    | none => exact (fail_fails _ _).answers (by nofun) _
    | some transcript => exact .sessionFinished message response hUsed hPhase transcript hFinal
  · exact ((requirePhase_fails hPhase _).bind _).answers (by nofun) _

theorem handleMessage_taken {message : Bytes} {response : ResponseEnvelope}
    (hUsed : protocol.Used message response) (hPhase : ¬ protocol.Terminal) :
    Answers fromSlice protocol (.handleBinary message) .event
      ((handleMessage fromSlice response).run protocol) := by
  rw [handleMessage, Call.get_bind]
  split
  · split
    · exact (failWithCategory_fails _ _ _).answers (by nofun) _
    · exact (fail_fails _ _).answers (by nofun) _
  · exact (fail_fails _ _).answers (by nofun) _
  · by_cases hStarting : protocol.phase = .taskStarting
    · rw [requirePhase_bind hStarting, Call.modify_bind]
      exact .taskStarted message response hUsed hStarting
    · exact ((requirePhase_fails hStarting _).bind _).answers (by nofun) _
  · by_cases hStarting : protocol.phase = .sessionStarting
    · rw [requirePhase_bind hStarting, Call.modify_bind]
      exact .sessionStarted message response hUsed hStarting
    · exact ((requirePhase_fails hStarting _).bind _).answers (by nofun) _
  · exact handleSessionFinished_taken fromSlice hUsed
  · exact handleResult_taken fromSlice hUsed hPhase

theorem handleBinary_taken (message : Bytes) :
    Answers fromSlice protocol (.handleBinary message) .event
      ((handleBinary fromSlice message).run protocol) := by
  rw [handleBinary, Call.get_bind]
  split
  · rename_i hPhase
    refine .refused _ _ _ nofun (.unreceived ?_)
    rcases hPhase with hPhase | hPhase | hPhase | hPhase
    · exact .inl (.inl hPhase)
    · exact .inl (.inr (.inl hPhase))
    · exact .inl (.inr (.inr hPhase))
    · exact .inr hPhase
  · rename_i hPhase
    have hTerminal : ¬ protocol.Terminal := by
      rintro (h | h | h)
      · exact hPhase (.inl h)
      · exact hPhase (.inr (.inl h))
      · exact hPhase (.inr (.inr (.inl h)))
    cases hDecoded : decodeResponse message with
    | error halt => exact (fail_fails _ _).answers (by nofun) _
    | ok response =>
      dsimp only
      by_cases hId : response.requestId ≠ protocol.requestId
      · rw [if_pos hId]
        exact (fail_fails _ _).answers (by nofun) _
      · rw [if_neg hId]
        by_cases hService : response.service ≠ "" ∧ response.service ≠ "ASR"
        · rw [if_pos hService]
          exact (fail_fails _ _).answers (by nofun) _
        · rw [if_neg hService]
          by_cases hStatus : response.statusCode ≠ 0
          · rw [if_pos hStatus]
            split
            · exact (failWithCategory_fails _ _ _).answers (by nofun) _
            · exact (failRemoteStatus_fails _).answers (by nofun) _
          · rw [if_neg hStatus]
            have hUsed : protocol.Used message response :=
              ⟨hDecoded, not_not.mp hId, by
                by_contra hNot
                exact hService (not_or.mp hNot), not_not.mp hStatus⟩
            exact handleMessage_taken fromSlice hUsed hTerminal

theorem call_taken (protocol : DoubaoSessionProtocol) (call : SessionCall) :
    Taken fromSlice protocol call (protocol.call fromSlice call).1
      (protocol.call fromSlice call).2 := by
  cases call with
  | startTask token => exact startTask_taken fromSlice protocol token
  | startSession token sessionJson => exact startSession_taken fromSlice protocol token sessionJson
  | audioRequest timestampMillis opusPacket =>
    exact audioRequest_taken fromSlice protocol timestampMillis opusPacket
  | confirmAudioSent => exact confirmAudioSent_taken fromSlice protocol
  | markAudioWriteAmbiguous => exact markAudioWriteAmbiguous_taken fromSlice protocol
  | finishAudio timestampMillis => exact finishAudio_taken fromSlice protocol timestampMillis
  | finishSession token => exact finishSession_taken fromSlice protocol token
  | handleBinary message => exact handleBinary_taken fromSlice message
  | cancel => exact .cancelled

end Calls

end DoubaoSessionProtocol

/-- A session that answers to any calls. -/
def protocolMachine (fromSlice : Bytes → Option Json) (protocol : DoubaoSessionProtocol) :
    Transition.Machine DoubaoSessionProtocol SessionCall SessionReply where
  start := protocol
  step := DoubaoSessionProtocol.call fromSlice

end VoxType.Doubao
