import VoxType.Core.Provider
import VoxType.Core.Session
import VoxType.Doubao.Recognition
import VoxType.Library.Effects

/-!
# The provider session

The lifecycle of one session, without the socket. `fromSlice` reads JSON text.
-/

namespace VoxType.Doubao

set_option autoImplicit false

def maxRequestIdBytes : Nat := 128

def maxSessionJsonBytes : Nat := 256 * 1024

def maxOpusPacketBytes : Nat := 1275

def lastFrameMarkerBytes : Nat := 100

inductive SessionPhase
  | disconnected
  | taskStarting
  | taskStarted
  | sessionStarting
  | streaming
  | finishing
  | finished
  | failed
  | cancelled
  deriving DecidableEq, Repr

inductive InputState
  | «open»
  | audioRequestPending
  | finished
  deriving DecidableEq, Repr

structure SessionOutcome where
  transcript : String
  taskId : Option String
  sentAudioFrames : Nat
  lastPacketNumber : Option UInt64
  providerVadStarted : Bool
  providerVadFinished : Bool
  deriving DecidableEq, Repr

inductive SessionEvent
  | taskStarted
  | sessionStarted
  | recognition (event : RecognitionEvent)
  | duplicateIgnored
  | finished (outcome : SessionOutcome)
  deriving DecidableEq, Repr

structure SessionProtocolError where
  category : ErrorCategory
  code : String
  message : String
  statusCode : Option UInt64
  deriving DecidableEq, Repr

namespace SessionProtocolError

def withCategory (category : ErrorCategory) (code message : String) : SessionProtocolError :=
  { category, code, message, statusCode := none }

def new (code message : String) : SessionProtocolError := withCategory .protocol code message

def withStatus (category : ErrorCategory) (code message : String) (statusCode : UInt64) :
    SessionProtocolError :=
  { category, code, message, statusCode := some statusCode }

end SessionProtocolError

structure DoubaoSessionProtocol where
  requestId : String
  phase : SessionPhase
  taskId : Option String
  sentAudioFrames : Nat
  inputState : InputState
  audioAcceptance : AudioAcceptance
  lastPacketNumber : Option UInt64
  finalTranscript : Option String
  providerVadStarted : Bool
  providerVadFinished : Bool
  deriving DecidableEq, Repr

def isAsciiControl (byte : UInt8) : Bool := byte < 0x20 || byte == 0x7f

def DoubaoSessionProtocol.new (requestId : String) :
    Except SessionProtocolError DoubaoSessionProtocol :=
  if requestId = "" ∨ maxRequestIdBytes < (asBytes requestId).length ∨
      (asBytes requestId).any isAsciiControl then
    .error (.new "doubao.invalid_request_id" "Doubao request ID is invalid")
  else
    .ok
      { requestId, phase := .disconnected, taskId := none, sentAudioFrames := 0
        inputState := .open, audioAcceptance := .notAccepted, lastPacketNumber := none
        finalTranscript := none, providerVadStarted := false, providerVadFinished := false }

/-- A method of the session. -/
abbrev Method (α : Type) : Type :=
  Effects.Call DoubaoSessionProtocol SessionProtocolError Empty α

namespace DoubaoSessionProtocol

open Effects.Call (get modify throw ofExcept)

/-- What every failure does to the phase. -/
def failing (protocol : DoubaoSessionProtocol) : DoubaoSessionProtocol :=
  if protocol.phase ≠ .cancelled then { protocol with phase := .failed } else protocol

def failWithCategory {α : Type} (category : ErrorCategory) (code message : String) : Method α := do
  modify failing
  throw (.withCategory category code message)

def fail {α : Type} (code message : String) : Method α := failWithCategory .protocol code message

def failRemoteStatus {α : Type} (statusCode : UInt64) : Method α := do
  let protocol ← get
  let code :=
    match protocol.phase with
    | .taskStarting => "doubao.start_task_status_failed"
    | .sessionStarting => "doubao.start_session_status_failed"
    | .streaming => "doubao.streaming_status_failed"
    | .finishing => "doubao.finish_session_status_failed"
    | _ => "doubao.remote_status_failed"
  modify failing
  throw (.withStatus .protocol code "Doubao returned a non-zero protocol status" statusCode)

def requirePhase (expected : SessionPhase) (code : String) : Method Unit := do
  let protocol ← get
  if protocol.phase = expected then pure ()
  else fail code "Doubao session lifecycle transition is invalid"

def requireStreamingInput : Method Unit := do
  requirePhase .streaming "doubao.session_not_streaming"
  let protocol ← get
  if protocol.inputState = .finished then
    fail "doubao.audio_already_finished" "Doubao audio input is already finished"
  else pure ()

def timestampJson (timestampMillis : UInt64) : Bytes :=
  asBytes ("\x7b\"extra\":\x7b\x7d,\"timestamp_ms\":" ++ toString timestampMillis.toNat ++ "\x7d")

def startTask (token : String) : Method Bytes := do
  requirePhase .disconnected "doubao.task_already_started"
  modify fun protocol => { protocol with phase := .taskStarting }
  let protocol ← get
  pure (encodeRequest token "StartTask" [] [] protocol.requestId none)

def startSession (fromSlice : Bytes → Option Json) (token : String) (sessionJson : Bytes) :
    Method Bytes := do
  requirePhase .taskStarted "doubao.task_not_started"
  if maxSessionJsonBytes < sessionJson.length ∨ ¬ (fromSlice sessionJson).any Json.isObject then
    fail "doubao.invalid_session_json"
      "Doubao StartSession payload must be a bounded JSON object"
  else do
    modify fun protocol => { protocol with phase := .sessionStarting }
    let protocol ← get
    pure (encodeRequest token "StartSession" sessionJson [] protocol.requestId none)

def audioRequest (timestampMillis : UInt64) (opusPacket : Bytes) : Method Bytes := do
  requireStreamingInput
  let protocol ← get
  if protocol.inputState = .audioRequestPending then
    fail "doubao.audio_request_pending"
      "Doubao audio request must be confirmed before building another frame"
  else if opusPacket = [] ∨ maxOpusPacketBytes < opusPacket.length then
    fail "doubao.invalid_opus_packet" "Doubao audio packet is empty or oversized"
  else do
    let state := if protocol.sentAudioFrames = 0 then FrameState.first else FrameState.middle
    let request := encodeRequest "" "TaskRequest" (timestampJson timestampMillis) opusPacket
      protocol.requestId (some state)
    modify fun protocol => { protocol with inputState := .audioRequestPending }
    pure request

def confirmAudioSent : Method Unit := do
  requirePhase .streaming "doubao.session_not_streaming"
  let protocol ← get
  if protocol.inputState ≠ .audioRequestPending then
    fail "doubao.no_pending_audio_request" "Doubao has no pending audio request to confirm"
  else
    modify fun protocol =>
      { protocol with
        inputState := .open
        sentAudioFrames := min (protocol.sentAudioFrames + 1) u64Max
        audioAcceptance := .possiblyAccepted }

def markAudioWriteAmbiguous : Method Unit := do
  requirePhase .streaming "doubao.session_not_streaming"
  let protocol ← get
  if protocol.inputState ≠ .audioRequestPending then
    fail "doubao.no_pending_audio_request" "Doubao has no pending audio request to mark ambiguous"
  else modify fun protocol => { protocol with audioAcceptance := .possiblyAccepted }

def finishAudio (timestampMillis : UInt64) : Method Bytes := do
  requireStreamingInput
  let protocol ← get
  if protocol.inputState = .audioRequestPending then
    fail "doubao.audio_request_pending"
      "Doubao audio request must be confirmed before finishing input"
  else if protocol.sentAudioFrames = 0 then
    fail "doubao.no_audio_frames" "Doubao session cannot finish before a real audio frame"
  else do
    let request := encodeRequest "" "TaskRequest" (timestampJson timestampMillis)
      (List.replicate lastFrameMarkerBytes 0) protocol.requestId (some .last)
    modify fun protocol => { protocol with inputState := .finished }
    pure request

def finishSession (token : String) : Method Bytes := do
  requirePhase .streaming "doubao.session_not_streaming"
  let protocol ← get
  if protocol.inputState ≠ .finished then
    fail "doubao.audio_not_finished" "Doubao audio must finish before FinishSession"
  else do
    modify fun protocol => { protocol with phase := .finishing }
    let protocol ← get
    pure (encodeRequest token "FinishSession" [] [] protocol.requestId none)

/-- What an accepted event does to the session, its text aside. -/
def noting (event : RecognitionEvent) (protocol : DoubaoSessionProtocol) :
    DoubaoSessionProtocol :=
  { protocol with
    lastPacketNumber := event.packetNumber.or protocol.lastPacketNumber
    providerVadStarted := protocol.providerVadStarted || event.vadStarted
    providerVadFinished := protocol.providerVadFinished || event.vadFinished
    audioAcceptance :=
      if event.vadStarted ∨ event.text.isSome ∨ event.finalResult then .accepted
      else protocol.audioAcceptance }

/-- The packet number of the event is not above the last one. -/
def isStale (protocol : DoubaoSessionProtocol) (event : RecognitionEvent) : Bool :=
  event.packetNumber.any fun packet =>
    protocol.lastPacketNumber.any fun previous => packet ≤ previous

def retainFinal (event : RecognitionEvent) : Method Unit :=
  if event.finalResult then
    match event.text.filter fun text => !RustText.isBlank text with
    | none => fail "doubao.empty_final_transcript" "Doubao returned an empty final transcript"
    | some text => modify fun protocol => { protocol with finalTranscript := some text }
  else pure ()

def handleResult (fromSlice : Bytes → Option Json) (response : ResponseEnvelope) :
    Method (Option SessionEvent) := do
  if response.resultJson = [] then pure none
  else do
    let protocol ← get
    if protocol.phase ≠ .streaming ∧ protocol.phase ≠ .finishing then
      fail "doubao.result_before_session_started"
        "Doubao returned recognition data before the session started"
    else
      match parseRecognitionEvent fromSlice response with
      | .error _ =>
        fail "doubao.invalid_result_json" "Doubao returned malformed recognition result JSON"
      | .ok none => pure none
      | .ok (some event) =>
        if protocol.isStale event then pure (some .duplicateIgnored)
        else do
          modify (noting event)
          retainFinal event
          pure (some (.recognition event))

def handleSessionFinished : Method (Option SessionEvent) := do
  requirePhase .finishing "doubao.unexpected_session_finished"
  let protocol ← get
  match protocol.finalTranscript with
  | none =>
    fail "doubao.missing_final_transcript"
      "Doubao finished the session without a final transcript"
  | some transcript => do
    modify fun protocol => { protocol with phase := .finished }
    let protocol ← get
    pure (some (.finished
      { transcript, taskId := protocol.taskId, sentAudioFrames := protocol.sentAudioFrames
        lastPacketNumber := protocol.lastPacketNumber
        providerVadStarted := protocol.providerVadStarted
        providerVadFinished := protocol.providerVadFinished }))

/-- The dispatch on the type of a response that passed the checks. -/
def handleMessage (fromSlice : Bytes → Option Json) (response : ResponseEnvelope) :
    Method (Option SessionEvent) := do
  let protocol ← get
  match response.messageType with
  | "TaskFailed" =>
    if protocol.phase = .taskStarting ∧ authLikeResponse response then
      failWithCategory .authentication "doubao.start_task_auth_failed"
        "Doubao rejected the StartTask credential"
    else fail "doubao.remote_session_failed" "Doubao rejected the recognition session"
  | "SessionFailed" =>
    fail "doubao.remote_session_failed" "Doubao rejected the recognition session"
  | "TaskStarted" => do
    requirePhase .taskStarting "doubao.unexpected_task_started"
    modify fun protocol =>
      { protocol with
        taskId := if response.taskId = "" then protocol.taskId else some response.taskId
        phase := .taskStarted }
    pure (some .taskStarted)
  | "SessionStarted" => do
    requirePhase .sessionStarting "doubao.unexpected_session_started"
    modify fun protocol => { protocol with phase := .streaming }
    pure (some .sessionStarted)
  | "SessionFinished" => handleSessionFinished
  | _ => handleResult fromSlice response

def handleBinary (fromSlice : Bytes → Option Json) (message : Bytes) :
    Method (Option SessionEvent) := do
  let protocol ← get
  if protocol.phase = .finished ∨ protocol.phase = .failed ∨ protocol.phase = .cancelled ∨
      protocol.phase = .disconnected then
    throw (.new "doubao.session_not_receiving"
      "Doubao session is not accepting provider responses")
  else
    match decodeResponse message with
    | .error _ =>
      fail "doubao.invalid_response_envelope" "Doubao returned a malformed response envelope"
    | .ok response =>
      if response.requestId ≠ protocol.requestId then
        fail "doubao.response_request_mismatch"
          "Doubao response request ID does not match the active session"
      else if response.service ≠ "" ∧ response.service ≠ "ASR" then
        fail "doubao.response_service_mismatch" "Doubao response service does not match ASR"
      else if response.statusCode ≠ 0 then
        if protocol.phase = .taskStarting ∧ authLikeResponse response then
          failWithCategory .authentication "doubao.start_task_auth_failed"
            "Doubao rejected the StartTask credential"
        else failRemoteStatus response.statusCode
      else handleMessage fromSlice response

def cancel (protocol : DoubaoSessionProtocol) : DoubaoSessionProtocol :=
  if protocol.phase ≠ .finished ∧ protocol.phase ≠ .failed then
    { protocol with phase := .cancelled }
  else protocol

end DoubaoSessionProtocol

end VoxType.Doubao
