import VoxType.Doubao.SessionSteps

/-!
# The driver of a session

The socket, the encoder, the recording, the clock and the cancellation answer as
they like: `Surroundings` holds their answers by the number of questions asked
before. Every loop has `fuel` turns; a driver that has used them up is still
running. Times are in nanoseconds.
-/

namespace VoxType.Doubao

set_option autoImplicit false

def pcmFrameBytes : Nat := 640

def maxPcmBytes : Nat := 16000 * 2 * 3600

def maxInboundPerTick : Nat := 8

def u32Max : Nat := 2 ^ 32 - 1

structure WebSocketTransportError where
  category : ErrorCategory
  retryable : Bool
  code : String
  message : String
  deriving DecidableEq, Repr

def WebSocketTransportError.intoVoxError (error : WebSocketTransportError) : VoxError :=
  (VoxError.new error.category error.code error.message).withRetryable error.retryable

/-- A full buffer returns the payload. -/
inductive QueueBinaryResult
  | queued
  | full
  deriving DecidableEq, Repr

inductive FlushResult
  | flushed
  | pending
  | closed
  deriving DecidableEq, Repr

inductive SocketEvent
  | binary (message : Bytes)
  | ping
  | pong
  | close
  deriving DecidableEq, Repr

inductive PollResult
  | idle
  | event (event : SocketEvent)
  | closed
  deriving DecidableEq, Repr

inductive ReadResult
  | bytes (data : Bytes)
  | interrupted
  | failed
  deriving DecidableEq, Repr

inductive PcmFile
  | openFailed
  | metadataFailed
  | opened (length : Nat)
  deriving DecidableEq, Repr

inductive WallClock
  | millis (value : Nat)
  | beforeEpoch
  deriving DecidableEq, Repr

structure Surroundings where
  fuel : Nat
  fromSlice : Bytes → Option Json
  opusAvailable : Bool
  pcmFile : PcmFile
  connect : Except WebSocketTransportError Unit
  now : Nat → Nat
  cancelled : Nat → Bool
  queueBinary : Nat → Except WebSocketTransportError QueueBinaryResult
  flush : Nat → Except WebSocketTransportError FlushResult
  poll : Nat → Except WebSocketTransportError PollResult
  read : Nat → ReadResult
  encode : Nat → Bytes → Option Bytes
  wallClock : Nat → WallClock

structure DoubaoRunConfig where
  requestId : String
  sessionJson : Bytes
  phaseTimeout : Nat
  totalTimeout : Nat
  frameInterval : Nat
  deriving DecidableEq, Repr

structure DoubaoTranscription where
  text : String
  sentAudioMillis : Nat
  partialResults : Nat
  providerVadStarted : Bool
  providerVadFinished : Bool
  deriving DecidableEq, Repr

structure SessionDriver where
  protocol : DoubaoSessionProtocol
  totalDeadline : Nat
  phaseTimeout : Nat
  partialResults : Nat
  outcome : Option SessionOutcome
  asked : Nat
  deriving DecidableEq, Repr

/-- Why a driver stops without a transcription. -/
inductive Stop
  | failed (error : VoxError)
  | unfinished
  deriving DecidableEq, Repr

/-- A message that the driver handed to the socket. -/
structure Sending where
  payload : Bytes
  answer : Except WebSocketTransportError QueueBinaryResult
  deriving DecidableEq

/-- The message may have left: it is queued, or the socket failed on it. -/
def Sending.Left (sending : Sending) : Prop := sending.answer ≠ .ok .full

abbrev DriverCall (α : Type) : Type := Effects.Call SessionDriver Stop Sending α

def voxError (category : ErrorCategory) (code message : String) (retryable : Bool) : VoxError :=
  (VoxError.new category code message).withRetryable retryable

def protocolVoxError (error : SessionProtocolError) : VoxError :=
  let message :=
    match error.statusCode with
    | none => "Doubao session protocol validation failed"
    | some status =>
      "Doubao session protocol validation failed with status " ++ toString status.toNat
  voxError error.category error.code message false

def connectionClosed : VoxError :=
  voxError .connection "doubao.websocket_closed_early"
    "Doubao WebSocket closed before recognition completed" true

namespace SessionDriver

open Effects.Call (get modify throw emit ofExcept)
open DoubaoSessionProtocol

/-- A method of the session, on the driver. -/
def onProtocol {α : Type} (method : Method α) : DriverCall α where
  run driver :=
    let outcome := method.run driver.protocol
    { result := outcome.result.mapError fun error => .failed (protocolVoxError error)
      state := { driver with protocol := outcome.state }
      trace := [] }

/-- One question to the surroundings. -/
def ask {α : Type} (answers : Nat → α) : DriverCall α := do
  let driver ← get
  modify fun driver => { driver with asked := driver.asked + 1 }
  pure (answers driver.asked)

def transport {α : Type} (result : Except WebSocketTransportError α) : DriverCall α :=
  ofExcept (result.mapError fun error => .failed error.intoVoxError)

variable (env : Surroundings)

def checkDeadlines (phaseDeadline : Nat) : DriverCall Unit := do
  let cancelled ← ask env.cancelled
  if cancelled then
    throw (.failed (voxError .cancelled "doubao.session_cancelled"
      "Doubao recognition session was cancelled" false))
  else do
    let now ← ask env.now
    let driver ← get
    if driver.totalDeadline ≤ now then
      throw (.failed (voxError .timeout "doubao.total_timeout"
        "Doubao recognition exceeded its total timeout" true))
    else if phaseDeadline ≤ now then
      throw (.failed (voxError .timeout "doubao.phase_timeout"
        "Doubao recognition phase timed out" true))
    else pure ()

def phaseDeadline : DriverCall Nat := do
  let now ← ask env.now
  let driver ← get
  pure (min (now + driver.phaseTimeout) driver.totalDeadline)

/-- What the driver keeps of an event. -/
def keepEvent : Option SessionEvent → DriverCall Unit
  | some (.recognition event) =>
    if event.interim then
      modify fun driver => { driver with partialResults := min (driver.partialResults + 1) u64Max }
    else pure ()
  | some (.finished outcome) => modify fun driver => { driver with outcome := some outcome }
  | _ => pure ()

def pumpOnce : DriverCall Bool := do
  let answer ← ask env.poll
  let polled ← transport answer
  match polled with
  | .idle => pure false
  | .closed => throw (.failed connectionClosed)
  | .event .close => throw (.failed connectionClosed)
  | .event (.binary message) => do
    let event ← onProtocol (handleBinary env.fromSlice message)
    keepEvent event
    pure true
  | .event .ping => pure true
  | .event .pong => pure true

def flushOnce (deadline : Nat) : DriverCall Unit := do
  checkDeadlines env deadline
  let answer ← ask env.flush
  let outcome ← transport answer
  match outcome with
  | .closed => throw (.failed connectionClosed)
  | _ => do
    let _ ← pumpOnce env
    pure ()

/-- The first loop of `send_payload`. -/
def queuePayload (payload : Bytes) (deadline : Nat) (audio : Bool) : Nat → DriverCall Unit
  | 0 => throw .unfinished
  | turns + 1 => do
    checkDeadlines env deadline
    let answer ← ask env.queueBinary
    emit { payload, answer }
    match answer with
    | .ok .queued => if audio then onProtocol markAudioWriteAmbiguous else pure ()
    | .ok .full => do
      flushOnce env deadline
      queuePayload payload deadline audio turns
    | .error error => do
      if audio then onProtocol markAudioWriteAmbiguous else pure ()
      throw (.failed error.intoVoxError)

/-- The second loop of `send_payload`. -/
def flushPayload (deadline : Nat) (audio : Bool) : Nat → DriverCall Unit
  | 0 => throw .unfinished
  | turns + 1 => do
    checkDeadlines env deadline
    let answer ← ask env.flush
    let outcome ← transport answer
    match outcome with
    | .flushed => if audio then onProtocol confirmAudioSent else pure ()
    | .pending => do
      let _ ← pumpOnce env
      flushPayload deadline audio turns
    | .closed => throw (.failed connectionClosed)

def sendPayload (payload : Bytes) (deadline : Nat) (audio : Bool) : DriverCall Unit := do
  queuePayload env payload deadline audio env.fuel
  flushPayload env deadline audio env.fuel

def sendSecret (payload : Bytes) (deadline : Nat) : DriverCall Unit :=
  sendPayload env payload deadline false

def sendPlain (payload : Bytes) (deadline : Nat) : DriverCall Unit :=
  sendPayload env payload deadline false

def sendAudio (payload : Bytes) (deadline : Nat) : DriverCall Unit :=
  sendPayload env payload deadline true

def waitForPhase (expected : SessionPhase) (deadline : Nat) : Nat → DriverCall Unit
  | 0 => throw .unfinished
  | turns + 1 => do
    let driver ← get
    if driver.protocol.phase = expected then pure ()
    else do
      checkDeadlines env deadline
      let _ ← pumpOnce env
      waitForPhase expected deadline turns

def drainInbound : Nat → DriverCall Unit
  | 0 => pure ()
  | turns + 1 => do
    let more ← pumpOnce env
    if more then drainInbound turns else pure ()

def waitForSendSlot (sendAt : Nat) : Nat → DriverCall Unit
  | 0 => throw .unfinished
  | turns + 1 => do
    let now ← ask env.now
    if now < sendAt then do
      let driver ← get
      checkDeadlines env driver.totalDeadline
      drainInbound env maxInboundPerTick
      let _ ← ask env.now
      waitForSendSlot sendAt turns
    else pure ()

/-- The bytes of one frame that have been read; none at the end of the recording. -/
def readPcmFrame (filled : Bytes) : Nat → DriverCall (Option Bytes)
  | 0 => throw .unfinished
  | turns + 1 => do
    let frame := filled ++ List.replicate (pcmFrameBytes - filled.length) 0
    let invalid := Stop.failed (voxError .invalidArgument "doubao.invalid_pcm"
      "PCM recording ended with an incomplete sample" false)
    if filled.length < pcmFrameBytes then do
      let read ← ask env.read
      match read with
      | .bytes data =>
        let data := data.take (pcmFrameBytes - filled.length)
        if data = [] then
          if filled = [] then pure none
          else if filled.length % 2 ≠ 0 then throw invalid else pure (some frame)
        else readPcmFrame (filled ++ data) turns
      | .interrupted => readPcmFrame filled turns
      | .failed =>
        throw (.failed (voxError .unavailable "doubao.pcm_read_failed"
          "Could not read the PCM recording" true))
    else if filled.length % 2 ≠ 0 then throw invalid
    else pure (some frame)

def unixMillis : DriverCall UInt64 := do
  let clock ← ask env.wallClock
  match clock with
  | .beforeEpoch =>
    throw (.failed (voxError .internal "doubao.system_clock_invalid"
      "System clock is before the Unix epoch" false))
  | .millis value =>
    if u64Max < value then
      throw (.failed (voxError .internal "doubao.system_clock_overflow"
        "System clock timestamp is too large" false))
    else pure (UInt64.ofNat value)

/-- `timestamp_base.saturating_add(sent_audio_frames.saturating_mul(20))` -/
def timestampAfter (timestampBase : UInt64) (frames : Nat) : UInt64 :=
  UInt64.ofNat (min (timestampBase.toNat + min (frames * 20) u64Max) u64Max)

/-- The loop over the frames of the recording. -/
def sendFrames (config : DoubaoRunConfig) (sessionStartedAt : Nat) (timestampBase : UInt64) :
    Nat → DriverCall Unit
  | 0 => throw .unfinished
  | turns + 1 => do
    let frame ← readPcmFrame env [] env.fuel
    match frame with
    | none => pure ()
    | some frame => do
      let driver ← get
      waitForSendSlot env (sessionStartedAt +
        config.frameInterval * min driver.protocol.sentAudioFrames u32Max) env.fuel
      let packet ← ask env.encode
      match packet frame with
      | none =>
        throw (.failed (voxError .internal "doubao.opus_encode_failed"
          "Could not encode a Doubao Opus frame" false))
      | some packet => do
        let driver ← get
        let timestamp := timestampAfter timestampBase driver.protocol.sentAudioFrames
        let request ← onProtocol (audioRequest timestamp packet)
        let deadline ← phaseDeadline env
        sendAudio env request deadline
        drainInbound env maxInboundPerTick
        sendFrames config sessionStartedAt timestampBase turns

/-- From `StartTask` to an open session. -/
def openSession (token : String) (config : DoubaoRunConfig) : DriverCall Unit := do
  let taskRequest ← onProtocol (startTask token)
  let deadline ← phaseDeadline env
  sendSecret env taskRequest deadline
  let deadline ← phaseDeadline env
  waitForPhase env .taskStarted deadline env.fuel
  let sessionRequest ← onProtocol (startSession env.fromSlice token config.sessionJson)
  let deadline ← phaseDeadline env
  sendSecret env sessionRequest deadline
  let deadline ← phaseDeadline env
  waitForPhase env .streaming deadline env.fuel

/-- From the last-frame marker to the end of the session. -/
def closeSession (token : String) (timestampBase : UInt64) : DriverCall Unit := do
  let driver ← get
  let finishTimestamp := timestampAfter timestampBase driver.protocol.sentAudioFrames
  let marker ← onProtocol (finishAudio finishTimestamp)
  let deadline ← phaseDeadline env
  sendPlain env marker deadline
  let finishRequest ← onProtocol (finishSession token)
  let deadline ← phaseDeadline env
  sendSecret env finishRequest deadline
  let deadline ← phaseDeadline env
  waitForPhase env .finished deadline env.fuel

def run (token : String) (config : DoubaoRunConfig) : DriverCall DoubaoTranscription := do
  openSession env token config
  let sessionStartedAt ← ask env.now
  let timestampBase ← unixMillis env
  sendFrames env config sessionStartedAt timestampBase env.fuel
  closeSession env token timestampBase
  let driver ← get
  match driver.outcome with
  | none =>
    throw (.failed (voxError .protocol "doubao.missing_session_outcome"
      "Doubao session finished without a retained outcome" false))
  | some outcome =>
    modify fun driver => { driver with outcome := none }
    pure
      { text := outcome.transcript
        sentAudioMillis := min (outcome.sentAudioFrames * 20) u64Max
        partialResults := driver.partialResults
        providerVadStarted := outcome.providerVadStarted
        providerVadFinished := outcome.providerVadFinished }

end SessionDriver

def millis (value : Nat) : Nat := value * 1000000

def validateRunConfig (env : Surroundings) (config : DoubaoRunConfig) : Except VoxError Unit :=
  if config.phaseTimeout < millis 100 ∨ millis 60000 < config.phaseTimeout ∨
      config.totalTimeout < config.phaseTimeout ∨ millis 3600000 < config.totalTimeout ∨
      millis 100 < config.frameInterval then
    .error (voxError .configuration "doubao.invalid_run_timeout"
      "Doubao session timing configuration is invalid" false)
  else if 256 * 1024 < config.sessionJson.length ∨
      ¬ (env.fromSlice config.sessionJson).any Json.isObject then
    .error (voxError .configuration "doubao.invalid_session_json"
      "Doubao session configuration must be a bounded JSON object" false)
  else .ok ()

def preparePcm (env : Surroundings) : Except VoxError Unit :=
  match env.pcmFile with
  | .openFailed =>
    .error (voxError .unavailable "doubao.pcm_open_failed" "Could not open the PCM recording" true)
  | .metadataFailed =>
    .error (voxError .unavailable "doubao.pcm_metadata_failed"
      "Could not inspect the PCM recording" true)
  | .opened length =>
    if length = 0 ∨ maxPcmBytes < length ∨ length % 2 ≠ 0 then
      .error (voxError .invalidArgument "doubao.invalid_pcm"
        "PCM recording must be non-empty bounded 16-bit audio" false)
    else .ok ()

/-- One attempt: what it returns, if it returns, and what it handed to the socket. -/
structure Attempt where
  result : Option (Except ProviderAttemptFailure DoubaoTranscription)
  sendings : List Sending

def Attempt.refused (error : VoxError) : Attempt :=
  { result := some (.error (ProviderAttemptFailure.beforeTransport error)), sendings := [] }

/-- The attempt once the socket is connected. -/
def driveSession (env : Surroundings) (config : DoubaoRunConfig) (token : String)
    (protocol : DoubaoSessionProtocol) : Attempt :=
  let outcome := (SessionDriver.run env token config).run
    { protocol, totalDeadline := env.now 0 + config.totalTimeout
      phaseTimeout := config.phaseTimeout, partialResults := 0, outcome := none, asked := 1 }
  { sendings := outcome.trace
    result :=
      match outcome.result with
      | .ok transcription => some (.ok transcription)
      | .error (.failed error) =>
        some (.error (ProviderAttemptFailure.afterTransport error
          outcome.state.protocol.cancel.audioAcceptance))
      | .error .unfinished => none }

def transcribePcmWithEncoder (env : Surroundings) (config : DoubaoRunConfig) (token : String) :
    Attempt :=
  match validateRunConfig env config with
  | .error error => .refused error
  | .ok () =>
    match preparePcm env with
    | .error error => .refused error
    | .ok () =>
      match DoubaoSessionProtocol.new config.requestId with
      | .error error => .refused (protocolVoxError error)
      | .ok protocol =>
        match env.connect with
        | .error error =>
          if error.category = .configuration then .refused error.intoVoxError
          else
            { result := some (.error (ProviderAttemptFailure.afterTransport error.intoVoxError
                .notAccepted))
              sendings := [] }
        | .ok () => driveSession env config token protocol

def transcribePcmWithEvidence (env : Surroundings) (config : DoubaoRunConfig) (token : String) :
    Attempt :=
  if env.opusAvailable then transcribePcmWithEncoder env config token
  else
    .refused (voxError .unavailable "doubao.opus_unavailable"
      "System Opus encoder is unavailable" false)

/-- The attempts that were made, how often the token was refreshed, and the result. -/
structure TokenRefresh where
  attempts : List Attempt
  refreshes : Nat
  result : Option (Except ProviderAttemptFailure DoubaoTranscription)

/-- `refresh` is what the callback returns; `cancelled` is asked after the first attempt. -/
def transcribePcmWithTokenRefresh (env retryEnv : Surroundings) (config : DoubaoRunConfig)
    (initialToken : String) (refresh : Except VoxError String) (cancelled : Bool) : TokenRefresh :=
  let first := transcribePcmWithEvidence env config initialToken
  match first.result with
  | some (.error failure) =>
    if failure.error.category = .authentication ∧ failure.audioAcceptance = .notAccepted ∧
        cancelled = false then
      match refresh with
      | .error error =>
        { attempts := [first], refreshes := 1
          result := some (.error (ProviderAttemptFailure.afterTransport error .notAccepted)) }
      | .ok refreshed =>
        let second := transcribePcmWithEvidence retryEnv config refreshed
        { attempts := [first, second], refreshes := 1, result := second.result }
    else { attempts := [first], refreshes := 0, result := first.result }
  | result => { attempts := [first], refreshes := 0, result }

end VoxType.Doubao
