import VoxType.Doubao.Outgoing
import VoxType.Doubao.RoundTrip
import VoxType.Doubao.Runner

/-!
# The evidence of an attempt

Once an audio request may have left, the session says so, whatever happens
afterwards.
-/

namespace VoxType.Doubao

set_option autoImplicit false

open Effects (Call)
open Effects.Call (Composes Within Keeps)
open DoubaoSessionProtocol

/-- A `TaskRequest` with audio of the session. -/
def AudioRequest (requestId : String) (payload : Bytes) : Prop :=
  ∃ timestampMillis opusPacket state, state ≠ FrameState.last ∧
    payload = encodeRequest "" "TaskRequest" (timestampJson timestampMillis) opusPacket requestId
      (some state)

/-- Not an audio request; a payload has at most `usizeMax` bytes. -/
def Harmless (requestId : String) (payload : Bytes) : Prop :=
  payload.length ≤ usizeMax → ¬ AudioRequest requestId payload

/-- The audio may have left. -/
def DoubaoSessionProtocol.Evident (protocol : DoubaoSessionProtocol) : Prop :=
  protocol.audioAcceptance ≠ .notAccepted

/-- What a step of the driver does to the evidence. -/
structure Conservative (driver : SessionDriver) (sendings : List Sending) (after : SessionDriver) :
    Prop where
  requestId : after.protocol.requestId = driver.protocol.requestId
  kept : driver.protocol.Evident → after.protocol.Evident
  sent : ∀ sending ∈ sendings, sending.Left →
    ¬ Harmless driver.protocol.requestId sending.payload → after.protocol.Evident

theorem conservative_composes : Composes Conservative where
  refl driver := ⟨rfl, id, nofun⟩
  trans := by
    intro driver driver' driver'' first second hFirst hSecond
    refine ⟨hSecond.requestId.trans hFirst.requestId, fun h => hSecond.kept (hFirst.kept h), ?_⟩
    intro sending hMem hLeft hAudio
    rcases List.mem_append.mp hMem with hMem | hMem
    · exact hSecond.kept (hFirst.sent sending hMem hLeft hAudio)
    · exact hSecond.sent sending hMem hLeft (hFirst.requestId ▸ hAudio)

theorem encodeRequest_harmless {token method : String} {jsonPayload audio : Bytes}
    {requestId : String} {state : Option FrameState}
    (h : method ≠ "TaskRequest" ∨ state = some .last) :
    Harmless requestId (encodeRequest token method jsonPayload audio requestId state) := by
  rintro hSize ⟨timestampMillis, opusPacket, state', hState, hEqual⟩
  obtain ⟨_, rfl, _, _, _, rfl⟩ := encodeRequest_inj hSize hEqual
  rcases h with h | h
  · exact h rfl
  · exact hState (Option.some.inj h)

section Methods

variable {fromSlice : Bytes → Option Json} {protocol after : DoubaoSessionProtocol}
  {call : SessionCall} {reply : SessionReply}

theorem failing_evident : protocol.failing.Evident ↔ protocol.Evident := by
  rw [failing]
  split <;> exact Iff.rfl

theorem noting_evident (event : RecognitionEvent) (h : protocol.Evident) :
    (noting event protocol).Evident := by
  rw [Evident, noting]
  dsimp only
  split
  · nofun
  · exact h

/-- No call takes the evidence back. -/
theorem DoubaoSessionProtocol.Taken.evident (hTaken : Taken fromSlice protocol call reply after)
    (h : protocol.Evident) : after.Evident := by
  cases hTaken with
  | confirmAudioSent | markAudioWriteAmbiguous => nofun
  | recognized message response hUsed hPhase event => exact noting_evident event h
  | cancelled =>
    rw [cancel]
    split <;> exact h
  | refused call error after hCall hRefused =>
    cases hRefused with
    | unreceived => exact h
    | failing => exact failing_evident.mpr h
    | emptyFinal event => exact failing_evident.mpr (noting_evident event h)
  | _ => exact h

/-- The method is the one that the call stands for. -/
def Performs {α : Type} (fromSlice : Bytes → Option Json) (call : SessionCall)
    (reply : α → SessionReply) (method : Method α) : Prop :=
  ∀ protocol : DoubaoSessionProtocol,
    protocol.call fromSlice call = answer reply (method.run protocol)

variable {α : Type} {toReply : α → SessionReply} {method : Method α}

theorem Performs.state (h : Performs fromSlice call toReply method)
    (protocol : DoubaoSessionProtocol) :
    (method.run protocol).state = (protocol.call fromSlice call).2 := by
  rw [h protocol, answer]
  split <;> rfl

theorem Performs.answered (h : Performs fromSlice call toReply method)
    {protocol : DoubaoSessionProtocol} {value : α}
    (hOk : (method.run protocol).result = .ok value) :
    (protocol.call fromSlice call).1 = toReply value := by
  rw [h protocol, answer, hOk]

theorem Performs.within (h : Performs fromSlice call toReply method) :
    Within Conservative (SessionDriver.onProtocol method) := by
  intro driver
  have hTaken := call_taken fromSlice driver.protocol call
  rw [← h.state] at hTaken
  exact ⟨hTaken.requestId, hTaken.evident, nofun⟩

theorem onProtocol_ok {driver : SessionDriver} {value : α}
    (hOk : ((SessionDriver.onProtocol method).run driver).result = .ok value) :
    (method.run driver.protocol).result = .ok value := by
  change (method.run driver.protocol).result.mapError _ = .ok value at hOk
  cases hRun : (method.run driver.protocol).result with
  | error error =>
    rw [hRun] at hOk
    cases hOk
  | ok value' =>
    rw [hRun] at hOk
    cases hOk
    rfl

end Methods

namespace SessionDriver

/-- The driver waits for the confirmation of an audio request. -/
def Pending (driver : SessionDriver) : Prop :=
  driver.protocol.phase = .streaming ∧ driver.protocol.inputState = .audioRequestPending

section Quiet

variable {α : Type}

/-- The call leaves the session alone and sends nothing. -/
def Quiet (x : DriverCall α) : Prop :=
  ∀ driver, (x.run driver).trace = [] ∧ (x.run driver).state.protocol = driver.protocol

theorem Quiet.within {x : DriverCall α} (h : Quiet x) : Within Conservative x := by
  intro driver
  obtain ⟨hTrace, hProtocol⟩ := h driver
  rw [hTrace]
  refine ⟨congrArg _ hProtocol, ?_, nofun⟩
  rw [hProtocol]
  exact id

theorem Quiet.keeps {x : DriverCall α} (h : Quiet x) : Keeps Pending x := by
  intro driver value hPending _
  rw [Pending, (h driver).2]
  exact hPending

theorem ask_quiet (answers : Nat → α) : Quiet (ask answers) := fun _ => ⟨rfl, rfl⟩

theorem transport_quiet (result : Except WebSocketTransportError α) : Quiet (transport result) :=
  fun _ => ⟨rfl, rfl⟩

theorem throw_quiet (stop : Stop) : Quiet (Call.throw stop : DriverCall α) := fun _ => ⟨rfl, rfl⟩

theorem pure_quiet (value : α) : Quiet (pure value : DriverCall α) := fun _ => ⟨rfl, rfl⟩

theorem get_quiet : Quiet (Call.get : DriverCall SessionDriver) := fun _ => ⟨rfl, rfl⟩

theorem Quiet.bind {β : Type} {x : DriverCall α} {f : α → DriverCall β} (hx : Quiet x)
    (hf : ∀ value, Quiet (f value)) : Quiet (x >>= f) := by
  intro driver
  obtain ⟨hTrace, hProtocol⟩ := hx driver
  cases hRun : x.run driver with
  | mk result driver' trace =>
    rw [hRun] at hTrace hProtocol
    cases result with
    | error error =>
      rw [Call.bind_error hRun]
      exact ⟨hTrace, hProtocol⟩
    | ok value =>
      obtain ⟨hTrace', hProtocol'⟩ := hf value driver'
      rw [Call.bind_ok hRun]
      refine ⟨?_, hProtocol'.trans hProtocol⟩
      change trace ++ _ = []
      rw [show trace = [] from hTrace, hTrace', List.append_nil]

end Quiet

variable (env : Surroundings)

theorem checkDeadlines_quiet (deadline : Nat) : Quiet (checkDeadlines env deadline) := by
  refine (ask_quiet _).bind fun cancelled => ?_
  split
  · exact throw_quiet _
  · refine (ask_quiet _).bind fun now => get_quiet.bind fun driver => ?_
    split
    · exact throw_quiet _
    · split
      · exact throw_quiet _
      · exact pure_quiet _

theorem phaseDeadline_quiet : Quiet (phaseDeadline env) :=
  (ask_quiet _).bind fun _ => get_quiet.bind fun _ => pure_quiet _

theorem keepEvent_quiet (event : Option SessionEvent) : Quiet (keepEvent event) := by
  rw [keepEvent.eq_def]
  split
  · split
    · exact fun _ => ⟨rfl, rfl⟩
    · exact pure_quiet _
  · exact fun _ => ⟨rfl, rfl⟩
  · exact pure_quiet _

theorem handleBinary_performs (fromSlice : Bytes → Option Json) (message : Bytes) :
    Performs fromSlice (.handleBinary message) .event (handleBinary fromSlice message) :=
  fun _ => rfl

theorem pumpOnce_within : Within Conservative (pumpOnce env) := by
  have hC := conservative_composes
  refine .bind hC (ask_quiet _).within fun answer =>
    .bind hC (transport_quiet _).within fun polled => ?_
  split
  · exact (pure_quiet _).within
  · exact (throw_quiet _).within
  · exact (throw_quiet _).within
  · exact .bind hC (handleBinary_performs _ _).within fun event =>
      .bind hC (keepEvent_quiet event).within fun _ => (pure_quiet _).within
  · exact (pure_quiet _).within
  · exact (pure_quiet _).within

/-- A message that is taken leaves the pending request as it is. -/
theorem handleBinary_keeps (message : Bytes) :
    Keeps Pending (onProtocol (handleBinary env.fromSlice message)) := by
  rintro driver event ⟨hPhase, hInput⟩ hOk
  have hPerforms := handleBinary_performs env.fromSlice message
  have hTaken := call_taken env.fromSlice driver.protocol (.handleBinary message)
  rw [hPerforms.answered (onProtocol_ok hOk), ← hPerforms.state] at hTaken
  change ((handleBinary env.fromSlice message).run driver.protocol).state.phase = _ ∧
    ((handleBinary env.fromSlice message).run driver.protocol).state.inputState = _
  generalize ((handleBinary env.fromSlice message).run driver.protocol).state = after at hTaken
  cases hTaken with
  | taskStarted _ _ _ hPhase' => exact absurd (hPhase.symm.trans hPhase') (by decide)
  | sessionStarted _ _ _ hPhase' => exact absurd (hPhase.symm.trans hPhase') (by decide)
  | sessionFinished _ _ _ hPhase' => exact absurd (hPhase.symm.trans hPhase') (by decide)
  | quiet => exact ⟨hPhase, hInput⟩
  | duplicate => exact ⟨hPhase, hInput⟩
  | recognized => exact ⟨hPhase, hInput⟩

theorem pumpOnce_keeps : Keeps Pending (pumpOnce env) := by
  refine .bind (ask_quiet _).keeps fun answer => .bind (transport_quiet _).keeps fun polled => ?_
  split
  · exact .pure _
  · exact .throw _
  · exact .throw _
  · exact .bind (handleBinary_keeps env _) fun event =>
      .bind (keepEvent_quiet event).keeps fun _ => .pure _
  · exact .pure _
  · exact .pure _

theorem flushOnce_within (deadline : Nat) : Within Conservative (flushOnce env deadline) := by
  have hC := conservative_composes
  refine .bind hC (checkDeadlines_quiet env deadline).within fun _ =>
    .bind hC (ask_quiet _).within fun answer =>
      .bind hC (transport_quiet _).within fun outcome => ?_
  split
  · exact (throw_quiet _).within
  · exact .bind hC (pumpOnce_within env) fun _ => (pure_quiet _).within

theorem flushOnce_keeps (deadline : Nat) : Keeps Pending (flushOnce env deadline) := by
  refine .bind (checkDeadlines_quiet env deadline).keeps fun _ =>
    .bind (ask_quiet _).keeps fun answer => .bind (transport_quiet _).keeps fun outcome => ?_
  split
  · exact .throw _
  · exact .bind (pumpOnce_keeps env) fun _ => .pure _

/-- The step of a call from a driver. -/
def Step {α : Type} (x : DriverCall α) (driver : SessionDriver) : Prop :=
  Conservative driver (x.run driver).trace (x.run driver).state

variable {α β : Type}

theorem Step.bind {x : DriverCall α} {f : α → DriverCall β} {driver : SessionDriver}
    (hx : Step x driver) (hf : ∀ value, (x.run driver).result = .ok value →
      Step (f value) (x.run driver).state) : Step (x >>= f) driver :=
  Within.bind_at conservative_composes hx hf

theorem emit_harmless {sending : Sending} {driver : SessionDriver}
    (h : Harmless driver.protocol.requestId sending.payload ∨ ¬ sending.Left) :
    Step (Call.emit sending : DriverCall PUnit) driver := by
  refine ⟨rfl, id, ?_⟩
  intro other hMem hLeft hAudio
  rw [List.mem_singleton.mp hMem] at hLeft hAudio
  rcases h with h | h
  · exact absurd h hAudio
  · exact absurd hLeft h

/-- The mark succeeds while a request is pending. -/
theorem mark_run {driver : SessionDriver} (hPending : driver.Pending) :
    (onProtocol markAudioWriteAmbiguous).run driver =
      ⟨.ok (), { driver with protocol :=
        { driver.protocol with audioAcceptance := .possiblyAccepted } }, []⟩ := by
  have hRun : markAudioWriteAmbiguous.run driver.protocol =
      ⟨.ok (), { driver.protocol with audioAcceptance := .possiblyAccepted }, []⟩ := by
    rw [markAudioWriteAmbiguous, requirePhase_bind hPending.1, Call.get_bind,
      if_neg (not_not.mpr hPending.2)]
    rfl
  rw [onProtocol]
  dsimp only
  rw [hRun]
  rfl

theorem mark_within : Within Conservative (onProtocol markAudioWriteAmbiguous) := by
  have hPerforms : Performs (fun _ => none) .markAudioWriteAmbiguous (fun _ => .done)
    markAudioWriteAmbiguous := fun _ => rfl
  exact hPerforms.within

/-- What left does not matter where the evidence is there afterwards. -/
theorem emit_evident {sending : Sending} {x : DriverCall β} {driver : SessionDriver}
    (hStep : Step x driver) (hEvident : (x.run driver).state.protocol.Evident) :
    Step (Call.emit sending >>= fun _ => x) driver := by
  rw [Step, Call.emit_bind]
  exact ⟨hStep.requestId, fun _ => hEvident, fun _ _ _ _ => hEvident⟩

theorem queuePayload_harmless {payload : Bytes} (deadline : Nat) (turns : Nat) :
    ∀ {driver : SessionDriver}, Harmless driver.protocol.requestId payload →
      Step (queuePayload env payload deadline false turns) driver := by
  induction turns with
  | zero => exact fun _ => (throw_quiet _).within _
  | succ turns ih =>
    intro driver hHarmless
    rw [queuePayload]
    have hChecked := (checkDeadlines_quiet env deadline).within driver
    refine Step.bind hChecked fun _ _ => ?_
    generalize ((checkDeadlines env deadline).run driver).state = driver₁ at hChecked ⊢
    have hAsked := (ask_quiet env.queueBinary).within driver₁
    refine Step.bind hAsked fun answer _ => ?_
    generalize ((ask env.queueBinary).run driver₁).state = driver₂ at hAsked ⊢
    have hHarmless₂ : Harmless driver₂.protocol.requestId payload := by
      rw [hAsked.requestId, hChecked.requestId]
      exact hHarmless
    refine Step.bind (emit_harmless (.inl hHarmless₂)) fun _ _ => ?_
    change Step _ driver₂
    split
    · exact (pure_quiet _).within _
    · have hFlushed := flushOnce_within env deadline driver₂
      refine Step.bind hFlushed fun _ _ => ih ?_
      rw [hFlushed.requestId]
      exact hHarmless₂
    · exact Step.bind ((pure_quiet _).within _) fun _ _ => (throw_quiet _).within _

theorem queuePayload_audio {payload : Bytes} (deadline : Nat) (turns : Nat) :
    ∀ {driver : SessionDriver}, driver.Pending →
      Step (queuePayload env payload deadline true turns) driver := by
  induction turns with
  | zero => exact fun _ => (throw_quiet _).within _
  | succ turns ih =>
    intro driver hPending
    rw [queuePayload]
    refine Step.bind ((checkDeadlines_quiet env deadline).within driver) fun _ hChecked => ?_
    have hPending₁ := (checkDeadlines_quiet env deadline).keeps driver _ hPending hChecked
    refine Step.bind ((ask_quiet env.queueBinary).within _) fun answer hAsked => ?_
    have hPending₂ := (ask_quiet env.queueBinary).keeps _ _ hPending₁ hAsked
    generalize ((ask env.queueBinary).run ((checkDeadlines env deadline).run driver).state).state =
      driver₂ at hPending₂ ⊢
    cases answer with
    | error error =>
      refine emit_evident ?_ ?_
      · exact Step.bind (mark_within driver₂) fun _ _ => (throw_quiet _).within _
      · change ((onProtocol markAudioWriteAmbiguous >>= fun _ => _).run driver₂).state.protocol.Evident
        rw [Call.bind_ok (mark_run hPending₂)]
        nofun
    | ok result =>
      cases result with
      | queued =>
        refine emit_evident (mark_within driver₂) ?_
        change ((onProtocol markAudioWriteAmbiguous).run driver₂).state.protocol.Evident
        rw [mark_run hPending₂]
        nofun
      | full =>
        refine Step.bind (emit_harmless (.inr fun hLeft => hLeft rfl)) fun _ _ => ?_
        change Step _ driver₂
        refine Step.bind (flushOnce_within env deadline driver₂) fun _ hFlushed => ih ?_
        exact flushOnce_keeps env deadline driver₂ _ hPending₂ hFlushed

theorem flushPayload_within (deadline : Nat) (audio : Bool) (turns : Nat) :
    Within Conservative (flushPayload env deadline audio turns) := by
  have hC := conservative_composes
  induction turns with
  | zero => exact (throw_quiet _).within
  | succ turns ih =>
    rw [flushPayload]
    refine .bind hC (checkDeadlines_quiet env deadline).within fun _ =>
      .bind hC (ask_quiet _).within fun answer =>
        .bind hC (transport_quiet _).within fun outcome => ?_
    split
    · split
      · have hPerforms : Performs (fun _ => none) .confirmAudioSent (fun _ => .done)
          confirmAudioSent := fun _ => rfl
        exact hPerforms.within
      · exact (pure_quiet _).within
    · exact .bind hC (pumpOnce_within env) fun _ => ih
    · exact (throw_quiet _).within

theorem sendPayload_harmless {payload : Bytes} (deadline : Nat) {driver : SessionDriver}
    (h : Harmless driver.protocol.requestId payload) :
    Step (sendPayload env payload deadline false) driver :=
  Step.bind (queuePayload_harmless env deadline env.fuel h) fun _ _ =>
    flushPayload_within env deadline false env.fuel _

theorem sendPayload_audio {payload : Bytes} (deadline : Nat) {driver : SessionDriver}
    (h : driver.Pending) : Step (sendPayload env payload deadline true) driver :=
  Step.bind (queuePayload_audio env deadline env.fuel h) fun _ _ =>
    flushPayload_within env deadline true env.fuel _

/-- A request that is no audio request is built and sent. -/
theorem request_within (call : SessionCall) {method : Method Bytes}
    (hPerforms : Performs env.fromSlice call .request method)
    (hHarmless : ∀ {protocol after : DoubaoSessionProtocol} {payload : Bytes},
      Taken env.fromSlice protocol call (.request payload) after →
        Harmless protocol.requestId payload)
    {f : Unit → DriverCall β} (hf : ∀ value, Within Conservative (f value)) :
    Within Conservative (onProtocol method >>= fun payload =>
      phaseDeadline env >>= fun deadline => sendPayload env payload deadline false >>= f) := by
  intro driver
  have hBuilt := hPerforms.within driver
  refine Step.bind hBuilt fun payload hOk => ?_
  have hTaken := call_taken env.fromSlice driver.protocol call
  rw [hPerforms.answered (onProtocol_ok hOk)] at hTaken
  have hDeadline := (phaseDeadline_quiet env).within ((onProtocol method).run driver).state
  refine Step.bind hDeadline fun deadline _ => Step.bind (sendPayload_harmless env deadline ?_)
    fun value _ => hf value _
  rw [hDeadline.requestId, hBuilt.requestId]
  exact hHarmless hTaken

/-- An audio request is built and sent. -/
theorem audio_within (timestamp : UInt64) (packet : Bytes) {f : Unit → DriverCall β}
    (hf : ∀ value, Within Conservative (f value)) :
    Within Conservative (onProtocol (audioRequest timestamp packet) >>= fun payload =>
      phaseDeadline env >>= fun deadline => sendAudio env payload deadline >>= f) := by
  intro driver
  have hPerforms : Performs env.fromSlice (.audioRequest timestamp packet) .request
    (audioRequest timestamp packet) := fun _ => rfl
  refine Step.bind (hPerforms.within driver) fun payload hOk => ?_
  have hTaken := call_taken env.fromSlice driver.protocol (.audioRequest timestamp packet)
  rw [hPerforms.answered (onProtocol_ok hOk), ← hPerforms.state] at hTaken
  have hPending : Pending ((onProtocol (audioRequest timestamp packet)).run driver).state := by
    change ((audioRequest timestamp packet).run driver.protocol).state.phase = _ ∧
      ((audioRequest timestamp packet).run driver.protocol).state.inputState = _
    generalize ((audioRequest timestamp packet).run driver.protocol).state = after at hTaken
    cases hTaken with
    | audioRequest _ _ hPhase => exact ⟨hPhase, rfl⟩
  refine Step.bind ((phaseDeadline_quiet env).within _) fun deadline hDeadline =>
    Step.bind (sendPayload_audio env deadline ?_) fun value _ => hf value _
  exact (phaseDeadline_quiet env).keeps _ _ hPending hDeadline

theorem waitForPhase_within (expected : SessionPhase) (deadline : Nat) (turns : Nat) :
    Within Conservative (waitForPhase env expected deadline turns) := by
  have hC := conservative_composes
  induction turns with
  | zero => exact (throw_quiet _).within
  | succ turns ih =>
    rw [waitForPhase]
    refine .bind hC get_quiet.within fun driver => ?_
    split
    · exact (pure_quiet _).within
    · exact .bind hC (checkDeadlines_quiet env deadline).within fun _ =>
        .bind hC (pumpOnce_within env) fun _ => ih

theorem drainInbound_within (turns : Nat) : Within Conservative (drainInbound env turns) := by
  have hC := conservative_composes
  induction turns with
  | zero => exact (pure_quiet _).within
  | succ turns ih =>
    rw [drainInbound]
    refine .bind hC (pumpOnce_within env) fun more => ?_
    split
    · exact ih
    · exact (pure_quiet _).within

theorem waitForSendSlot_within (sendAt : Nat) (turns : Nat) :
    Within Conservative (waitForSendSlot env sendAt turns) := by
  have hC := conservative_composes
  induction turns with
  | zero => exact (throw_quiet _).within
  | succ turns ih =>
    rw [waitForSendSlot]
    refine .bind hC (ask_quiet _).within fun now => ?_
    split
    · exact .bind hC get_quiet.within fun driver =>
        .bind hC (checkDeadlines_quiet env _).within fun _ =>
          .bind hC (drainInbound_within env _) fun _ => .bind hC (ask_quiet _).within fun _ => ih
    · exact (pure_quiet _).within

theorem readPcmFrame_quiet (turns : Nat) : ∀ filled, Quiet (readPcmFrame env filled turns) := by
  induction turns with
  | zero => exact fun _ => throw_quiet _
  | succ turns ih =>
    intro filled
    rw [readPcmFrame]
    split
    · refine (ask_quiet _).bind fun read => ?_
      split
      · dsimp only
        split
        · split
          · exact pure_quiet _
          · split
            · exact throw_quiet _
            · exact pure_quiet _
        · exact ih _
      · exact ih _
      · exact throw_quiet _
    · split
      · exact throw_quiet _
      · exact pure_quiet _

theorem unixMillis_quiet : Quiet (unixMillis env) := by
  refine (ask_quiet _).bind fun clock => ?_
  split
  · exact throw_quiet _
  · split
    · exact throw_quiet _
    · exact pure_quiet _

theorem sendFrames_within (config : DoubaoRunConfig) (sessionStartedAt : Nat)
    (timestampBase : UInt64) (turns : Nat) :
    Within Conservative (sendFrames env config sessionStartedAt timestampBase turns) := by
  have hC := conservative_composes
  induction turns with
  | zero => exact (throw_quiet _).within
  | succ turns ih =>
    rw [sendFrames]
    refine .bind hC (readPcmFrame_quiet env _ _).within fun frame => ?_
    split
    · exact (pure_quiet _).within
    · refine .bind hC get_quiet.within fun driver =>
        .bind hC (waitForSendSlot_within env _ _) fun _ =>
          .bind hC (ask_quiet _).within fun packet => ?_
      split
      · exact (throw_quiet _).within
      · exact .bind hC get_quiet.within fun driver => audio_within env _ _ fun _ =>
          .bind hC (drainInbound_within env _) fun _ => ih

theorem openSession_within (token : String) (config : DoubaoRunConfig) :
    Within Conservative (openSession env token config) := by
  have hC := conservative_composes
  refine request_within env (.startTask token) (fun _ => rfl) ?_ fun _ =>
    .bind hC (phaseDeadline_quiet env).within fun _ =>
      .bind hC (waitForPhase_within env _ _ _) fun _ =>
        request_within env (.startSession token config.sessionJson) (fun _ => rfl) ?_
          fun _ => .bind hC (phaseDeadline_quiet env).within fun _ =>
            waitForPhase_within env _ _ _
  · intro protocol after payload hTaken
    cases hTaken with
    | startTask => exact encodeRequest_harmless (.inl (by decide))
  · intro protocol after payload hTaken
    cases hTaken with
    | startSession => exact encodeRequest_harmless (.inl (by decide))

theorem closeSession_within (token : String) (timestampBase : UInt64) :
    Within Conservative (closeSession env token timestampBase) := by
  have hC := conservative_composes
  refine .bind hC get_quiet.within fun driver =>
    request_within env (.finishAudio _) (fun _ => rfl) ?_ fun _ =>
      request_within env (.finishSession token) (fun _ => rfl) ?_ fun _ =>
        .bind hC (phaseDeadline_quiet env).within fun _ => waitForPhase_within env _ _ _
  · intro protocol after payload hTaken
    cases hTaken with
    | finishAudio => exact encodeRequest_harmless (.inr rfl)
  · intro protocol after payload hTaken
    cases hTaken with
    | finishSession => exact encodeRequest_harmless (.inl (by decide))

theorem run_within (token : String) (config : DoubaoRunConfig) :
    Within Conservative (run env token config) := by
  have hC := conservative_composes
  refine .bind hC (openSession_within env token config) fun _ =>
    .bind hC (ask_quiet _).within fun _ => .bind hC (unixMillis_quiet env).within fun _ =>
      .bind hC (sendFrames_within env config _ _ _) fun _ =>
        .bind hC (closeSession_within env token _) fun _ =>
          .bind hC get_quiet.within fun driver => ?_
  split
  · exact (throw_quiet _).within
  · have hTake : Quiet (Call.modify fun driver => { driver with outcome := none } :
        DriverCall PUnit) := fun _ => ⟨rfl, rfl⟩
    exact .bind hC hTake.within fun _ => (pure_quiet _).within

end SessionDriver

section Attempts

variable (env : Surroundings) (config : DoubaoRunConfig) (token : String)

/-- An audio request was handed to the socket, which queued it or failed on it. -/
def Attempt.AudioLeft (attempt : Attempt) (requestId : String) : Prop :=
  ∃ sending ∈ attempt.sendings, sending.Left ∧ sending.payload.length ≤ usizeMax ∧
    AudioRequest requestId sending.payload

/-- A failure says what may have happened to the audio. -/
structure Attempt.Honest (attempt : Attempt) (requestId : String) : Prop where
  failure : attempt.AudioLeft requestId → ∀ failure, attempt.result = some (.error failure) →
    failure.transportStarted = true ∧ failure.audioAcceptance ≠ .notAccepted

theorem driveSession_honest {protocol : DoubaoSessionProtocol}
    (hId : protocol.requestId = config.requestId) :
    (driveSession env config token protocol).Honest config.requestId := by
  refine ⟨?_⟩
  rintro ⟨sending, hMem, hLeft, hSize, hAudio⟩ failure hResult
  have hRun := SessionDriver.run_within env token config
    { protocol, totalDeadline := env.now 0 + config.totalTimeout
      phaseTimeout := config.phaseTimeout, partialResults := 0, outcome := none, asked := 1 }
  rw [driveSession] at hMem hResult
  dsimp only at hMem hResult
  generalize (SessionDriver.run env token config).run _ = outcome at hRun hMem hResult
  have hEvident := hRun.sent sending hMem hLeft fun hHarmless =>
    hHarmless hSize (hId ▸ hAudio)
  obtain ⟨result, after, sendings⟩ := outcome
  cases result with
  | ok transcription => cases hResult
  | error stop =>
    cases stop with
    | unfinished => cases hResult
    | failed error =>
      cases hResult
      refine ⟨rfl, ?_⟩
      change after.protocol.cancel.Evident
      rw [cancel]
      split <;> exact hEvident

theorem refused_honest (error : VoxError) (requestId : String) :
    (Attempt.refused error).Honest requestId := by
  refine ⟨?_⟩
  rintro ⟨sending, hMem, _⟩
  cases hMem

theorem transcribePcmWithEncoder_honest :
    (transcribePcmWithEncoder env config token).Honest config.requestId := by
  rw [transcribePcmWithEncoder]
  split
  · exact refused_honest _ _
  · split
    · exact refused_honest _ _
    · split
      · exact refused_honest _ _
      · rename_i protocol hNew
        split
        · split
          · exact refused_honest _ _
          · refine ⟨?_⟩
            rintro ⟨sending, hMem, _⟩
            cases hMem
        · refine driveSession_honest env config token ?_
          rw [new_eq hNew]

theorem transcribePcmWithEvidence_honest :
    (transcribePcmWithEvidence env config token).Honest config.requestId := by
  rw [transcribePcmWithEvidence]
  split
  · exact transcribePcmWithEncoder_honest env config token
  · exact refused_honest _ _

/-- Audio that may have left is reported, and no second attempt follows it; the token is
refreshed at most once. -/
theorem evidence_conservative (retryEnv : Surroundings) (refresh : Except VoxError String)
    (cancelled : Bool) :
    ((transcribePcmWithEncoder env config token).AudioLeft config.requestId →
      ∀ failure, (transcribePcmWithEncoder env config token).result = some (.error failure) →
        failure.transportStarted = true ∧
          (failure.audioAcceptance = .possiblyAccepted ∨ failure.audioAcceptance = .accepted)) ∧
    ((transcribePcmWithEvidence env config token).AudioLeft config.requestId →
      (transcribePcmWithTokenRefresh env retryEnv config token refresh cancelled).attempts =
          [transcribePcmWithEvidence env config token] ∧
        (transcribePcmWithTokenRefresh env retryEnv config token refresh cancelled).refreshes = 0) ∧
    (transcribePcmWithTokenRefresh env retryEnv config token refresh cancelled).refreshes ≤ 1 ∧
    (transcribePcmWithTokenRefresh env retryEnv config token refresh cancelled).attempts.length ≤ 2
    := by
  refine ⟨?_, ?_, ?_⟩
  · intro hLeft failure hResult
    obtain ⟨hStarted, hAccepted⟩ :=
      (transcribePcmWithEncoder_honest env config token).failure hLeft failure hResult
    refine ⟨hStarted, ?_⟩
    cases hAcceptance : failure.audioAcceptance with
    | notAccepted => exact absurd hAcceptance hAccepted
    | possiblyAccepted => exact .inl rfl
    | accepted => exact .inr rfl
  · intro hLeft
    have hHonest := (transcribePcmWithEvidence_honest env config token).failure hLeft
    rw [transcribePcmWithTokenRefresh.eq_def]
    dsimp only
    split
    · rename_i failure hResult
      rw [if_neg]
      · exact ⟨rfl, rfl⟩
      · rintro ⟨_, hNot, _⟩
        exact (hHonest failure hResult).2 hNot
    · exact ⟨rfl, rfl⟩
  · rw [transcribePcmWithTokenRefresh.eq_def]
    dsimp only
    split
    · split
      · split
        · exact ⟨Nat.le_refl 1, Nat.le_succ 1⟩
        · exact ⟨Nat.le_refl 1, Nat.le_refl 2⟩
      · exact ⟨Nat.zero_le 1, Nat.le_succ 1⟩
    · exact ⟨Nat.zero_le 1, Nat.le_succ 1⟩

/-- A provider that opens the session and goes away after the first audio request. -/
def closingSurroundings : Surroundings where
  fuel := 3
  fromSlice := emptyObject
  opusAvailable := true
  pcmFile := .opened 640
  connect := .ok ()
  now _ := 0
  cancelled _ := false
  queueBinary _ := .ok .queued
  flush _ := .ok .flushed
  poll asked :=
    if asked = 11 then .ok (.event (.binary (response "r" "TaskStarted")))
    else if asked = 22 then .ok (.event (.binary (response "r" "SessionStarted")))
    else .ok .closed
  read _ := .bytes (List.replicate 640 0)
  encode _ _ := some [1]
  wallClock _ := .millis 0

def closingConfig : DoubaoRunConfig :=
  ⟨"r", [0x7b, 0x7d], millis 100, millis 100, 0⟩

theorem evidence_conservative_closed :
    ∃ failure, (transcribePcmWithEncoder closingSurroundings closingConfig "t").result =
        some (.error failure) ∧ failure.transportStarted = true ∧
      (failure.audioAcceptance = .possiblyAccepted ∨ failure.audioAcceptance = .accepted) := by
  have hResult : (transcribePcmWithEncoder closingSurroundings closingConfig "t").result =
      some (.error (ProviderAttemptFailure.afterTransport connectionClosed .possiblyAccepted)) := by
    decide +kernel
  have hMem : (⟨encodeRequest "" "TaskRequest" (timestampJson 0) [1] "r" (some .first),
      .ok .queued⟩ : Sending) ∈
        (transcribePcmWithEncoder closingSurroundings closingConfig "t").sendings := by
    decide +kernel
  refine ⟨_, hResult, (evidence_conservative closingSurroundings closingConfig "t"
    closingSurroundings (.ok "u") false).1 ⟨_, hMem, nofun, by decide +kernel, 0, [1], .first,
      nofun, rfl⟩ _ hResult⟩

end Attempts

end VoxType.Doubao
