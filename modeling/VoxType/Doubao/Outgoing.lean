import VoxType.Doubao.SessionSteps

/-!
# The order of the outgoing requests

The requests that a session builds, and its confirmations between them, follow
one schedule; the state of the session says how far it has come.
-/

namespace VoxType.Doubao

set_option autoImplicit false

abbrev SessionLog : Type := List (SessionCall × SessionReply)

inductive Mark
  | built (request : Bytes)
  | confirmed
  deriving DecidableEq, Repr

def markOf : SessionCall × SessionReply → Option Mark
  | (.confirmAudioSent, .done) => some .confirmed
  | (_, .request bytes) => some (.built bytes)
  | _ => none

/-- The requests built in a run and the confirmations of audio, in order. -/
def marks (log : SessionLog) : List Mark := log.filterMap markOf

def Mark.request : Mark → Option Bytes
  | built request => some request
  | confirmed => none

/-- The requests built in a run. -/
def requests (log : SessionLog) : List Bytes := (marks log).filterMap Mark.request

/-- The audio requests whose transmission was confirmed. -/
def confirmations (log : SessionLog) : Nat := (marks log).count .confirmed

inductive Slot
  | startTask
  | startSession
  | audio (state : FrameState)
  | confirmation
  | last
  | finishSession
  deriving DecidableEq, Repr

open DoubaoSessionProtocol (timestampJson) in
/-- The request belongs in this place of the schedule. -/
def Slot.Request (requestId : String) : Slot → Bytes → Prop
  | startTask, bytes => ∃ token, bytes = encodeRequest token "StartTask" [] [] requestId none
  | startSession, bytes =>
    ∃ token sessionJson, bytes = encodeRequest token "StartSession" sessionJson [] requestId none
  | audio state, bytes => ∃ timestampMillis opusPacket, opusPacket ≠ [] ∧
      opusPacket.length ≤ maxOpusPacketBytes ∧
      bytes = encodeRequest "" "TaskRequest" (timestampJson timestampMillis) opusPacket requestId
        (some state)
  | confirmation, _ => False
  | last, bytes => ∃ timestampMillis,
      bytes = encodeRequest "" "TaskRequest" (timestampJson timestampMillis)
        (List.replicate lastFrameMarkerBytes 0) requestId (some .last)
  | finishSession, bytes =>
    ∃ token, bytes = encodeRequest token "FinishSession" [] [] requestId none

def Slot.Holds (requestId : String) : Slot → Mark → Prop
  | confirmation, .confirmed => True
  | slot, .built bytes => slot.Request requestId bytes
  | _, .confirmed => False

def frameAt (index : Nat) : FrameState := if index = 0 then .first else .middle

/-- The schedule up to the confirmation of a number of frames. -/
def begun : Nat → List Slot
  | 0 => [.startTask, .startSession]
  | frames + 1 => begun frames ++ [.audio (frameAt frames), .confirmation]

def schedule (frames : Nat) : List Slot := begun frames ++ [.last, .finishSession]

/-- How far the session has come in the schedule. -/
inductive Position (protocol : DoubaoSessionProtocol) : List Slot → Prop
  | disconnected (hPhase : protocol.phase = .disconnected) (hInput : protocol.inputState = .open)
      (hSent : protocol.sentAudioFrames = 0) : Position protocol []
  | task (hPhase : protocol.phase = .taskStarting ∨ protocol.phase = .taskStarted)
      (hInput : protocol.inputState = .open) (hSent : protocol.sentAudioFrames = 0) :
      Position protocol [.startTask]
  | session (hPhase : protocol.phase = .sessionStarting) (hInput : protocol.inputState = .open)
      (hSent : protocol.sentAudioFrames = 0) : Position protocol (begun 0)
  | opened (frames : Nat) (hPhase : protocol.phase = .streaming)
      (hInput : protocol.inputState = .open)
      (hSent : protocol.sentAudioFrames = min frames u64Max) : Position protocol (begun frames)
  | pending (frames : Nat) (hPhase : protocol.phase = .streaming)
      (hInput : protocol.inputState = .audioRequestPending)
      (hSent : protocol.sentAudioFrames = min frames u64Max) :
      Position protocol (begun frames ++ [.audio (frameAt frames)])
  | marked (frames : Nat) (hFrames : 0 < frames) (hPhase : protocol.phase = .streaming)
      (hInput : protocol.inputState = .finished)
      (hSent : protocol.sentAudioFrames = min frames u64Max) :
      Position protocol (begun frames ++ [.last])
  | finishing (frames : Nat) (hFrames : 0 < frames)
      (hPhase : protocol.phase = .finishing ∨ protocol.phase = .finished)
      (hInput : protocol.inputState = .finished)
      (hSent : protocol.sentAudioFrames = min frames u64Max) : Position protocol (schedule frames)
  | stopped {slots : List Slot} (frames : Nat) (hFrames : 0 < frames)
      (hPhase : protocol.phase = .failed ∨ protocol.phase = .cancelled)
      (hPrefix : slots <+: schedule frames)
      (hSent : protocol.sentAudioFrames = min (slots.count .confirmation) u64Max) :
      Position protocol slots

@[simp] theorem count_begun (frames : Nat) : (begun frames).count .confirmation = frames := by
  induction frames with
  | zero => rfl
  | succ frames ih => simp [begun, ih]

theorem begun_prefix (frames : Nat) : begun frames <+: schedule (frames + 1) := by
  rw [schedule, begun, List.append_assoc]
  exact List.prefix_append _ _

/-- What a position says without the details of the state. -/
theorem Position.scheduled {protocol : DoubaoSessionProtocol} {slots : List Slot}
    (h : Position protocol slots) :
    (∃ frames, 0 < frames ∧ slots <+: schedule frames) ∧
      protocol.sentAudioFrames = min (slots.count .confirmation) u64Max := by
  cases h with
  | disconnected _ _ hSent => exact ⟨⟨1, Nat.one_pos, List.nil_prefix⟩, hSent⟩
  | task _ _ hSent => exact ⟨⟨1, Nat.one_pos, by decide⟩, hSent⟩
  | session _ _ hSent => exact ⟨⟨1, Nat.one_pos, begun_prefix 0⟩, hSent⟩
  | opened frames _ _ hSent =>
    exact ⟨⟨frames + 1, Nat.succ_pos _, begun_prefix frames⟩, by rw [hSent, count_begun]⟩
  | pending frames _ _ hSent =>
    refine ⟨⟨frames + 1, Nat.succ_pos _, ?_⟩, ?_⟩
    · rw [schedule, begun]
      exact ⟨[.confirmation, .last, .finishSession], by simp⟩
    · simp [hSent]
  | marked frames hFrames _ _ hSent =>
    refine ⟨⟨frames, hFrames, [.finishSession], by simp [schedule]⟩, ?_⟩
    simp [hSent]
  | finishing frames hFrames _ _ hSent =>
    refine ⟨⟨frames, hFrames, List.prefix_refl _⟩, ?_⟩
    simp [hSent, schedule]
  | stopped frames hFrames _ hPrefix hSent => exact ⟨⟨frames, hFrames, hPrefix⟩, hSent⟩

namespace Position

open DoubaoSessionProtocol

variable {protocol after : DoubaoSessionProtocol} {slots : List Slot}

/-- A position does not depend on the rest of the state. -/
theorem congr (h : Position protocol slots) (hPhase : after.phase = protocol.phase)
    (hInput : after.inputState = protocol.inputState)
    (hSent : after.sentAudioFrames = protocol.sentAudioFrames) : Position after slots := by
  cases h with
  | disconnected h h' h'' => exact .disconnected (hPhase.trans h) (hInput.trans h') (hSent.trans h'')
  | task h h' h'' => exact .task (hPhase ▸ h) (hInput.trans h') (hSent.trans h'')
  | session h h' h'' => exact .session (hPhase.trans h) (hInput.trans h') (hSent.trans h'')
  | opened frames h h' h'' =>
    exact .opened frames (hPhase.trans h) (hInput.trans h') (hSent.trans h'')
  | pending frames h h' h'' =>
    exact .pending frames (hPhase.trans h) (hInput.trans h') (hSent.trans h'')
  | marked frames hFrames h h' h'' =>
    exact .marked frames hFrames (hPhase.trans h) (hInput.trans h') (hSent.trans h'')
  | finishing frames hFrames h h' h'' =>
    exact .finishing frames hFrames (hPhase ▸ h) (hInput.trans h') (hSent.trans h'')
  | stopped frames hFrames h hPrefix h'' =>
    exact .stopped frames hFrames (hPhase ▸ h) hPrefix (hSent.trans h'')

theorem stop (h : Position protocol slots)
    (hPhase : after.phase = .failed ∨ after.phase = .cancelled)
    (hSent : after.sentAudioFrames = protocol.sentAudioFrames) : Position after slots := by
  obtain ⟨⟨frames, hFrames, hPrefix⟩, hCount⟩ := h.scheduled
  exact .stopped frames hFrames hPhase hPrefix (hSent.trans hCount)

theorem failing (h : Position protocol slots) : Position protocol.failing slots := by
  rw [DoubaoSessionProtocol.failing]
  split
  · exact h.stop (.inl rfl) rfl
  · exact h

theorem cancel (h : Position protocol slots) : Position protocol.cancel slots := by
  rw [DoubaoSessionProtocol.cancel]
  split
  · exact h.stop (.inr rfl) rfl
  · exact h

theorem refused (h : Position protocol slots) (hRefused : protocol.Refused after) :
    Position after slots := by
  cases hRefused with
  | unreceived => exact h
  | failing => exact h.failing
  | emptyFinal event =>
    have hNoting : Position (noting event protocol) slots := h.congr rfl rfl rfl
    exact hNoting.failing

theorem of_disconnected (h : Position protocol slots) (hPhase : protocol.phase = .disconnected) :
    slots = [] ∧ protocol.inputState = .open ∧ protocol.sentAudioFrames = 0 := by
  cases h with
  | disconnected _ hInput hSent => exact ⟨rfl, hInput, hSent⟩
  | _ => simp_all

theorem of_task (h : Position protocol slots)
    (hPhase : protocol.phase = .taskStarting ∨ protocol.phase = .taskStarted) :
    slots = [.startTask] ∧ protocol.inputState = .open ∧ protocol.sentAudioFrames = 0 := by
  cases h with
  | task _ hInput hSent => exact ⟨rfl, hInput, hSent⟩
  | _ => grind

theorem of_session (h : Position protocol slots) (hPhase : protocol.phase = .sessionStarting) :
    slots = begun 0 ∧ protocol.inputState = .open ∧ protocol.sentAudioFrames = 0 := by
  cases h with
  | session _ hInput hSent => exact ⟨rfl, hInput, hSent⟩
  | _ => simp_all

theorem of_open (h : Position protocol slots) (hPhase : protocol.phase = .streaming)
    (hInput : protocol.inputState = .open) :
    ∃ frames, slots = begun frames ∧ protocol.sentAudioFrames = min frames u64Max := by
  cases h with
  | opened frames _ _ hSent => exact ⟨frames, rfl, hSent⟩
  | _ => simp_all

theorem of_pending (h : Position protocol slots) (hPhase : protocol.phase = .streaming)
    (hInput : protocol.inputState = .audioRequestPending) :
    ∃ frames, slots = begun frames ++ [.audio (frameAt frames)] ∧
      protocol.sentAudioFrames = min frames u64Max := by
  cases h with
  | pending frames _ _ hSent => exact ⟨frames, rfl, hSent⟩
  | _ => simp_all

theorem of_marked (h : Position protocol slots) (hPhase : protocol.phase = .streaming)
    (hInput : protocol.inputState = .finished) :
    ∃ frames, 0 < frames ∧ slots = begun frames ++ [.last] ∧
      protocol.sentAudioFrames = min frames u64Max := by
  cases h with
  | marked frames hFrames _ _ hSent => exact ⟨frames, hFrames, rfl, hSent⟩
  | _ => simp_all

theorem of_finishing (h : Position protocol slots) (hPhase : protocol.phase = .finishing) :
    ∃ frames, 0 < frames ∧ slots = schedule frames ∧ protocol.inputState = .finished ∧
      protocol.sentAudioFrames = min frames u64Max := by
  cases h with
  | finishing frames hFrames _ hInput hSent => exact ⟨frames, hFrames, rfl, hInput, hSent⟩
  | _ => simp_all

theorem frames_pos (frames : Nat) : min frames u64Max ≠ 0 ↔ 0 < frames := by
  rw [u64Max]
  omega

/-- A call adds to the schedule what it builds. -/
theorem step (h : Position protocol slots) {fromSlice : Bytes → Option Json} {call : SessionCall}
    {reply : SessionReply} (hTaken : Taken fromSlice protocol call reply after) :
    ∃ slots', List.Forall₂ (Slot.Holds protocol.requestId) slots' (marks [(call, reply)]) ∧
      Position after (slots ++ slots') := by
  have hNone {after : DoubaoSessionProtocol} (hMarks : marks [(call, reply)] = [])
      (hAfter : Position after slots) :
      ∃ slots', List.Forall₂ (Slot.Holds protocol.requestId) slots' (marks [(call, reply)]) ∧
        Position after (slots ++ slots') := by
    rw [hMarks]
    exact ⟨[], .nil, by rwa [List.append_nil]⟩
  have hOne {after : DoubaoSessionProtocol} {mark : Mark} (slot : Slot)
      (hMarks : marks [(call, reply)] = [mark]) (hHolds : slot.Holds protocol.requestId mark)
      (hAfter : Position after (slots ++ [slot])) :
      ∃ slots', List.Forall₂ (Slot.Holds protocol.requestId) slots' (marks [(call, reply)]) ∧
        Position after (slots ++ slots') := by
    rw [hMarks]
    exact ⟨[slot], .cons hHolds .nil, hAfter⟩
  cases hTaken with
  | startTask token hPhase =>
    obtain ⟨rfl, hInput, hSent⟩ := h.of_disconnected hPhase
    exact hOne .startTask rfl ⟨token, rfl⟩ (.task (.inl rfl) hInput hSent)
  | startSession token sessionJson hPhase =>
    obtain ⟨rfl, hInput, hSent⟩ := h.of_task (.inr hPhase)
    exact hOne .startSession rfl ⟨token, sessionJson, rfl⟩ (.session rfl hInput hSent)
  | audioRequest timestampMillis opusPacket hPhase hInput hPacket hLength =>
    obtain ⟨frames, rfl, hSent⟩ := h.of_open hPhase hInput
    have hState : (if protocol.sentAudioFrames = 0 then FrameState.first else .middle) =
        frameAt frames := by
      rw [frameAt, hSent]
      have hPos := frames_pos frames
      split <;> split <;> first | rfl | omega
    refine hOne (.audio (frameAt frames)) rfl ?_ (.pending frames hPhase rfl hSent)
    exact ⟨timestampMillis, opusPacket, hPacket, hLength, by rw [hState]⟩
  | confirmAudioSent hPhase hInput =>
    obtain ⟨frames, rfl, hSent⟩ := h.of_pending hPhase hInput
    refine hOne .confirmation rfl trivial ?_
    rw [List.append_assoc]
    refine .opened (frames + 1) hPhase rfl ?_
    dsimp only
    omega
  | markAudioWriteAmbiguous => exact hNone rfl (h.congr rfl rfl rfl)
  | finishAudio timestampMillis hPhase hInput hNonzero =>
    obtain ⟨frames, rfl, hSent⟩ := h.of_open hPhase hInput
    exact hOne .last rfl ⟨timestampMillis, rfl⟩
      (.marked frames ((frames_pos frames).mp (hSent ▸ hNonzero)) hPhase rfl hSent)
  | finishSession token hPhase hInput =>
    obtain ⟨frames, hFrames, rfl, hSent⟩ := h.of_marked hPhase hInput
    refine hOne .finishSession rfl ⟨token, rfl⟩ ?_
    rw [List.append_assoc]
    exact .finishing frames hFrames (.inl rfl) hInput hSent
  | taskStarted message response hUsed hPhase =>
    obtain ⟨rfl, hInput, hSent⟩ := h.of_task (.inl hPhase)
    exact hNone rfl (.task (.inr rfl) hInput hSent)
  | sessionStarted message response hUsed hPhase =>
    obtain ⟨rfl, hInput, hSent⟩ := h.of_session hPhase
    exact hNone rfl (.opened 0 rfl hInput (by rw [hSent]; rfl))
  | sessionFinished message response hUsed hPhase =>
    obtain ⟨frames, hFrames, rfl, hInput, hSent⟩ := h.of_finishing hPhase
    exact hNone rfl (.finishing frames hFrames (.inr rfl) hInput hSent)
  | quiet | duplicate => exact hNone rfl h
  | recognized => exact hNone rfl (h.congr rfl rfl rfl)
  | cancelled => exact hNone rfl h.cancel
  | refused call error after hCall hRefused =>
    refine hNone ?_ (h.refused hRefused)
    cases call <;> rfl

end Position

section Runs

open DoubaoSessionProtocol

theorem DoubaoSessionProtocol.failing_requestId (protocol : DoubaoSessionProtocol) :
    protocol.failing.requestId = protocol.requestId := by
  rw [failing]
  split <;> rfl

theorem DoubaoSessionProtocol.Taken.requestId {fromSlice : Bytes → Option Json}
    {protocol after : DoubaoSessionProtocol} {call : SessionCall} {reply : SessionReply}
    (h : Taken fromSlice protocol call reply after) : after.requestId = protocol.requestId := by
  cases h with
  | cancelled =>
    rw [cancel]
    split <;> rfl
  | refused call error after hCall hRefused =>
    cases hRefused with
    | unreceived => rfl
    | failing => exact failing_requestId _
    | emptyFinal event => exact failing_requestId (noting event protocol)
  | _ => rfl

theorem marks_append (left right : SessionLog) : marks (left ++ right) = marks left ++ marks right :=
  List.filterMap_append

/-- The schedule without the confirmations. -/
def requestSchedule (frames : Nat) : List Slot :=
  [.startTask, .startSession, .audio .first] ++ List.replicate frames (.audio .middle) ++
    [.last, .finishSession]

def isRequest (slot : Slot) : Bool := slot ≠ .confirmation

theorem filter_begun (frames : Nat) : (begun (frames + 1)).filter isRequest =
    [.startTask, .startSession, .audio .first] ++ List.replicate frames (.audio .middle) := by
  induction frames with
  | zero => rfl
  | succ frames ih =>
    rw [begun, List.filter_append, ih, List.append_assoc, List.replicate_succ']
    rfl

theorem filter_schedule (frames : Nat) :
    (schedule (frames + 1)).filter isRequest = requestSchedule frames := by
  rw [schedule, List.filter_append, filter_begun]
  rfl

theorem requests_of_marks {requestId : String} {slots : List Slot} {log : List Mark}
    (h : List.Forall₂ (Slot.Holds requestId) slots log) :
    List.Forall₂ (Slot.Request requestId) (slots.filter isRequest) (log.filterMap Mark.request) := by
  induction h with
  | nil => exact .nil
  | @cons slot mark slots log hHolds _ ih =>
    cases mark with
    | built bytes =>
      cases slot with
      | confirmation => exact hHolds.elim
      | _ => exact .cons hHolds ih
    | confirmed =>
      cases slot with
      | confirmation => exact ih
      | _ => exact hHolds.elim

theorem count_of_marks {requestId : String} {slots : List Slot} {log : List Mark}
    (h : List.Forall₂ (Slot.Holds requestId) slots log) :
    log.count .confirmed = slots.count .confirmation := by
  induction h with
  | nil => rfl
  | @cons slot mark slots log hHolds _ ih =>
    cases mark with
    | built bytes =>
      cases slot with
      | confirmation => exact hHolds.elim
      | _ => simpa using ih
    | confirmed =>
      cases slot with
      | confirmation => simpa using ih
      | _ => exact hHolds.elim

variable {requestId : String} {protocol : DoubaoSessionProtocol}

theorem new_eq (hNew : DoubaoSessionProtocol.new requestId = .ok protocol) :
    protocol = ⟨requestId, .disconnected, none, 0, .open, .notAccepted, none, none, false, false⟩ := by
  rw [DoubaoSessionProtocol.new] at hNew
  split at hNew
  · cases hNew
  · cases hNew
    rfl

/-- Every run stands somewhere in the schedule. -/
theorem position_run (hNew : DoubaoSessionProtocol.new requestId = .ok protocol)
    (fromSlice : Bytes → Option Json) (calls : List SessionCall) :
    ∃ slots,
      List.Forall₂ (Slot.Holds requestId) slots
        (marks ((protocolMachine fromSlice protocol).log calls)) ∧
      Position ((protocolMachine fromSlice protocol).state calls) slots := by
  have hRun : ((protocolMachine fromSlice protocol).state calls).requestId = requestId ∧ ∃ slots,
      List.Forall₂ (Slot.Holds requestId) slots
        (marks ((protocolMachine fromSlice protocol).log calls)) ∧
      Position ((protocolMachine fromSlice protocol).state calls) slots := by
    refine (protocolMachine fromSlice protocol).invariant (P := fun log protocol =>
      protocol.requestId = requestId ∧ ∃ slots,
        List.Forall₂ (Slot.Holds requestId) slots (marks log) ∧ Position protocol slots) ?_ ?_ calls
    · rw [new_eq hNew]
      exact ⟨rfl, [], .nil, .disconnected rfl rfl rfl⟩
    · rintro log protocol call ⟨rfl, slots, hMarks, hPosition⟩
      have hTaken := call_taken fromSlice protocol call
      obtain ⟨slots', hNew, hAfter⟩ := hPosition.step hTaken
      refine ⟨hTaken.requestId, slots ++ slots', ?_, hAfter⟩
      rw [marks_append]
      exact List.rel_append hMarks hNew
  exact hRun.2

theorem sent_run (hNew : DoubaoSessionProtocol.new requestId = .ok protocol)
    (fromSlice : Bytes → Option Json) (calls : List SessionCall) :
    ((protocolMachine fromSlice protocol).state calls).sentAudioFrames =
      min (confirmations ((protocolMachine fromSlice protocol).log calls)) u64Max := by
  obtain ⟨slots, hMarks, hPosition⟩ := position_run hNew fromSlice calls
  rw [hPosition.scheduled.2, confirmations, count_of_marks hMarks]

/-- The requests of a run follow the schedule, each audio request is confirmed before the next
one, and the confirmations are counted. -/
theorem ordered (hNew : DoubaoSessionProtocol.new requestId = .ok protocol)
    (fromSlice : Bytes → Option Json) (calls : List SessionCall) :
    ∃ frames slots, slots <+: schedule (frames + 1) ∧
      List.Forall₂ (Slot.Holds requestId) slots
        (marks ((protocolMachine fromSlice protocol).log calls)) ∧
      slots.filter isRequest <+: requestSchedule frames ∧
      List.Forall₂ (Slot.Request requestId) (slots.filter isRequest)
        (requests ((protocolMachine fromSlice protocol).log calls)) ∧
      ((protocolMachine fromSlice protocol).state calls).sentAudioFrames =
        min (confirmations ((protocolMachine fromSlice protocol).log calls)) u64Max := by
  obtain ⟨slots, hMarks, hPosition⟩ := position_run hNew fromSlice calls
  obtain ⟨⟨frames, hFrames, hPrefix⟩, _⟩ := hPosition.scheduled
  obtain ⟨frames, rfl⟩ : ∃ before, frames = before + 1 := ⟨frames - 1, by omega⟩
  refine ⟨frames, slots, hPrefix, hMarks, ?_, requests_of_marks hMarks,
    sent_run hNew fromSlice calls⟩
  rw [← filter_schedule]
  exact hPrefix.filter isRequest

end Runs

section Saturation

open Effects (Call)
open DoubaoSessionProtocol

def idle (requestId : String) : DoubaoSessionProtocol :=
  ⟨requestId, .disconnected, none, 0, .open, .notAccepted, none, none, false, false⟩

/-- A response of the given type to the session. -/
def response (requestId messageType : String) : Bytes :=
  writeBytes (writeBytes [] 1 (asBytes requestId)) 4 (asBytes messageType)

def opening : List SessionCall :=
  [.startTask "t", .handleBinary (response "r" "TaskStarted"), .startSession "t" [0x7b, 0x7d],
    .handleBinary (response "r" "SessionStarted")]

def emptyObject (_ : Bytes) : Option Json := some (.object [])

/-- One audio frame that is built and confirmed. -/
def frame : List SessionCall := [.audioRequest 0 [1], .confirmAudioSent]

/-- A session with two frames, the marker and its end. -/
def twoFrames : List SessionCall := opening ++ frame ++ frame ++ [.finishAudio 40, .finishSession "t"]

theorem ordered_twoFrames :
    ∃ frames slots, slots <+: schedule (frames + 1) ∧
      List.Forall₂ (Slot.Holds "r") slots
        (marks ((protocolMachine emptyObject (idle "r")).log twoFrames)) ∧
      slots.filter isRequest <+: requestSchedule frames ∧
      List.Forall₂ (Slot.Request "r") (slots.filter isRequest)
        (requests ((protocolMachine emptyObject (idle "r")).log twoFrames)) ∧
      ((protocolMachine emptyObject (idle "r")).state twoFrames).sentAudioFrames =
        min (confirmations ((protocolMachine emptyObject (idle "r")).log twoFrames)) u64Max :=
  ordered (by decide) emptyObject twoFrames

/-- The session after one more frame. -/
def oneMore (protocol : DoubaoSessionProtocol) : DoubaoSessionProtocol :=
  { protocol with
    inputState := .open
    sentAudioFrames := min (protocol.sentAudioFrames + 1) u64Max
    audioAcceptance := .possiblyAccepted }

theorem audioRequest_run {protocol : DoubaoSessionProtocol} (hPhase : protocol.phase = .streaming)
    (hInput : protocol.inputState = .open) :
    ∃ request, (audioRequest 0 [1]).run protocol =
      ⟨.ok request, { protocol with inputState := .audioRequestPending }, []⟩ := by
  have hNotFinished : protocol.inputState ≠ .finished := by
    rw [hInput]
    decide
  rw [audioRequest, requireStreamingInput_bind hPhase hNotFinished, Call.get_bind, hInput,
    if_neg (by decide), if_neg (by decide)]
  exact ⟨_, rfl⟩

theorem confirmAudioSent_run {protocol : DoubaoSessionProtocol}
    (hPhase : protocol.phase = .streaming) (hInput : protocol.inputState = .audioRequestPending) :
    confirmAudioSent.run protocol = ⟨.ok (), oneMore protocol, []⟩ := by
  rw [confirmAudioSent, requirePhase_bind hPhase, Call.get_bind, if_neg (not_not.mpr hInput)]
  rfl

variable (fromSlice : Bytes → Option Json) (start : DoubaoSessionProtocol)

theorem frame_run {protocol : DoubaoSessionProtocol} (hPhase : protocol.phase = .streaming)
    (hInput : protocol.inputState = .open) :
    ∃ request, (protocolMachine fromSlice start).runFrom protocol frame =
      ([(.audioRequest 0 [1], .request request), (.confirmAudioSent, .done)], oneMore protocol) := by
  obtain ⟨request, hAudio⟩ := audioRequest_run hPhase hInput
  have hConfirm : confirmAudioSent.run { protocol with inputState := .audioRequestPending } =
      ⟨.ok (), oneMore protocol, []⟩ := confirmAudioSent_run hPhase rfl
  refine ⟨request, ?_⟩
  rw [frame, Transition.Machine.runFrom, Transition.Machine.runFrom]
  simp only [protocolMachine, call, hAudio, answer, hConfirm, Transition.Machine.runFrom]

/-- Any number of frames can be sent once the session is open. -/
theorem frames_run (count : Nat) :
    ∀ {protocol : DoubaoSessionProtocol}, protocol.phase = .streaming →
      protocol.inputState = .open →
      confirmations ((protocolMachine fromSlice start).runFrom protocol
        (List.replicate count frame).flatten).1 = count := by
  induction count with
  | zero => exact fun _ _ => rfl
  | succ count ih =>
    intro protocol hPhase hInput
    obtain ⟨request, hFrame⟩ := frame_run fromSlice start hPhase hInput
    have hRest : confirmations ((protocolMachine fromSlice start).runFrom (oneMore protocol)
        (List.replicate count frame).flatten).1 = count := ih hPhase rfl
    rw [confirmations] at hRest ⊢
    rw [List.replicate_succ, List.flatten_cons, Transition.Machine.runFrom_append, hFrame,
      marks_append, List.count_append, hRest]
    exact Nat.add_comm 1 count

/-- The counter stops at the largest `u64`. -/
theorem frames_saturate :
    ¬ ∀ (fromSlice : Bytes → Option Json) (requestId : String) (protocol : DoubaoSessionProtocol),
      DoubaoSessionProtocol.new requestId = .ok protocol → ∀ calls : List SessionCall,
        ((protocolMachine fromSlice protocol).state calls).sentAudioFrames =
          confirmations ((protocolMachine fromSlice protocol).log calls) := by
  intro h
  have hNew : DoubaoSessionProtocol.new "r" = .ok (idle "r") := by decide
  have hOpen : ((protocolMachine emptyObject (idle "r")).state opening).phase = .streaming ∧
      ((protocolMachine emptyObject (idle "r")).state opening).inputState = .open ∧
      confirmations ((protocolMachine emptyObject (idle "r")).log opening) = 0 := by
    decide
  have hCount (count : Nat) : confirmations ((protocolMachine emptyObject (idle "r")).log
      (opening ++ (List.replicate count frame).flatten)) = count := by
    have hRest := frames_run emptyObject (idle "r") count hOpen.1 hOpen.2.1
    have hOpening := hOpen.2.2
    rw [confirmations] at hRest hOpening ⊢
    rw [Transition.Machine.log_append, marks_append, List.count_append, hOpening, hRest,
      Nat.zero_add]
  have hEqual := h emptyObject "r" (idle "r") hNew (opening ++ (List.replicate (2 ^ 64) frame).flatten)
  rw [sent_run hNew, hCount] at hEqual
  exact absurd hEqual (by decide)

end Saturation

end VoxType.Doubao
