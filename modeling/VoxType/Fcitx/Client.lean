import VoxType.Core.Session
import VoxType.Fcitx.Bridge
import VoxType.Library.Lossy

/-!
# The client of the Fcitx bridge

A request is a datagram whose parts are joined by zero bytes. Each exchange
binds a socket of its own; the surroundings answer the exchanges by their number.
-/

namespace VoxType.Fcitx

set_option autoImplicit false

def utf8 (text : String) : Bytes := text.toList.flatMap String.utf8EncodeChar

def maxMessageSize : Nat := 60 * 1024

/-- What `request_message_at` reads of a response. -/
def maxResponseSize : Nat := 20 * 1024

def encodeMessage (parts : List Bytes) : Except VoxError Bytes :=
  let message := parts.zipIdx.foldl (fun message part =>
    (if 0 < part.2 then message ++ [0] else message) ++ part.1) []
  if maxMessageSize < message.length then
    .error (VoxError.new .protocol "fcitx.message_too_large"
      "Fcitx bridge request exceeds the bounded datagram size")
  else .ok message

def rejectionCategory (code : String) : ErrorCategory :=
  if code = "secure-context" then .permission
  else if code = "no-focused-context" ∨ code = "focus-changed" then .invalidState
  else if code = "session-mismatch" ∨ code = "empty-text" then .protocol
  else .unavailable

def bridgeRejected (code : String) : VoxError :=
  VoxError.new (rejectionCategory code) "fcitx.bridge_rejected"
    s!"Fcitx bridge rejected request: {code}"

/-- `str::from_utf8`: what decodes and encodes to the same bytes. -/
def fromUtf8 (bytes : Bytes) : Option String :=
  let text := RustText.fromUtf8Lossy bytes
  if text.flatMap String.utf8EncodeChar = bytes then some (String.ofList text) else none

def expectOk (response : Bytes) : Except VoxError Unit :=
  let fields := response.splitOn 0
  if fields[0]? = some (ascii "OK") then .ok ()
  else .error (bridgeRejected
    ((fields[1]?.bind fromUtf8).getD "bridge-error"))

def expectDispatched (response : Bytes) : Except VoxError Unit := do
  expectOk response
  let detail := (response.splitOn 0)[1]?.getD []
  if detail = ascii "dispatched" ∨ detail = ascii "committed" then .ok ()
  else .error (VoxError.new .protocol "fcitx.dispatch_unconfirmed"
    "Fcitx bridge did not confirm dispatch to the input context")

def expectDispatchedFor (response : Bytes) (requestId : String) : Except VoxError Unit := do
  expectOk response
  let fields := response.splitOn 0
  let detail := fields[1]?.getD []
  if (detail = ascii "dispatched" ∨ detail = ascii "committed") ∧
      fields[2]? = some (utf8 requestId) then .ok ()
  else .error (VoxError.new .protocol "fcitx.dispatch_unconfirmed"
    "Fcitx bridge did not confirm dispatch for this request id")

/-- `str::contains` -/
def contains (text needle : String) : Bool := decide (needle.toList <:+: text.toList)

structure FcitxTransport where
  runtimeDir : Except VoxError Unit
  requestMessageAt : Nat → Bytes → Except VoxError Bytes

namespace FcitxTransport

def request (self : FcitxTransport) (exchange : Nat) (parts : List Bytes) :
    Except VoxError Bytes := do
  self.runtimeDir
  let message ← encodeMessage parts
  self.requestMessageAt exchange message

/-- A failed transport is tried once more, with the same message. -/
def requestWithRetry (self : FcitxTransport) (parts : List Bytes) : Except VoxError Bytes := do
  self.runtimeDir
  let message ← encodeMessage parts
  match self.requestMessageAt 0 message with
  | .ok response => .ok response
  | .error error =>
    if error.code = "fcitx.transport_failed" then self.requestMessageAt 1 message
    else .error error

end FcitxTransport

/-- The process and its count of requests and sockets. -/
def commitRequestId (processId counter : Nat) : String := s!"{processId}-{counter}"

def commit2Parts (requestId : String) (session : SessionId) (text : String) : List Bytes :=
  [ascii "COMMIT2", utf8 requestId, utf8 session.value, utf8 text]

def commitParts (session : SessionId) (text : String) : List Bytes :=
  [ascii "COMMIT", utf8 session.value, utf8 text]

/-- An addon that does not know `COMMIT2` is sent a `COMMIT`. -/
def FcitxTransport.commit (self : FcitxTransport) (requestId : String) (session : SessionId)
    (text : String) : Except VoxError Unit := do
  let response ← self.requestWithRetry (commit2Parts requestId session text)
  match expectDispatchedFor response requestId with
  | .ok _ => .ok ()
  | .error error =>
    if contains error.message "unknown-command" then do
      let response ← self.request 2 (commitParts session text)
      expectDispatched response
    else .error error

section Codec

/-- What the addon reads is what splitting at the zero bytes gives. -/
theorem field_eq_splitOn (message : Bytes) (index : Nat) :
    field message index = (message.splitOn 0)[index]?.getD [] := by
  induction message generalizing index with
  | nil => cases index <;> rfl
  | cons byte rest ih =>
    rw [List.splitOn_cons_eq_if_modifyHead]
    cases hZero : byte == 0 with
    | true =>
      obtain rfl := beq_iff_eq.mp hZero
      cases index with
      | zero => rfl
      | succ index => exact ih index
    | false =>
      have hKeep : (byte != 0) = true := by rw [bne, hZero]; rfl
      obtain ⟨first, others, hSplit⟩ := List.exists_cons_of_ne_nil (List.splitOn_ne_nil 0 rest)
      have hRest := ih index
      rw [hSplit] at hRest ⊢
      cases index with
      | zero =>
        rw [field, List.takeWhile_cons, if_pos hKeep]
        exact congrArg (byte :: ·) hRest
      | succ index =>
        rw [field] at hRest ⊢
        rw [List.dropWhile_cons, if_pos hKeep]
        exact hRest

theorem field_plain (message : Bytes) (index : Nat) : 0 ∉ field message index := by
  induction index generalizing message with
  | zero =>
    rw [field]
    intro hMem
    exact absurd (List.mem_takeWhile_imp hMem) (by decide)
  | succ index ih =>
    rw [field]
    split
    · exact List.not_mem_nil
    · exact ih _

theorem encode_from (parts : List Bytes) {start : Nat} (hStart : 0 < start) (message : Bytes) :
    (parts.zipIdx start).foldl (fun message part =>
      (if 0 < part.2 then message ++ [0] else message) ++ part.1) message =
      message ++ parts.flatMap (0 :: ·) := by
  induction parts generalizing start message with
  | nil => exact (List.append_nil message).symm
  | cons part parts ih =>
    rw [List.zipIdx_cons, List.foldl_cons, if_pos hStart, ih (Nat.succ_pos start),
      List.flatMap_cons, List.append_assoc, List.append_assoc]
    rfl

theorem intercalate_eq (first : Bytes) (parts : List Bytes) :
    [0].intercalate (first :: parts) = first ++ parts.flatMap (0 :: ·) := by
  induction parts generalizing first with
  | nil => rw [List.intercalate_singleton, List.flatMap_nil, List.append_nil]
  | cons part parts ih =>
    rw [List.intercalate_cons_cons, ih, List.flatMap_cons, List.append_assoc]
    rfl

theorem encodeMessage_ok {first : Bytes} {parts : List Bytes} {message : Bytes}
    (h : encodeMessage (first :: parts) = .ok message) :
    message = [0].intercalate (first :: parts) ∧ message.length ≤ maxMessageSize := by
  rw [encodeMessage] at h
  split at h
  case isTrue => cases h
  case isFalse hSmall =>
    cases h
    refine ⟨?_, Nat.le_of_not_lt hSmall⟩
    rw [intercalate_eq, List.zipIdx_cons, List.foldl_cons, encode_from parts (by omega)]
    rfl

/-- The addon reads every part of the message as it was given. -/
def Agrees (parts : List Bytes) : Prop :=
  ∀ message, encodeMessage parts = .ok message →
    ∀ index part, parts[index]? = some part → field message index = part

/-- The parts of a message come through exactly when none holds the separator. -/
theorem agrees_of_plain {first : Bytes} {parts : List Bytes}
    (h : ∀ part ∈ first :: parts, 0 ∉ part) : Agrees (first :: parts) := by
  intro message hMessage index part hPart
  rw [field_eq_splitOn, (encodeMessage_ok hMessage).1,
    List.splitOn_intercalate 0 h (List.cons_ne_nil _ _), hPart]
  rfl

theorem plain_of_agrees {first : Bytes} {parts : List Bytes} {message : Bytes}
    (hMessage : encodeMessage (first :: parts) = .ok message) (h : Agrees (first :: parts)) :
    ∀ part ∈ first :: parts, 0 ∉ part := by
  intro part hMem
  obtain ⟨index, hPart⟩ := List.getElem?_of_mem hMem
  rw [← h message hMessage index part hPart]
  exact field_plain message index

end Codec

section Text

/-- Only the character NUL has a zero byte. -/
theorem zero_mem_utf8EncodeChar {c : Char} : 0 ∈ String.utf8EncodeChar c ↔ c = '\x00' := by
  have hByte : ∀ n, (0 : UInt8) = UInt8.ofNat n ↔ n % 256 = 0 := by
    intro n
    rw [eq_comm, ← UInt8.toNat_inj, UInt8.toNat_ofNat']
    rfl
  have hChar : c = '\x00' ↔ c.val.toNat = 0 := by
    rw [← Char.toNat_inj]
    rfl
  rw [String.utf8EncodeChar, hChar]
  split_ifs <;> simp only [List.mem_cons, List.not_mem_nil, or_false, hByte] <;> omega

theorem zero_mem_utf8 {text : String} : 0 ∈ utf8 text ↔ '\x00' ∈ text.toList := by
  rw [utf8, List.mem_flatMap]
  constructor
  · rintro ⟨c, hMem, hZero⟩
    exact zero_mem_utf8EncodeChar.mp hZero ▸ hMem
  · exact fun hMem => ⟨_, hMem, zero_mem_utf8EncodeChar.mpr rfl⟩

end Text

end VoxType.Fcitx
