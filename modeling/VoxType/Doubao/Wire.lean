import VoxType.Library.Leb128

/-!
# The Doubao wire format

Readers take the whole message and a cursor and return the cursor they stop at.
`usize` has 64 bits.
-/

namespace VoxType.Doubao

set_option autoImplicit false

abbrev Bytes : Type := List UInt8

def maxMessageBytes : Nat := 4 * 1024 * 1024

def usizeMax : Nat := 2 ^ 64 - 1

/-- The bytes of a string. -/
def asBytes (text : String) : Bytes := text.toByteArray.data.toList

/-- `String::from_utf8` -/
def fromUtf8 (bytes : Bytes) : Option String := String.fromUTF8? ⟨bytes.toArray⟩

inductive FrameState
  | first
  | middle
  | last
  deriving DecidableEq, Repr

def FrameState.toU64 : FrameState → UInt64
  | first => 1
  | middle => 3
  | last => 9

structure ResponseEnvelope where
  requestId : String
  taskId : String
  service : String
  messageType : String
  statusCode : UInt64
  statusMessage : String
  resultJson : Bytes
  deriving DecidableEq, Repr

def ResponseEnvelope.empty : ResponseEnvelope := ⟨"", "", "", "", 0, "", []⟩

/-- A `ProtocolError`, or one of the ways in which the code could go wrong without one. -/
inductive Halt
  | protocol (message : String)
  | shiftOverflow
  | unfinished
  deriving DecidableEq, Repr

/-- The loop of `write_varint`; a `u64` has at most ten groups. -/
def writeVarintFrom : Nat → Bytes → UInt64 → Bytes
  | 0, output, _ => output
  | turns + 1, output, value =>
    if 0x80 ≤ value then
      writeVarintFrom turns (output ++ [(value &&& 0x7f).toUInt8 ||| 0x80]) (value >>> 7)
    else output ++ [value.toUInt8]

def writeVarint (output : Bytes) (value : UInt64) : Bytes := writeVarintFrom 10 output value

def writeBytes (output : Bytes) (field : UInt32) (value : Bytes) : Bytes :=
  let output := writeVarint output (field.toUInt64 <<< 3 ||| 2)
  let output := writeVarint output (UInt64.ofNat (min value.length usizeMax))
  output ++ value

def writeVarintField (output : Bytes) (field : UInt32) (value : UInt64) : Bytes :=
  writeVarint (writeVarint output (field.toUInt64 <<< 3)) value

def encodeRequest (token method : String) (jsonPayload audio : Bytes) (requestId : String)
    (frameState : Option FrameState) : Bytes :=
  let output := []
  let output := writeBytes output 2 (asBytes token)
  let output := writeBytes output 3 (asBytes "ASR")
  let output := writeBytes output 5 (asBytes method)
  let output := writeBytes output 6 jsonPayload
  let output := writeBytes output 7 audio
  let output := writeBytes output 8 (asBytes requestId)
  writeVarintField output 9 ((frameState.map FrameState.toU64).getD 0)

/-- `<<` on a `u64`, which a shift of 64 or more overflows. -/
def shiftLeft (value : UInt64) (shift : Nat) : Except Halt UInt64 :=
  if shift < 64 then .ok (value <<< UInt64.ofNat shift) else .error .shiftOverflow

/-- The loop of `read_varint` over the shifts that are left. -/
def readVarintFrom (message : Bytes) : Nat → Nat → UInt64 → Nat → Except Halt (UInt64 × Nat)
  | 0, _, _, _ => .error (.protocol "protobuf varint is too long")
  | turns + 1, shift, value, cursor =>
    match message[cursor]? with
    | none => .error (.protocol "truncated protobuf varint")
    | some byte =>
      let cursor := min (cursor + 1) usizeMax
      if shift = 63 ∧ 1 < byte then .error (.protocol "protobuf varint overflow")
      else
        match shiftLeft (byte &&& 0x7f).toUInt64 shift with
        | .error halt => .error halt
        | .ok group =>
          let value := value ||| group
          if byte &&& 0x80 = 0 then .ok (value, cursor)
          else readVarintFrom message turns (shift + 7) value cursor

def readVarint (message : Bytes) (cursor : Nat) : Except Halt (UInt64 × Nat) :=
  readVarintFrom message 10 0 0 cursor

/-- `message.get(start..end)` -/
def slice (message : Bytes) (start «end» : Nat) : Option Bytes :=
  if start ≤ «end» ∧ «end» ≤ message.length then
    some ((message.drop start).take («end» - start))
  else none

def readBytes (message : Bytes) (cursor : Nat) : Except Halt (Bytes × Nat) := do
  let (length, cursor) ← readVarint message cursor
  let «end» := cursor + length.toNat
  if usizeMax < «end» then .error (.protocol "protobuf field length overflow")
  else
    match slice message cursor «end» with
    | none => .error (.protocol "truncated protobuf bytes field")
    | some value => .ok (value, «end»)

def utf8 (bytes : Bytes) : Except Halt String :=
  match fromUtf8 bytes with
  | none => .error (.protocol "protobuf string is not UTF-8")
  | some text => .ok text

def readString (message : Bytes) (cursor : Nat) : Except Halt (String × Nat) := do
  let (bytes, cursor) ← readBytes message cursor
  let text ← utf8 bytes
  .ok (text, cursor)

def advance (message : Bytes) (cursor count : Nat) : Except Halt Nat :=
  let «end» := cursor + count
  if usizeMax < «end» then .error (.protocol "protobuf cursor overflow")
  else if message.length < «end» then
    .error (.protocol "truncated protobuf fixed-width field")
  else .ok «end»

def skipField (message : Bytes) (cursor wire : Nat) : Except Halt Nat :=
  match wire with
  | 0 => do
    let (_, cursor) ← readVarint message cursor
    .ok cursor
  | 1 => advance message cursor 8
  | 2 => do
    let (_, cursor) ← readBytes message cursor
    .ok cursor
  | 5 => advance message cursor 4
  | _ => .error (.protocol "unsupported protobuf wire type")

/-- The field number and the wire type at the start of a field. -/
def readKey (message : Bytes) (cursor : Nat) : Except Halt (Nat × Nat × Nat) := do
  let (key, cursor) ← readVarint message cursor
  let field := (key >>> 3).toNat
  if 2 ^ 32 ≤ field then .error (.protocol "invalid field number")
  else .ok (field, (key &&& 7).toNat, cursor)

/-- One turn of the loop of `decode_response`. -/
def readField (message : Bytes) (cursor : Nat) (response : ResponseEnvelope) :
    Except Halt (ResponseEnvelope × Nat) := do
  let (field, wire, cursor) ← readKey message cursor
  match field, wire with
  | 1, 2 => do
    let (requestId, cursor) ← readString message cursor
    .ok ({ response with requestId }, cursor)
  | 2, 2 => do
    let (taskId, cursor) ← readString message cursor
    .ok ({ response with taskId }, cursor)
  | 3, 2 => do
    let (service, cursor) ← readString message cursor
    .ok ({ response with service }, cursor)
  | 4, 2 => do
    let (messageType, cursor) ← readString message cursor
    .ok ({ response with messageType }, cursor)
  | 5, 0 => do
    let (statusCode, cursor) ← readVarint message cursor
    .ok ({ response with statusCode }, cursor)
  | 6, 2 => do
    let (statusMessage, cursor) ← readString message cursor
    .ok ({ response with statusMessage }, cursor)
  | 7, 2 => do
    let (resultJson, cursor) ← readBytes message cursor
    .ok ({ response with resultJson }, cursor)
  | _, _ => do
    let cursor ← skipField message cursor wire
    .ok (response, cursor)

/-- The loop of `decode_response`, for a number of turns. -/
def decodeFrom (message : Bytes) :
    Nat → Nat → ResponseEnvelope → Except Halt ResponseEnvelope
  | 0, cursor, response =>
    if cursor < message.length then .error .unfinished else .ok response
  | turns + 1, cursor, response =>
    if cursor < message.length then do
      let (response, cursor) ← readField message cursor response
      decodeFrom message turns cursor response
    else .ok response

def decodeResponse (message : Bytes) : Except Halt ResponseEnvelope :=
  if maxMessageBytes < message.length then
    .error (.protocol "doubao response exceeds the size limit")
  else decodeFrom message message.length 0 .empty

example : encodeRequest "t" "M" [] [] "r" (some .first) =
    [0x12, 0x01, 0x74, 0x1a, 0x03, 0x41, 0x53, 0x52, 0x2a, 0x01, 0x4d, 0x32, 0x00, 0x3a, 0x00,
      0x42, 0x01, 0x72, 0x48, 0x01] := by decide

end VoxType.Doubao
