import VoxType.Doubao.Envelope

/-!
# Round trips of the wire format

Writers only add to their output, and what they add is in the grammar that the
readers accept.
-/

namespace VoxType.Doubao

set_option autoImplicit false

section Varints

theorem group_byte (value : UInt64) :
    (value &&& 0x7f).toUInt8 ||| 0x80 = UInt8.ofNat (value.toNat % 128 + 128) := by
  have hLow : (value &&& 0x7f).toNat = value.toNat % 128 := by
    rw [UInt64.toNat_and]
    exact Nat.and_two_pow_sub_one_eq_mod value.toNat 7
  have hOr := Nat.two_pow_add_eq_or_of_lt (show value.toNat % 128 < 2 ^ 7 by omega) 1
  rw [← UInt8.toNat_inj, UInt8.toNat_or, UInt64.toNat_toUInt8, hLow,
    Leb128.toNat_ofNat (by omega), Nat.mod_eq_of_lt (show value.toNat % 128 < 2 ^ 8 by omega),
    Nat.or_comm, Nat.add_comm (value.toNat % 128)]
  exact hOr.symm

theorem writeVarintFrom_last {value : UInt64} (hValue : value.toNat < 128) (turns : Nat)
    (output : Bytes) :
    writeVarintFrom (turns + 1) output value = output ++ Leb128.encode value.toNat := by
  have hStop : ¬ 0x80 ≤ value := fun h => Nat.not_le.mpr hValue (UInt64.le_iff_toNat_le.mp h)
  rw [writeVarintFrom, if_neg hStop, Leb128.encode_of_lt hValue]
  rfl

theorem writeVarintFrom_eq (turns : Nat) : ∀ (output : Bytes) (value : UInt64),
    value.toNat < 128 ^ (turns + 1) →
      writeVarintFrom (turns + 1) output value = output ++ Leb128.encode value.toNat := by
  induction turns with
  | zero => exact fun output value hValue => writeVarintFrom_last hValue 0 output
  | succ turns ih =>
    intro output value hValue
    by_cases hMore : 0x80 ≤ value
    · have hLarge : 128 ≤ value.toNat := UInt64.le_iff_toNat_le.mp hMore
      have hShift : (value >>> 7).toNat = value.toNat / 128 := by
        rw [UInt64.toNat_shiftRight]
        exact Nat.shiftRight_eq_div_pow value.toNat 7
      have hRest : (value >>> 7).toNat < 128 ^ (turns + 1) := by
        rw [hShift, Nat.div_lt_iff_lt_mul (by decide), ← Nat.pow_succ]
        exact hValue
      rw [writeVarintFrom, if_pos hMore, ih _ _ hRest, hShift, group_byte,
        Leb128.encode_of_le hLarge, List.append_assoc, List.singleton_append]
    · exact writeVarintFrom_last
        (Nat.lt_of_not_le fun h => hMore (UInt64.le_iff_toNat_le.mpr h)) (turns + 1) output

/-- The writer adds the shortest writing of the number. -/
theorem writeVarint_eq (output : Bytes) (value : UInt64) :
    writeVarint output value = output ++ Leb128.encode value.toNat :=
  writeVarintFrom_eq 9 output value (value.toNat_lt.trans (by decide))

theorem varint_encode (value : UInt64) : Varint (Leb128.encode value.toNat) value where
  wellFormed := Leb128.wellFormed_encode _
  length := Leb128.length_encode_le _ 9 (value.toNat_lt.trans (by decide))
  tenth := by
    intro last hLast
    have hGroup := Leb128.last_le _ 9 last hLast
    have hLow := (Leb128.wellFormed_encode value.toNat).last_lt 9
      (Leb128.length_encode_le _ 9 (value.toNat_lt.trans (by decide))) hLast
    have hValue := value.toNat_lt
    rw [Leb128.value_encode] at hGroup
    refine UInt8.le_iff_toNat_le.mpr ?_
    change last.toNat ≤ 1
    omega
  value := Leb128.value_encode _

end Varints

section Fields

/-- The key that `write_bytes` writes. -/
def bytesKey (field : UInt32) : UInt64 := field.toUInt64 <<< 3 ||| 2

theorem shifted_key (field : UInt32) : (field.toUInt64 <<< 3).toNat = 8 * field.toNat := by
  have hField := field.toNat_lt
  rw [UInt64.toNat_shiftLeft, UInt32.toNat_toUInt64]
  change field.toNat <<< 3 % 2 ^ 64 = 8 * field.toNat
  rw [Nat.shiftLeft_eq]
  omega

theorem bytesKey_toNat (field : UInt32) : (bytesKey field).toNat = 8 * field.toNat + 2 := by
  have hOr := Nat.two_pow_add_eq_or_of_lt (show 2 < 2 ^ 3 by decide) field.toNat
  rw [bytesKey, UInt64.toNat_or, shifted_key]
  exact hOr.symm

theorem keyBytes_encode {key : UInt64} {number wire : Nat} (hKey : key.toNat = 8 * number + wire)
    (hWire : wire < 8) (hNumber : number < 2 ^ 32) :
    KeyBytes number wire (Leb128.encode key.toNat) key where
  varint := varint_encode key
  high := by omega
  fits := hNumber
  low := by omega

/-- The length that `write_bytes` writes. -/
theorem count_toNat {value : Bytes} (h : value.length ≤ usizeMax) :
    (UInt64.ofNat (min value.length usizeMax)).toNat = value.length := by
  rw [Nat.min_eq_left h, UInt64.toNat_ofNat', Nat.mod_eq_of_lt]
  exact Nat.lt_of_le_of_lt h (by decide)

theorem writeBytes_eq (output : Bytes) (field : UInt32) (value : Bytes) :
    writeBytes output field value = output ++ (Leb128.encode (bytesKey field).toNat ++
      (Leb128.encode (UInt64.ofNat (min value.length usizeMax)).toNat ++ value)) := by
  rw [writeBytes, writeVarint_eq, writeVarint_eq, List.append_assoc, List.append_assoc]
  rfl

theorem writeVarintField_eq (output : Bytes) (field : UInt32) (value : UInt64) :
    writeVarintField output field value = output ++ (Leb128.encode (field.toUInt64 <<< 3).toNat ++
      Leb128.encode value.toNat) := by
  rw [writeVarintField, writeVarint_eq, writeVarint_eq, List.append_assoc]

theorem writeBytes_field (output : Bytes) (field : UInt32) {value : Bytes}
    (hValue : value.length ≤ usizeMax) :
    ∃ bytes, writeBytes output field value = output ++ bytes ∧
      FieldBytes ⟨field.toNat, .bytes value⟩ bytes := by
  have hKey : KeyBytes field.toNat 2 _ (bytesKey field) :=
    keyBytes_encode (bytesKey_toNat field) (by decide) field.toNat_lt
  exact ⟨_, writeBytes_eq output field value, .intro hKey (.bytes (varint_encode _)
    (count_toNat hValue))⟩

theorem writeVarintField_field (output : Bytes) (field : UInt32) (value : UInt64) :
    ∃ bytes, writeVarintField output field value = output ++ bytes ∧
      FieldBytes ⟨field.toNat, .varint value⟩ bytes := by
  have hKey : KeyBytes field.toNat 0 _ (field.toUInt64 <<< 3) :=
    keyBytes_encode (shifted_key field) (by decide) field.toNat_lt
  exact ⟨_, writeVarintField_eq output field value, .intro hKey (.varint (varint_encode value))⟩

end Fields

section Readers

/-- Reading at the output of `write_varint` returns the number and stops after it. -/
theorem readVarint_written (output rest : Bytes) (value : UInt64)
    (hSize : (writeVarint output value ++ rest).length ≤ usizeMax) :
    readVarint (writeVarint output value ++ rest) output.length =
      .ok (value, (writeVarint output value).length) := by
  refine (readVarint_iff hSize).mpr ⟨Leb128.encode value.toNat, rest, ?_, varint_encode value, ?_⟩
  · rw [writeVarint_eq, List.append_assoc, List.drop_left]
  · rw [writeVarint_eq, List.length_append]

/-- Reading after the key of `write_bytes` returns the bytes and stops after them. -/
theorem readBytes_written (output rest : Bytes) (field : UInt32) (value : Bytes)
    (hSize : (writeBytes output field value ++ rest).length ≤ usizeMax) :
    readBytes (writeBytes output field value ++ rest)
        (writeVarint output (bytesKey field)).length =
      .ok (value, (writeBytes output field value).length) := by
  have hWritten : writeBytes output field value = writeVarint output (bytesKey field) ++
      (Leb128.encode (UInt64.ofNat (min value.length usizeMax)).toNat ++ value) := by
    rw [writeBytes_eq, writeVarint_eq, List.append_assoc]
  have hValue : value.length ≤ usizeMax := by
    rw [hWritten] at hSize
    simp only [List.length_append] at hSize
    omega
  refine (readBytes_iff hSize).mpr ⟨_, _, rest, ?_, varint_encode _, count_toNat hValue, ?_⟩
  · rw [hWritten, List.append_assoc, List.drop_left]
  · rw [hWritten, List.length_append]

end Readers

section Requests

/-- Splits a message into its fields with the readers; also the cursor they stop at. -/
def splitFrom (message : Bytes) : Nat → Nat → Except Halt (List Field × Nat)
  | 0, cursor => if cursor < message.length then .error .unfinished else .ok ([], cursor)
  | turns + 1, cursor =>
    if cursor < message.length then do
      let (number, wire, cursor) ← readKey message cursor
      let (payload, cursor) ← readPayload message cursor wire
      let (fields, cursor) ← splitFrom message turns cursor
      .ok (⟨number, payload⟩ :: fields, cursor)
    else .ok ([], cursor)

def splitFields (message : Bytes) : Except Halt (List Field × Nat) :=
  splitFrom message message.length 0

theorem splitFrom_message {message : Bytes} (hSize : message.length ≤ usizeMax)
    {fields : List Field} {bytes : Bytes} (hMessage : Message fields bytes) (turns : Nat) :
    ∀ {cursor : Nat}, message.drop cursor = bytes → message.length ≤ cursor + turns →
      cursor ≤ message.length → splitFrom message turns cursor = .ok (fields, message.length) := by
  induction hMessage generalizing turns with
  | nil =>
    intro cursor hDrop _ hCursor
    have hEnd : cursor = message.length :=
      Nat.le_antisymm hCursor (List.drop_eq_nil_iff.mp hDrop)
    cases turns with
    | zero => rw [splitFrom, if_neg (by omega), hEnd]
    | succ turns => rw [splitFrom, if_neg (by omega), hEnd]
  | @cons field fields head tail hField hRest ih =>
    intro cursor hDrop hTurns hCursor
    have hBound := bound_after hDrop hField.ne_nil
    have hHead := List.length_pos_iff.mpr hField.ne_nil
    have hTail := drop_after hDrop
    cases turns with
    | zero => exact absurd hBound (by omega)
    | succ turns =>
      obtain ⟨hKey, hPayload⟩ := hField
      rename_i key keyBytes payloadBytes
      rw [List.length_append] at hBound hHead hTail
      rw [List.append_assoc] at hDrop
      have hKeyRead := (readKey_iff hSize).mpr ⟨keyBytes, key, _, hDrop, hKey, rfl⟩
      have hPayloadRead := (readPayload_iff hSize).mpr
        ⟨payloadBytes, tail, drop_after hDrop, hPayload, rfl, rfl⟩
      rw [Nat.add_assoc] at hPayloadRead
      rw [splitFrom, if_pos (by omega), hKeyRead]
      simp only [ok_bind, hPayloadRead, ih turns hTail (by omega) hBound]

theorem splitFields_message {message : Bytes} (hSize : message.length ≤ usizeMax)
    {fields : List Field} (hMessage : Message fields message) :
    splitFields message = .ok (fields, message.length) :=
  splitFrom_message hSize hMessage message.length rfl (by omega) (Nat.zero_le _)

theorem Message.append {fields fields' : List Field} {bytes bytes' : Bytes}
    (h : Message fields bytes) (h' : Message fields' bytes') :
    Message (fields ++ fields') (bytes ++ bytes') := by
  induction h with
  | nil => exact h'
  | cons hField _ ih =>
    rw [List.append_assoc]
    exact .cons hField ih

theorem Message.singleton {field : Field} {bytes : Bytes} (h : FieldBytes field bytes) :
    Message [field] bytes := by
  have hMessage := Message.cons h .nil
  rwa [List.append_nil] at hMessage

theorem Message.writeBytes {fields : List Field} {output : Bytes} (h : Message fields output)
    (field : UInt32) {value : Bytes}
    (hSize : (writeBytes output field value).length ≤ usizeMax) :
    Message (fields ++ [⟨field.toNat, .bytes value⟩]) (writeBytes output field value) := by
  have hValue : value.length ≤ usizeMax := by
    rw [writeBytes_eq] at hSize
    simp only [List.length_append] at hSize
    omega
  obtain ⟨bytes, hWritten, hField⟩ := writeBytes_field output field hValue
  rw [hWritten]
  exact h.append (.singleton hField)

theorem Message.writeVarintField {fields : List Field} {output : Bytes} (h : Message fields output)
    (field : UInt32) (value : UInt64) :
    Message (fields ++ [⟨field.toNat, .varint value⟩]) (writeVarintField output field value) := by
  obtain ⟨bytes, hWritten, hField⟩ := writeVarintField_field output field value
  rw [hWritten]
  exact h.append (.singleton hField)

/-- The number of a frame state in a request. -/
def stateNumber (frameState : Option FrameState) : UInt64 :=
  (frameState.map FrameState.toU64).getD 0

def requestFields (token method : String) (jsonPayload audio : Bytes) (requestId : String)
    (frameState : Option FrameState) : List Field :=
  [⟨2, .bytes (asBytes token)⟩, ⟨3, .bytes (asBytes "ASR")⟩, ⟨5, .bytes (asBytes method)⟩,
    ⟨6, .bytes jsonPayload⟩, ⟨7, .bytes audio⟩, ⟨8, .bytes (asBytes requestId)⟩,
    ⟨9, .varint (stateNumber frameState)⟩]

theorem length_le_writeBytes (output : Bytes) (field : UInt32) (value : Bytes) :
    output.length ≤ (writeBytes output field value).length := by
  rw [writeBytes_eq, List.length_append]
  exact Nat.le_add_right _ _

theorem length_le_writeVarintField (output : Bytes) (field : UInt32) (value : UInt64) :
    output.length ≤ (writeVarintField output field value).length := by
  rw [writeVarintField_eq, List.length_append]
  exact Nat.le_add_right _ _

theorem encodeRequest_message {token method : String} {jsonPayload audio : Bytes}
    {requestId : String} {frameState : Option FrameState}
    (hSize : (encodeRequest token method jsonPayload audio requestId frameState).length ≤
      usizeMax) :
    Message (requestFields token method jsonPayload audio requestId frameState)
      (encodeRequest token method jsonPayload audio requestId frameState) := by
  rw [encodeRequest] at hSize ⊢
  have h8 := (length_le_writeVarintField _ _ _).trans hSize
  have h7 := (length_le_writeBytes _ _ _).trans h8
  have h6 := (length_le_writeBytes _ _ _).trans h7
  have h5 := (length_le_writeBytes _ _ _).trans h6
  have h3 := (length_le_writeBytes _ _ _).trans h5
  have h2 := (length_le_writeBytes _ _ _).trans h3
  exact ((((((Message.nil.writeBytes 2 h2).writeBytes 3 h3).writeBytes 5 h5).writeBytes 6
    h6).writeBytes 7 h7).writeBytes 8 h8).writeVarintField 9 (stateNumber frameState)

theorem asBytes_inj {text text' : String} (h : asBytes text = asBytes text') : text = text' :=
  String.toByteArray_inj.mp (ByteArray.ext (Array.toList_inj.mp h))

theorem stateNumber_inj {state state' : Option FrameState}
    (h : stateNumber state = stateNumber state') : state = state' := by
  rcases state with _ | _ | _ | _ <;> rcases state' with _ | _ | _ | _ <;>
    first | rfl | exact absurd h (by decide)

theorem splitFields_encodeRequest (token method : String) (jsonPayload audio : Bytes)
    (requestId : String) (frameState : Option FrameState)
    (hSize : (encodeRequest token method jsonPayload audio requestId frameState).length ≤
      usizeMax) :
    splitFields (encodeRequest token method jsonPayload audio requestId frameState) =
      .ok (requestFields token method jsonPayload audio requestId frameState,
        (encodeRequest token method jsonPayload audio requestId frameState).length) :=
  splitFields_message hSize (encodeRequest_message hSize)

theorem encodeRequest_inj {token token' method method' : String}
    {jsonPayload jsonPayload' audio audio' : Bytes} {requestId requestId' : String}
    {state state' : Option FrameState}
    (hSize : (encodeRequest token method jsonPayload audio requestId state).length ≤ usizeMax)
    (h : encodeRequest token method jsonPayload audio requestId state =
      encodeRequest token' method' jsonPayload' audio' requestId' state') :
    token = token' ∧ method = method' ∧ jsonPayload = jsonPayload' ∧ audio = audio' ∧
      requestId = requestId' ∧ state = state' := by
  have hLeft := splitFields_encodeRequest token method jsonPayload audio requestId state hSize
  have hRight := splitFields_encodeRequest token' method' jsonPayload' audio' requestId' state'
    (h ▸ hSize)
  rw [h, hRight] at hLeft
  simp only [requestFields, Except.ok.injEq, Prod.mk.injEq, List.cons.injEq, Field.mk.injEq,
    Payload.bytes.injEq, Payload.varint.injEq, true_and, and_true] at hLeft
  obtain ⟨hToken, hMethod, hPayload, hAudio, hId, hState⟩ := hLeft
  exact ⟨(asBytes_inj hToken).symm, (asBytes_inj hMethod).symm, hPayload.symm, hAudio.symm,
    (asBytes_inj hId).symm, (stateNumber_inj hState).symm⟩

end Requests

section Responses

instance (field : Field) : Decidable field.Known := inferInstanceAs (Decidable (_ ∨ _))

/-- The fields of a response. -/
def responseFields (response : ResponseEnvelope) : List Field :=
  [⟨1, .bytes (asBytes response.requestId)⟩, ⟨2, .bytes (asBytes response.taskId)⟩,
    ⟨3, .bytes (asBytes response.service)⟩, ⟨4, .bytes (asBytes response.messageType)⟩,
    ⟨5, .varint response.statusCode⟩, ⟨6, .bytes (asBytes response.statusMessage)⟩,
    ⟨7, .bytes response.resultJson⟩]

/-- A message that the writers wrote, with other fields in between. -/
inductive Written : List Field → Bytes → Prop
  | nil : Written [] []
  | bytes {fields : List Field} {output : Bytes} (h : Written fields output) (field : UInt32)
      (value : Bytes) :
      Written (fields ++ [⟨field.toNat, .bytes value⟩]) (writeBytes output field value)
  | varint {fields : List Field} {output : Bytes} (h : Written fields output) (field : UInt32)
      (value : UInt64) :
      Written (fields ++ [⟨field.toNat, .varint value⟩]) (writeVarintField output field value)
  | unknown {fields : List Field} {output bytes : Bytes} {field : Field}
      (h : Written fields output) (hUnknown : ¬ field.Known) (hField : FieldBytes field bytes) :
      Written (fields ++ [field]) (output ++ bytes)

theorem Written.message {fields : List Field} {output : Bytes} (h : Written fields output)
    (hSize : output.length ≤ usizeMax) : Message fields output := by
  induction h with
  | nil => exact .nil
  | bytes _ field value ih =>
    exact (ih ((length_le_writeBytes _ _ _).trans hSize)).writeBytes field hSize
  | varint _ field value ih =>
    exact (ih ((length_le_writeVarintField _ _ _).trans hSize)).writeVarintField field value
  | unknown _ _ hField ih =>
    rw [List.length_append] at hSize
    exact (ih (by omega)).append (.singleton hField)

theorem fromUtf8_asBytes (text : String) : fromUtf8 (asBytes text) = some text := by
  rw [fromUtf8, asBytes, Array.toArray_toList]
  exact dif_pos text.isValidUTF8

theorem readable_responseFields {response : ResponseEnvelope} {field : Field}
    (h : field ∈ responseFields response) : field.Readable := by
  simp only [responseFields, List.mem_cons, List.not_mem_nil, or_false] at h
  intro hNumber value hPayload
  rcases h with rfl | rfl | rfl | rfl | rfl | rfl | rfl
  case inr.inr.inr.inr.inl => cases hPayload
  case inr.inr.inr.inr.inr.inr => exact absurd hNumber (show 7 ∉ [1, 2, 3, 4, 6] by decide)
  all_goals
    cases hPayload
    rw [fromUtf8_asBytes]
    rfl

/-- Only the known fields count, and each of them in any place. -/
theorem filterMap_known {β : Type} {f : Field → Option β} (hf : ∀ field, ¬ field.Known → f field = none)
    {fields : List Field} {response : ResponseEnvelope} {value : β}
    (hPerm : (fields.filter fun field => field.Known).Perm (responseFields response))
    (hValue : (responseFields response).filterMap f = [value]) : fields.filterMap f = [value] := by
  have hFilter : (fields.filter fun field => field.Known).filterMap f = fields.filterMap f := by
    rw [List.filterMap_filter]
    refine List.filterMap_congr fun field _ => ?_
    by_cases hKnown : field.Known
    · rw [decide_eq_true hKnown, if_pos rfl]
    · rw [decide_eq_false hKnown, if_neg Bool.false_ne_true, hf field hKnown]
  rw [← hFilter]
  exact List.perm_singleton.mp (hValue ▸ hPerm.filterMap f)

theorem envelope_eq {fields : List Field} {response : ResponseEnvelope}
    (hPerm : (fields.filter fun field => field.Known).Perm (responseFields response)) :
    envelope fields = response := by
  have hBytes {number : Nat} {value : Bytes} (hNumber : number ∈ [1, 2, 3, 4, 6, 7])
      (hValue : (responseFields response).filterMap (Field.bytesAt number) = [value]) :
      lastBytes number fields = some value := by
    rw [lastBytes, filterMap_known (fun field h => bytesAt_unknown h hNumber) hPerm hValue]
    rfl
  have hText {number : Nat} {text : String} (hNumber : number ∈ [1, 2, 3, 4, 6, 7])
      (hValue : (responseFields response).filterMap (Field.bytesAt number) = [asBytes text]) :
      lastText number fields = text := by
    rw [lastText, hBytes hNumber hValue, Option.bind_some, fromUtf8_asBytes, Option.getD_some]
  have hStatus : lastVarint 5 fields = response.statusCode := by
    rw [lastVarint, filterMap_known (fun field h => varintAt_unknown h) hPerm rfl]
    rfl
  rw [envelope, hText (by decide) rfl, hText (by decide) rfl, hText (by decide) rfl,
    hText (by decide) rfl, hStatus, hText (by decide) rfl, hBytes (by decide) rfl]
  rfl

theorem decodeResponse_written {fields : List Field} {message : Bytes}
    {response : ResponseEnvelope} (h : Written fields message)
    (hPerm : (fields.filter fun field => field.Known).Perm (responseFields response))
    (hSize : message.length ≤ maxMessageBytes) : decodeResponse message = .ok response := by
  refine (decodeResponse_iff hSize).mpr
    ⟨fields, h.message (hSize.trans maxMessageBytes_le), ?_, (envelope_eq hPerm).symm⟩
  intro field hField
  by_cases hKnown : field.Known
  · exact readable_responseFields (hPerm.mem_iff.mp
      (List.mem_filter.mpr ⟨hField, decide_eq_true hKnown⟩))
  · exact Field.readable_of_unknown hKnown

end Responses

/-- What the writers write, the readers read back; a slice has at most `usizeMax` bytes. -/
theorem round_trip :
    (∀ (output rest : Bytes) (value : UInt64),
      (writeVarint output value ++ rest).length ≤ usizeMax →
        output <+: writeVarint output value ∧
          readVarint (writeVarint output value ++ rest) output.length =
            .ok (value, (writeVarint output value).length)) ∧
    (∀ (output rest : Bytes) (field : UInt32) (value : Bytes),
      (writeBytes output field value ++ rest).length ≤ usizeMax →
        writeVarint output (bytesKey field) <+: writeBytes output field value ∧
          readBytes (writeBytes output field value ++ rest)
              (writeVarint output (bytesKey field)).length =
            .ok (value, (writeBytes output field value).length)) ∧
    (∀ (token method : String) (jsonPayload audio : Bytes) (requestId : String)
        (state : Option FrameState),
      (encodeRequest token method jsonPayload audio requestId state).length ≤ usizeMax →
        splitFields (encodeRequest token method jsonPayload audio requestId state) =
            .ok (requestFields token method jsonPayload audio requestId state,
              (encodeRequest token method jsonPayload audio requestId state).length) ∧
          ∀ (token' method' : String) (jsonPayload' audio' : Bytes) (requestId' : String)
            (state' : Option FrameState),
            encodeRequest token method jsonPayload audio requestId state =
                encodeRequest token' method' jsonPayload' audio' requestId' state' →
              token = token' ∧ method = method' ∧ jsonPayload = jsonPayload' ∧ audio = audio' ∧
                requestId = requestId' ∧ state = state') ∧
    (∀ (response : ResponseEnvelope) (fields : List Field) (message : Bytes),
      Written fields message →
        (fields.filter fun field => field.Known).Perm (responseFields response) →
          message.length ≤ maxMessageBytes → decodeResponse message = .ok response) := by
  refine ⟨?_, ?_, ?_, ?_⟩
  · intro output rest value hSize
    refine ⟨?_, readVarint_written output rest value hSize⟩
    rw [writeVarint_eq]
    exact List.prefix_append _ _
  · intro output rest field value hSize
    refine ⟨?_, readBytes_written output rest field value hSize⟩
    rw [writeBytes_eq, writeVarint_eq, ← List.append_assoc]
    exact List.prefix_append _ _
  · intro token method jsonPayload audio requestId state hSize
    refine ⟨splitFields_encodeRequest _ _ _ _ _ _ hSize, ?_⟩
    intro token' method' jsonPayload' audio' requestId' state' h
    exact encodeRequest_inj hSize h
  · exact fun response fields message h hPerm hSize => decodeResponse_written h hPerm hSize

theorem round_trip_reordered :
    readVarint (writeVarint [] 300 ++ [7]) 0 = .ok (300, 2) ∧
    readBytes (writeBytes [] 7 [1, 2] ++ [9]) 1 = .ok ([1, 2], 4) ∧
    splitFields (encodeRequest "t" "m" [] [1] "r" (some .last)) =
      .ok (requestFields "t" "m" [] [1] "r" (some .last), 21) ∧
    decodeResponse (writeBytes (writeBytes (writeBytes (writeBytes (writeBytes (writeVarintField
        (writeVarintField (writeBytes (writeBytes [] 7 [1]) 9 [3]) 12 300) 5 20) 6 []) 4 []) 3 [])
        2 []) 1 []) =
      .ok { ResponseEnvelope.empty with statusCode := 20, resultJson := [1] } := by
  refine ⟨(round_trip.1 [] [7] 300 (by decide)).2, ?_, ?_, ?_⟩
  · exact (round_trip.2.1 [] [9] 7 [1, 2] (by decide)).2
  · exact (round_trip.2.2.1 "t" "m" [] [1] "r" (some .last) (by decide +kernel)).1
  · exact round_trip.2.2.2 _ _ _ (((((((((Written.nil.bytes 7 [1]).bytes 9 [3]).varint 12
      300).varint 5 20).bytes 6 []).bytes 4 []).bytes 3 []).bytes 2 []).bytes 1 [])
      (by decide +kernel) (by decide +kernel)

end VoxType.Doubao
