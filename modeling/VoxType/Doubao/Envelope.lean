import VoxType.Doubao.Grammar

/-!
# Decoding a response

One turn of the loop reads a key and a payload and then assigns the payload;
the whole loop reads the fields of the message and assigns them in order.
-/

namespace VoxType.Doubao

set_option autoImplicit false

/-- The fields that hold text are UTF-8. -/
def Field.Readable (field : Field) : Prop :=
  field.number ∈ [1, 2, 3, 4, 6] → ∀ value, field.payload = .bytes value →
    (fromUtf8 value).isSome

def Field.bytesAt (number : Nat) (field : Field) : Option Bytes :=
  match field.payload with
  | .bytes value => if field.number = number then some value else none
  | _ => none

def Field.varintAt (number : Nat) (field : Field) : Option UInt64 :=
  match field.payload with
  | .varint value => if field.number = number then some value else none
  | _ => none

/-- A pair of field number and wire type that the response has a place for. -/
def Field.Known (field : Field) : Prop :=
  (field.number ∈ [1, 2, 3, 4, 6, 7] ∧ field.payload.wire = 2) ∨
    (field.number = 5 ∧ field.payload.wire = 0)

def lastBytes (number : Nat) (fields : List Field) : Option Bytes :=
  (fields.filterMap (Field.bytesAt number)).getLast?

def lastText (number : Nat) (fields : List Field) : String :=
  ((lastBytes number fields).bind fromUtf8).getD ""

def lastVarint (number : Nat) (fields : List Field) : UInt64 :=
  (fields.filterMap (Field.varintAt number)).getLast?.getD 0

/-- The last value of each field that is known. -/
def envelope (fields : List Field) : ResponseEnvelope where
  requestId := lastText 1 fields
  taskId := lastText 2 fields
  service := lastText 3 fields
  messageType := lastText 4 fields
  statusCode := lastVarint 5 fields
  statusMessage := lastText 6 fields
  resultJson := (lastBytes 7 fields).getD []

section Turn

def readPayload (message : Bytes) (cursor wire : Nat) : Except Halt (Payload × Nat) :=
  match wire with
  | 0 => do
    let (value, cursor) ← readVarint message cursor
    .ok (.varint value, cursor)
  | 1 => do
    let next ← advance message cursor 8
    .ok (.fixed64 ((message.drop cursor).take 8), next)
  | 2 => do
    let (value, cursor) ← readBytes message cursor
    .ok (.bytes value, cursor)
  | 5 => do
    let next ← advance message cursor 4
    .ok (.fixed32 ((message.drop cursor).take 4), next)
  | _ => .error (.protocol "unsupported protobuf wire type")

def assigned (response : ResponseEnvelope) (field : Field) : Except Halt ResponseEnvelope :=
  match field.number, field.payload with
  | 1, .bytes value => do
    let requestId ← utf8 value
    .ok { response with requestId }
  | 2, .bytes value => do
    let taskId ← utf8 value
    .ok { response with taskId }
  | 3, .bytes value => do
    let service ← utf8 value
    .ok { response with service }
  | 4, .bytes value => do
    let messageType ← utf8 value
    .ok { response with messageType }
  | 5, .varint statusCode => .ok { response with statusCode }
  | 6, .bytes value => do
    let statusMessage ← utf8 value
    .ok { response with statusMessage }
  | 7, .bytes resultJson => .ok { response with resultJson }
  | _, _ => .ok response

theorem ok_bind {α β : Type} (a : α) (f : α → Except Halt β) : (Except.ok a >>= f) = f a := rfl

theorem assigned_unknown {field : Field} (h : ¬ field.Known) (response : ResponseEnvelope) :
    assigned response field = .ok response := by
  obtain ⟨number, payload⟩ := field
  rw [assigned]
  split
  all_goals first | rfl | skip
  all_goals (rename_i hNumber hPayload; subst hNumber hPayload)
  all_goals exact absurd (by simp [Field.Known, Payload.wire]) h

theorem skipField_eq (message : Bytes) (cursor wire : Nat) :
    skipField message cursor wire = (readPayload message cursor wire >>= fun read => .ok read.2) := by
  rw [skipField.eq_def]
  split
  · simp only [readPayload, bind_assoc, ok_bind]
  · simp only [readPayload, bind_assoc, ok_bind]
    exact (bind_pure _).symm
  · simp only [readPayload, bind_assoc, ok_bind]
  · simp only [readPayload, bind_assoc, ok_bind]
    exact (bind_pure _).symm
  · rw [readPayload]
    · rfl
    all_goals assumption

theorem readPayload_iff {message : Bytes} (hSize : message.length ≤ usizeMax)
    {cursor cursor' wire : Nat} {payload : Payload} :
    readPayload message cursor wire = .ok (payload, cursor') ↔
      ∃ bytes rest, message.drop cursor = bytes ++ rest ∧ PayloadBytes payload bytes ∧
        payload.wire = wire ∧ cursor' = cursor + bytes.length := by
  constructor
  · intro h
    rw [readPayload.eq_def] at h
    split at h
    · obtain ⟨⟨value, after⟩, hRead, hOk⟩ := bind_ok_iff.mp h
      cases hOk
      obtain ⟨bytes, rest, hDrop, hVarint, hAfter⟩ := (readVarint_iff hSize).mp hRead
      exact ⟨bytes, rest, hDrop, .varint hVarint, rfl, hAfter⟩
    · obtain ⟨after, hRead, hOk⟩ := bind_ok_iff.mp h
      cases hOk
      obtain ⟨value, rest, hDrop, hLength, hAfter⟩ := (advance_iff hSize (by decide)).mp hRead
      rw [hDrop, ← hLength, List.take_left]
      exact ⟨value, rest, rfl, .fixed64 hLength, rfl, hAfter⟩
    · obtain ⟨⟨value, after⟩, hRead, hOk⟩ := bind_ok_iff.mp h
      cases hOk
      obtain ⟨length, count, rest, hDrop, hLength, hCount, hAfter⟩ :=
        (readBytes_iff hSize).mp hRead
      exact ⟨length ++ value, rest, hDrop, .bytes hLength hCount, rfl, hAfter⟩
    · obtain ⟨after, hRead, hOk⟩ := bind_ok_iff.mp h
      cases hOk
      obtain ⟨value, rest, hDrop, hLength, hAfter⟩ := (advance_iff hSize (by decide)).mp hRead
      rw [hDrop, ← hLength, List.take_left]
      exact ⟨value, rest, rfl, .fixed32 hLength, rfl, hAfter⟩
    · cases h
  · rintro ⟨bytes, rest, hDrop, hPayload, rfl, rfl⟩
    cases hPayload with
    | varint hVarint =>
      exact bind_ok_iff.mpr ⟨_, (readVarint_iff hSize).mpr ⟨bytes, rest, hDrop, hVarint, rfl⟩, rfl⟩
    | fixed64 hLength =>
      refine bind_ok_iff.mpr ⟨_, (advance_iff hSize (by decide)).mpr
        ⟨bytes, rest, hDrop, hLength, rfl⟩, ?_⟩
      rw [hDrop, ← hLength, List.take_left]
    | bytes hLength hCount =>
      exact bind_ok_iff.mpr ⟨_, (readBytes_iff hSize).mpr
        ⟨_, _, rest, hDrop, hLength, hCount, rfl⟩, rfl⟩
    | fixed32 hLength =>
      refine bind_ok_iff.mpr ⟨_, (advance_iff hSize (by decide)).mpr
        ⟨bytes, rest, hDrop, hLength, rfl⟩, ?_⟩
      rw [hDrop, ← hLength, List.take_left]

theorem readPayload_error (message : Bytes) (cursor wire : Nat) :
    ∀ halt, readPayload message cursor wire = .error halt → halt.IsProtocol := by
  rw [readPayload.eq_def]
  split
  · exact bind_error (readVarint_error _ _) nofun
  · exact bind_error (advance_error _ _ _) nofun
  · exact bind_error (readBytes_error _ _) nofun
  · exact bind_error (advance_error _ _ _) nofun
  · intro halt h
    cases h
    trivial

theorem shifted (key : UInt64) : (key >>> 3).toNat = key.toNat / 8 := by
  rw [UInt64.toNat_shiftRight]
  exact Nat.shiftRight_eq_div_pow key.toNat 3

theorem masked (key : UInt64) : (key &&& 7).toNat = key.toNat % 8 := by
  rw [UInt64.toNat_and]
  exact Nat.and_two_pow_sub_one_eq_mod key.toNat 3

theorem readKey_iff {message : Bytes} (hSize : message.length ≤ usizeMax)
    {cursor cursor' number wire : Nat} :
    readKey message cursor = .ok (number, wire, cursor') ↔
      ∃ bytes key rest, message.drop cursor = bytes ++ rest ∧ KeyBytes number wire bytes key ∧
        cursor' = cursor + bytes.length := by
  rw [readKey, bind_ok_iff]
  constructor
  · rintro ⟨⟨key, after⟩, hRead, h⟩
    dsimp only at h
    rw [shifted, masked] at h
    obtain ⟨bytes, rest, hDrop, hVarint, hAfter⟩ := (readVarint_iff hSize).mp hRead
    split at h
    · cases h
    · rename_i hFits
      cases h
      exact ⟨bytes, key, rest, hDrop, ⟨hVarint, rfl, Nat.lt_of_not_le hFits, rfl⟩, hAfter⟩
  · rintro ⟨bytes, key, rest, hDrop, hKey, rfl⟩
    refine ⟨_, (readVarint_iff hSize).mpr ⟨bytes, rest, hDrop, hKey.varint, rfl⟩, ?_⟩
    dsimp only
    rw [shifted, masked, hKey.high, hKey.low, if_neg (Nat.not_le.mpr hKey.fits)]

theorem readKey_error (message : Bytes) (cursor : Nat) :
    ∀ halt, readKey message cursor = .error halt → halt.IsProtocol := by
  refine bind_error (readVarint_error message cursor) ?_
  rintro ⟨key, after⟩ halt h
  dsimp only at h
  split at h
  · cases h
    trivial
  · cases h

theorem readPayload_wire {message : Bytes} {cursor cursor' wire : Nat} {payload : Payload}
    (h : readPayload message cursor wire = .ok (payload, cursor')) : payload.wire = wire := by
  rw [readPayload.eq_def] at h
  split at h
  case h_5 => cases h
  all_goals
    obtain ⟨read, _, hOk⟩ := bind_ok_iff.mp h
    cases hOk
    rfl

theorem readField_eq (message : Bytes) (cursor : Nat) (response : ResponseEnvelope) :
    readField message cursor response = (do
      let (number, wire, cursor) ← readKey message cursor
      let (payload, cursor) ← readPayload message cursor wire
      let response ← assigned response ⟨number, payload⟩
      .ok (response, cursor)) := by
  rw [readField]
  cases readKey message cursor with
  | error halt => rfl
  | ok key =>
    obtain ⟨number, wire, after⟩ := key
    rw [ok_bind, ok_bind]
    dsimp only
    split
    case h_5 => simp only [readPayload, assigned, bind_assoc, ok_bind]
    case h_7 => simp only [readPayload, assigned, bind_assoc, ok_bind]
    case h_8 =>
      rw [skipField_eq]
      cases hRead : readPayload message after wire with
      | error halt => rfl
      | ok read =>
        have hWire := readPayload_wire hRead
        rw [ok_bind, ok_bind, ok_bind, assigned_unknown, ok_bind]
        rintro (⟨hNumber, hTwo⟩ | ⟨hNumber, hZero⟩)
        · rw [hWire] at hTwo
          simp only [List.mem_cons, List.not_mem_nil, or_false] at hNumber
          grind
        · rw [hWire] at hZero
          grind
    all_goals simp only [readString, readPayload, assigned, bind_assoc, ok_bind]

theorem assigned_error (response : ResponseEnvelope) (field : Field) :
    ∀ halt, assigned response field = .error halt → halt.IsProtocol := by
  rw [assigned.eq_def]
  split
  case h_5 => nofun
  case h_7 => nofun
  case h_8 => nofun
  all_goals exact bind_error (utf8_error _) nofun

theorem readField_error (message : Bytes) (cursor : Nat) (response : ResponseEnvelope) :
    ∀ halt, readField message cursor response = .error halt → halt.IsProtocol := by
  rw [readField_eq]
  refine bind_error (readKey_error message cursor) ?_
  rintro ⟨number, wire, after⟩
  refine bind_error (readPayload_error message after wire) ?_
  rintro ⟨payload, after'⟩
  exact bind_error (assigned_error response _) nofun

theorem readField_iff {message : Bytes} (hSize : message.length ≤ usizeMax)
    {cursor cursor' : Nat} {response response' : ResponseEnvelope} :
    readField message cursor response = .ok (response', cursor') ↔
      ∃ field bytes rest, message.drop cursor = bytes ++ rest ∧ FieldBytes field bytes ∧
        assigned response field = .ok response' ∧ cursor' = cursor + bytes.length := by
  rw [readField_eq, bind_ok_iff]
  constructor
  · rintro ⟨⟨number, wire, after⟩, hKeyRead, h⟩
    obtain ⟨⟨payload, after'⟩, hPayloadRead, h⟩ := bind_ok_iff.mp h
    obtain ⟨assignment, hAssigned, hOk⟩ := bind_ok_iff.mp h
    cases hOk
    obtain ⟨keyBytes, key, rest, hDrop, hKey, rfl⟩ := (readKey_iff hSize).mp hKeyRead
    obtain ⟨payloadBytes, rest', hDrop', hPayload, rfl, rfl⟩ :=
      (readPayload_iff hSize).mp hPayloadRead
    rw [drop_after hDrop] at hDrop'
    subst hDrop'
    refine ⟨⟨number, payload⟩, keyBytes ++ payloadBytes, rest', ?_, .intro hKey hPayload,
      hAssigned, ?_⟩
    · rw [hDrop, List.append_assoc]
    · rw [List.length_append, Nat.add_assoc]
  · rintro ⟨field, bytes, rest, hDrop, hField, hAssigned, rfl⟩
    obtain ⟨hKey, hPayload⟩ := hField
    rename_i key keyBytes payloadBytes
    rw [List.append_assoc] at hDrop
    refine ⟨_, (readKey_iff hSize).mpr ⟨keyBytes, key, _, hDrop, hKey, rfl⟩, ?_⟩
    refine bind_ok_iff.mpr ⟨_, (readPayload_iff hSize).mpr
      ⟨payloadBytes, rest, drop_after hDrop, hPayload, rfl, rfl⟩, ?_⟩
    refine bind_ok_iff.mpr ⟨response', hAssigned, ?_⟩
    rw [List.length_append, Nat.add_assoc]

end Turn

section Loop

theorem getLast?_filterMap_concat {α β : Type} (f : α → Option β) (items : List α) (last : α) :
    ((items ++ [last]).filterMap f).getLast? = (f last).or (items.filterMap f).getLast? := by
  rw [List.filterMap_append]
  cases hLast : f last with
  | none => simp [hLast]
  | some value => simp [hLast]

theorem lastBytes_concat (number : Nat) (fields : List Field) (field : Field) :
    lastBytes number (fields ++ [field]) = (field.bytesAt number).or (lastBytes number fields) :=
  getLast?_filterMap_concat _ _ _

theorem lastVarint_concat (number : Nat) (fields : List Field) (field : Field) :
    lastVarint number (fields ++ [field]) =
      (field.varintAt number).getD (lastVarint number fields) := by
  rw [lastVarint, getLast?_filterMap_concat]
  cases field.varintAt number with
  | none => rfl
  | some value => rfl

theorem bytesAt_unknown {field : Field} (h : ¬ field.Known) {number : Nat}
    (hNumber : number ∈ [1, 2, 3, 4, 6, 7]) : field.bytesAt number = none := by
  rw [Field.bytesAt]
  split
  · rename_i value hPayload
    refine if_neg ?_
    rintro rfl
    refine h (.inl ⟨hNumber, ?_⟩)
    rw [hPayload]
    rfl
  · rfl

theorem varintAt_unknown {field : Field} (h : ¬ field.Known) : field.varintAt 5 = none := by
  rw [Field.varintAt]
  split
  · rename_i value hPayload
    refine if_neg fun hNumber => h (.inr ⟨hNumber, ?_⟩)
    rw [hPayload]
    rfl
  · rfl

/-- Fields without a place in the response leave it as it was. -/
theorem envelope_unknown {field : Field} (h : ¬ field.Known) (fields rest : List Field) :
    envelope (fields ++ field :: rest) = envelope (fields ++ rest) := by
  have hBytes {number : Nat} (hNumber : number ∈ [1, 2, 3, 4, 6, 7]) :
      lastBytes number (fields ++ field :: rest) = lastBytes number (fields ++ rest) := by
    rw [lastBytes, List.filterMap_append, List.filterMap_cons_none (bytesAt_unknown h hNumber),
      ← List.filterMap_append]
    rfl
  have hVarint : lastVarint 5 (fields ++ field :: rest) = lastVarint 5 (fields ++ rest) := by
    rw [lastVarint, List.filterMap_append, List.filterMap_cons_none (varintAt_unknown h),
      ← List.filterMap_append]
    rfl
  rw [envelope, lastText, lastText, lastText, lastText, lastText, hVarint, hBytes (by decide),
    hBytes (by decide), hBytes (by decide), hBytes (by decide), hBytes (by decide),
    hBytes (by decide)]
  rfl

theorem Field.readable_of_unknown {field : Field} (h : ¬ field.Known) : field.Readable := by
  intro hNumber value hPayload
  refine absurd (.inl ⟨List.mem_append_left [7] hNumber, ?_⟩) h
  rw [hPayload]
  rfl

theorem utf8_set {value : Bytes} {set : String → ResponseEnvelope} {response : ResponseEnvelope} :
    (utf8 value >>= fun text => .ok (set text)) = .ok response ↔
      (fromUtf8 value).isSome ∧ response = set ((fromUtf8 value).getD "") := by
  rw [utf8]
  cases fromUtf8 value with
  | none =>
    refine iff_of_false ?_ ?_
    · intro h
      cases h
    · rintro ⟨hSome, _⟩
      cases hSome
  | some text =>
    refine ⟨fun h => ⟨rfl, ?_⟩, ?_⟩
    · cases h
      rfl
    · rintro ⟨_, rfl⟩
      rfl

theorem assigned_envelope (fields : List Field) (field : Field) (response : ResponseEnvelope) :
    assigned (envelope fields) field = .ok response ↔
      field.Readable ∧ response = envelope (fields ++ [field]) := by
  by_cases hKnown : field.Known
  · obtain ⟨number, payload⟩ := field
    rcases hKnown with ⟨hNumber, hWire⟩ | ⟨hNumber, hWire⟩
    · cases payload with
      | bytes value =>
        simp only [List.mem_cons, List.not_mem_nil, or_false] at hNumber
        rcases hNumber with rfl | rfl | rfl | rfl | rfl | rfl
        case inr.inr.inr.inr.inr =>
          simp [assigned, Field.Readable, envelope, lastText, lastBytes_concat,
            lastVarint_concat, Field.bytesAt, Field.varintAt]
          exact eq_comm
        all_goals
          refine utf8_set.trans ?_
          simp [Field.Readable, envelope, lastText, lastBytes_concat, lastVarint_concat,
            Field.bytesAt, Field.varintAt]
      | varint | fixed64 | fixed32 => cases hWire
    · cases payload with
      | varint value =>
        subst hNumber
        simp [assigned, Field.Readable, envelope, lastText, lastBytes_concat, lastVarint_concat,
          Field.bytesAt, Field.varintAt]
        exact eq_comm
      | bytes | fixed64 | fixed32 => cases hWire
  · have hReadable := Field.readable_of_unknown hKnown
    rw [assigned_unknown hKnown, envelope_unknown hKnown, List.append_nil]
    constructor
    · intro h
      cases h
      exact ⟨hReadable, rfl⟩
    · rintro ⟨_, rfl⟩
      rfl

theorem Message.uncons {fields : List Field} {bytes : Bytes} (h : Message fields bytes)
    (hBytes : bytes ≠ []) : ∃ field rest head tail, fields = field :: rest ∧
      bytes = head ++ tail ∧ FieldBytes field head ∧ Message rest tail := by
  cases h with
  | nil => exact absurd rfl hBytes
  | cons hField hRest => exact ⟨_, _, _, _, rfl, rfl, hField, hRest⟩

theorem Message.nil_iff {fields : List Field} : Message fields [] ↔ fields = [] := by
  constructor
  · intro h
    generalize hBytes : ([] : Bytes) = bytes at h
    cases h with
    | nil => rfl
    | cons hField hRest => exact absurd (List.append_eq_nil_iff.mp hBytes.symm).1 hField.ne_nil
  · rintro rfl
    exact .nil

/-- The fields that are read from the cursor on come after those read before. -/
theorem decodeFrom_iff {message : Bytes} (hSize : message.length ≤ usizeMax) (turns : Nat) :
    ∀ {cursor : Nat} (done : List Field) {response : ResponseEnvelope},
      message.length ≤ cursor + turns →
      (decodeFrom message turns cursor (envelope done) = .ok response ↔
        ∃ fields, Message fields (message.drop cursor) ∧ (∀ field ∈ fields, field.Readable) ∧
          response = envelope (done ++ fields)) := by
  have hEnd {cursor : Nat} (done : List Field) {response : ResponseEnvelope}
      (hCursor : message.length ≤ cursor) :
      (.ok (envelope done) : Except Halt _) = .ok response ↔
        ∃ fields, Message fields (message.drop cursor) ∧ (∀ field ∈ fields, field.Readable) ∧
          response = envelope (done ++ fields) := by
    rw [List.drop_eq_nil_of_le hCursor]
    constructor
    · intro h
      cases h
      exact ⟨[], .nil, nofun, by rw [List.append_nil]⟩
    · rintro ⟨fields, hMessage, _, rfl⟩
      rw [Message.nil_iff.mp hMessage, List.append_nil]
  induction turns with
  | zero =>
    intro cursor done response hTurns
    rw [decodeFrom, if_neg (by omega)]
    exact hEnd done (by omega)
  | succ turns ih =>
    intro cursor done response hTurns
    rw [decodeFrom]
    by_cases hCursor : cursor < message.length
    · rw [if_pos hCursor, bind_ok_iff]
      constructor
      · rintro ⟨⟨after, cursor'⟩, hRead, h⟩
        obtain ⟨field, bytes, rest, hDrop, hField, hAssigned, rfl⟩ := (readField_iff hSize).mp hRead
        obtain ⟨hReadable, rfl⟩ := (assigned_envelope done field after).mp hAssigned
        have hBytes := List.length_pos_iff.mpr hField.ne_nil
        obtain ⟨fields, hMessage, hAll, rfl⟩ := (ih (done ++ [field]) (by omega)).mp h
        rw [drop_after hDrop] at hMessage
        refine ⟨field :: fields, ?_, ?_, ?_⟩
        · rw [hDrop]
          exact .cons hField hMessage
        · exact List.forall_mem_cons.mpr ⟨hReadable, hAll⟩
        · rw [List.append_assoc, List.singleton_append]
      · rintro ⟨fields, hMessage, hAll, rfl⟩
        have hNe : message.drop cursor ≠ [] := fun hNil =>
          absurd (List.drop_eq_nil_iff.mp hNil) (Nat.not_le.mpr hCursor)
        obtain ⟨field, rest, head, tail, rfl, hDrop, hField, hRest⟩ := hMessage.uncons hNe
        obtain ⟨hReadable, hAll⟩ := List.forall_mem_cons.mp hAll
        have hHead := List.length_pos_iff.mpr hField.ne_nil
        refine ⟨(envelope (done ++ [field]), cursor + head.length), (readField_iff hSize).mpr
          ⟨field, head, tail, hDrop, hField, ?_, rfl⟩, ?_⟩
        · exact (assigned_envelope done field _).mpr ⟨hReadable, rfl⟩
        · refine (ih (done ++ [field]) (by omega)).mpr ⟨rest, ?_, hAll, ?_⟩
          · rw [drop_after hDrop]
            exact hRest
          · rw [List.append_assoc, List.singleton_append]
    · rw [if_neg hCursor]
      exact hEnd done (by omega)

theorem decodeFrom_error {message : Bytes} (hSize : message.length ≤ usizeMax) (turns : Nat) :
    ∀ {cursor : Nat} {response : ResponseEnvelope}, message.length ≤ cursor + turns →
      ∀ halt, decodeFrom message turns cursor response = .error halt → halt.IsProtocol := by
  induction turns with
  | zero =>
    intro cursor response hTurns halt h
    rw [decodeFrom, if_neg (by omega)] at h
    cases h
  | succ turns ih =>
    intro cursor response hTurns halt h
    rw [decodeFrom] at h
    split at h
    · cases hRead : readField message cursor response with
      | error error =>
        rw [hRead] at h
        cases h
        exact readField_error message cursor response _ hRead
      | ok read =>
        obtain ⟨after, cursor'⟩ := read
        obtain ⟨field, bytes, rest, hDrop, hField, _, rfl⟩ := (readField_iff hSize).mp hRead
        have hBytes := List.length_pos_iff.mpr hField.ne_nil
        rw [hRead] at h
        exact ih (by omega) halt h
    · cases h

end Loop

theorem maxMessageBytes_le : maxMessageBytes ≤ usizeMax := by decide

theorem decodeResponse_iff {message : Bytes} (hSize : message.length ≤ maxMessageBytes)
    {response : ResponseEnvelope} :
    decodeResponse message = .ok response ↔ ∃ fields, Message fields message ∧
      (∀ field ∈ fields, field.Readable) ∧ response = envelope fields := by
  rw [decodeResponse, if_neg (Nat.not_lt.mpr hSize)]
  exact decodeFrom_iff (hSize.trans maxMessageBytes_le) message.length [] (Nat.le_add_left _ _)

/-- The decoder accepts the messages of the grammar and nothing else; what it does not accept
it reports as an error of the protocol. -/
theorem accepts_grammar (message : Bytes) (hSize : message.length ≤ maxMessageBytes) :
    (∀ response, decodeResponse message = .ok response ↔ ∃ fields, Message fields message ∧
      (∀ field ∈ fields, field.Readable) ∧ response = envelope fields) ∧
    (∀ halt, decodeResponse message = .error halt → halt.IsProtocol) ∧
    (∀ left field right, ¬ Field.Known field →
      envelope (left ++ field :: right) = envelope (left ++ right)) := by
  refine ⟨fun response => decodeResponse_iff hSize, ?_, fun left field right h =>
    envelope_unknown h left right⟩
  intro halt h
  rw [decodeResponse, if_neg (Nat.not_lt.mpr hSize)] at h
  exact decodeFrom_error (hSize.trans maxMessageBytes_le) _ (Nat.le_add_left _ _) halt h

theorem accepts_grammar_status :
    ∃ fields, Message fields [0x28, 0x85, 0x00] ∧ (∀ field ∈ fields, field.Readable) ∧
      { ResponseEnvelope.empty with statusCode := 5 } = envelope fields :=
  ((accepts_grammar [0x28, 0x85, 0x00] (by decide)).1 _).mp (by decide)

end VoxType.Doubao
