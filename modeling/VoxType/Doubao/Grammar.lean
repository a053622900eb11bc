import VoxType.Doubao.Wire

/-!
# The grammar of responses

What each reader accepts, as the bytes at its cursor, and what it returns for
them.
-/

namespace VoxType.Doubao

set_option autoImplicit false

/-- The bytes are a number of at most 64 bits. -/
structure Varint (bytes : Bytes) (value : UInt64) : Prop where
  wellFormed : Leb128.WellFormed bytes
  length : bytes.length ≤ 10
  tenth : ∀ last, bytes[9]? = some last → last ≤ 1
  value : Leb128.value bytes = value.toNat

/-- An error of the source, not one of the ways it could go wrong otherwise. -/
def Halt.IsProtocol : Halt → Prop
  | protocol _ => True
  | _ => False

theorem bind_ok_iff {ε α β : Type} {x : Except ε α} {f : α → Except ε β} {b : β} :
    (x >>= f) = .ok b ↔ ∃ a, x = .ok a ∧ f a = .ok b := by
  cases x with
  | error error => exact iff_of_false nofun (by rintro ⟨a, hOk, _⟩; cases hOk)
  | ok a =>
    constructor
    · exact fun h => ⟨a, rfl, h⟩
    · rintro ⟨a', hOk, h⟩
      cases hOk
      exact h

theorem bind_error {α β : Type} {x : Except Halt α} {f : α → Except Halt β}
    (hFirst : ∀ halt, x = .error halt → halt.IsProtocol)
    (hSecond : ∀ a halt, f a = .error halt → halt.IsProtocol) :
    ∀ halt, (x >>= f) = .error halt → halt.IsProtocol := by
  intro halt h
  cases x with
  | error error =>
    cases h
    exact hFirst halt rfl
  | ok a => exact hSecond a halt h

theorem drop_of_getElem? {message : Bytes} {cursor : Nat} {byte : UInt8}
    (h : message[cursor]? = some byte) :
    message.drop cursor = byte :: message.drop (cursor + 1) := by
  obtain ⟨hBound, hGet⟩ := List.getElem?_eq_some_iff.mp h
  rw [List.drop_eq_getElem_cons hBound, hGet]

section Bits

theorem low_bits (byte : UInt8) : (byte &&& 0x7f).toUInt64.toNat = byte.toNat % 128 := by
  rw [UInt8.toNat_toUInt64, UInt8.toNat_and]
  exact Nat.and_two_pow_sub_one_eq_mod byte.toNat 7

theorem stops_iff (byte : UInt8) : byte &&& 0x80 = 0 ↔ byte.toNat < 128 := by
  have hBit : ∀ i : Fin 256, i.val &&& 128 = i.val / 128 * 128 := by decide +kernel
  have hAnd : (byte &&& 0x80).toNat = byte.toNat / 128 * 128 := by
    rw [UInt8.toNat_and]
    exact hBit ⟨byte.toNat, byte.toNat_lt⟩
  rw [← UInt8.toNat_inj, hAnd]
  change _ = 0 ↔ _
  omega

/-- A group is added above the bits that are already there. -/
theorem group_toNat {value : UInt64} {byte : UInt8} {shift : Nat} (hShift : shift < 64)
    (hValue : value.toNat < 2 ^ shift) (hFit : byte.toNat % 128 * 2 ^ shift < 2 ^ 64) :
    (value ||| (byte &&& 0x7f).toUInt64 <<< UInt64.ofNat shift).toNat =
      value.toNat + 2 ^ shift * (byte.toNat % 128) := by
  have hOr := Nat.two_pow_add_eq_or_of_lt hValue (byte.toNat % 128)
  rw [UInt64.toNat_or, UInt64.toNat_shiftLeft, low_bits, UInt64.toNat_ofNat',
    Nat.mod_eq_of_lt (show shift < 2 ^ 64 by omega), Nat.mod_eq_of_lt hShift, Nat.shiftLeft_eq,
    Nat.mod_eq_of_lt hFit, Nat.mul_comm _ (2 ^ shift), Nat.or_comm, ← hOr, Nat.add_comm]

theorem group_fits {byte : UInt8} {shift : Nat} (hShift : shift ≤ 56) :
    byte.toNat % 128 * 2 ^ shift < 2 ^ 64 := by
  calc byte.toNat % 128 * 2 ^ shift ≤ 127 * 2 ^ 56 :=
        Nat.mul_le_mul (by omega) (Nat.pow_le_pow_right (by decide) hShift)
    _ < 2 ^ 64 := by decide

end Bits

/-- The turns that are left of the loop, and the groups they read. -/
theorem readVarintFrom_iff {message : Bytes} (hSize : message.length ≤ usizeMax) (turns : Nat) :
    ∀ {shift cursor cursor' : Nat} {value value' : UInt64}, shift + 7 * turns = 70 →
      value.toNat < 2 ^ shift →
      (readVarintFrom message turns shift value cursor = .ok (value', cursor') ↔
        ∃ bytes rest, message.drop cursor = bytes ++ rest ∧ Leb128.WellFormed bytes ∧
          bytes.length ≤ turns ∧ (∀ last, bytes[turns - 1]? = some last → last ≤ 1) ∧
          value'.toNat = value.toNat + 2 ^ shift * Leb128.value bytes ∧
          cursor' = cursor + bytes.length) := by
  induction turns with
  | zero =>
    intro shift cursor cursor' value value' _ _
    refine iff_of_false nofun ?_
    rintro ⟨bytes, rest, _, hWellFormed, hLength, _⟩
    exact hWellFormed.ne_nil (List.eq_nil_of_length_eq_zero (Nat.le_zero.mp hLength))
  | succ turns ih =>
    intro shift cursor cursor' value value' hShift hValue
    rw [readVarintFrom]
    cases hByte : message[cursor]? with
    | none =>
      refine iff_of_false nofun ?_
      rintro ⟨bytes, rest, hDrop, hWellFormed, _⟩
      rw [List.drop_eq_nil_of_le (List.getElem?_eq_none_iff.mp hByte)] at hDrop
      exact hWellFormed.ne_nil (List.append_eq_nil_iff.mp hDrop.symm).1
    | some byte =>
      have hDrop := drop_of_getElem? hByte
      have hCursor : min (cursor + 1) usizeMax = cursor + 1 := by
        have hBound := (List.getElem?_eq_some_iff.mp hByte).1
        omega
      have hSmall : shift < 64 := by omega
      dsimp only
      rw [hCursor, shiftLeft, if_pos hSmall]
      dsimp only
      by_cases hOverflow : shift = 63 ∧ 1 < byte
      · rw [if_pos hOverflow]
        refine iff_of_false nofun ?_
        rintro ⟨bytes, rest, hBytes, hWellFormed, hLength, hTenth, _⟩
        have hTurns : turns = 0 := by omega
        subst hTurns
        obtain ⟨first, rfl⟩ : ∃ first, bytes = [first] :=
          List.length_eq_one_iff.mp (Nat.le_antisymm hLength
            (List.length_pos_iff.mpr hWellFormed.ne_nil))
        rw [hDrop] at hBytes
        cases (List.cons.inj hBytes).1
        exact absurd (hTenth byte rfl) (UInt8.not_le.mpr hOverflow.2)
      · rw [if_neg hOverflow]
        have hFit : byte.toNat % 128 * 2 ^ shift < 2 ^ 64 := by
          by_cases hLast : shift = 63
          · have hLe : byte ≤ 1 := UInt8.not_lt.mp fun h => hOverflow ⟨hLast, h⟩
            have hNat : byte.toNat ≤ 1 := UInt8.le_iff_toNat_le.mp hLe
            rw [hLast]
            omega
          · exact group_fits (by omega)
        have hGroup := group_toNat hSmall hValue hFit
        by_cases hStop : byte &&& 0x80 = 0
        · have hLow := (stops_iff byte).mp hStop
          rw [if_pos hStop]
          constructor
          · intro h
            cases h
            refine ⟨[byte], message.drop (cursor + 1), hDrop, hLow, Nat.succ_le_succ (Nat.zero_le _),
              ?_, ?_, rfl⟩
            · intro last hLast
              cases turns with
              | zero =>
                cases hLast
                exact UInt8.not_lt.mp fun h => hOverflow ⟨by omega, h⟩
              | succ turns => cases hLast
            · rw [hGroup]
              rfl
          · rintro ⟨bytes, rest, hBytes, hWellFormed, _, _, hResult, rfl⟩
            cases bytes with
            | nil => exact absurd rfl hWellFormed.ne_nil
            | cons first bytes =>
              rw [hDrop] at hBytes
              cases (List.cons.inj hBytes).1
              cases (Leb128.wellFormed_last hLow).mp hWellFormed
              rw [Leb128.value, Leb128.value, Nat.mul_zero, Nat.add_zero, ← hGroup] at hResult
              rw [UInt64.toNat_inj.mp hResult]
              rfl
        · have hHigh : 128 ≤ byte.toNat := Nat.le_of_not_lt fun h => hStop ((stops_iff byte).mpr h)
          have hPow : 2 ^ (shift + 7) = 2 ^ shift * 128 := Nat.pow_add 2 shift 7
          have hNext : (value ||| (byte &&& 0x7f).toUInt64 <<< UInt64.ofNat shift).toNat <
              2 ^ (shift + 7) := by
            have hMod : byte.toNat % 128 ≤ 127 := by omega
            have hMul := Nat.mul_le_mul_left (2 ^ shift) hMod
            rw [hGroup, hPow]
            omega
          rw [if_neg hStop, ih (by omega) hNext]
          constructor
          · rintro ⟨bytes, rest, hBytes, hWellFormed, hLength, hTenth, hResult, rfl⟩
            refine ⟨byte :: bytes, rest, ?_, ?_, Nat.succ_le_succ hLength, ?_, ?_, ?_⟩
            · rw [hDrop, hBytes, List.cons_append]
            · exact (Leb128.wellFormed_cons hHigh).mpr hWellFormed
            · intro last hLast
              cases turns with
              | zero =>
                exact absurd (List.eq_nil_of_length_eq_zero (Nat.le_zero.mp hLength))
                  hWellFormed.ne_nil
              | succ turns => exact hTenth last hLast
            · rw [hResult, hGroup, hPow, Leb128.value, Nat.mul_add, Nat.mul_assoc, Nat.add_assoc]
            · rw [List.length_cons]
              omega
          · rintro ⟨bytes, rest, hBytes, hWellFormed, hLength, hTenth, hResult, rfl⟩
            cases bytes with
            | nil => exact absurd rfl hWellFormed.ne_nil
            | cons first bytes =>
              rw [hDrop] at hBytes
              obtain ⟨hFirst, hTail⟩ := List.cons.inj hBytes
              subst hFirst
              refine ⟨bytes, rest, hTail, (Leb128.wellFormed_cons hHigh).mp hWellFormed,
                Nat.le_of_succ_le_succ hLength, ?_, ?_, ?_⟩
              · intro last hLast
                cases turns with
                | zero =>
                  rw [List.eq_nil_of_length_eq_zero
                    (Nat.le_zero.mp (Nat.le_of_succ_le_succ hLength))] at hLast
                  cases hLast
                | succ turns => exact hTenth last hLast
              · rw [hResult, hGroup, hPow, Leb128.value, Nat.mul_add, Nat.mul_assoc, Nat.add_assoc]
              · rw [List.length_cons]
                omega

theorem readVarint_iff {message : Bytes} (hSize : message.length ≤ usizeMax)
    {cursor cursor' : Nat} {value : UInt64} :
    readVarint message cursor = .ok (value, cursor') ↔
      ∃ bytes rest, message.drop cursor = bytes ++ rest ∧ Varint bytes value ∧
        cursor' = cursor + bytes.length := by
  rw [readVarint, readVarintFrom_iff hSize 10 rfl (by decide)]
  constructor
  · rintro ⟨bytes, rest, hBytes, hWellFormed, hLength, hTenth, hValue, hCursor⟩
    refine ⟨bytes, rest, hBytes, ⟨hWellFormed, hLength, hTenth, ?_⟩, hCursor⟩
    rw [hValue]
    change _ = 0 + 1 * _
    omega
  · rintro ⟨bytes, rest, hBytes, hVarint, hCursor⟩
    refine ⟨bytes, rest, hBytes, hVarint.wellFormed, hVarint.length, hVarint.tenth, ?_, hCursor⟩
    rw [← hVarint.value]
    change _ = 0 + 1 * _
    omega

theorem readVarintFrom_error (message : Bytes) (turns : Nat) :
    ∀ {shift cursor : Nat} {value : UInt64}, shift + 7 * turns = 70 → ∀ halt,
      readVarintFrom message turns shift value cursor = .error halt → halt.IsProtocol := by
  induction turns with
  | zero =>
    intro shift cursor value _ halt h
    cases h
    trivial
  | succ turns ih =>
    intro shift cursor value hShift halt h
    rw [readVarintFrom] at h
    cases hByte : message[cursor]? with
    | none =>
      rw [hByte] at h
      cases h
      trivial
    | some byte =>
      have hSmall : shift < 64 := by omega
      rw [hByte] at h
      dsimp only at h
      rw [shiftLeft, if_pos hSmall] at h
      dsimp only at h
      split at h
      · cases h
        trivial
      · split at h
        · cases h
        · exact ih (by omega) halt h

theorem readVarint_error (message : Bytes) (cursor : Nat) :
    ∀ halt, readVarint message cursor = .error halt → halt.IsProtocol :=
  readVarintFrom_error message 10 rfl

/-- What follows the number of a field. -/
inductive Payload
  | varint (value : UInt64)
  | fixed64 (value : Bytes)
  | bytes (value : Bytes)
  | fixed32 (value : Bytes)
  deriving DecidableEq, Repr

def Payload.wire : Payload → Nat
  | varint _ => 0
  | fixed64 _ => 1
  | bytes _ => 2
  | fixed32 _ => 5

inductive PayloadBytes : Payload → Bytes → Prop
  | varint {value : UInt64} {bytes : Bytes} (h : Varint bytes value) :
      PayloadBytes (.varint value) bytes
  | fixed64 {value : Bytes} (h : value.length = 8) : PayloadBytes (.fixed64 value) value
  | bytes {value length : Bytes} {count : UInt64} (hLength : Varint length count)
      (hCount : count.toNat = value.length) : PayloadBytes (.bytes value) (length ++ value)
  | fixed32 {value : Bytes} (h : value.length = 4) : PayloadBytes (.fixed32 value) value

structure Field where
  number : Nat
  payload : Payload
  deriving DecidableEq, Repr

/-- The key of a field holds its number above the three bits of the wire type. -/
structure KeyBytes (number wire : Nat) (bytes : Bytes) (key : UInt64) : Prop where
  varint : Varint bytes key
  high : key.toNat / 8 = number
  fits : number < 2 ^ 32
  low : key.toNat % 8 = wire

inductive FieldBytes : Field → Bytes → Prop
  | intro {field : Field} {key : UInt64} {keyBytes payloadBytes : Bytes}
      (hKey : KeyBytes field.number field.payload.wire keyBytes key)
      (hPayload : PayloadBytes field.payload payloadBytes) :
      FieldBytes field (keyBytes ++ payloadBytes)

/-- A message is a concatenation of fields. -/
inductive Message : List Field → Bytes → Prop
  | nil : Message [] []
  | cons {field : Field} {fields : List Field} {bytes rest : Bytes}
      (hField : FieldBytes field bytes) (hRest : Message fields rest) :
      Message (field :: fields) (bytes ++ rest)

theorem Varint.ne_nil {bytes : Bytes} {value : UInt64} (h : Varint bytes value) : bytes ≠ [] :=
  h.wellFormed.ne_nil

theorem FieldBytes.ne_nil {field : Field} {bytes : Bytes} (h : FieldBytes field bytes) :
    bytes ≠ [] := by
  obtain ⟨hKey, _⟩ := h
  intro hNil
  exact hKey.varint.ne_nil (List.append_eq_nil_iff.mp hNil).1

theorem drop_after {message bytes rest : Bytes} {cursor : Nat}
    (h : message.drop cursor = bytes ++ rest) : message.drop (cursor + bytes.length) = rest := by
  rw [← List.drop_drop, h, List.drop_left]

theorem bound_after {message bytes rest : Bytes} {cursor : Nat}
    (h : message.drop cursor = bytes ++ rest) (hBytes : bytes ≠ []) :
    cursor + bytes.length ≤ message.length := by
  have hLength := congrArg List.length h
  have hPos := List.length_pos_iff.mpr hBytes
  rw [List.length_drop, List.length_append] at hLength
  omega

theorem slice_iff {message value : Bytes} {start «end» : Nat} :
    slice message start «end» = some value ↔
      start ≤ «end» ∧ «end» ≤ message.length ∧
        ∃ rest, message.drop start = value ++ rest ∧ «end» = start + value.length := by
  rw [slice]
  constructor
  · intro h
    split at h
    · rename_i hBounds
      cases h
      refine ⟨hBounds.1, hBounds.2, (message.drop start).drop («end» - start),
        (List.take_append_drop _ _).symm, ?_⟩
      rw [List.length_take, List.length_drop]
      omega
    · cases h
  · rintro ⟨hStart, hEnd, rest, hDrop, rfl⟩
    rw [if_pos ⟨hStart, hEnd⟩, hDrop, Nat.add_sub_cancel_left, List.take_left]

theorem readBytes_iff {message : Bytes} (hSize : message.length ≤ usizeMax)
    {cursor cursor' : Nat} {value : Bytes} :
    readBytes message cursor = .ok (value, cursor') ↔
      ∃ length count rest, message.drop cursor = length ++ value ++ rest ∧ Varint length count ∧
        count.toNat = value.length ∧ cursor' = cursor + (length ++ value).length := by
  rw [readBytes, bind_ok_iff]
  constructor
  · rintro ⟨⟨count, after⟩, hRead, h⟩
    obtain ⟨length, rest, hDrop, hLength, rfl⟩ := (readVarint_iff hSize).mp hRead
    dsimp only at h
    split at h
    · cases h
    · split at h
      · cases h
      · rename_i value' hSlice
        cases h
        obtain ⟨_, _, rest', hValue, hCount⟩ := slice_iff.mp hSlice
        rw [drop_after hDrop] at hValue
        subst hValue
        refine ⟨length, count, rest', ?_, hLength, by omega, ?_⟩
        · rw [hDrop, List.append_assoc]
        · rw [List.length_append]
          omega
  · rintro ⟨length, count, rest, hDrop, hLength, hCount, rfl⟩
    have hBound := bound_after hDrop fun hNil => hLength.ne_nil (List.append_eq_nil_iff.mp hNil).1
    rw [List.length_append] at hBound ⊢
    rw [List.append_assoc] at hDrop
    have hSlice : slice message (cursor + length.length)
        (cursor + length.length + count.toNat) = some value :=
      slice_iff.mpr ⟨by omega, by omega, rest, drop_after hDrop, by omega⟩
    refine ⟨(count, cursor + length.length),
      (readVarint_iff hSize).mpr ⟨length, _, hDrop, hLength, rfl⟩, ?_⟩
    dsimp only
    rw [if_neg (by omega), hSlice, hCount, Nat.add_assoc]

theorem readBytes_error (message : Bytes) (cursor : Nat) :
    ∀ halt, readBytes message cursor = .error halt → halt.IsProtocol := by
  refine bind_error (readVarint_error message cursor) ?_
  rintro ⟨count, after⟩ halt h
  dsimp only at h
  split at h
  · cases h
    trivial
  · split at h
    · cases h
      trivial
    · cases h

theorem advance_iff {message : Bytes} (hSize : message.length ≤ usizeMax)
    {cursor cursor' count : Nat} (hCount : 0 < count) :
    advance message cursor count = .ok cursor' ↔
      ∃ value rest, message.drop cursor = value ++ rest ∧ value.length = count ∧
        cursor' = cursor + value.length := by
  rw [advance]
  constructor
  · intro h
    split at h
    · cases h
    · split at h
      · cases h
      · cases h
        refine ⟨(message.drop cursor).take count, (message.drop cursor).drop count,
          (List.take_append_drop _ _).symm, ?_, ?_⟩
        · rw [List.length_take, List.length_drop]
          omega
        · rw [List.length_take, List.length_drop]
          omega
  · rintro ⟨value, rest, hDrop, rfl, rfl⟩
    have hBound := bound_after hDrop (List.length_pos_iff.mp hCount)
    rw [if_neg (by omega), if_neg (by omega)]

theorem advance_error (message : Bytes) (cursor count : Nat) :
    ∀ halt, advance message cursor count = .error halt → halt.IsProtocol := by
  intro halt h
  rw [advance] at h
  split at h
  · cases h
    trivial
  · split at h
    · cases h
      trivial
    · cases h

theorem utf8_error (bytes : Bytes) : ∀ halt, utf8 bytes = .error halt → halt.IsProtocol := by
  intro halt h
  rw [utf8] at h
  split at h
  · cases h
    trivial
  · cases h

end VoxType.Doubao
