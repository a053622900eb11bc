import VoxType.Library.Lossy

/-!
# Characters and their bytes

The first byte of a character tells that it starts one; no later byte does. What
the characters of a text are encoded to is decoded to these characters.
-/

namespace RustText

set_option autoImplicit false

/-- A byte that goes on with a character. -/
def IsContinuation (byte : UInt8) : Prop := 0x80 ≤ byte.toNat ∧ byte.toNat < 0xC0

theorem toNat_ofNat_byte {n : Nat} (h : n < 256) : (UInt8.ofNat n).toNat = n := by
  rw [UInt8.toNat_ofNat', Nat.mod_eq_of_lt h]

/-- One byte that starts a character, then those that go on with it. -/
theorem utf8EncodeChar_shape (c : Char) :
    ∃ first rest, String.utf8EncodeChar c = first :: rest ∧ ¬ IsContinuation first ∧
      ∀ byte ∈ rest, IsContinuation byte := by
  have hNext : ∀ n, IsContinuation (UInt8.ofNat (n % 64 + 128)) := by
    intro n
    rw [IsContinuation, toNat_ofNat_byte (by omega)]
    omega
  rw [String.utf8EncodeChar]
  split_ifs with hOne hTwo hThree
  · refine ⟨_, _, rfl, ?_, nofun⟩
    rw [IsContinuation, toNat_ofNat_byte (by omega)]
    omega
  · refine ⟨_, _, rfl, ?_, ?_⟩
    · rw [IsContinuation, toNat_ofNat_byte (by omega)]
      omega
    · simp only [List.mem_singleton, forall_eq]
      exact hNext _
  · refine ⟨_, _, rfl, ?_, ?_⟩
    · rw [IsContinuation, toNat_ofNat_byte (by omega)]
      omega
    · simp only [List.mem_cons, List.not_mem_nil, or_false, forall_eq_or_imp, forall_eq]
      exact ⟨hNext _, hNext _⟩
  · refine ⟨_, _, rfl, ?_, ?_⟩
    · rw [IsContinuation, toNat_ofNat_byte (by omega)]
      omega
    · simp only [List.mem_cons, List.not_mem_nil, or_false, forall_eq_or_imp, forall_eq]
      exact ⟨hNext _, hNext _, hNext _⟩

section Decoding

/-- The next byte of a character that needs more than one further byte. -/
theorem utf8Decode_more {owed low high code : Nat} {byte : Nat} (hOwed : 1 < owed)
    (hLow : low ≤ byte) (hHigh : byte ≤ high) (hByte : byte < 256) (rest : List UInt8) :
    utf8Decode (some ⟨owed, low, high, code⟩) (UInt8.ofNat byte :: rest) =
      utf8Decode (some ⟨owed - 1, 0x80, 0xBF, code * 64 + (byte - 0x80)⟩) rest := by
  rw [utf8Decode, toNat_ofNat_byte hByte, utf8Step, if_pos ⟨hLow, hHigh⟩,
    if_neg (Nat.not_le_of_lt hOwed)]
  rfl

/-- The last byte of a character. -/
theorem utf8Decode_last {low high code n : Nat} {byte : Nat} (hLow : low ≤ byte)
    (hHigh : byte ≤ high) (hByte : byte < 256) (hCode : code * 64 + (byte - 0x80) = n)
    (rest : List UInt8) :
    utf8Decode (some ⟨1, low, high, code⟩) (UInt8.ofNat byte :: rest) =
      Char.ofNat n :: utf8Decode none rest := by
  rw [utf8Decode, toNat_ofNat_byte hByte, utf8Step, if_pos ⟨hLow, hHigh⟩, if_pos (Nat.le_refl 1),
    hCode]
  rfl

/-- What the first of three bytes leaves open. -/
theorem utf8Start_three {code : Nat} (hCode : code < 0x10000) (hLong : 0x800 ≤ code)
    (hScalar : code < 0xD800 ∨ 0xDFFF < code) :
    ∃ low high, utf8Start (code / 4096 + 0xE0) = ([], some ⟨2, low, high, code / 4096⟩) ∧
      low ≤ code / 64 % 64 + 128 ∧ code / 64 % 64 + 128 ≤ high := by
  rw [utf8Start, if_neg (by omega), if_neg (by omega)]
  split_ifs with hZero hSurrogate hRange
  · exact ⟨0xA0, 0xBF, by rw [show code / 4096 = 0 by omega], by omega, by omega⟩
  · exact ⟨0x80, 0x9F, by rw [show code / 4096 = 0xD by omega], by omega, by omega⟩
  · exact ⟨0x80, 0xBF, by rw [Nat.add_sub_cancel], by omega, by omega⟩
  all_goals omega

/-- What the first of four bytes leaves open. -/
theorem utf8Start_four {code : Nat} (hCode : code < 0x110000) (hLong : 0x10000 ≤ code) :
    ∃ low high, utf8Start (code / 262144 + 0xF0) = ([], some ⟨3, low, high, code / 262144⟩) ∧
      low ≤ code / 4096 % 64 + 128 ∧ code / 4096 % 64 + 128 ≤ high := by
  rw [utf8Start, if_neg (by omega), if_neg (by omega), if_neg (by omega), if_neg (by omega),
    if_neg (by omega)]
  split_ifs with hZero hRange hFour
  · exact ⟨0x90, 0xBF, by rw [show code / 262144 = 0 by omega], by omega, by omega⟩
  · exact ⟨0x80, 0xBF, by rw [Nat.add_sub_cancel], by omega, by omega⟩
  · exact ⟨0x80, 0x8F, by rw [show code / 262144 = 4 by omega], by omega, by omega⟩
  omega

theorem utf8Decode_start {byte : Nat} {rest : List UInt8} {part : Utf8Partial}
    (h : utf8Start byte = ([], some part)) (hByte : byte < 256) :
    utf8Decode none (UInt8.ofNat byte :: rest) = utf8Decode (some part) rest := by
  rw [utf8Decode, toNat_ofNat_byte hByte, utf8Step, h]
  rfl

theorem utf8Decode_encodeChar (c : Char) (rest : List UInt8) :
    utf8Decode none (String.utf8EncodeChar c ++ rest) = c :: utf8Decode none rest := by
  have hScalar : c.val.toNat < 0xD800 ∨ 0xDFFF < c.val.toNat ∧ c.val.toNat < 0x110000 := c.valid
  have hChar : Char.ofNat c.val.toNat = c := Char.ofNat_toNat c
  generalize hv : c.val.toNat = code at hScalar hChar
  rw [String.utf8EncodeChar, hv, ← hChar]
  split_ifs with hOne hTwo hThree
  · rw [List.cons_append, List.nil_append, utf8Decode, toNat_ofNat_byte (by omega), utf8Step,
      utf8Start, if_pos (by omega)]
    rfl
  · have hFirst : utf8Start (code / 64 % 32 + 192) = ([], some ⟨1, 0x80, 0xBF, code / 64⟩) := by
      rw [utf8Start, if_neg (by omega), if_pos (by omega),
        show code / 64 % 32 + 192 - 0xC0 = code / 64 by omega]
    rw [List.cons_append, List.cons_append, List.nil_append, utf8Decode_start hFirst (by omega),
      utf8Decode_last (n := code) (by omega) (by omega) (by omega) (by omega)]
  · obtain ⟨low, high, hFirst, hLow, hHigh⟩ :=
      utf8Start_three (show code < 0x10000 by omega) (by omega) (by omega)
    have hByte : code / 4096 % 16 + 224 = code / 4096 + 224 := by omega
    simp only [List.cons_append, List.nil_append]
    rw [hByte, utf8Decode_start hFirst (by omega),
      utf8Decode_more (by omega) hLow hHigh (by omega),
      utf8Decode_last (n := code) (by omega) (by omega) (by omega) (by omega)]
  · obtain ⟨low, high, hFirst, hLow, hHigh⟩ :=
      utf8Start_four (show code < 0x110000 by omega) (by omega)
    have hByte : code / 262144 % 8 + 240 = code / 262144 + 240 := by omega
    simp only [List.cons_append, List.nil_append]
    rw [hByte, utf8Decode_start hFirst (by omega),
      utf8Decode_more (by omega) hLow hHigh (by omega),
      utf8Decode_more (by omega) (by omega) (by omega) (by omega),
      utf8Decode_last (n := code) (by omega) (by omega) (by omega) (by omega)]

theorem fromUtf8Lossy_encode (text : List Char) :
    fromUtf8Lossy (text.flatMap String.utf8EncodeChar) = text := by
  induction text with
  | nil => rfl
  | cons c text ih =>
    rw [fromUtf8Lossy, List.flatMap_cons, utf8Decode_encodeChar]
    exact congrArg _ ih

end Decoding

end RustText
