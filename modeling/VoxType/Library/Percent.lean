import Mathlib

/-!
# Queries in percent-encoding

Bytes that are not plain are written as `%` and two hexadecimal digits. A query
is a list of pairs; what splits it never occurs in an encoded key or value.
-/

namespace Percent

set_option autoImplicit false

def hexDigit (n : Nat) : Char := if n < 10 then Char.ofNat (48 + n) else Char.ofNat (55 + n)

def hexValue? (c : Char) : Option Nat :=
  if 48 ≤ c.toNat ∧ c.toNat ≤ 57 then some (c.toNat - 48)
  else if 65 ≤ c.toNat ∧ c.toNat ≤ 70 then some (c.toNat - 55)
  else if 97 ≤ c.toNat ∧ c.toNat ≤ 102 then some (c.toNat - 87)
  else none

def encodeByte (plain : UInt8 → Bool) (byte : UInt8) : List Char :=
  if plain byte then [Char.ofNat byte.toNat]
  else ['%', hexDigit (byte.toNat / 16), hexDigit (byte.toNat % 16)]

def encode (plain : UInt8 → Bool) (bytes : List UInt8) : List Char :=
  bytes.flatMap (encodeByte plain)

/-- A `%` without two digits after it stands for itself. -/
def decode : List Char → List UInt8
  | '%' :: high :: low :: rest =>
    match hexValue? high, hexValue? low with
    | some h, some l => UInt8.ofNat (h * 16 + l) :: decode rest
    | _, _ => 0x25 :: decode (high :: low :: rest)
  | c :: rest => String.utf8EncodeChar c ++ decode rest
  | [] => []

def pairText (plain : UInt8 → Bool) (pair : List UInt8 × List UInt8) : List Char :=
  encode plain pair.1 ++ '=' :: encode plain pair.2

def queryText (plain : UInt8 → Bool) (pairs : List (List UInt8 × List UInt8)) : List Char :=
  ['&'].intercalate (pairs.map (pairText plain))

theorem queryText_cons (plain : UInt8 → Bool) (pair : List UInt8 × List UInt8)
    (pairs : List (List UInt8 × List UInt8)) :
    queryText plain (pair :: pairs) =
      pairText plain pair ++ pairs.flatMap fun next => '&' :: pairText plain next := by
  rw [queryText]
  induction pairs generalizing pair with
  | nil => simp
  | cons next pairs ih =>
    rw [List.map_cons, List.map_cons, List.intercalate_cons_cons, ← List.map_cons, ih,
      List.flatMap_cons, List.append_assoc]
    rfl

/-- A pair is split at its first `=`. -/
def parsePair (text : List Char) : List UInt8 × List UInt8 :=
  (decode (text.takeWhile (· != '=')), decode ((text.dropWhile (· != '=')).drop 1))

def parseQuery (text : List Char) : List (List UInt8 × List UInt8) :=
  (text.splitOn '&').map parsePair

/-- A choice of plain bytes that keeps encoding and delimiters apart. -/
structure Unambiguous (plain : UInt8 → Bool) (delimiters : List Char) : Prop where
  ascii : ∀ byte, plain byte = true → byte.toNat < 0x80
  escape : ∀ byte, plain byte = true → Char.ofNat byte.toNat ≠ '%'
  apart : ∀ c ∈ delimiters, (∀ byte, plain byte = true → Char.ofNat byte.toNat ≠ c) ∧ c ≠ '%' ∧
    hexValue? c = none

variable {plain : UInt8 → Bool} {delimiters : List Char}

theorem hexValue_hexDigit {n : Nat} (h : n < 16) : hexValue? (hexDigit n) = some n := by
  interval_cases n <;> rfl

theorem decode_escape (byte : UInt8) (rest : List Char) :
    decode ('%' :: hexDigit (byte.toNat / 16) :: hexDigit (byte.toNat % 16) :: rest) =
      byte :: decode rest := by
  have hByte := byte.toNat_lt
  have hSum : byte.toNat / 16 * 16 + byte.toNat % 16 = byte.toNat := by omega
  rw [decode, hexValue_hexDigit (by omega), hexValue_hexDigit (by omega)]
  dsimp only
  rw [hSum, UInt8.ofNat_toNat]

theorem decode_plain {c : Char} (h : c ≠ '%') (rest : List Char) :
    decode (c :: rest) = String.utf8EncodeChar c ++ decode rest := by
  rw [decode]
  exact fun _ _ _ hEq _ => h hEq

theorem decode_encodeByte (h : Unambiguous plain delimiters) (byte : UInt8) (rest : List Char) :
    decode (encodeByte plain byte ++ rest) = byte :: decode rest := by
  rw [encodeByte]
  split
  case isTrue hPlain =>
    have hAscii := h.ascii byte hPlain
    have hValid : byte.toNat.isValidChar := .inl (by omega)
    have hChar : (Char.ofNat byte.toNat).val.toNat = byte.toNat := by
      rw [Char.ofNat, dif_pos hValid]
      rfl
    have hBytes : String.utf8EncodeChar (Char.ofNat byte.toNat) = [byte] := by
      rw [String.utf8EncodeChar, hChar]
      exact (if_pos (by omega)).trans (by rw [UInt8.ofNat_toNat])
    rw [List.singleton_append, decode_plain (h.escape byte hPlain), hBytes, List.singleton_append]
  case isFalse => exact decode_escape byte rest

theorem decode_encode (h : Unambiguous plain delimiters) (bytes : List UInt8) :
    decode (encode plain bytes) = bytes := by
  induction bytes with
  | nil => rfl
  | cons byte bytes ih =>
    rw [encode, List.flatMap_cons, decode_encodeByte h]
    exact congrArg _ ih

theorem hexValue_isSome {n : Nat} (h : n < 16) : (hexValue? (hexDigit n)).isSome = true := by
  rw [hexValue_hexDigit h]
  rfl

section Characters

/-- What every character of an encoding satisfies. -/
structure Written (plain : UInt8 → Bool) (P : Char → Prop) : Prop where
  plain : ∀ byte, plain byte = true → P (Char.ofNat byte.toNat)
  percent : P '%'
  digit : ∀ c, (hexValue? c).isSome = true → P c

variable {P : Char → Prop}

theorem forall_mem_encode (h : Written plain P) (bytes : List UInt8) :
    ∀ c ∈ encode plain bytes, P c := by
  intro c hMem
  obtain ⟨byte, -, hByte⟩ := List.mem_flatMap.mp hMem
  have hLt := byte.toNat_lt
  rw [encodeByte] at hByte
  split at hByte
  case isTrue hKept => exact List.mem_singleton.mp hByte ▸ h.plain byte hKept
  case isFalse =>
    simp only [List.mem_cons, List.not_mem_nil, or_false] at hByte
    rcases hByte with rfl | rfl | rfl
    · exact h.percent
    · exact h.digit _ (hexValue_isSome (by omega))
    · exact h.digit _ (hexValue_isSome (by omega))

theorem forall_mem_pairText (h : Written plain P) (hEqual : P '=')
    (pair : List UInt8 × List UInt8) : ∀ c ∈ pairText plain pair, P c := by
  intro c hMem
  rw [pairText, List.mem_append, List.mem_cons] at hMem
  rcases hMem with hKey | rfl | hValue
  · exact forall_mem_encode h _ c hKey
  · exact hEqual
  · exact forall_mem_encode h _ c hValue

theorem forall_mem_queryText (h : Written plain P) (hEqual : P '=') (hAmp : P '&')
    (pairs : List (List UInt8 × List UInt8)) : ∀ c ∈ queryText plain pairs, P c := by
  cases pairs with
  | nil => exact nofun
  | cons pair pairs =>
    intro c hMem
    rw [queryText_cons, List.mem_append, List.mem_flatMap] at hMem
    rcases hMem with hFirst | ⟨next, -, hNext⟩
    · exact forall_mem_pairText h hEqual pair c hFirst
    · rcases List.mem_cons.mp hNext with rfl | hIn
      · exact hAmp
      · exact forall_mem_pairText h hEqual next c hIn

/-- No delimiter is written by the encoding. -/
theorem Unambiguous.written (h : Unambiguous plain delimiters) {c : Char} (hc : c ∈ delimiters) :
    Written plain (· ≠ c) := by
  obtain ⟨hPlain, hPercent, hHex⟩ := h.apart c hc
  refine ⟨hPlain, hPercent.symm, ?_⟩
  rintro d hDigit rfl
  rw [hHex] at hDigit
  cases hDigit

theorem not_mem_encode (h : Unambiguous plain delimiters) {c : Char} (hc : c ∈ delimiters)
    (bytes : List UInt8) : c ∉ encode plain bytes :=
  fun hMem => forall_mem_encode (h.written hc) bytes c hMem rfl

end Characters

theorem parsePair_pairText (h : Unambiguous plain delimiters) (hEqual : '=' ∈ delimiters)
    (pair : List UInt8 × List UInt8) : parsePair (pairText plain pair) = pair := by
  have hKey : ∀ c ∈ encode plain pair.1, (c != '=') = true :=
    fun c hMem => bne_iff_ne.mpr fun hEq => not_mem_encode h hEqual _ (hEq ▸ hMem)
  rw [parsePair, pairText, List.takeWhile_append_of_pos hKey, List.dropWhile_append_of_pos hKey,
    List.takeWhile_cons_of_neg (by simp), List.dropWhile_cons_of_neg (by simp), List.append_nil,
    List.drop_succ_cons, List.drop_zero, decode_encode h, decode_encode h]

/-- Splitting and decoding gives back the pairs a query was written from. -/
theorem parseQuery_queryText (h : Unambiguous plain delimiters) (hAmp : '&' ∈ delimiters)
    (hEqual : '=' ∈ delimiters) {pairs : List (List UInt8 × List UInt8)} (hPairs : pairs ≠ []) :
    parseQuery (queryText plain pairs) = pairs := by
  have hApart : ∀ part ∈ pairs.map (pairText plain), '&' ∉ part := by
    intro part hMem
    obtain ⟨pair, -, rfl⟩ := List.mem_map.mp hMem
    exact fun hIn => forall_mem_pairText (h.written hAmp) (by decide) pair _ hIn rfl
  rw [parseQuery, queryText, List.splitOn_intercalate '&' hApart (by simpa using hPairs),
    List.map_map]
  exact List.map_id'' (fun pair => parsePair_pairText h hEqual pair) pairs

theorem not_mem_queryText (h : Unambiguous plain delimiters) {c : Char} (hc : c ∈ delimiters)
    (hAmp : c ≠ '&') (hEqual : c ≠ '=') (pairs : List (List UInt8 × List UInt8)) :
    c ∉ queryText plain pairs :=
  fun hMem => forall_mem_queryText (h.written hc) hEqual.symm hAmp.symm pairs c hMem rfl

end Percent
