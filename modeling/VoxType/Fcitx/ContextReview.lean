import VoxType.Fcitx.ContextClient
import VoxType.Library.Decimal
import VoxType.Library.Utf8

/-!
# The text under review

The addon cuts a window out of the surrounding text by byte offsets; the client
counts in characters again. Between them nothing of the review is lost.
-/

namespace VoxType.Fcitx

set_option autoImplicit false

open RustText

/-- The bytes of some characters. -/
abbrev encode (text : List Char) : Bytes := text.flatMap String.utf8EncodeChar

section Offsets

theorem startsCharacter_iff {byte : UInt8} : startsCharacter byte = true ↔ ¬ IsContinuation byte := by
  have hAll : ∀ n : Fin 256, startsCharacter (UInt8.ofNat n) =
      !decide (0x80 ≤ n.val ∧ n.val < 0xC0) := by decide +kernel
  have hByte := hAll ⟨byte.toNat, byte.toNat_lt⟩
  rw [UInt8.ofNat_toNat] at hByte
  rw [hByte, IsContinuation, Bool.not_eq_true', decide_eq_false_iff_not]

theorem startsCharacter_eq_false {byte : UInt8} (h : IsContinuation byte) :
    startsCharacter byte = false :=
  Bool.eq_false_iff.mpr fun hStarts => startsCharacter_iff.mp hStarts h

theorem utf8CharacterCount_encode (text : List Char) :
    utf8CharacterCount (encode text) = text.length := by
  induction text with
  | nil => rfl
  | cons c text ih =>
    obtain ⟨first, rest, hShape, hFirst, hRest⟩ := utf8EncodeChar_shape c
    have hNone : rest.countP startsCharacter = 0 := by
      rw [List.countP_eq_zero]
      intro byte hMem
      rw [startsCharacter_eq_false (hRest byte hMem)]
      exact Bool.false_ne_true
    rw [utf8CharacterCount] at ih ⊢
    rw [encode, List.flatMap_cons, hShape, List.cons_append,
      List.countP_cons_of_pos (startsCharacter_iff.mpr hFirst), List.countP_append, hNone, ih,
      Nat.zero_add, List.length_cons]

/-- Bytes that start no character are passed over. -/
theorem byteOffsetFrom_skip (offset : Nat) {bytes : Bytes} (h : ∀ byte ∈ bytes, IsContinuation byte)
    (more : Bytes) (index characters : Nat) :
    byteOffsetFrom offset (bytes ++ more) index characters =
      byteOffsetFrom offset more (index + bytes.length) characters := by
  induction bytes generalizing index with
  | nil => rfl
  | cons byte bytes ih =>
    rw [List.forall_mem_cons] at h
    rw [List.cons_append, byteOffsetFrom, startsCharacter_eq_false h.1,
      if_neg Bool.false_ne_true, ih h.2, List.length_cons, Nat.add_assoc, Nat.add_comm 1]

theorem byteOffsetFrom_encode (text : List Char) (more index characters : Nat) :
    byteOffsetFrom (characters + more) (encode text) index characters =
      index + (encode (text.take more)).length := by
  induction text generalizing more index characters with
  | nil => rw [List.take_nil]; rfl
  | cons c text ih =>
    obtain ⟨first, rest, hShape, hFirst, hRest⟩ := utf8EncodeChar_shape c
    rw [encode, List.flatMap_cons, hShape, List.cons_append, byteOffsetFrom,
      if_pos (startsCharacter_iff.mpr hFirst)]
    cases more with
    | zero => exact if_pos rfl
    | succ more =>
      have hSum : characters + (more + 1) = characters + 1 + more := by omega
      rw [if_neg (by omega), byteOffsetFrom_skip _ hRest, hSum, ih, List.take_succ_cons,
        encode, encode, List.flatMap_cons, hShape, List.length_append, List.length_cons]
      omega

theorem byteOffset_encode (text : List Char) (offset : Nat) :
    byteOffset (encode text) offset = (encode (text.take offset)).length := by
  have hFrom := byteOffsetFrom_encode text offset 0 0
  rwa [Nat.zero_add, Nat.zero_add] at hFrom

/-- Cutting at the bytes of two characters keeps the characters between them. -/
theorem cut_encode (text : List Char) {start «end» : Nat} (h : start ≤ «end») :
    ((encode text).drop (byteOffset (encode text) start)).take
        (byteOffset (encode text) «end» - byteOffset (encode text) start) =
      encode ((text.drop start).take («end» - start)) := by
  have hUpTo : text.take «end» = text.take start ++ (text.drop start).take («end» - start) := by
    rw [← List.take_add, Nat.add_sub_cancel' h]
  have hAll : encode text = encode (text.take start) ++
      (encode ((text.drop start).take («end» - start)) ++ encode (text.drop «end»)) := by
    rw [encode, encode, encode, encode, ← List.append_assoc, ← List.flatMap_append, ← hUpTo,
      ← List.flatMap_append, List.take_append_drop]
  rw [byteOffset_encode, byteOffset_encode, hUpTo, encode, encode, List.flatMap_append,
    List.length_append, Nat.add_sub_cancel_left, ← encode, hAll, List.drop_left,
    List.take_left]

end Offsets

section Window

/-- Where a window lies that keeps what is under review. -/
structure Covers (characters cursor anchor start «end» : Nat) : Prop where
  le : start ≤ «end»
  inside : «end» ≤ characters
  small : «end» - start ≤ maxContextCharacters
  whole : max cursor anchor - min cursor anchor ≤ maxContextCharacters →
    start ≤ min cursor anchor ∧ max cursor anchor ≤ «end»
  part : maxContextCharacters < max cursor anchor - min cursor anchor →
    min cursor anchor ≤ start ∧ «end» ≤ max cursor anchor ∧ «end» - start = maxContextCharacters
  before : cursor = anchor → start ≤ cursor - 1200

theorem windowBounds_covers {characters cursor anchor : Nat} (hCursor : cursor ≤ characters)
    (hAnchor : anchor ≤ characters) :
    Covers characters cursor anchor (windowBounds characters cursor anchor).1
      (windowBounds characters cursor anchor).2 := by
  have hMax : maxContextCharacters = 4096 := rfl
  rw [windowBounds]
  split
  case isTrue hLong =>
    dsimp only
    constructor <;> split <;> omega
  case isFalse hShort => constructor <;> omega

/-- The window of a text, in characters. -/
theorem boundedContext_encode (text : List Char) (cursor anchor : Nat) {start «end» : Nat}
    (hBounds : windowBounds text.length (min cursor text.length) (min anchor text.length) =
      (start, «end»)) (hLe : start ≤ «end») :
    boundedContext (encode text) cursor anchor =
      { text := encode ((text.drop start).take («end» - start))
        cursor := clamp (min cursor text.length) start «end» - start
        anchor := clamp (min anchor text.length) start «end» - start
        truncated := start != 0 || «end» != text.length } := by
  simp only [boundedContext, utf8CharacterCount_encode, hBounds, cut_encode text hLe]

theorem clamp_bounds (value : Nat) {low high : Nat} (h : low ≤ high) :
    low ≤ clamp value low high ∧ clamp value low high ≤ high := by
  rw [clamp]
  split_ifs <;> omega

theorem clamp_inside {value low high : Nat} (hLow : low ≤ value) (hHigh : value ≤ high) :
    clamp value low high = value := by
  rw [clamp, if_neg (by omega), if_neg (by omega)]

end Window

section Review

def selection (text : List Char) (cursor anchor : Nat) : List Char :=
  (text.drop (min cursor anchor)).take (max cursor anchor - min cursor anchor)

/-- What is reviewed of a text: its selection or as much of it as fits, or what is just before
the cursor. -/
structure Reviews (text : List Char) (cursor anchor : Nat) (review : List Char) : Prop where
  whole : cursor ≠ anchor → (selection text cursor anchor).length ≤ maxContextCharacters →
    review = selection text cursor anchor
  part : maxContextCharacters < (selection text cursor anchor).length →
    review <:+: selection text cursor anchor ∧ review.length = maxContextCharacters
  before : cursor = anchor → review = (text.take cursor).rtake (min cursor 1200)

theorem length_selection {text : List Char} {cursor anchor : Nat} (hCursor : cursor ≤ text.length)
    (hAnchor : anchor ≤ text.length) :
    (selection text cursor anchor).length = max cursor anchor - min cursor anchor := by
  rw [selection, List.length_take, List.length_drop]
  omega

/-- A slice of a window is a slice of the text. -/
theorem slice_window (text : List Char) (start length first more : Nat) :
    (((text.drop start).take length).drop first).take more =
      (text.drop (start + first)).take (min more (length - first)) := by
  rw [List.drop_take, List.drop_drop, List.take_take]

variable {text : List Char} {cursor anchor start «end» : Nat}

theorem slice_inside {low high : Nat} (hLow : low ≤ start) (hHigh : «end» ≤ high)
    (hLe : start ≤ «end») :
    (text.drop start).take («end» - start) <:+: (text.drop low).take (high - low) := by
  have hSlice := slice_window text low (high - low) (start - low) («end» - start)
  rw [Nat.add_sub_cancel' hLow, Nat.min_eq_left (by omega)] at hSlice
  rw [← hSlice]
  exact (List.take_prefix _ _).isInfix.trans (List.drop_suffix _ _).isInfix

theorem reviewText_reviews (hCursor : cursor ≤ text.length) (hAnchor : anchor ≤ text.length)
    (hCovers : Covers text.length cursor anchor start «end») {context : FcitxContext}
    (hText : context.text.toList = (text.drop start).take («end» - start))
    (hCursor' : context.cursor = clamp cursor start «end» - start)
    (hAnchor' : context.anchor = clamp anchor start «end» - start) :
    Reviews text cursor anchor context.reviewText.toList := by
  have hMax : maxContextCharacters = 4096 := rfl
  have hLe := hCovers.le
  have hInside := hCovers.inside
  have hSmall := hCovers.small
  have hLength := length_selection hCursor hAnchor
  refine ⟨?_, ?_, ?_⟩
  · intro hDiffer hWhole
    obtain ⟨hLow, hHigh⟩ := hCovers.whole (hLength ▸ hWhole)
    rw [clamp_inside (by omega) (by omega)] at hCursor' hAnchor'
    have hSelected : min context.cursor context.anchor ≠ max context.cursor context.anchor := by
      omega
    rw [FcitxContext.reviewText, if_pos hSelected, sliceCharacters, String.toList_ofList, hText,
      slice_window, selection]
    congr 2 <;> omega
  · intro hLong
    obtain ⟨hLow, hHigh, hFull⟩ := hCovers.part (hLength ▸ hLong)
    have hEdges : min context.cursor context.anchor = 0 ∧
        max context.cursor context.anchor = «end» - start := by
      rw [hCursor', hAnchor', clamp, clamp]
      split_ifs <;> omega
    have hReview : context.reviewText.toList = (text.drop start).take («end» - start) := by
      rw [FcitxContext.reviewText, hEdges.1, hEdges.2, if_pos (by omega), sliceCharacters,
        String.toList_ofList, hText, slice_window, Nat.add_zero, Nat.sub_zero, Nat.min_self]
    rw [hReview, List.length_take, List.length_drop]
    exact ⟨slice_inside hLow hHigh hLe, by omega⟩
  · rintro rfl
    have hNone : max cursor cursor - min cursor cursor ≤ maxContextCharacters := by omega
    obtain ⟨hLow, hHigh⟩ := hCovers.whole hNone
    have hBefore := hCovers.before rfl
    rw [clamp_inside (by omega) (by omega)] at hCursor' hAnchor'
    have hCaret : ¬ min context.cursor context.anchor ≠ max context.cursor context.anchor := by
      omega
    have hFirst : start + (context.cursor - 1200) = min cursor text.length - min cursor 1200 := by
      omega
    have hMore : min (context.cursor - (context.cursor - 1200))
        («end» - start - (context.cursor - 1200)) =
        cursor - (min cursor text.length - min cursor 1200) := by omega
    rw [FcitxContext.reviewText, if_neg hCaret, sliceCharacters, String.toList_ofList, hText,
      slice_window, List.rtake, List.length_take, List.drop_take, hFirst, hMore]

end Review

section Snapshots

theorem fromUtf8_utf8 (text : String) : fromUtf8 (utf8 text) = some text := by
  have hText : fromUtf8Lossy (utf8 text) = text.toList := fromUtf8Lossy_encode text.toList
  rw [fromUtf8, hText]
  exact (if_pos rfl).trans (congrArg some String.ofList_toList)

theorem ascii_eq_utf8 {text : String} (h : ∀ c ∈ text.toList, c.toNat < 0x80) :
    ascii text = utf8 text := by
  rw [ascii, utf8]
  generalize text.toList = characters at h ⊢
  induction characters with
  | nil => rfl
  | cons c rest ih =>
    rw [List.forall_mem_cons] at h
    have hByte : String.utf8EncodeChar c = [UInt8.ofNat c.toNat] := if_pos (Nat.le_of_lt_succ h.1)
    rw [List.map_cons, List.flatMap_cons, hByte, ih h.2, List.singleton_append]

theorem ascii_number (n : Nat) : ascii (toString n) = utf8 (toString n) := by
  refine ascii_eq_utf8 fun c hMem => ?_
  rw [Nat.toString_eq_repr, Nat.toList_repr] at hMem
  have hDigit := isDigit_iff.mp (isDigit_toDigits c hMem)
  omega

theorem number_plain (n : Nat) : 0 ∉ utf8 (toString n) := by
  rw [zero_mem_utf8, Nat.toString_eq_repr, Nat.toList_repr]
  exact fun hMem => absurd (isDigit_toDigits _ hMem) (by decide)

theorem parseNumber_toString {n : Nat} (h : n < 2 ^ 64) (name : String) :
    parseNumber (some (utf8 (toString n))) name = .ok n := by
  have hDigits : parseUnsigned 64 (toString n).toList = some n := by
    rw [Nat.toString_eq_repr, Nat.toList_repr, parseUnsigned_toDigits h]
  have hField : parseUtf8 (some (utf8 (toString n))) name = .ok (toString n) := by
    rw [parseUtf8]
    simp only [fromUtf8_utf8]
  simp only [parseNumber, hField, bind, Except.bind, hDigits]

/-- What the addon tells of a context. -/
structure Snapshot where
  program : String
  frontend : String
  generation : Nat
  cursor : Nat
  anchor : Nat
  capabilities : String
  truncated : Bool
  text : String

namespace Snapshot

def flag (self : Snapshot) : Bytes := ascii (if self.truncated then "1" else "0")

def fields (self : Snapshot) : List Bytes :=
  [utf8 self.program, utf8 self.frontend, utf8 (toString self.generation),
    utf8 (toString self.cursor), utf8 (toString self.anchor), utf8 self.capabilities, self.flag,
    utf8 self.text]

def response (self : Snapshot) : Bytes :=
  [0].intercalate (ascii "OK" :: ascii "context" :: self.fields)

/-- What a client can read back. -/
structure Readable (snapshot : Snapshot) : Prop where
  program : '\x00' ∉ snapshot.program.toList
  frontend : '\x00' ∉ snapshot.frontend.toList
  capabilities : '\x00' ∉ snapshot.capabilities.toList
  text : '\x00' ∉ snapshot.text.toList
  generation : snapshot.generation < 2 ^ 64
  small : snapshot.text.toList.length ≤ maxContextCharacters
  cursor : snapshot.cursor ≤ snapshot.text.toList.length
  anchor : snapshot.anchor ≤ snapshot.text.toList.length

def identity (name : String) : String := if name = "" then "unknown" else name

def context (self : Snapshot) : FcitxContext where
  target := ⟨identity self.program, identity self.frontend⟩
  generation := self.generation
  cursor := self.cursor
  anchor := self.anchor
  capabilities := parseCapabilities self.capabilities
  truncated := self.truncated
  text := self.text

variable {self : Snapshot}

theorem fields_plain (h : self.Readable) :
    ∀ part ∈ ascii "OK" :: ascii "context" :: self.fields, 0 ∉ part := by
  have hFlag : 0 ∉ self.flag := by
    rw [flag]
    split <;> decide
  simp only [fields, List.forall_mem_cons, zero_mem_utf8]
  exact ⟨by decide, by decide, h.program, h.frontend,
    fun hMem => number_plain _ (zero_mem_utf8.mpr hMem),
    fun hMem => number_plain _ (zero_mem_utf8.mpr hMem),
    fun hMem => number_plain _ (zero_mem_utf8.mpr hMem), h.capabilities, hFlag, h.text, nofun⟩

theorem splitOn_response (h : self.Readable) :
    self.response.splitOn 0 = ascii "OK" :: ascii "context" :: self.fields :=
  List.splitOn_intercalate 0 (fields_plain h) (List.cons_ne_nil _ _)

theorem parseIdentityField_utf8 (name : String) :
    parseIdentityField (some (utf8 name)) = .ok (identity name) := by
  rw [parseIdentityField]
  simp only [fromUtf8_utf8, identity]

theorem parseUtf8_utf8 (text name : String) : parseUtf8 (some (utf8 text)) name = .ok text := by
  rw [parseUtf8]
  simp only [fromUtf8_utf8]

theorem parseFlag_flag : parseFlag (some self.flag) = .ok self.truncated := by
  rw [parseFlag, flag]
  cases self.truncated <;> decide

theorem usizeFrom_small {value : Nat} (h : value ≤ maxContextCharacters) (message : String) :
    usizeFrom value message = .ok value :=
  if_pos (h.trans_lt (by decide))

theorem parseContextResponse_response (h : self.Readable) :
    parseContextResponse self.response = .ok self.context := by
  have hCursor := h.cursor.trans h.small
  have hAnchor := h.anchor.trans h.small
  have hOk : expectOk self.response = .ok () := by
    rw [expectOk, splitOn_response h]
    rfl
  have hBounded : ¬ (maxContextCharacters < self.text.toList.length ∨
      self.text.toList.length < self.cursor ∨ self.text.toList.length < self.anchor) := by
    have hAll := h.small
    have hFirst := h.cursor
    have hSecond := h.anchor
    omega
  rw [parseContextResponse, hOk, splitOn_response h]
  simp only [fields, List.getElem?_cons_succ, List.getElem?_cons_zero, ne_eq, not_true_eq_false,
    if_false, parseIdentityField_utf8, parseNumber_toString h.generation,
    parseNumber_toString (hCursor.trans_lt (by decide)),
    parseNumber_toString (hAnchor.trans_lt (by decide)), parseUtf8_utf8, parseFlag_flag,
    usizeFrom_small hCursor, usizeFrom_small hAnchor, bind, Except.bind, if_neg hBounded]
  rfl

theorem length_number {n k : Nat} (hk : 0 < k) (h : n < 10 ^ k) :
    (utf8 (toString n)).length ≤ k := by
  rw [← ascii_number, ascii, List.length_map, Nat.toString_eq_repr, Nat.toList_repr]
  exact Nat.toDigits_length 10 n k hk h

theorem length_encode (text : List Char) : (encode text).length ≤ 4 * text.length := by
  induction text with
  | nil => exact Nat.le_refl 0
  | cons c text ih =>
    have hChar := c.utf8Size_le_four
    rw [encode] at ih ⊢
    rw [List.flatMap_cons, List.length_append, String.length_utf8EncodeChar,
      List.length_cons]
    omega

/-- With short names, what is sent is read whole. -/
theorem length_response (h : self.Readable) (hCapabilities : (utf8 self.capabilities).length ≤ 47)
    (hNames : (utf8 self.program).length + (utf8 self.frontend).length ≤ 4000) :
    self.response.length ≤ maxResponseSize := by
  have hFlag : self.flag.length = 1 := by
    rw [flag]
    split <;> decide
  have hText : (utf8 self.text).length ≤ 4 * self.text.toList.length := length_encode _
  have hGeneration : (utf8 (toString self.generation)).length ≤ 20 :=
    length_number (by decide) (h.generation.trans (by decide))
  have hCursor : (utf8 (toString self.cursor)).length ≤ 4 :=
    length_number (by decide) ((h.cursor.trans h.small).trans_lt (by decide))
  have hAnchor : (utf8 (toString self.anchor)).length ≤ 4 :=
    length_number (by decide) ((h.anchor.trans h.small).trans_lt (by decide))
  have hSmall := h.small
  have hMax : maxContextCharacters = 4096 := rfl
  have hHead : (ascii "OK").length = 2 ∧ (ascii "context").length = 7 := by decide
  rw [response, intercalate_eq, maxResponseSize]
  simp only [fields, List.flatMap_cons, List.flatMap_nil, List.length_append, List.length_cons,
    List.length_nil, hHead, hFlag]
  omega

end Snapshot

end Snapshots

section Shared

def capabilityNames (surroundingText multiline terminal spellCheck : Bool) : String :=
  ",".intercalate
    ((if surroundingText then ["surrounding-text"] else []) ++
      (if multiline then ["multiline"] else []) ++ (if terminal then ["terminal"] else []) ++
      (if spellCheck then ["spell-check"] else []))

theorem capabilities_utf8 : ∀ surroundingText multiline terminal spellCheck : Bool,
    appendCapability (appendCapability (appendCapability (appendCapability []
      surroundingText (ascii "surrounding-text")) multiline (ascii "multiline"))
      terminal (ascii "terminal")) spellCheck (ascii "spell-check") =
      utf8 (capabilityNames surroundingText multiline terminal spellCheck) ∧
    '\x00' ∉ (capabilityNames surroundingText multiline terminal spellCheck).toList ∧
    (utf8 (capabilityNames surroundingText multiline terminal spellCheck)).length ≤ 47 := by
  decide

/-- A focused application that shares its text. -/
structure Shares (addon : Addon) (context : InputContext) (text program frontend : String) :
    Prop where
  focused : addon.instance_.lastFocusedInputContext.map Prod.snd = some context
  hasFocus : context.hasFocus = true
  notSecure : isSecure context = false
  surroundingText : context.capabilityFlags.surroundingText = true
  isValid : context.surroundingText.isValid = true
  text : context.surroundingText.text = utf8 text
  program : context.program = utf8 program
  frontend : context.frontendName = utf8 frontend

/-- What the addon tells of a focused application that shares its text. -/
def snapshot (addon : Addon) (flags : CapabilityFlags) (program frontend slice : String)
    (window : ContextWindow) : Snapshot where
  program := program
  frontend := frontend
  generation := addon.bridge.contextGeneration.toNat
  cursor := window.cursor
  anchor := window.anchor
  capabilities := capabilityNames flags.surroundingText flags.multiline flags.terminal
    flags.spellCheck
  truncated := window.truncated
  text := slice

theorem contextResponse_snapshot {addon : Addon} {context : InputContext}
    {text program frontend slice : String} (h : Shares addon context text program frontend)
    (hPlain : '\x00' ∉ text.toList)
    (hSlice : (boundedContext (utf8 text) context.surroundingText.cursor
      context.surroundingText.anchor).text = utf8 slice) :
    addon.contextResponse = (snapshot addon context.capabilityFlags program frontend slice
      (boundedContext (utf8 text) context.surroundingText.cursor
        context.surroundingText.anchor)).response := by
  obtain ⟨⟨id, found⟩, hFocused, hFound⟩ := Option.map_eq_some_iff.mp h.focused
  obtain rfl : found = context := hFound
  have hZero : (utf8 text).contains 0 = false := by
    rw [Bool.eq_false_iff, ne_eq, List.contains_iff_mem, zero_mem_utf8]
    exact hPlain
  obtain ⟨hCapabilities, -, -⟩ := capabilities_utf8 found.capabilityFlags.surroundingText
    found.capabilityFlags.multiline found.capabilityFlags.terminal found.capabilityFlags.spellCheck
  have hGeneration : toString addon.bridge.contextGeneration =
      toString addon.bridge.contextGeneration.toNat := rfl
  simp only [Addon.contextResponse, hFocused, h.hasFocus, h.notSecure, h.surroundingText,
    h.isValid, h.text, hZero, h.program, h.frontend, hSlice, hGeneration,
    ascii_number, Bool.not_true, Bool.false_eq_true, if_false, Bool.and_true, Bool.and_false,
    if_true]
  rw [h.surroundingText] at hCapabilities
  rw [Snapshot.response, intercalate_eq, hCapabilities, ok, Fcitx.response]
  simp only [snapshot, Snapshot.fields, Snapshot.flag, List.flatMap_cons, List.flatMap_nil,
    List.append_nil, List.append_assoc, List.cons_append, h.surroundingText]

/-- The part of a text that is handed over. -/
structure Windowed (text slice : String) (window : ContextWindow) : Prop where
  bytes : window.text = utf8 slice
  contiguous : slice.toList <:+: text.toList
  small : slice.toList.length ≤ maxContextCharacters
  cursor : window.cursor ≤ slice.toList.length
  anchor : window.anchor ≤ slice.toList.length

theorem boundedContext_reviewed (text : String) (cursor anchor : Nat) :
    ∃ slice, Windowed text slice (boundedContext (utf8 text) cursor anchor) ∧
      ∀ context : FcitxContext, context.text = slice →
        context.cursor = (boundedContext (utf8 text) cursor anchor).cursor →
        context.anchor = (boundedContext (utf8 text) cursor anchor).anchor →
        Reviews text.toList (min cursor text.toList.length) (min anchor text.toList.length)
          context.reviewText.toList := by
  generalize hLength : text.toList.length = characters
  obtain ⟨start, «end», hBounds⟩ : ∃ start «end»,
      windowBounds characters (min cursor characters) (min anchor characters) = (start, «end») :=
    ⟨_, _, rfl⟩
  have hCovers := windowBounds_covers (Nat.min_le_right cursor characters)
    (Nat.min_le_right anchor characters)
  rw [hBounds] at hCovers
  dsimp only at hCovers
  subst hLength
  have hLe := hCovers.le
  have hInside := hCovers.inside
  have hSmall := hCovers.small
  have hCursor := clamp_bounds (min cursor text.toList.length) hLe
  have hAnchor := clamp_bounds (min anchor text.toList.length) hLe
  have hSlice : ((text.toList.drop start).take («end» - start)).length = «end» - start := by
    rw [List.length_take, List.length_drop]
    omega
  rw [utf8, boundedContext_encode text.toList cursor anchor hBounds hLe]
  refine ⟨String.ofList ((text.toList.drop start).take («end» - start)), ?_, ?_⟩
  · constructor
    case bytes => rw [utf8, String.toList_ofList]
    case contiguous =>
      rw [String.toList_ofList]
      exact (List.take_prefix _ _).isInfix.trans (List.drop_suffix _ _).isInfix
    case small => rwa [String.toList_ofList, hSlice]
    case cursor | anchor =>
      rw [String.toList_ofList, hSlice]
      dsimp only
      omega
  · rintro context hText hCursor' hAnchor'
    exact reviewText_reviews (Nat.min_le_right _ _) (Nat.min_le_right _ _) hCovers
      (hText ▸ String.toList_ofList) hCursor' hAnchor'

/-- What the client reviews of a text that the addon hands over, wherever cursor and anchor are. -/
theorem context_reviewed (text : String) (hPlain : '\x00' ∉ text.toList) (cursor anchor : Nat) :
    ∃ slice, Windowed text slice (boundedContext (utf8 text) cursor anchor) ∧
      ∀ (addon : Addon) (context : InputContext) (program frontend : String),
        Shares addon context text program frontend →
        context.surroundingText.cursor = cursor → context.surroundingText.anchor = anchor →
        '\x00' ∉ program.toList → '\x00' ∉ frontend.toList →
        ((utf8 program).length + (utf8 frontend).length ≤ 4000 →
          addon.contextResponse.length ≤ maxResponseSize) ∧
        ∃ parsed, parseContextResponse addon.contextResponse = .ok parsed ∧
          parsed.text = slice ∧
          Reviews text.toList (min cursor text.toList.length) (min anchor text.toList.length)
            parsed.reviewText.toList := by
  obtain ⟨slice, hWindowed, hReviews⟩ := boundedContext_reviewed text cursor anchor
  refine ⟨slice, hWindowed, ?_⟩
  rintro addon context program frontend hShares rfl rfl hProgram hFrontend
  have hSlicePlain : '\x00' ∉ slice.toList := fun hMem => hPlain (hWindowed.contiguous.mem hMem)
  obtain ⟨-, hCapabilities, hShort⟩ := capabilities_utf8 context.capabilityFlags.surroundingText
    context.capabilityFlags.multiline context.capabilityFlags.terminal
    context.capabilityFlags.spellCheck
  have hReadable : (snapshot addon context.capabilityFlags program frontend slice
      (boundedContext (utf8 text) context.surroundingText.cursor
        context.surroundingText.anchor)).Readable :=
    { program := hProgram
      frontend := hFrontend
      capabilities := hCapabilities
      text := hSlicePlain
      generation := addon.bridge.contextGeneration.toNat_lt
      small := hWindowed.small
      cursor := hWindowed.cursor
      anchor := hWindowed.anchor }
  rw [contextResponse_snapshot hShares hPlain hWindowed.bytes]
  refine ⟨fun hNames => Snapshot.length_response hReadable hShort hNames, _,
    Snapshot.parseContextResponse_response hReadable, rfl, hReviews _ rfl rfl rfl⟩

def writer : InputContext where
  program := utf8 "editor"
  frontendName := utf8 "wayland"
  hasFocus := true
  capabilityFlags := ⟨false, false, true, true, false, false⟩
  surroundingText := ⟨true, utf8 "a naïve text", 4, 7⟩

def writing : Addon := ⟨⟨[some writer], some 0⟩, .initial⟩

theorem context_reviewed_writing :
    ∃ parsed, parseContextResponse writing.contextResponse = .ok parsed ∧
      parsed.reviewText.toList = "ïve".toList := by
  obtain ⟨slice, -, hParsed⟩ := context_reviewed "a naïve text" (by decide) 4 7
  obtain ⟨-, parsed, hOk, -, hReviews⟩ := hParsed writing writer "editor" "wayland"
    ⟨rfl, rfl, rfl, rfl, rfl, rfl, rfl, rfl⟩ rfl rfl (by decide) (by decide)
  refine ⟨parsed, hOk, ?_⟩
  rw [hReviews.whole (by decide) (by decide)]
  decide

end Shared

end VoxType.Fcitx
