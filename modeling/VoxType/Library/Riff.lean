import Mathlib

/-!
# RIFF files

A file is one chunk that holds a form and its chunks; numbers are written from
their least byte on. A chunk of an odd length is followed by a byte of padding.
-/

namespace Riff

set_option autoImplicit false

abbrev Bytes : Type := List UInt8

def leBytes : Nat → Nat → Bytes
  | 0, _ => []
  | width + 1, value => UInt8.ofNat value :: leBytes width (value / 256)

def leValue : Bytes → Nat
  | [] => 0
  | byte :: bytes => byte.toNat + 256 * leValue bytes

@[simp] theorem length_leBytes (width value : Nat) : (leBytes width value).length = width := by
  induction width generalizing value with
  | zero => rfl
  | succ width ih => rw [leBytes, List.length_cons, ih]

theorem leValue_leBytes {width value : Nat} (h : value < 256 ^ width) :
    leValue (leBytes width value) = value := by
  induction width generalizing value with
  | zero =>
    rw [pow_zero, Nat.lt_one_iff] at h
    rw [h]
    rfl
  | succ width ih =>
    have hRest : value / 256 < 256 ^ width := by
      rw [Nat.div_lt_iff_lt_mul (by omega), ← pow_succ]
      exact h
    have hByte : (UInt8.ofNat value).toNat = value % 256 := UInt8.toNat_ofNat' ..
    rw [leBytes, leValue, ih hRest, hByte]
    omega

structure Chunk where
  id : Bytes
  body : Bytes
  deriving DecidableEq, Repr

def Chunk.bytes (chunk : Chunk) : Bytes :=
  chunk.id ++ leBytes 4 chunk.body.length ++ chunk.body

theorem Chunk.length_bytes (chunk : Chunk) :
    chunk.bytes.length = chunk.id.length + 4 + chunk.body.length := by
  rw [bytes, List.length_append, List.length_append, length_leBytes]

/-- The identifier, and the file from the body on. -/
def readHeader (file : Bytes) : Option (Bytes × Nat × Bytes) :=
  if 8 ≤ file.length then
    some (file.take 4, leValue ((file.drop 4).take 4), file.drop 8)
  else none

/-- The first chunk and what follows it; padding may be missing at the end of the file. -/
def readChunk (file : Bytes) : Option (Chunk × Bytes) := do
  let (id, length, rest) ← readHeader file
  if length ≤ rest.length then some (⟨id, rest.take length⟩, rest.drop (length + length % 2))
  else none

/-- The form and its contents, where the length in the header is that of the file. -/
def readForm (file : Bytes) : Option (Bytes × Bytes) := do
  let (id, length, rest) ← readHeader file
  if id = [0x52, 0x49, 0x46, 0x46] ∧ length = rest.length ∧ 4 ≤ length then
    some (rest.take 4, rest.drop 4)
  else none

section Read

variable {id rest : Bytes} {length : Nat}

theorem readHeader_eq (rest : Bytes) (hId : id.length = 4) (hLength : length < 2 ^ 32) :
    readHeader (id ++ (leBytes 4 length ++ rest)) = some (id, length, rest) := by
  have hLong : 8 ≤ (id ++ (leBytes 4 length ++ rest)).length := by
    rw [List.length_append, List.length_append, length_leBytes, hId]
    omega
  have hBody : (id ++ (leBytes 4 length ++ rest)).drop 4 = leBytes 4 length ++ rest :=
    List.drop_left' hId
  have hRest : (id ++ (leBytes 4 length ++ rest)).drop 8 = rest := by
    rw [show 8 = 4 + 4 from rfl, ← List.drop_drop, hBody]
    exact List.drop_left' (length_leBytes 4 length)
  rw [readHeader, if_pos hLong, hBody, hRest, List.take_left' hId,
    List.take_left' (length_leBytes 4 length), leValue_leBytes (by omega)]

theorem readChunk_bytes {chunk : Chunk} (hId : chunk.id.length = 4)
    (hLength : chunk.body.length < 2 ^ 32) (hEven : chunk.body.length % 2 = 0) (rest : Bytes) :
    readChunk (chunk.bytes ++ rest) = some (chunk, rest) := by
  have hHeader := readHeader_eq (chunk.body ++ rest) hId hLength
  rw [readChunk, Chunk.bytes, List.append_assoc, List.append_assoc, hHeader]
  have hFits : chunk.body.length ≤ (chunk.body ++ rest).length := by
    rw [List.length_append]
    omega
  change (if _ then _ else _) = _
  rw [if_pos hFits, hEven, List.take_left, Nat.add_zero, List.drop_left]

/-- The last chunk of a file may have any length. -/
theorem readChunk_last {chunk : Chunk} (hId : chunk.id.length = 4)
    (hLength : chunk.body.length < 2 ^ 32) : readChunk chunk.bytes = some (chunk, []) := by
  have hHeader := readHeader_eq chunk.body hId hLength
  rw [readChunk, Chunk.bytes, List.append_assoc, hHeader]
  change (if _ then _ else _) = _
  rw [if_pos (Nat.le_refl _), List.take_length,
    List.drop_eq_nil_of_le (Nat.le_add_right _ _)]

theorem readForm_eq {form : Bytes} (hForm : form.length = 4)
    (hLength : (form ++ rest).length < 2 ^ 32) :
    readForm ([0x52, 0x49, 0x46, 0x46] ++ (leBytes 4 (form ++ rest).length ++ (form ++ rest))) =
      some (form, rest) := by
  rw [readForm, readHeader_eq _ rfl hLength]
  change (if _ then _ else _) = _
  have hLong : 4 ≤ (form ++ rest).length := by
    rw [List.length_append]
    omega
  rw [if_pos ⟨rfl, rfl, hLong⟩, List.take_left' hForm, List.drop_left' hForm]

end Read

/-- The format chunk of a wave file, as far as linear samples need it. -/
structure WaveFormat where
  tag : Nat
  channels : Nat
  sampleRate : Nat
  byteRate : Nat
  blockAlign : Nat
  bitsPerSample : Nat
  deriving DecidableEq, Repr

def WaveFormat.read (body : Bytes) : WaveFormat where
  tag := leValue (body.take 2)
  channels := leValue ((body.drop 2).take 2)
  sampleRate := leValue ((body.drop 4).take 4)
  byteRate := leValue ((body.drop 8).take 4)
  blockAlign := leValue ((body.drop 12).take 2)
  bitsPerSample := leValue ((body.drop 14).take 2)

/-- The format and the samples of a wave file of two chunks. -/
def readWave (file : Bytes) : Option (WaveFormat × Bytes) := do
  let (form, chunks) ← readForm file
  let (format, chunks) ← readChunk chunks
  let (data, _) ← readChunk chunks
  if form = [0x57, 0x41, 0x56, 0x45] ∧ format.id = [0x66, 0x6d, 0x74, 0x20] ∧
      format.body.length = 16 ∧ data.id = [0x64, 0x61, 0x74, 0x61] then
    some (.read format.body, data.body)
  else none

end Riff
