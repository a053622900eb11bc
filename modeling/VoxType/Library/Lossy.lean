import VoxType.Library.Text

/-!
# Reading text out of bytes

Lossy decoding replaces each maximal ill-formed part by U+FFFD. The decoder takes
one byte at a time; a byte that cannot continue a character starts the next one.
-/

namespace RustText

set_option autoImplicit false

def replacement : Char := Char.ofNat 0xFFFD

/-- A character of which `owed` bytes are missing; the next one lies in `low..=high`. -/
structure Utf8Partial where
  owed : Nat
  low : Nat
  high : Nat
  code : Nat
  deriving DecidableEq, Repr

def utf8Start (byte : Nat) : List Char × Option Utf8Partial :=
  if byte < 0x80 then ([Char.ofNat byte], none)
  else if 0xC2 ≤ byte ∧ byte ≤ 0xDF then ([], some ⟨1, 0x80, 0xBF, byte - 0xC0⟩)
  else if byte = 0xE0 then ([], some ⟨2, 0xA0, 0xBF, 0⟩)
  else if byte = 0xED then ([], some ⟨2, 0x80, 0x9F, 0xD⟩)
  else if 0xE1 ≤ byte ∧ byte ≤ 0xEF then ([], some ⟨2, 0x80, 0xBF, byte - 0xE0⟩)
  else if byte = 0xF0 then ([], some ⟨3, 0x90, 0xBF, 0⟩)
  else if 0xF1 ≤ byte ∧ byte ≤ 0xF3 then ([], some ⟨3, 0x80, 0xBF, byte - 0xF0⟩)
  else if byte = 0xF4 then ([], some ⟨3, 0x80, 0x8F, 4⟩)
  else ([replacement], none)

def utf8Step (pending : Option Utf8Partial) (byte : Nat) : List Char × Option Utf8Partial :=
  match pending with
  | none => utf8Start byte
  | some part =>
    if part.low ≤ byte ∧ byte ≤ part.high then
      let code := part.code * 64 + (byte - 0x80)
      if part.owed ≤ 1 then ([Char.ofNat code], none)
      else ([], some ⟨part.owed - 1, 0x80, 0xBF, code⟩)
    else (replacement :: (utf8Start byte).1, (utf8Start byte).2)

def utf8Decode : Option Utf8Partial → List UInt8 → List Char
  | none, [] => []
  | some _, [] => [replacement]
  | pending, byte :: rest =>
    (utf8Step pending byte.toNat).1 ++ utf8Decode (utf8Step pending byte.toNat).2 rest

/-- `String::from_utf8_lossy` -/
def fromUtf8Lossy (bytes : List UInt8) : List Char := utf8Decode none bytes

/-- The text of a line without its line ending. -/
def chomp (line : List Char) : List Char :=
  if line.getLast? = some '\r' then line.dropLast else line

/-- `str::lines`; `line` is what has been read of the current line. -/
def linesFrom : List Char → List Char → List (List Char)
  | [], [] => []
  | line, [] => [line]
  | line, c :: rest =>
    if c = '\n' then chomp line :: linesFrom [] rest else linesFrom (line ++ [c]) rest

def lines (text : List Char) : List (List Char) := linesFrom [] text

def stripPrefix? : List Char → List Char → Option (List Char)
  | [], text => some text
  | _ :: _, [] => none
  | p :: marker, c :: text => if p = c then stripPrefix? marker text else none

theorem stripPrefix?_eq_some {marker text rest : List Char} :
    stripPrefix? marker text = some rest ↔ text = marker ++ rest := by
  induction marker generalizing text with
  | nil => exact ⟨fun h => Option.some.inj h, fun h => congrArg some h⟩
  | cons p marker ih =>
    cases text with
    | nil => exact ⟨nofun, nofun⟩
    | cons c text =>
      rw [stripPrefix?, List.cons_append, List.cons.injEq]
      split
      case isTrue hSame => rw [ih, eq_comm (a := c), and_iff_right hSame]
      case isFalse hOther => exact ⟨nofun, fun h => absurd h.1.symm hOther⟩

def digits : Nat → List Char → Option Nat
  | value, [] => some value
  | value, c :: rest =>
    if 48 ≤ c.toNat ∧ c.toNat ≤ 57 then digits (value * 10 + (c.toNat - 48)) rest else none

/-- `str::parse` of an unsigned integer of `bits` bits. -/
def parseUnsigned (bits : Nat) (text : List Char) : Option Nat :=
  let body :=
    match text with
    | '+' :: rest => rest
    | _ => text
  if body.isEmpty then none else (digits 0 body).filter (· < 2 ^ bits)

def trimChars (text : List Char) : List Char :=
  ((text.dropWhile isWhitespace).reverse.dropWhile isWhitespace).reverse

example :
    fromUtf8Lossy [0x61, 0xE4, 0xBD, 0x62, 0xFF, 0xC3, 0xA9] =
      ['a', replacement, 'b', replacement, 'é'] ∧
    lines "a\r\nb\n\nc".toList = ["a".toList, "b".toList, [], "c".toList] := by decide +kernel

end RustText
