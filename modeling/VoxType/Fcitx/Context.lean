import VoxType.Fcitx.Wire

/-!
# Surrounding text

Positions are `size_t` values below the size of a string in memory, so none of
the sums overflows.
-/

namespace VoxType.Fcitx

set_option autoImplicit false

def maxContextCharacters : Nat := 4096

def startsCharacter (byte : UInt8) : Bool := byte &&& 0xC0 != 0x80

def utf8CharacterCount (text : Bytes) : Nat := text.countP startsCharacter

/-- The loop of `byteOffset`, at the byte `index` and after `characters` characters. -/
def byteOffsetFrom (characterOffset : Nat) : Bytes → Nat → Nat → Nat
  | [], index, _ => index
  | byte :: rest, index, characters =>
    if startsCharacter byte then
      if characters = characterOffset then index
      else byteOffsetFrom characterOffset rest (index + 1) (characters + 1)
    else byteOffsetFrom characterOffset rest (index + 1) characters

def byteOffset (text : Bytes) (characterOffset : Nat) : Nat :=
  byteOffsetFrom characterOffset text 0 0

structure ContextWindow where
  text : Bytes
  cursor : Nat
  anchor : Nat
  truncated : Bool
  deriving DecidableEq, Repr

def ContextWindow.empty : ContextWindow := ⟨[], 0, 0, false⟩

/-- `std::clamp` -/
def clamp (value low high : Nat) : Nat :=
  if value < low then low else if high < value then high else value

/-- The characters kept of a longer text, around the cursor and the anchor. -/
def windowBounds (characters cursor anchor : Nat) : Nat × Nat :=
  if maxContextCharacters < characters then
    let center := cursor / 2 + anchor / 2 + (cursor % 2 + anchor % 2) / 2
    let start :=
      if maxContextCharacters / 2 < center then center - maxContextCharacters / 2 else 0
    let «end» := min characters (start + maxContextCharacters)
    («end» - maxContextCharacters, «end»)
  else (0, characters)

def boundedContext (text : Bytes) (cursor anchor : Nat) : ContextWindow :=
  let characters := utf8CharacterCount text
  let cursor := min cursor characters
  let anchor := min anchor characters
  let (start, «end») := windowBounds characters cursor anchor
  let byteStart := byteOffset text start
  let byteEnd := byteOffset text «end»
  { text := (text.drop byteStart).take (byteEnd - byteStart)
    cursor := clamp cursor start «end» - start
    anchor := clamp anchor start «end» - start
    truncated := start != 0 || «end» != characters }

def appendCapability (value : Bytes) (enabled : Bool) (capability : Bytes) : Bytes :=
  if enabled then (if value.isEmpty then capability else value ++ ascii "," ++ capability)
  else value

end VoxType.Fcitx
