import VoxType.Fcitx.Client

/-!
# Reading the context of the focused application

The client asks for a snapshot, checks every field of the answer and takes from
it what is to be reviewed. `usize` has 64 bits.
-/

namespace VoxType.Fcitx

set_option autoImplicit false

structure FcitxTarget where
  program : String
  frontend : String
  deriving DecidableEq, Repr

structure FcitxContext where
  target : FcitxTarget
  generation : Nat
  cursor : Nat
  anchor : Nat
  capabilities : List String
  truncated : Bool
  text : String
  deriving DecidableEq, Repr

def sliceCharacters (text : String) (start «end» : Nat) : String :=
  String.ofList ((text.toList.drop start).take («end» - start))

/-- The selected text, or up to 1200 characters before the cursor. -/
def FcitxContext.reviewText (self : FcitxContext) : String :=
  let start := min self.cursor self.anchor
  let «end» := max self.cursor self.anchor
  if start ≠ «end» then sliceCharacters self.text start «end»
  else sliceCharacters self.text (self.cursor - 1200) self.cursor

def invalidResponse (message : String) : VoxError :=
  VoxError.new .protocol "fcitx.invalid_response" message

def parseIdentityField : Option Bytes → Except VoxError String
  | none => .ok "unknown"
  | some value =>
    match fromUtf8 value with
    | some value => .ok (if value = "" then "unknown" else value)
    | none => .error (invalidResponse "Fcitx bridge response contains invalid UTF-8")

def parseUtf8 (field : Option Bytes) (name : String) : Except VoxError String :=
  match field with
  | none => .error (invalidResponse s!"Fcitx {name} is missing")
  | some field =>
    match fromUtf8 field with
    | some text => .ok text
    | none => .error (invalidResponse s!"Fcitx {name} contains invalid UTF-8")

def parseNumber (field : Option Bytes) (name : String) : Except VoxError Nat := do
  let text ← parseUtf8 field name
  match RustText.parseUnsigned 64 text.toList with
  | some value => .ok value
  | none => .error (invalidResponse s!"Fcitx {name} is invalid")

/-- `usize::try_from` -/
def usizeFrom (value : Nat) (message : String) : Except VoxError Nat :=
  if value < 2 ^ 64 then .ok value else .error (invalidResponse message)

def parseFlag (field : Option Bytes) : Except VoxError Bool :=
  if field = some (ascii "0") then .ok false
  else if field = some (ascii "1") then .ok true
  else .error (invalidResponse "Fcitx truncation flag is invalid")

def parseCapabilities (value : String) : List String :=
  ((value.toList.splitOn ',').filter fun name => !name.isEmpty).map String.ofList

def parseContextResponse (response : Bytes) : Except VoxError FcitxContext := do
  expectOk response
  let fields := response.splitOn 0
  if fields[1]? ≠ some (ascii "context") then
    .error (invalidResponse "Fcitx bridge response is not a context snapshot")
  else
    let program ← parseIdentityField fields[2]?
    let frontend ← parseIdentityField fields[3]?
    let generation ← parseNumber fields[4]? "context generation"
    let cursor ← usizeFrom (← parseNumber fields[5]? "cursor") "Fcitx cursor is out of range"
    let anchor ← usizeFrom (← parseNumber fields[6]? "anchor") "Fcitx anchor is out of range"
    let capabilities := parseCapabilities (← parseUtf8 fields[7]? "capabilities")
    let truncated ← parseFlag fields[8]?
    let text ← parseUtf8 fields[9]? "surrounding text"
    let characters := text.toList.length
    if maxContextCharacters < characters ∨ characters < cursor ∨ characters < anchor then
      .error (invalidResponse "Fcitx surrounding text or cursor exceeds the bounded context")
    else .ok ⟨⟨program, frontend⟩, generation, cursor, anchor, capabilities, truncated, text⟩

def FcitxTransport.context (self : FcitxTransport) : Except VoxError FcitxContext := do
  let response ← self.request 0 [ascii "CONTEXT"]
  parseContextResponse response

end VoxType.Fcitx
