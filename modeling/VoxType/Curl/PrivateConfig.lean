import VoxType.Core.Error
import VoxType.Library.ConfigFile

/-!
# The private configuration of curl

What curl reads on its standard input. Secrets are checked before they are used.
-/

namespace VoxType

set_option autoImplicit false

structure SecretString where
  value : String
  deriving DecidableEq

def isAsciiControlByte (byte : UInt8) : Bool := byte < 0x20 || byte == 0x7F

def validateSecretBytes (value : List UInt8) : Except VoxError Unit :=
  if value.isEmpty || value.any isAsciiControlByte then
    .error (VoxError.new .authentication "secret.invalid_characters"
      "secret must be non-empty and contain no control characters")
  else .ok ()

namespace SecretString

def tryNew (value : String) : Except VoxError SecretString := do
  validateSecretBytes value.toByteArray.data.toList
  .ok ⟨value⟩

def expose (self : SecretString) : String := self.value

end SecretString

/-- `str::replace` of one character -/
def replaceChar (c : Char) (replacement : List Char) (text : List Char) : List Char :=
  text.flatMap fun found => if found = c then replacement else [found]

def escapeCurlConfig (value : String) : String :=
  String.ofList (replaceChar '"' ['\\', '"'] (replaceChar '\\' ['\\', '\\'] value.toList))

/-- What the OpenAI-compatible adapter writes for its key. -/
def restConfigInput (apiKey : SecretString) : String :=
  "header = \"Authorization: Bearer " ++ escapeCurlConfig apiKey.expose ++
    "\"\nheader = \"Accept: application/json\"\n"

/-- What the Deepgram adapter writes for its key. -/
def deepgramConfigInput (apiKey : SecretString) : String :=
  "header = \"Authorization: Token " ++ escapeCurlConfig apiKey.expose ++
    "\"\nheader = \"Accept: application/json\"\n"

section Escaping

/-- A directive and its value, as texts. -/
def curlDirective (name value : String) : ConfigFile.Directive := ⟨name.toList, value.toList⟩

theorem escapeCurlConfig_toList (value : String) :
    (escapeCurlConfig value).toList = ConfigFile.escape value.toList := by
  rw [escapeCurlConfig, String.toList_ofList, replaceChar, replaceChar, List.flatMap_assoc]
  refine List.flatMap_congr fun c _ => ?_
  rw [ConfigFile.escapeChar]
  split_ifs with hBackslash hQuote
  · rfl
  · rw [List.flatMap_singleton, if_pos hQuote]
  · rw [List.flatMap_singleton, if_neg hQuote]

theorem escapeCurlConfig_append (left right : String) :
    escapeCurlConfig (left ++ right) = escapeCurlConfig left ++ escapeCurlConfig right := by
  rw [← String.toList_inj, String.toList_append, escapeCurlConfig_toList, escapeCurlConfig_toList,
    escapeCurlConfig_toList, String.toList_append, ConfigFile.escape_append]

/-- A directive on its line. -/
def configLine (name value : String) : String :=
  name ++ " = \"" ++ escapeCurlConfig value ++ "\"\n"

theorem configLine_toList (name value : String) :
    (configLine name value).toList = ConfigFile.line (curlDirective name value) ++ ['\n'] := by
  have hEnd : "\"\n".toList = ['"'] ++ ['\n'] := by decide
  rw [configLine, String.toList_append, String.toList_append, String.toList_append,
    escapeCurlConfig_toList, hEnd, ← List.append_assoc]
  rfl

/-- A text made of directives on their lines is the file rendered from them. -/
theorem foldr_configLine (entries : List (String × String)) :
    (entries.foldr (fun entry text => configLine entry.1 entry.2 ++ text) "").toList =
      ConfigFile.render (entries.map fun entry => curlDirective entry.1 entry.2) := by
  induction entries with
  | nil => rfl
  | cons entry entries ih =>
    rw [List.foldr_cons, String.toList_append, configLine_toList, ih]
    rfl

/-- No ASCII control byte is among the bytes of a text. -/
def ControlFree (text : String) : Prop := ∀ c ∈ text.toList, 0x20 ≤ c.toNat ∧ c.toNat ≠ 0x7F

theorem toByteArray_eq (text : String) :
    text.toByteArray.data.toList = text.toList.flatMap String.utf8EncodeChar := by
  conv => lhs; rw [← @String.ofList_toList text]
  rw [String.toByteArray_ofList, List.utf8Encode, List.toList_data_toByteArray]

/-- A control character is one control byte. -/
theorem controlFree_of_bytes {text : String}
    (h : text.toByteArray.data.toList.any isAsciiControlByte = false) : ControlFree text := by
  intro c hMem
  by_contra hControl
  have hSmall : c.toNat < 0x80 := by omega
  have hEncoded : String.utf8EncodeChar c = [UInt8.ofNat c.toNat] := if_pos (Nat.le_of_lt_succ hSmall)
  have hByte : UInt8.ofNat c.toNat ∈ text.toByteArray.data.toList := by
    rw [toByteArray_eq, List.mem_flatMap]
    exact ⟨c, hMem, by rw [hEncoded]; exact List.mem_singleton_self _⟩
  have hNot := List.any_eq_false.mp h _ hByte
  have hValue : (UInt8.ofNat c.toNat).toNat = c.toNat := by
    rw [UInt8.toNat_ofNat', Nat.mod_eq_of_lt (by omega)]
  rw [isAsciiControlByte, Bool.or_eq_true, decide_eq_true_eq, beq_iff_eq, UInt8.lt_iff_toNat_lt,
    ← UInt8.toNat_inj, hValue] at hNot
  change ¬ (c.toNat < 0x20 ∨ c.toNat = 0x7F) at hNot
  omega

theorem ControlFree.newline {text : String} (h : ControlFree text) : '\n' ∉ text.toList :=
  fun hMem => absurd (h _ hMem).1 (by decide)

theorem SecretString.tryNew_ok {value : String} {secret : SecretString}
    (h : tryNew value = .ok secret) : secret.value = value ∧ ControlFree value := by
  rw [tryNew, validateSecretBytes] at h
  split at h
  · cases h
  case isFalse hValid =>
    cases h
    rw [Bool.not_eq_true, Bool.or_eq_false_iff] at hValid
    exact ⟨rfl, controlFree_of_bytes hValid.2⟩

end Escaping

end VoxType
