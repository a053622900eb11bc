import VoxType.Curl.PrivateConfig
import VoxType.Doubao.Bootstrap
import VoxType.Library.Utf8

/-!
# What the bootstrap requests tell curl

JSON is written by a library, `toVec` stands for it; `md5` stands for the digest.
-/

namespace VoxType.Doubao

set_option autoImplicit false

def maxRegistrationBodyBytes : Nat := 256 * 1024

structure RegistrationDocument where
  bytes : Bytes
  deriving DecidableEq, Repr

/-- The error is the message of a `BootstrapError`. -/
def RegistrationDocument.fromJson (toVec : Json → Option Bytes) (value : Json) :
    Except String RegistrationDocument :=
  match value with
  | .object _ =>
    match toVec value with
    | none => .error "could not serialize registration document"
    | some bytes =>
      if maxRegistrationBodyBytes < bytes.length then
        .error "registration document is too large"
      else .ok ⟨bytes⟩
  | _ => .error "registration document must be a JSON object"

def curlPostConfig (url userAgent contentType : String) (body : Bytes)
    (extraHeader : Option (String × String)) : String :=
  let body := String.ofList (RustText.fromUtf8Lossy body)
  let config := "request = \"POST\"\nurl = \"" ++ escapeCurlConfig url ++
    "\"\nheader = \"User-Agent: " ++ escapeCurlConfig userAgent ++
    "\"\nheader = \"Accept: application/json\"\nheader = \"Content-Type: " ++
    escapeCurlConfig contentType ++ "\"\ndata = \"" ++ escapeCurlConfig body ++ "\"\n"
  match extraHeader with
  | none => config
  | some (name, value) =>
    config ++ "header = \"" ++ escapeCurlConfig name ++ ": " ++ escapeCurlConfig value ++ "\"\n"

/-- `\x7b:X\x7d` of a digest -/
def xSsStub (md5 : Bytes → Bytes) (body : Bytes) : String :=
  String.ofList ((md5 body).flatMap fun byte =>
    [Percent.hexDigit (byte.toNat / 16), Percent.hexDigit (byte.toNat % 16)])

/-- What `register_device_http` gives to curl. -/
def registrationPrivateConfig (config : BootstrapHttpConfig) (context : BootstrapRequestContext)
    (document : RegistrationDocument) (cancelled : Bool) (clock : WallClock) :
    Except VoxError String := do
  let url ← registrationUrl config context cancelled clock
  .ok (curlPostConfig url context.userAgent "application/json" document.bytes none)

/-- What `fetch_settings_token_http` gives to curl. -/
def settingsPrivateConfig (md5 : Bytes → Bytes) (config : BootstrapHttpConfig)
    (context : BootstrapRequestContext) (registered : RegisteredDevice) (cancelled : Bool)
    (clock : WallClock) : Except VoxError String := do
  let url ← settingsUrl config context registered cancelled clock
  .ok (curlPostConfig url context.userAgent "application/x-www-form-urlencoded" settingsBody
    (some ("x-ss-stub", xSsStub md5 settingsBody)))

section Directives

/-- What a request is meant to say. -/
def postEntries (url userAgent contentType body : String)
    (extraHeader : Option (String × String)) : List (String × String) :=
  [("request", "POST"), ("url", url), ("header", "User-Agent: " ++ userAgent),
    ("header", "Accept: application/json"), ("header", "Content-Type: " ++ contentType),
    ("data", body)] ++
  extraHeader.toList.map fun header => ("header", header.1 ++ ": " ++ header.2)

def directivesOf (entries : List (String × String)) : List ConfigFile.Directive :=
  entries.map fun entry => curlDirective entry.1 entry.2

theorem fixed_escaped : escapeCurlConfig "POST" = "POST" ∧
    escapeCurlConfig "User-Agent: " = "User-Agent: " ∧
    escapeCurlConfig "Accept: application/json" = "Accept: application/json" ∧
    escapeCurlConfig "Content-Type: " = "Content-Type: " ∧ escapeCurlConfig ": " = ": " := by
  decide

theorem fixed_lines :
    "request = \"POST\"\nurl = \"" =
      "request" ++ (" = \"" ++ ("POST" ++ ("\"\n" ++ ("url" ++ " = \"")))) ∧
    "\"\nheader = \"User-Agent: " = "\"\n" ++ ("header" ++ (" = \"" ++ "User-Agent: ")) ∧
    "\"\nheader = \"Accept: application/json\"\nheader = \"Content-Type: " =
      "\"\n" ++ ("header" ++ (" = \"" ++ ("Accept: application/json" ++
        ("\"\n" ++ ("header" ++ (" = \"" ++ "Content-Type: ")))))) ∧
    "\"\ndata = \"" = "\"\n" ++ ("data" ++ " = \"") ∧ "header = \"" = "header" ++ " = \"" := by
  decide

theorem curlPostConfig_none (url userAgent contentType body : String) :
    curlPostConfig url userAgent contentType (asBytes body) none =
      (postEntries url userAgent contentType body none).foldr
        (fun entry text => configLine entry.1 entry.2 ++ text) "" := by
  have hBody : String.ofList (RustText.fromUtf8Lossy (asBytes body)) = body := by
    rw [asBytes, toByteArray_eq, RustText.fromUtf8Lossy_encode, String.ofList_toList]
  obtain ⟨hPost, hAgent, hAccept, hType, -⟩ := fixed_escaped
  obtain ⟨hFirst, hSecond, hThird, hFourth, -⟩ := fixed_lines
  unfold curlPostConfig
  simp only [-String.reduceAppend, hBody, postEntries, Option.toList_none,
    List.map_nil, List.append_nil, List.foldr_cons, List.foldr_nil, configLine,
    escapeCurlConfig_append, hPost, hAgent, hAccept, hType]
  rewrite [hFirst, hSecond, hThird, hFourth]
  simp only [-String.reduceAppend, String.append_assoc, String.append_empty]

theorem curlPostConfig_some (url userAgent contentType : String) (body : Bytes)
    (header : String × String) :
    curlPostConfig url userAgent contentType body (some header) =
      curlPostConfig url userAgent contentType body none ++
        configLine "header" (header.1 ++ ": " ++ header.2) := by
  obtain ⟨-, -, -, -, hColon⟩ := fixed_escaped
  obtain ⟨-, -, -, -, hHeader⟩ := fixed_lines
  unfold curlPostConfig
  simp only [-String.reduceAppend, configLine, escapeCurlConfig_append, hColon]
  rewrite [hHeader]
  simp only [-String.reduceAppend, String.append_assoc]

theorem curlPostConfig_render (url userAgent contentType body : String)
    (extraHeader : Option (String × String)) :
    (curlPostConfig url userAgent contentType (asBytes body) extraHeader).toList =
      ConfigFile.render (directivesOf (postEntries url userAgent contentType body extraHeader)) := by
  have hNone : (curlPostConfig url userAgent contentType (asBytes body) none).toList =
      ConfigFile.render (directivesOf (postEntries url userAgent contentType body none)) := by
    rw [curlPostConfig_none, foldr_configLine, directivesOf]
  cases extraHeader with
  | none => exact hNone
  | some header =>
    rw [curlPostConfig_some, String.toList_append, hNone, configLine_toList, ConfigFile.render,
      ConfigFile.render, ← List.flatMap_singleton (fun d => ConfigFile.line d ++ ['\n']),
      ← List.flatMap_append]
    rfl

theorem plain_directive {name value : String} (hName : name ∈ ["request", "url", "header", "data"])
    (hValue : '\n' ∉ value.toList) : (curlDirective name value).Plain := by
  refine ⟨?_, hValue⟩
  intro c hMem
  change c ∈ name.toList at hMem
  have hAll : ∀ text ∈ ["request", "url", "header", "data"],
      text.toList.all (fun c => !ConfigFile.isSeparator c && c != '\n') = true := by decide
  have hPlain := List.all_eq_true.mp (hAll name hName) c hMem
  rwa [Bool.and_eq_true, Bool.not_eq_true', bne_iff_ne] at hPlain

/-- A header that the checks of a caller let through. -/
def HeaderFree (header : String × String) : Prop := ControlFree header.1 ∧ ControlFree header.2

theorem curlPostConfig_parse {url userAgent contentType body : String}
    {extraHeader : Option (String × String)} (hUrl : ControlFree url)
    (hAgent : ControlFree userAgent) (hType : ControlFree contentType)
    (hBody : '\n' ∉ body.toList) (hExtra : ∀ header ∈ extraHeader, HeaderFree header) :
    ConfigFile.parse (curlPostConfig url userAgent contentType (asBytes body) extraHeader).toList =
      some (directivesOf (postEntries url userAgent contentType body extraHeader)) := by
  have hPrefix : ∀ {left right : String}, '\n' ∉ left.toList → ControlFree right →
      '\n' ∉ (left ++ right).toList := by
    intro left right hLeft hRight
    rw [String.toList_append, List.mem_append]
    exact not_or.mpr ⟨hLeft, hRight.newline⟩
  rw [curlPostConfig_render]
  refine ConfigFile.parse_render fun d hMem => ?_
  obtain ⟨entry, hEntry, rfl⟩ := List.mem_map.mp hMem
  simp only [postEntries, List.cons_append, List.nil_append, List.mem_cons, List.mem_map,
    Option.mem_toList] at hEntry
  rcases hEntry with rfl | rfl | rfl | rfl | rfl | rfl | ⟨header, hHeader, rfl⟩
  · exact plain_directive (by simp) (by decide)
  · exact plain_directive (by simp) hUrl.newline
  · exact plain_directive (by simp) (hPrefix (by decide) hAgent)
  · exact plain_directive (by simp) (by decide)
  · exact plain_directive (by simp) (hPrefix (by decide) hType)
  · exact plain_directive (by simp) hBody
  · obtain ⟨hName, hValue⟩ := hExtra header hHeader
    refine plain_directive (by simp) (hPrefix ?_ hValue)
    rw [String.toList_append, List.mem_append]
    exact not_or.mpr ⟨hName.newline, by decide⟩

end Directives

section Urls

theorem query_written : Percent.Written isUnreserved fun c => 0x20 ≤ c.toNat ∧ c.toNat ≠ 0x7F := by
  have hAll : ∀ n : Fin 256, isUnreserved (UInt8.ofNat n) = true →
      0x20 ≤ (Char.ofNat n).toNat ∧ (Char.ofNat n).toNat ≠ 0x7F := by decide +kernel
  constructor
  · intro byte hPlain
    exact hAll ⟨byte.toNat, byte.toNat_lt⟩ (by rwa [UInt8.ofNat_toNat])
  · decide
  · intro c hDigit
    rw [Percent.hexValue?] at hDigit
    split_ifs at hDigit
    · omega
    · omega
    · omega
    · cases hDigit

theorem bootstrapUrl_controlFree {endpoint url : String}
    {commonQuery identityQuery : List (String × String)}
    (hEndpoint : validateBootstrapEndpoint endpoint = .ok ())
    (h : bootstrapUrl endpoint commonQuery identityQuery = .ok url)
    (hIdentity : identityQuery ≠ []) : ControlFree url := by
  obtain ⟨-, -, hControl⟩ := of_validateBootstrapEndpoint hEndpoint
  intro c hMem
  rw [bootstrapUrl_toList h hIdentity, List.mem_append, List.mem_cons] at hMem
  rcases hMem with hBefore | rfl | hQuery
  · exact controlFree_of_bytes hControl c hBefore
  · decide
  · exact Percent.forall_mem_queryText query_written (by decide) (by decide) _ c hQuery

theorem registrationUrl_controlFree {config : BootstrapHttpConfig}
    {context : BootstrapRequestContext} {cancelled : Bool} {clock : WallClock} {url : String}
    (h : registrationUrl config context cancelled clock = .ok url) :
    ControlFree url ∧ ControlFree context.userAgent := by
  simp only [registrationUrl, Checks.bind_ok] at h
  obtain ⟨_, hConfig, _, -, ticket, -, hUrl⟩ := h
  have hAdmitted := of_validateBootstrapConfig hConfig
  exact ⟨bootstrapUrl_controlFree hAdmitted.registration hUrl (by simp [registrationIdentity]),
    controlFree_of_bytes hAdmitted.userAgent⟩

theorem settingsUrl_controlFree {config : BootstrapHttpConfig} {context : BootstrapRequestContext}
    {registered : RegisteredDevice} {cancelled : Bool} {clock : WallClock} {url : String}
    (h : settingsUrl config context registered cancelled clock = .ok url) :
    ControlFree url ∧ ControlFree context.userAgent := by
  simp only [settingsUrl, Checks.bind_ok] at h
  obtain ⟨_, hConfig, _, -, _, -, ticket, -, hUrl⟩ := h
  have hAdmitted := of_validateBootstrapConfig hConfig
  exact ⟨bootstrapUrl_controlFree hAdmitted.settings hUrl (by simp [settingsIdentity]),
    controlFree_of_bytes hAdmitted.userAgent⟩

end Urls

section Posted

/-- What is documented of the library: compact text without control characters, and an object
in braces. -/
structure CompactJson (toVec : Json → Option Bytes) : Prop where
  text : ∀ value bytes, toVec value = some bytes → ∃ text, bytes = asBytes text ∧
    (∀ c ∈ text.toList, 0x20 ≤ c.toNat) ∧
    ∀ entries, value = .object entries → text.toList.head? = some '{'

/-- The body is the settings body or a document. -/
def IsBody (toVec : Json → Option Bytes) (body : Bytes) : Prop :=
  body = settingsBody ∨
    ∃ value document, RegistrationDocument.fromJson toVec value = .ok document ∧
      document.bytes = body

/-- What curl reads are these directives, and its data is not read from a file. -/
def Says (config : String) (entries : List (String × String)) : Prop :=
  ConfigFile.parse config.toList = some (directivesOf entries) ∧
    ∀ entry ∈ entries, entry.1 = "data" → entry.2.toList.head? ≠ some '@'

theorem body_text {toVec : Json → Option Bytes} (hJson : CompactJson toVec) {body : Bytes}
    (h : IsBody toVec body) :
    ∃ text, body = asBytes text ∧ '\n' ∉ text.toList ∧ text.toList.head? ≠ some '@' := by
  rcases h with rfl | ⟨value, document, hDocument, rfl⟩
  · exact ⟨"body=null", rfl, by decide, by decide⟩
  · cases value with
    | object entries =>
      rw [RegistrationDocument.fromJson] at hDocument
      split at hDocument
      case h_1 => cases hDocument
      case h_2 bytes hBytes =>
        split at hDocument
        case isTrue => cases hDocument
        case isFalse =>
          cases hDocument
          obtain ⟨text, hText, hPlain, hBrace⟩ := hJson.text _ _ hBytes
          refine ⟨text, hText, fun hMem => absurd (hPlain _ hMem) (by decide), ?_⟩
          rw [hBrace entries rfl]
          decide
    | null | bool | number | string | array => cases hDocument

theorem post_parse {toVec : Json → Option Bytes} (hJson : CompactJson toVec)
    {url userAgent contentType : String} {body : Bytes} {extraHeader : Option (String × String)}
    (hUrl : ControlFree url) (hAgent : ControlFree userAgent) (hType : ControlFree contentType)
    (hExtra : ∀ header ∈ extraHeader, HeaderFree header) (hBody : IsBody toVec body) :
    ∃ text, body = asBytes text ∧
      Says (curlPostConfig url userAgent contentType body extraHeader)
        (postEntries url userAgent contentType text extraHeader) := by
  obtain ⟨text, rfl, hPlain, hFile⟩ := body_text hJson hBody
  refine ⟨text, rfl, curlPostConfig_parse hUrl hAgent hType hPlain hExtra, ?_⟩
  intro entry hEntry hData
  simp only [postEntries, List.cons_append, List.nil_append, List.mem_cons, List.mem_map,
    Option.mem_toList] at hEntry
  rcases hEntry with rfl | rfl | rfl | rfl | rfl | rfl | ⟨header, -, rfl⟩
  case inr.inr.inr.inr.inr.inl => exact hFile
  all_goals simp at hData

theorem xSsStub_controlFree (md5 : Bytes → Bytes) (body : Bytes) :
    ControlFree (xSsStub md5 body) := by
  intro c hMem
  rw [xSsStub, String.toList_ofList] at hMem
  obtain ⟨byte, -, hByte⟩ := List.mem_flatMap.mp hMem
  have hLt := byte.toNat_lt
  simp only [List.mem_cons, List.not_mem_nil, or_false] at hByte
  rcases hByte with rfl | rfl
  · exact query_written.digit _ (Percent.hexValue_isSome (by omega))
  · exact query_written.digit _ (Percent.hexValue_isSome (by omega))

/-- What an adapter says with its key. -/
def keyEntries (scheme key : String) : List (String × String) :=
  [("header", "Authorization: " ++ scheme ++ " " ++ key), ("header", "Accept: application/json")]

theorem keyConfig_parse {config scheme key : String} (hKey : ControlFree key)
    (hScheme : '\n' ∉ ("Authorization: " ++ scheme ++ " ").toList)
    (hConfig : config = configLine "header" ("Authorization: " ++ scheme ++ " " ++ key) ++
      configLine "header" "Accept: application/json") :
    Says config (keyEntries scheme key) := by
  have hRender : config.toList = ConfigFile.render (directivesOf (keyEntries scheme key)) := by
    rw [hConfig, directivesOf, ← foldr_configLine, keyEntries, List.foldr_cons, List.foldr_cons,
      List.foldr_nil, String.append_empty]
  constructor
  · rw [hRender]
    refine ConfigFile.parse_render fun d hMem => ?_
    obtain ⟨entry, hEntry, rfl⟩ := List.mem_map.mp hMem
    simp only [keyEntries, List.mem_cons, List.not_mem_nil, or_false] at hEntry
    rcases hEntry with rfl | rfl
    · refine plain_directive (by simp) ?_
      rw [String.toList_append, List.mem_append]
      exact not_or.mpr ⟨hScheme, hKey.newline⟩
    · exact plain_directive (by simp) (by decide)
  · intro entry hEntry hData
    simp only [keyEntries, List.mem_cons, List.not_mem_nil, or_false] at hEntry
    rcases hEntry with rfl | rfl <;> simp at hData

theorem key_escaped : escapeCurlConfig "Authorization: " = "Authorization: " ∧
    escapeCurlConfig "Bearer" = "Bearer" ∧ escapeCurlConfig "Token" = "Token" ∧
    escapeCurlConfig " " = " " := by
  decide

theorem key_lines :
    "header = \"Authorization: Bearer " =
      "header" ++ (" = \"" ++ ("Authorization: " ++ ("Bearer" ++ " "))) ∧
    "header = \"Authorization: Token " =
      "header" ++ (" = \"" ++ ("Authorization: " ++ ("Token" ++ " "))) ∧
    "\"\nheader = \"Accept: application/json\"\n" =
      "\"\n" ++ ("header" ++ (" = \"" ++ ("Accept: application/json" ++ "\"\n"))) := by
  decide

theorem restConfigInput_parse {key : String} {secret : SecretString}
    (h : SecretString.tryNew key = .ok secret) :
    Says (restConfigInput secret) (keyEntries "Bearer" key) := by
  obtain ⟨rfl, hFree⟩ := SecretString.tryNew_ok h
  refine keyConfig_parse hFree (by decide) ?_
  obtain ⟨-, -, hAccept, -, -⟩ := fixed_escaped
  obtain ⟨hHeader, hBearer, -, hSpace⟩ := key_escaped
  obtain ⟨hFirst, -, hSecond⟩ := key_lines
  unfold restConfigInput
  simp only [-String.reduceAppend, configLine, escapeCurlConfig_append, hHeader, hBearer, hSpace,
    hAccept, SecretString.expose]
  rewrite [hFirst, hSecond]
  simp only [-String.reduceAppend, String.append_assoc]

theorem deepgramConfigInput_parse {key : String} {secret : SecretString}
    (h : SecretString.tryNew key = .ok secret) :
    Says (deepgramConfigInput secret) (keyEntries "Token" key) := by
  obtain ⟨rfl, hFree⟩ := SecretString.tryNew_ok h
  refine keyConfig_parse hFree (by decide) ?_
  obtain ⟨-, -, hAccept, -, -⟩ := fixed_escaped
  obtain ⟨hHeader, -, hToken, hSpace⟩ := key_escaped
  obtain ⟨-, hFirst, hSecond⟩ := key_lines
  unfold deepgramConfigInput
  simp only [-String.reduceAppend, configLine, escapeCurlConfig_append, hHeader, hToken, hSpace,
    hAccept, SecretString.expose]
  rewrite [hFirst, hSecond]
  simp only [-String.reduceAppend, String.append_assoc]

/-- Whatever the values that passed their checks, curl reads the directives that were meant. -/
theorem private_config_exact {toVec : Json → Option Bytes} (hJson : CompactJson toVec)
    (md5 : Bytes → Bytes) :
    (∀ (url userAgent contentType : String) (body : Bytes)
        (extraHeader : Option (String × String)), ControlFree url → ControlFree userAgent →
      ControlFree contentType → (∀ header ∈ extraHeader, HeaderFree header) → IsBody toVec body →
      ∃ text, body = asBytes text ∧
        Says (curlPostConfig url userAgent contentType body extraHeader)
          (postEntries url userAgent contentType text extraHeader)) ∧
    (∀ config context value document cancelled clock private_,
      RegistrationDocument.fromJson toVec value = .ok document →
      registrationPrivateConfig config context document cancelled clock = .ok private_ →
      ∃ url text, registrationUrl config context cancelled clock = .ok url ∧
        document.bytes = asBytes text ∧
        Says private_ (postEntries url context.userAgent "application/json" text none)) ∧
    (∀ config context registered cancelled clock private_,
      settingsPrivateConfig md5 config context registered cancelled clock = .ok private_ →
      ∃ url, settingsUrl config context registered cancelled clock = .ok url ∧
        Says private_ (postEntries url context.userAgent "application/x-www-form-urlencoded"
          "body=null" (some ("x-ss-stub", xSsStub md5 settingsBody)))) ∧
    ∀ key secret, SecretString.tryNew key = .ok secret →
      Says (restConfigInput secret) (keyEntries "Bearer" key) ∧
        Says (deepgramConfigInput secret) (keyEntries "Token" key) := by
  have hFixed : ControlFree "application/json" ∧
      ControlFree "application/x-www-form-urlencoded" ∧ ControlFree "x-ss-stub" := by
    refine ⟨?_, ?_, ?_⟩ <;> exact controlFree_of_bytes (by decide)
  refine ⟨fun url userAgent contentType body extraHeader hUrl hAgent hType hExtra hBody =>
    post_parse hJson hUrl hAgent hType hExtra hBody, ?_, ?_,
    fun key secret hKey => ⟨restConfigInput_parse hKey, deepgramConfigInput_parse hKey⟩⟩
  · intro config context value document cancelled clock private_ hDocument hPrivate
    rw [registrationPrivateConfig, Checks.bind_ok] at hPrivate
    obtain ⟨url, hUrl, hSame⟩ := hPrivate
    cases hSame
    obtain ⟨hUrlFree, hAgent⟩ := registrationUrl_controlFree hUrl
    have hNone : ∀ header ∈ (none : Option (String × String)), HeaderFree header := nofun
    obtain ⟨text, hText, hSays⟩ := post_parse hJson hUrlFree hAgent hFixed.1 hNone
      (.inr ⟨value, document, hDocument, rfl⟩)
    exact ⟨url, text, hUrl, hText, hSays⟩
  · intro config context registered cancelled clock private_ hPrivate
    rw [settingsPrivateConfig, Checks.bind_ok] at hPrivate
    obtain ⟨url, hUrl, hSame⟩ := hPrivate
    cases hSame
    obtain ⟨hUrlFree, hAgent⟩ := settingsUrl_controlFree hUrl
    have hStub : ∀ header ∈ some ("x-ss-stub", xSsStub md5 settingsBody), HeaderFree header := by
      rintro header ⟨⟩
      exact ⟨hFixed.2.2, xSsStub_controlFree md5 settingsBody⟩
    obtain ⟨text, hText, hSays⟩ := post_parse hJson hUrlFree hAgent hFixed.2.1 hStub (.inl rfl)
    rw [← asBytes_inj hText] at hSays
    exact ⟨url, hUrl, hSays⟩

/-- A library that writes empty objects only. -/
def emptyObjects : Json → Option Bytes
  | .object [] => some (asBytes "\x7b\x7d")
  | _ => none

theorem emptyObjects_compact : CompactJson emptyObjects := by
  constructor
  intro value bytes h
  rw [emptyObjects.eq_def] at h
  split at h
  case h_1 =>
    cases h
    have hFree : ControlFree "\x7b\x7d" := controlFree_of_bytes (by decide)
    exact ⟨_, rfl, fun c hMem => (hFree c hMem).1, fun _ _ => by decide⟩
  case h_2 => cases h

theorem private_config_exact_document :
    (∃ text, Says (curlPostConfig "https://a/r?_rticket=5" "a \"gent\\" "application/json"
        (asBytes "\x7b\x7d") none)
      (postEntries "https://a/r?_rticket=5" "a \"gent\\" "application/json" text none)) ∧
    Says (restConfigInput ⟨"k\"ey"⟩) (keyEntries "Bearer" "k\"ey") := by
  obtain ⟨hPost, -, -, hKey⟩ := private_config_exact emptyObjects_compact id
  have hBody : IsBody emptyObjects (asBytes "\x7b\x7d") := .inr ⟨.object [], ⟨_⟩, rfl, rfl⟩
  obtain ⟨text, -, hSays⟩ := hPost "https://a/r?_rticket=5" "a \"gent\\" "application/json" _ none
    (controlFree_of_bytes (by decide)) (controlFree_of_bytes (by decide))
    (controlFree_of_bytes (by decide)) (by simp) hBody
  exact ⟨⟨text, hSays⟩, (hKey "k\"ey" ⟨"k\"ey"⟩ rfl).1⟩

end Posted

end VoxType.Doubao
