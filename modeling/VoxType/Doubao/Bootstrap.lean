import VoxType.Curl.Endpoint
import VoxType.Doubao.RoundTrip
import VoxType.Doubao.Runner
import VoxType.Library.Percent

/-!
# The requests that bootstrap the credentials

Every value is checked before it becomes part of a URL. The digest comes from a
library; `md5` stands for it.
-/

namespace VoxType.Doubao

set_option autoImplicit false

def maxQueryParameters : Nat := 64

def maxUrlBytes : Nat := 16 * 1024

def settingsBody : Bytes := asBytes "body=null"

structure BootstrapHttpConfig where
  registrationEndpoint : String
  settingsEndpoint : String
  timeoutSeconds : Nat
  deriving DecidableEq, Repr

structure BootstrapRequestContext where
  userAgent : String
  commonQuery : List (String × String)
  deriving DecidableEq, Repr

structure RegisteredDevice where
  deviceId : String
  installId : String
  deriving DecidableEq, Repr

def bootstrapError (category : ErrorCategory) (code message : String) : VoxError :=
  VoxError.new category code message

def isAsciiAlphanumeric (byte : UInt8) : Bool :=
  (48 ≤ byte && byte ≤ 57) || (65 ≤ byte && byte ≤ 90) || (97 ≤ byte && byte ≤ 122)

def hasControl (text : String) : Bool := (asBytes text).any isAsciiControl

def validateBootstrapEndpoint (endpoint : String) : Except VoxError Unit := do
  validateEndpoint endpoint "Doubao bootstrap endpoints must use HTTPS or loopback HTTP"
  Checks.require (!(endpoint.toList.any (fun c => c == '?' || c == '#') || hasControl endpoint))
    (bootstrapError .configuration "doubao.invalid_bootstrap_endpoint"
      "Doubao bootstrap endpoint must not contain a query, fragment, or control byte")

def validQueryKey (key : String) : Bool :=
  !key.isEmpty && key.utf8ByteSize ≤ 64 &&
    (asBytes key).all fun byte =>
      isAsciiAlphanumeric byte || byte == 95 || byte == 45 || byte == 46

def validateQueryMetadata (pair : String × String) : Except VoxError Unit :=
  Checks.require (!(!validQueryKey pair.1 || 1024 < pair.2.utf8ByteSize || hasControl pair.2 ||
      pair.1 == "_rticket" || pair.1 == "device_id"))
    (bootstrapError .configuration "doubao.invalid_query_metadata"
      "Doubao client query metadata is invalid or overrides a reserved identity field")

def validateBootstrapConfig (config : BootstrapHttpConfig) (context : BootstrapRequestContext) :
    Except VoxError Unit := do
  Checks.require (1 ≤ config.timeoutSeconds && config.timeoutSeconds ≤ 300)
    (bootstrapError .configuration "doubao.invalid_timeout"
      "Doubao bootstrap timeout must be between 1 and 300 seconds")
  Checks.each validateBootstrapEndpoint [config.registrationEndpoint, config.settingsEndpoint]
  Checks.require (!(context.userAgent.isEmpty || 512 < context.userAgent.utf8ByteSize ||
      hasControl context.userAgent))
    (bootstrapError .configuration "doubao.invalid_user_agent"
      "Doubao client User-Agent is invalid")
  Checks.require (context.commonQuery.length ≤ maxQueryParameters)
    (bootstrapError .configuration "doubao.too_many_query_parameters"
      "Doubao client metadata contains too many query parameters")
  Checks.each validateQueryMetadata context.commonQuery

def validateRegisteredDevice (registered : RegisteredDevice) : Except VoxError Unit :=
  Checks.require (!(registered.deviceId.isEmpty || 128 < registered.deviceId.utf8ByteSize ||
      hasControl registered.deviceId))
    (bootstrapError .configuration "doubao.invalid_registered_device"
      "registered Doubao device identifier is invalid")

/-- The bytes that `percent_encode` keeps. -/
def isUnreserved (byte : UInt8) : Bool :=
  isAsciiAlphanumeric byte || byte == 45 || byte == 46 || byte == 95 || byte == 126

def percentEncode (value : String) : String :=
  String.ofList (Percent.encode isUnreserved (asBytes value))

/-- The loop of `bootstrap_url`. -/
def appendQuery (url : String) (first : Bool) : List (String × String) → Except VoxError String
  | [] => .ok url
  | (key, value) :: rest =>
    let url := url ++ (if first then "?" else "&") ++ percentEncode key ++ "=" ++
      percentEncode value
    if maxUrlBytes < url.utf8ByteSize then
      .error (bootstrapError .configuration "doubao.query_too_large"
        "Doubao bootstrap query is too large")
    else appendQuery url false rest

def bootstrapUrl (endpoint : String) (commonQuery identityQuery : List (String × String)) :
    Except VoxError String :=
  appendQuery endpoint true (commonQuery ++ identityQuery)

def ensureNotCancelled (cancelled : Bool) : Except VoxError Unit :=
  Checks.require (!cancelled)
    (bootstrapError .cancelled "doubao.bootstrap_cancelled"
      "Doubao credential bootstrap was cancelled")

def requestTicketAt : WallClock → Except VoxError String
  | .beforeEpoch =>
    .error (bootstrapError .internal "doubao.system_clock_invalid"
      "System clock is before the Unix epoch")
  | .millis value => .ok (toString value)

def registrationIdentity (ticket : String) : List (String × String) := [("_rticket", ticket)]

def settingsIdentity (ticket : String) (registered : RegisteredDevice) : List (String × String) :=
  [("_rticket", ticket), ("device_id", registered.deviceId)]

/-- The URL that `register_device_http` asks. -/
def registrationUrl (config : BootstrapHttpConfig) (context : BootstrapRequestContext)
    (cancelled : Bool) (clock : WallClock) : Except VoxError String := do
  validateBootstrapConfig config context
  ensureNotCancelled cancelled
  let ticket ← requestTicketAt clock
  bootstrapUrl config.registrationEndpoint context.commonQuery (registrationIdentity ticket)

/-- The URL that `fetch_settings_token_http` asks. -/
def settingsUrl (config : BootstrapHttpConfig) (context : BootstrapRequestContext)
    (registered : RegisteredDevice) (cancelled : Bool) (clock : WallClock) :
    Except VoxError String := do
  validateBootstrapConfig config context
  validateRegisteredDevice registered
  ensureNotCancelled cancelled
  let ticket ← requestTicketAt clock
  bootstrapUrl config.settingsEndpoint context.commonQuery (settingsIdentity ticket registered)

section Checked

theorem of_validateBootstrapEndpoint {endpoint : String}
    (h : validateBootstrapEndpoint endpoint = .ok ()) :
    '?' ∉ endpoint.toList ∧ '#' ∉ endpoint.toList ∧ hasControl endpoint = false := by
  rw [validateBootstrapEndpoint] at h
  obtain ⟨_, -, h⟩ := Checks.bind_ok.mp h
  have hPlain := Checks.require_ok.mp h
  rw [Bool.not_eq_true', Bool.or_eq_false_iff, List.any_eq_false] at hPlain
  refine ⟨fun hMem => ?_, fun hMem => ?_, hPlain.2⟩
  · exact hPlain.1 _ hMem rfl
  · exact hPlain.1 _ hMem rfl

/-- What is known of a configuration that is used. -/
structure Admitted (config : BootstrapHttpConfig) (context : BootstrapRequestContext) : Prop where
  registration : validateBootstrapEndpoint config.registrationEndpoint = .ok ()
  settings : validateBootstrapEndpoint config.settingsEndpoint = .ok ()
  userAgent : hasControl context.userAgent = false
  reserved : ∀ pair ∈ context.commonQuery, pair.1 ≠ "_rticket" ∧ pair.1 ≠ "device_id"

theorem of_validateBootstrapConfig {config : BootstrapHttpConfig}
    {context : BootstrapRequestContext} (h : validateBootstrapConfig config context = .ok ()) :
    Admitted config context := by
  rw [validateBootstrapConfig] at h
  simp only [Checks.bind_ok] at h
  obtain ⟨_, -, _, hEndpoints, _, hAgent, _, -, hQuery⟩ := h
  have hEach := Checks.each_ok.mp hEndpoints
  have hAgent := Checks.require_ok.mp hAgent
  rw [Bool.not_eq_true', Bool.or_eq_false_iff] at hAgent
  refine ⟨hEach _ (.head _), hEach _ (.tail _ (.head _)), hAgent.2, ?_⟩
  intro pair hMem
  have hPair := Checks.require_ok.mp (Checks.each_ok.mp hQuery pair hMem)
  simp only [Bool.not_eq_true', Bool.or_eq_false_iff, beq_eq_false_iff_ne] at hPair
  exact ⟨hPair.1.2, hPair.2⟩

end Checked

section Query

def delimiters : List Char := ['&', '=', '?', '#']

theorem unreserved_unambiguous : Percent.Unambiguous isUnreserved delimiters := by
  have hAll : ∀ n : Fin 256, isUnreserved (UInt8.ofNat n) = true →
      n.val < 0x80 ∧ Char.ofNat n ≠ '%' ∧ Char.ofNat n ∉ delimiters := by decide +kernel
  have hByte : ∀ byte : UInt8, isUnreserved byte = true →
      byte.toNat < 0x80 ∧ Char.ofNat byte.toNat ≠ '%' ∧ Char.ofNat byte.toNat ∉ delimiters := by
    intro byte hPlain
    exact hAll ⟨byte.toNat, byte.toNat_lt⟩ (by rwa [UInt8.ofNat_toNat])
  have hDelimiters : ∀ c ∈ delimiters, c ≠ '%' ∧ Percent.hexValue? c = none := by
    intro c hMem
    simp only [delimiters, List.mem_cons, List.not_mem_nil, or_false] at hMem
    rcases hMem with rfl | rfl | rfl | rfl <;> decide
  constructor
  · exact fun byte hPlain => (hByte byte hPlain).1
  · exact fun byte hPlain => (hByte byte hPlain).2.1
  · intro c hMem
    refine ⟨?_, hDelimiters c hMem⟩
    rintro byte hPlain rfl
    exact (hByte byte hPlain).2.2 hMem

def pairBytes (pair : String × String) : Bytes × Bytes := (asBytes pair.1, asBytes pair.2)

/-- A pair as it stands in a URL. -/
def pairChars (pair : String × String) : List Char := Percent.pairText isUnreserved (pairBytes pair)

theorem appendQuery_cons {url result : String} {first : Bool} {pair : String × String}
    {pairs : List (String × String)} (h : appendQuery url first (pair :: pairs) = .ok result) :
    ∃ extended, appendQuery extended false pairs = .ok result ∧
      extended.toList = url.toList ++ (if first then '?' else '&') :: pairChars pair := by
  obtain ⟨key, value⟩ := pair
  rw [appendQuery] at h
  refine ⟨url ++ (if first then "?" else "&") ++ percentEncode key ++ "=" ++ percentEncode value,
    ?_, ?_⟩
  · generalize url ++ (if first then "?" else "&") ++ percentEncode key ++ "=" ++
      percentEncode value = extended at h ⊢
    split at h
    case isTrue => cases h
    case isFalse => exact h
  · cases first <;> simp [percentEncode, pairChars, Percent.pairText, pairBytes]

theorem appendQuery_false {pairs : List (String × String)} {url result : String}
    (h : appendQuery url false pairs = .ok result) :
    result.toList = url.toList ++ pairs.flatMap fun pair => '&' :: pairChars pair := by
  induction pairs generalizing url with
  | nil =>
    cases h
    exact (List.append_nil _).symm
  | cons pair pairs ih =>
    obtain ⟨extended, hRest, hChars⟩ := appendQuery_cons h
    rw [ih hRest, hChars, List.flatMap_cons, List.append_assoc]
    rfl

theorem bootstrapUrl_toList {endpoint url : String}
    {commonQuery identityQuery : List (String × String)}
    (h : bootstrapUrl endpoint commonQuery identityQuery = .ok url)
    (hIdentity : identityQuery ≠ []) :
    url.toList = endpoint.toList ++
      '?' :: Percent.queryText isUnreserved ((commonQuery ++ identityQuery).map pairBytes) := by
  rw [bootstrapUrl] at h
  obtain ⟨pair, pairs, hPairs⟩ : ∃ pair pairs, commonQuery ++ identityQuery = pair :: pairs :=
    List.exists_cons_of_ne_nil fun hNone => hIdentity (List.append_eq_nil_iff.mp hNone).2
  rw [hPairs] at h ⊢
  obtain ⟨extended, hRest, hChars⟩ := appendQuery_cons h
  rw [appendQuery_false hRest, hChars, List.map_cons, Percent.queryText_cons, List.flatMap_map,
    List.append_assoc]
  rfl

/-- The pairs a server reads off a URL. -/
def queryOf (url : String) : List (Bytes × Bytes) :=
  Percent.parseQuery ((url.toList.dropWhile (· != '?')).drop 1)

/-- A URL that asks an endpoint with these pairs, and with nothing else. -/
structure Carries (endpoint : String) (pairs : List (String × String)) (url : String) : Prop where
  endpoint : url.toList.takeWhile (· != '?') = endpoint.toList
  noFragment : '#' ∉ url.toList
  query : queryOf url = pairs.map pairBytes

theorem bootstrapUrl_carries {endpoint url : String}
    {commonQuery identityQuery : List (String × String)}
    (hEndpoint : validateBootstrapEndpoint endpoint = .ok ())
    (h : bootstrapUrl endpoint commonQuery identityQuery = .ok url)
    (hIdentity : identityQuery ≠ []) : Carries endpoint (commonQuery ++ identityQuery) url := by
  obtain ⟨hMark, hHash, -⟩ := of_validateBootstrapEndpoint hEndpoint
  have hChars := bootstrapUrl_toList h hIdentity
  have hBefore : ∀ c ∈ endpoint.toList, (c != '?') = true :=
    fun c hMem => bne_iff_ne.mpr fun hEq => hMark (hEq ▸ hMem)
  have hPairs : (commonQuery ++ identityQuery).map pairBytes ≠ [] := by
    simp [hIdentity]
  constructor
  · rw [hChars, List.takeWhile_append_of_pos hBefore, List.takeWhile_cons_of_neg (by simp),
      List.append_nil]
  · rw [hChars, List.mem_append, List.mem_cons]
    rintro (hMem | hEq | hMem)
    · exact hHash hMem
    · exact absurd hEq (by decide)
    · exact Percent.not_mem_queryText unreserved_unambiguous (by simp [delimiters]) (by decide)
        (by decide) _ hMem
  · rw [queryOf, hChars, List.dropWhile_append_of_pos hBefore,
      List.dropWhile_cons_of_neg (by simp), List.drop_succ_cons, List.drop_zero]
    exact Percent.parseQuery_queryText unreserved_unambiguous (by simp [delimiters])
      (by simp [delimiters]) hPairs

/-- The values that a query gives for a name. -/
def valuesOf (name : String) (query : List (Bytes × Bytes)) : List Bytes :=
  (query.filter fun pair => pair.1 == asBytes name).map Prod.snd

theorem valuesOf_map (name : String) (pairs : List (String × String)) :
    valuesOf name (pairs.map pairBytes) =
      (pairs.filter fun pair => pair.1 == name).map fun pair => asBytes pair.2 := by
  have hSame : (fun pair : Bytes × Bytes => pair.1 == asBytes name) ∘ pairBytes =
      fun pair => pair.1 == name := by
    funext pair
    rw [Bool.eq_iff_iff, Function.comp_apply, beq_iff_eq, beq_iff_eq]
    exact ⟨asBytes_inj, fun hEq => congrArg asBytes hEq⟩
  rw [valuesOf, List.filter_map, List.map_map, hSame]
  rfl

theorem filter_reserved {pairs : List (String × String)} {name : String}
    (h : ∀ pair ∈ pairs, pair.1 ≠ name) : pairs.filter (fun pair => pair.1 == name) = [] := by
  rw [List.filter_eq_nil_iff]
  intro pair hMem
  rw [beq_iff_eq]
  exact h pair hMem

end Query

section Requests

/-- Metadata that passes the checks changes neither the ticket nor the device of a request. -/
theorem bootstrap_queries (config : BootstrapHttpConfig) (context : BootstrapRequestContext)
    (registered : RegisteredDevice) (ticket url : String)
    (hConfig : validateBootstrapConfig config context = .ok ()) :
    (bootstrapUrl config.registrationEndpoint context.commonQuery (registrationIdentity ticket) =
        .ok url →
      Carries config.registrationEndpoint (context.commonQuery ++ registrationIdentity ticket) url ∧
        valuesOf "_rticket" (queryOf url) = [asBytes ticket] ∧
        valuesOf "device_id" (queryOf url) = []) ∧
    (bootstrapUrl config.settingsEndpoint context.commonQuery
        (settingsIdentity ticket registered) = .ok url →
      Carries config.settingsEndpoint
          (context.commonQuery ++ settingsIdentity ticket registered) url ∧
        valuesOf "_rticket" (queryOf url) = [asBytes ticket] ∧
        valuesOf "device_id" (queryOf url) = [asBytes registered.deviceId]) := by
  have hAdmitted := of_validateBootstrapConfig hConfig
  have hTicket := filter_reserved fun pair hMem => (hAdmitted.reserved pair hMem).1
  have hDevice := filter_reserved fun pair hMem => (hAdmitted.reserved pair hMem).2
  constructor
  · intro hUrl
    have hCarries := bootstrapUrl_carries hAdmitted.registration hUrl (by simp [registrationIdentity])
    rw [hCarries.query, valuesOf_map, valuesOf_map, List.filter_append, List.filter_append, hTicket,
      hDevice]
    exact ⟨hCarries, rfl, rfl⟩
  · intro hUrl
    have hCarries := bootstrapUrl_carries hAdmitted.settings hUrl (by simp [settingsIdentity])
    rw [hCarries.query, valuesOf_map, valuesOf_map, List.filter_append, List.filter_append, hTicket,
      hDevice]
    exact ⟨hCarries, rfl, rfl⟩

def bootstrapConfig : BootstrapHttpConfig := ⟨"https://a/r", "https://a/s", 30⟩

def bootstrapContext : BootstrapRequestContext := ⟨"agent", [("aid", "1&device_id=7")]⟩

theorem bootstrap_queries_metadata :
    ∃ url, bootstrapUrl "https://a/s" bootstrapContext.commonQuery
        (settingsIdentity "5" ⟨"9#", "2"⟩) = .ok url ∧
      valuesOf "device_id" (queryOf url) = [asBytes "9#"] := by
  have hUrl : bootstrapUrl "https://a/s" bootstrapContext.commonQuery
      (settingsIdentity "5" ⟨"9#", "2"⟩) =
      .ok "https://a/s?aid=1%26device_id%3D7&_rticket=5&device_id=9%23" := by decide
  exact ⟨_, hUrl, ((bootstrap_queries bootstrapConfig bootstrapContext ⟨"9#", "2"⟩ "5" _
    (by decide)).2 hUrl).2.2⟩

end Requests

end VoxType.Doubao
