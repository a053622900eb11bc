import VoxType.Daemon.Config
import VoxType.Library.Checks
import VoxType.Library.Lossy

/-!
# Validation of a configuration

The checks of `Config::validate`, in its order; the first one that fails names
the error.
-/

namespace VoxType

set_option autoImplicit false

structure ProviderQuotaConfig where
  requestLimit : Option Nat
  audioSecondsLimit : Option Nat
  tokenLimit : Option Nat
  deriving DecidableEq, Repr

/-- A configuration as the file holds it. -/
structure StoredConfig extends Config where
  schemaVersion : Nat
  quotas : Table ProviderQuotaConfig

def configuration (message : String) : VoxError :=
  VoxError.new .configuration "config.invalid" message

def startsWith (text marker : String) : Bool :=
  (RustText.stripPrefix? marker.toList text.toList).isSome

def isLoopbackHttp (endpoint : String) : Bool :=
  match RustText.stripPrefix? "http://".toList endpoint.toList with
  | none => false
  | some rest =>
    let authority := String.ofList (rest.takeWhile (· != '/'))
    authority == "localhost" || startsWith authority "localhost:" ||
      authority == "127.0.0.1" || startsWith authority "127.0.0.1:" ||
      authority == "[::1]" || startsWith authority "[::1]:"

def validateEndpoint (endpoint message : String) : Except VoxError Unit :=
  Checks.require (startsWith endpoint "https://" || isLoopbackHttp endpoint)
    (VoxError.new .configuration "provider.insecure_endpoint" message)

/-- The checks of one profile's route, given the providers already seen. -/
def validateRoute (providers : Table ProviderConfig) (name : String) :
    List String → List String → Except VoxError Unit
  | _, [] => .ok ()
  | route, provider :: rest =>
    if (providers.get? provider).isNone then
      .error (configuration s!"profile {name} references unknown provider {provider}")
    else if provider ∈ route then
      .error (configuration s!"profile {name} contains duplicate provider {provider}")
    else validateRoute providers name (provider :: route) rest

def validateProviderName (name : String) : Except VoxError Unit :=
  match ProviderId.new name with
  | .error error => .error (configuration error.message)
  | .ok _ => .ok ()

def validateRoutes (config : Config) : Except VoxError Unit := do
  Checks.each validateProviderName config.providers.keys
  Checks.each (fun entry => validateRoute config.providers entry.1 []
    (entry.2.primary :: entry.2.fallbacks)) config.profiles.entries

def ProviderConfig.timeoutSeconds : ProviderConfig → Option Nat
  | mock _ => none
  | openaiCompatible _ _ _ timeoutSeconds => some timeoutSeconds
  | deepgram _ _ _ timeoutSeconds _ => some timeoutSeconds
  | doubaoUnofficial _ phaseTimeoutSeconds _ _ => some phaseTimeoutSeconds
  | command _ _ timeoutSeconds => some timeoutSeconds

/-- The texts that may not be blank. -/
def validateTexts : ProviderConfig → Except VoxError Unit
  | .mock text =>
    Checks.require (!RustText.isBlank text) (configuration "mock provider text is empty")
  | .openaiCompatible _ model secret _ | .deepgram _ model secret _ _ =>
    Checks.require (!(RustText.isBlank model || RustText.isBlank secret))
      (configuration "cloud provider model and secret reference are required")
  | _ => .ok ()

def validateDoubaoProvider : ProviderConfig → Except VoxError Unit
  | .doubaoUnofficial secret phaseTimeoutSeconds totalTimeoutSeconds frameIntervalMillis => do
    Checks.require (!RustText.isBlank secret)
      (configuration "Doubao managed credential reference is required")
    Checks.require (!(totalTimeoutSeconds < phaseTimeoutSeconds || 3600 < totalTimeoutSeconds ||
      100 < frameIntervalMillis)) (configuration "Doubao session timing is invalid")
  | _ => .ok ()

/-- What is checked of a provider that is reached over a network or through a process. -/
def validateTransport : ProviderConfig → Except VoxError Unit
  | .openaiCompatible endpoint _ _ _ =>
    validateEndpoint endpoint "provider endpoint must use HTTPS or loopback HTTP"
  | .deepgram endpoint _ _ _ _ =>
    validateEndpoint endpoint "Deepgram endpoint must use HTTPS or loopback HTTP"
  | .command program _ _ => do
    Checks.require (!RustText.isBlank program) (configuration "command provider program is empty")
    Checks.require (startsWith program "/")
      (configuration "command provider program must be an absolute path")
  | _ => .ok ()

def validateProvider (provider : ProviderConfig) : Except VoxError Unit := do
  validateTexts provider
  validateDoubaoProvider provider
  match provider.timeoutSeconds with
  | none => .ok ()
  | some timeoutSeconds => do
    Checks.require (1 ≤ timeoutSeconds && timeoutSeconds ≤ 300)
      (configuration "provider timeout must be between 1 and 300 seconds")
    validateTransport provider

def validateQuota (providers : Table ProviderConfig) (provider : String)
    (quota : ProviderQuotaConfig) : Except VoxError Unit := do
  Checks.require (providers.get? provider).isSome
    (configuration s!"quota references unknown provider {provider}")
  Checks.require (!(quota.requestLimit == some 0 || quota.audioSecondsLimit == some 0 ||
    quota.tokenLimit == some 0)) (configuration "provider quota limits must be positive")

def isControl (c : Char) : Bool :=
  c.toNat < 0x20 || (0x7F ≤ c.toNat && c.toNat < 0xA0)

def validateAudio (audio : AudioConfig) : Except VoxError Unit := do
  Checks.require (!(audio.vadRmsThreshold == 0 || 10000 < audio.vadRmsThreshold))
    (configuration "VAD RMS threshold must be between 1 and 10000")
  Checks.require (!(256 < audio.device.utf8ByteSize || audio.device.toList.any isControl))
    (configuration "audio device target must be at most 256 characters and contain no controls")
  Checks.require (5 ≤ audio.maximumDurationSeconds && audio.maximumDurationSeconds ≤ 3600)
    (configuration "maximum recording duration must be between 5 and 3600 seconds")
  Checks.require (1 ≤ audio.vadMinimumVoicedFrames && audio.vadMinimumVoicedFrames ≤ 100)
    (configuration "VAD minimum voiced frames must be between 1 and 100")
  Checks.require (50 ≤ audio.minimumDurationMillis && audio.minimumDurationMillis ≤ 10000)
    (configuration "minimum recording duration must be between 50 and 10000 milliseconds")

namespace StoredConfig

def validate (self : StoredConfig) : Except VoxError Unit := do
  Checks.require (self.schemaVersion == 1) (configuration "unsupported schema_version")
  Checks.require (self.profiles.get? self.defaultProfile).isSome
    (configuration "default_profile does not exist")
  validateRoutes self.toConfig
  Checks.each (fun entry => validateProvider entry.2) self.providers.entries
  Checks.each (fun entry => validateQuota self.providers entry.1 entry.2) self.quotas.entries
  validateAudio self.audio

/-- `load_or_create`, after the file has been read and parsed. -/
def loadOrCreate (parsed : Except VoxError StoredConfig) : Except VoxError StoredConfig := do
  let config ← parsed
  config.validate
  pure config

end StoredConfig

namespace Table

variable {α : Type} {table : Table α} {key : String} {value : α}

theorem get?_isSome : (table.get? key).isSome = true ↔ key ∈ table.keys := by
  rw [get?, List.lookup_isSome_iff, keys]
  simp

theorem mem_entries (h : table.get? key = some value) : (key, value) ∈ table.entries := by
  obtain ⟨_, _, hSplit, _⟩ := List.lookup_eq_some_iff.mp h
  rw [hSplit]
  exact List.mem_append_right _ List.mem_cons_self

theorem keys_nodup (table : Table α) : table.keys.Nodup :=
  table.sorted.imp fun hLess => (ne_of_lt hLess)

end Table

/-- What validation establishes about providers and routes. -/
structure Routable (config : Config) : Prop where
  default_profile : ∃ profile, config.profiles.get? config.defaultProfile = some profile
  provider_ids : ∀ name ∈ config.providers.keys, validProviderId name = true
  known : ∀ name profile, config.profiles.get? name = some profile →
    ∀ provider ∈ profile.primary :: profile.fallbacks, provider ∈ config.providers.keys
  nodup : ∀ name profile, config.profiles.get? name = some profile →
    (profile.primary :: profile.fallbacks).Nodup

theorem validateRoute_ok {providers : Table ProviderConfig} {name : String}
    {seen route : List String} (h : validateRoute providers name seen route = .ok ()) :
    (∀ provider ∈ route, provider ∈ providers.keys ∧ provider ∉ seen) ∧ route.Nodup := by
  induction route generalizing seen with
  | nil => exact ⟨nofun, List.nodup_nil⟩
  | cons provider rest ih =>
    rw [validateRoute] at h
    split at h
    · cases h
    · rename_i hKnown
      split at h
      · cases h
      · rename_i hNew
        obtain ⟨hRest, hNodup⟩ := ih h
        have hKey : provider ∈ providers.keys := by
          rw [← Table.get?_isSome]
          simpa [Option.isSome_iff_ne_none] using hKnown
        refine ⟨?_, List.nodup_cons.mpr ⟨?_, hNodup⟩⟩
        · intro other hMem
          rcases List.mem_cons.mp hMem with rfl | hMem
          · exact ⟨hKey, hNew⟩
          · obtain ⟨hOther, hUnseen⟩ := hRest other hMem
            exact ⟨hOther, fun hSeen => hUnseen (List.mem_cons_of_mem _ hSeen)⟩
        · intro hMem
          exact (hRest provider hMem).2 List.mem_cons_self

theorem validateProviderName_ok {name : String} (h : validateProviderName name = .ok ()) :
    validProviderId name = true := by
  by_contra hInvalid
  rw [validateProviderName, ProviderId.new, dif_neg hInvalid] at h
  cases h

theorem validateRoutes_ok {config : Config} (h : validateRoutes config = .ok ()) :
    (∀ name ∈ config.providers.keys, validProviderId name = true) ∧
      ∀ name profile, config.profiles.get? name = some profile →
        (∀ provider ∈ profile.primary :: profile.fallbacks, provider ∈ config.providers.keys) ∧
          (profile.primary :: profile.fallbacks).Nodup := by
  rw [validateRoutes, Checks.bind_ok] at h
  obtain ⟨_, hNames, hRoutes⟩ := h
  constructor
  · intro name hMem
    exact validateProviderName_ok (Checks.each_ok.mp hNames name hMem)
  · intro name profile hProfile
    obtain ⟨hKnown, hNodup⟩ :=
      validateRoute_ok (Checks.each_ok.mp hRoutes _ (Table.mem_entries hProfile))
    exact ⟨fun provider hMem => (hKnown provider hMem).1, hNodup⟩

theorem validate_routable {stored : StoredConfig} (h : stored.validate = .ok ()) :
    Routable stored.toConfig := by
  rw [StoredConfig.validate, Checks.bind_ok] at h
  obtain ⟨_, _, h⟩ := h
  obtain ⟨_, hDefault, h⟩ := Checks.bind_ok.mp h
  obtain ⟨_, hRoutes, _⟩ := Checks.bind_ok.mp h
  obtain ⟨hIds, hProfiles⟩ := validateRoutes_ok hRoutes
  constructor
  case default_profile => exact Option.isSome_iff_exists.mp (Checks.require_ok.mp hDefault)
  case provider_ids => exact hIds
  case known => exact fun name profile hProfile => (hProfiles name profile hProfile).1
  case nodup => exact fun name profile hProfile => (hProfiles name profile hProfile).2

theorem loadOrCreate_valid {parsed : Except VoxError StoredConfig} {stored : StoredConfig}
    (h : StoredConfig.loadOrCreate parsed = .ok stored) : stored.validate = .ok () := by
  rw [StoredConfig.loadOrCreate, Checks.bind_ok] at h
  obtain ⟨config, _, h⟩ := h
  obtain ⟨_, hValid, hSame⟩ := Checks.bind_ok.mp h
  cases hSame
  exact hValid

theorem providerId_new {name : String} (h : validProviderId name = true) :
    ∃ id, ProviderId.new name = .ok id ∧ id.value = name :=
  ⟨⟨name, h⟩, dif_pos h, rfl⟩

/-- Registration succeeds for valid names that differ. -/
theorem register_all {names : List String} (hIds : ∀ name ∈ names, validProviderId name = true)
    (registry : ProviderRegistry)
    (hNodup : (registry.adapters.map ProviderId.value ++ names).Nodup) :
    ∃ built, names.foldlM (m := Except VoxError)
        (fun registry name => do registry.register (← ProviderId.new name)) registry = .ok built ∧
      built.adapters.map ProviderId.value = registry.adapters.map ProviderId.value ++ names := by
  induction names generalizing registry with
  | nil => exact ⟨registry, rfl, (List.append_nil _).symm⟩
  | cons name rest ih =>
    obtain ⟨id, hId, hValue⟩ := providerId_new (hIds name List.mem_cons_self)
    have hNew : ¬registry.contains id = true := by
      intro hMem
      have hOld : name ∈ registry.adapters.map ProviderId.value :=
        List.mem_map.mpr ⟨id, of_decide_eq_true hMem, hValue⟩
      exact (List.nodup_append.mp hNodup).2.2 name hOld name List.mem_cons_self rfl
    have hRegister : (do registry.register (← ProviderId.new name) :
        Except VoxError ProviderRegistry) = .ok ⟨registry.adapters ++ [id]⟩ := by
      rw [hId]
      change ProviderRegistry.register _ _ = _
      rw [ProviderRegistry.register, if_neg hNew]
    have hAdapters : (registry.adapters ++ [id]).map ProviderId.value =
        registry.adapters.map ProviderId.value ++ [name] := by
      rw [List.map_append, ← hValue]
      rfl
    obtain ⟨built, hBuilt, hValues⟩ := ih
      (fun other hMem => hIds other (List.mem_cons_of_mem _ hMem))
      ⟨registry.adapters ++ [id]⟩
      (by rw [hAdapters, List.append_assoc]; exact hNodup)
    refine ⟨built, ?_, ?_⟩
    · rw [List.foldlM_cons, hRegister]
      exact hBuilt
    · rw [hValues, hAdapters, List.append_assoc]
      rfl

/-- The registry of a validated configuration holds the configured providers. -/
theorem buildProviderRegistry_ok {config : Config} (h : Routable config) :
    ∃ registry, buildProviderRegistry config = .ok registry ∧
      registry.adapters.map ProviderId.value = config.providers.keys :=
  register_all h.provider_ids ⟨[]⟩ (by simpa using Table.keys_nodup _)

end VoxType
