import VoxType.App.Provider

/-!
# Configuration read by the daemon

A `BTreeMap` with string keys is a list of entries in increasing key order.
-/

namespace VoxType

set_option autoImplicit false

structure Table (α : Type) where
  entries : List (String × α)
  sorted : (entries.map Prod.fst).Pairwise (· < ·)

namespace Table

variable {α : Type}

def get? (table : Table α) (key : String) : Option α := table.entries.lookup key

def keys (table : Table α) : List String := table.entries.map Prod.fst

end Table

inductive InsertionBackend
  | fcitx
  | clipboard
  | copy
  | auto
  deriving DecidableEq, Repr

structure DesktopConfig where
  retainRecordings : Bool
  transcriptHistoryEnabled : Bool
  insertionBackend : InsertionBackend
  deriving DecidableEq, Repr

structure AudioConfig where
  device : String
  minimumDurationMillis : Nat
  maximumDurationSeconds : Nat
  vadEnabled : Bool
  vadRmsThreshold : Nat
  vadMinimumVoicedFrames : Nat
  deriving DecidableEq, Repr

inductive ReplaySetting
  | never
  | beforeAudioAccepted
  | bufferedWithConsent
  deriving DecidableEq, Repr

def ReplaySetting.policy : ReplaySetting → ReplayPolicy
  | never => .never
  | beforeAudioAccepted => .beforeAudioAccepted
  | bufferedWithConsent => .bufferedWithConsent

structure ProfileConfig where
  primary : String
  fallbacks : List String
  language : String
  replay : ReplaySetting
  deriving DecidableEq, Repr

inductive ProviderConfig
  | mock (text : String)
  | openaiCompatible (endpoint model secret : String) (timeoutSeconds : Nat)
  | deepgram (endpoint model secret : String) (timeoutSeconds : Nat) (smartFormat : Bool)
  | doubaoUnofficial (secret : String)
      (phaseTimeoutSeconds totalTimeoutSeconds frameIntervalMillis : Nat)
  | command (program : String) (args : List String) (timeoutSeconds : Nat)
  deriving DecidableEq, Repr

structure Config where
  defaultProfile : String
  desktop : DesktopConfig
  audio : AudioConfig
  profiles : Table ProfileConfig
  providers : Table ProviderConfig

def Config.profile (self : Config) (requested : Option String) :
    Option (String × ProfileConfig) :=
  let name := (requested.filter (fun name => !name.isEmpty)).getD self.defaultProfile
  (self.profiles.get? name).map fun profile => (name, profile)

def isMock : Option ProviderConfig → Bool
  | some (.mock _) => true
  | _ => false

def profileIsDemoOnly (config : Config) (profile : ProfileConfig) : Bool :=
  (profile.primary :: profile.fallbacks).all fun id => isMock (config.providers.get? id)

def ProviderRegistry.register (registry : ProviderRegistry) (id : ProviderId) :
    Except VoxError ProviderRegistry :=
  if registry.contains id then
    .error (VoxError.new .configuration "provider.duplicate_registration"
      s!"provider {id.value} is already registered")
  else .ok ⟨registry.adapters ++ [id]⟩

def buildProviderRegistry (config : Config) : Except VoxError ProviderRegistry :=
  config.providers.keys.foldlM
    (fun registry name => do registry.register (← ProviderId.new name)) ⟨[]⟩

end VoxType
