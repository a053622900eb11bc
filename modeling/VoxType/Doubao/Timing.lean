import VoxType.Daemon.Phase
import VoxType.Doubao.Managed

/-!
# Where the timing checks agree

The configuration bounds the phase timeout by 300 seconds, the attempt and its
handshake by 60.
-/

namespace VoxType

set_option autoImplicit false

/-- The durations that `validate_spec` lets pass. -/
structure WebSocketSpec.PassesTiming (spec : WebSocketSpec) : Prop where
  connect : 100000000 ≤ spec.connectTimeout ∧ spec.connectTimeout ≤ 60000000000
  poll : 1000000 ≤ spec.pollInterval ∧ spec.pollInterval ≤ 100000000

theorem WebSocketSpec.PassesTiming.code_ne {spec : WebSocketSpec} (h : spec.PassesTiming)
    {U : Type} {parseUri : String → Option U} {error : VoxError}
    (hError : spec.validateSpec parseUri = .error error) :
    error.code ≠ "doubao.websocket_invalid_timeout" := by
  obtain ⟨⟨hConnect, hConnect'⟩, hPoll, hPoll'⟩ := h
  have hDurations : (100000000 ≤ spec.connectTimeout && spec.connectTimeout ≤ 60000000000 &&
      1000000 ≤ spec.pollInterval && spec.pollInterval ≤ 100000000) = true := by
    simp only [hConnect, hConnect', hPoll, hPoll', decide_true, Bool.and_true]
  simp only [validateSpec, Checks.bind_error, Checks.require_error, hDurations, Bool.true_eq_false,
    false_and, false_or] at hError
  rcases hError with ⟨_, rfl⟩ | ⟨_, _, _, _, hError⟩
  · decide
  rcases hError with ⟨_, rfl⟩ | ⟨_, _, hError⟩
  · decide
  rcases hError with ⟨_, rfl⟩ | ⟨_, _, hError⟩
  · decide
  rcases hError with hHeader | ⟨_, _, hError⟩
  · obtain ⟨header, _, hHeader⟩ := Checks.each_error hHeader
    obtain ⟨_, rfl⟩ := Checks.require_error.mp hHeader
    decide
  split at hError
  · cases hError
  · cases hError
    decide

namespace Doubao

/-- The durations that `validate_run_config` lets pass. -/
structure DoubaoRunConfig.PassesTiming (config : DoubaoRunConfig) : Prop where
  phase : millis 100 ≤ config.phaseTimeout ∧ config.phaseTimeout ≤ millis 60000
  total : config.phaseTimeout ≤ config.totalTimeout ∧ config.totalTimeout ≤ millis 3600000
  frame : config.frameInterval ≤ millis 100

def invalidRunTimeout : VoxError :=
  voxError .configuration "doubao.invalid_run_timeout"
    "Doubao session timing configuration is invalid" false

section Checks

variable {env : Surroundings} {config : DoubaoRunConfig}

theorem validateRunConfig_refuses (h : ¬ config.PassesTiming) :
    validateRunConfig env config = .error invalidRunTimeout := by
  rw [validateRunConfig]
  refine if_pos ?_
  by_contra hPasses
  simp only [not_or, Nat.not_lt] at hPasses
  obtain ⟨hPhase, hPhase', hTotal, hTotal', hFrame⟩ := hPasses
  exact h ⟨⟨hPhase, hPhase'⟩, ⟨hTotal, hTotal'⟩, hFrame⟩

theorem DoubaoRunConfig.PassesTiming.code_ne (h : config.PassesTiming) {error : VoxError}
    (hError : validateRunConfig env config = .error error) :
    error.code ≠ "doubao.invalid_run_timeout" := by
  obtain ⟨⟨hPhase, hPhase'⟩, ⟨hTotal, hTotal'⟩, hFrame⟩ := h
  rw [validateRunConfig, if_neg (by omega)] at hError
  split at hError
  · cases hError
    decide
  · cases hError

end Checks

section Configured

variable {stored : StoredConfig} {name secret : String} {phase total frame : Nat}

/-- What a validated configuration says of the timing of a provider. -/
theorem validated_timing (hValid : stored.validate = .ok ())
    (hProvider : (name, .doubaoUnofficial secret phase total frame) ∈ stored.providers.entries) :
    (1 ≤ phase ∧ phase ≤ 300) ∧ (phase ≤ total ∧ total ≤ 3600) ∧ frame ≤ 100 := by
  simp only [StoredConfig.validate, Checks.bind_ok] at hValid
  obtain ⟨_, _, _, _, _, _, _, hProviders, _⟩ := hValid
  have hOk := Checks.each_ok.mp hProviders _ hProvider
  simp only [validateProvider, Checks.bind_ok] at hOk
  obtain ⟨_, _, _, hDoubao, hTimeout⟩ := hOk
  simp only [validateDoubaoProvider, Checks.bind_ok] at hDoubao
  obtain ⟨_, _, hTiming⟩ := hDoubao
  have hTiming := Checks.require_ok.mp hTiming
  simp only [ProviderConfig.timeoutSeconds, Checks.bind_ok] at hTimeout
  obtain ⟨_, hRange, _⟩ := hTimeout
  have hRange := Checks.require_ok.mp hRange
  simp only [Bool.not_eq_true', Bool.or_eq_false_iff, Bool.and_eq_true, decide_eq_false_iff_not,
    decide_eq_true_eq, Nat.not_lt] at hTiming hRange
  exact ⟨hRange, hTiming.1, hTiming.2⟩

/-- The attempt and its handshake take the timing that they are given. -/
structure TimingAgrees (config : ManagedDoubaoConfig) : Prop where
  run : ∀ requestId, (config.run requestId).PassesTiming
  spec : config.websocket.PassesTiming
  runCode : ∀ env requestId error, validateRunConfig env (config.run requestId) = .error error →
    error.code ≠ "doubao.invalid_run_timeout"
  specCode : ∀ (U : Type) (parseUri : String → Option U) error,
    config.websocket.validateSpec parseUri = .error error →
      error.code ≠ "doubao.websocket_invalid_timeout"

/-- A validated timing is taken exactly where the phase timeout is at most a minute. -/
theorem timing_agrees_iff (hValid : stored.validate = .ok ())
    (hProvider : (name, .doubaoUnofficial secret phase total frame) ∈ stored.providers.entries)
    {id : ProviderId} {adapter : DoubaoAdapter}
    (hAdapter : doubaoAdapter id (.doubaoUnofficial secret phase total frame) = some adapter)
    (credentials : ManagedCredentialBundle) :
    TimingAgrees (adapter.config credentials) ↔ phase ≤ 60 := by
  obtain ⟨⟨hPhase, _⟩, ⟨hTotal, hTotal'⟩, hFrame⟩ := validated_timing hValid hProvider
  obtain ⟨hPhaseTimeout, hTotalTimeout, hFrameInterval⟩ : adapter.phaseTimeout = seconds phase ∧
      adapter.totalTimeout = seconds total ∧ adapter.frameInterval = millis frame := by
    cases hAdapter
    exact ⟨rfl, rfl, rfl⟩
  constructor
  · intro h
    have hLe : adapter.phaseTimeout ≤ millis 60000 := (h.run "").phase.2
    rw [hPhaseTimeout, seconds, millis] at hLe
    omega
  · intro hMinute
    have hSeconds : millis 100 ≤ adapter.phaseTimeout ∧ adapter.phaseTimeout ≤ millis 60000 := by
      rw [hPhaseTimeout, seconds, millis, millis]
      omega
    have hRun : ∀ requestId, ((adapter.config credentials).run requestId).PassesTiming := by
      refine fun requestId => ⟨hSeconds, ?_, ?_⟩
      · change adapter.phaseTimeout ≤ adapter.totalTimeout ∧ adapter.totalTimeout ≤ millis 3600000
        rw [hPhaseTimeout, hTotalTimeout, seconds, seconds, millis]
        omega
      · change adapter.frameInterval ≤ millis 100
        rw [hFrameInterval, millis, millis]
        omega
    have hPoll : 1000000 ≤ millis 10 ∧ millis 10 ≤ 100000000 := by decide
    have hSpec : (adapter.config credentials).websocket.PassesTiming := ⟨hSeconds, hPoll⟩
    exact
      { run := hRun
        spec := hSpec
        runCode := fun _ requestId _ hError => (hRun requestId).code_ne hError
        specCode := fun _ _ _ hError => hSpec.code_ne hError }

/-- With a longer phase timeout every recognition that has a token fails. -/
theorem recognition_refused (hPhase : 60 < phase) {id : ProviderId} {adapter : DoubaoAdapter}
    (hAdapter : doubaoAdapter id (.doubaoUnofficial secret phase total frame) = some adapter)
    (credentials : ManagedCredentialBundle) (env retryEnv : Surroundings) (token requestId : String)
    (refresh : Except VoxError String) (cancelled : Bool) (hOpus : env.opusAvailable = true) :
    transcribeManagedPcm env retryEnv (adapter.config credentials) (.ok token) (.ok requestId)
      refresh cancelled = some (.error (.beforeTransport invalidRunTimeout)) := by
  have hPhaseTimeout : adapter.phaseTimeout = seconds phase := by
    cases hAdapter
    rfl
  have hRefused : validateRunConfig env ((adapter.config credentials).run requestId) =
      .error invalidRunTimeout := by
    refine validateRunConfig_refuses fun h => ?_
    have hLe : adapter.phaseTimeout ≤ millis 60000 := h.phase.2
    rw [hPhaseTimeout, seconds, millis] at hLe
    omega
  have hFirst : transcribePcmWithEvidence env ((adapter.config credentials).run requestId) token =
      .refused invalidRunTimeout := by
    rw [transcribePcmWithEvidence, if_pos hOpus, transcribePcmWithEncoder, hRefused]
  have hCategory : ¬ (invalidRunTimeout.category = .authentication) := by decide
  change (transcribePcmWithTokenRefresh env retryEnv ((adapter.config credentials).run requestId)
    token refresh cancelled).result = _
  rw [transcribePcmWithTokenRefresh.eq_def, hFirst]
  exact congrArg TokenRefresh.result (if_neg fun h => hCategory h.1)

/-- A configuration with one managed provider. -/
def managedConfig (phase total frame : Nat) : StoredConfig :=
  { defaultProfile := "dictation"
    desktop := ⟨false, false, .fcitx⟩
    audio := ⟨"", 300, 120, false, 90, 3⟩
    profiles := ⟨[("dictation", ⟨"doubao", [], "en", .never⟩)], by decide⟩
    providers := ⟨[("doubao", .doubaoUnofficial "bundle" phase total frame)],
      List.pairwise_singleton _ _⟩
    schemaVersion := 1
    quotas := ⟨[], .nil⟩ }

def doubao : ProviderId := ⟨"doubao", by decide⟩

def managedAdapter (phase total frame : Nat) : DoubaoAdapter :=
  ⟨doubao, "bundle", seconds phase, seconds total, millis frame⟩

def managedCredentials : ManagedCredentialBundle :=
  { bootstrap := ⟨"https://registration.invalid/service", "https://settings.invalid/service", 15⟩
    context := ⟨"fixture-agent", []⟩
    registered := ⟨"device", ""⟩
    websocketEndpoint := "wss://websocket.invalid/session"
    websocketHeaders := []
    sessionJson := [0x7b, 0x7d] }

theorem timing_agrees_minute :
    TimingAgrees ((managedAdapter 60 180 20).config managedCredentials) := by
  have hValid : (managedConfig 60 180 20).validate = .ok () := by decide
  exact (timing_agrees_iff hValid List.mem_cons_self (show doubaoAdapter doubao _ = _ from rfl)
    managedCredentials).mpr
    (by decide)

/-- A phase timeout that the configuration accepts and no recognition survives. -/
theorem timing_disagrees :
    (managedConfig 61 180 20).validate = .ok () ∧
      ("doubao", .doubaoUnofficial "bundle" 61 180 20) ∈
        (managedConfig 61 180 20).providers.entries ∧
      doubaoAdapter doubao (.doubaoUnofficial "bundle" 61 180 20) =
        some (managedAdapter 61 180 20) ∧
      ∀ env requestId, validateRunConfig env
          (((managedAdapter 61 180 20).config managedCredentials).run requestId) =
        .error (voxError .configuration "doubao.invalid_run_timeout"
          "Doubao session timing configuration is invalid" false) := by
  refine ⟨by decide, List.mem_cons_self, rfl, fun env requestId => ?_⟩
  have hLong : ¬ seconds 61 ≤ millis 60000 := by decide
  exact validateRunConfig_refuses fun h => hLong h.phase.2

end Configured

end Doubao

end VoxType
