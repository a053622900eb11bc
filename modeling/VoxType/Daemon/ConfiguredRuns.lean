import VoxType.Daemon.Configured
import VoxType.Daemon.Waiting

/-!
# Validated configurations and the routes of a run

The configuration changes only while nothing is captured, so the profile that
a capture has started under is there when the capture is recognised.
-/

namespace VoxType

set_option autoImplicit false

/-- A reload reads its configuration through `load_or_create`. -/
def SystemInput.Loads : SystemInput → Prop
  | .reloadConfiguration env => ∃ parsed, env.loadConfig =
      (StoredConfig.loadOrCreate parsed).map StoredConfig.toConfig
  | _ => True

theorem loads_routable {env : Environment} {config : Config}
    (hLoads : SystemInput.Loads (.reloadConfiguration env)) (hConfig : env.loadConfig = .ok config) :
    Routable config := by
  obtain ⟨parsed, hParsed⟩ := hLoads
  rw [hParsed] at hConfig
  cases hLoaded : StoredConfig.loadOrCreate parsed with
  | error error =>
    rw [hLoaded] at hConfig
    cases hConfig
  | ok stored =>
    rw [hLoaded] at hConfig
    cases hConfig
    exact validate_routable (loadOrCreate_valid hLoaded)

/-- What a daemon over a validated configuration keeps. -/
structure Prepared (d : VoxTypeDaemon) : Prop where
  routable : Routable d.config
  registry : buildProviderRegistry d.config = .ok d.app.registry
  waiting : Waiting d
  captured : d.Captured

/-- The route of a worker was planned from a profile of a validated configuration. -/
def PlannedWork (work : RecognitionWork) : Prop :=
  ∃ config name profile, Routable config ∧ config.profiles.get? name = some profile ∧
    PlanOf profile work.registry work.route

namespace Prepared

variable {d d' : VoxTypeDaemon} {trace : List DaemonEffect}

theorem framed (h : Prepared d) (hFramed : d.Framed trace d') (hWaiting : Waiting d') :
    Prepared d' where
  routable := hFramed.config ▸ h.routable
  registry := by
    rw [hFramed.config, hFramed.registry]
    exact h.registry
  waiting := hWaiting
  captured := hFramed.captured h.captured

theorem planned (h : Prepared d) (hFramed : d.Framed trace d') :
    ∀ k work, .workerStarted k work ∈ trace → PlannedWork work := by
  intro k work hMem
  obtain ⟨hRegistry, name, profile, hProfile, hPlan⟩ := hFramed.routes k work hMem
  exact ⟨d.config, name, profile, h.routable, hProfile, hRegistry ▸ hPlan⟩

end Prepared

namespace System

open Daemon

/-- Every input but a reload keeps the configuration and the capture's profile. -/
theorem step_framed {self : System} {i : SystemInput} (hWaiting : Waiting self.daemon)
    (hReload : ∀ env, i ≠ .reloadConfiguration env) :
    self.daemon.Framed (self.step i).1.effects (self.step i).2.daemon := by
  cases i with
  | start env profile => exact framed_start profile self.daemon
  | stop env session => exact framed_stop session self.daemon
  | toggle env profile => exact framed_toggle profile self.daemon
  | cancel session => exact framed_cancel session self.daemon
  | reset => exact (untouched_reset self.daemon).framed
  | reloadConfiguration env => exact absurd rfl (hReload env)
  | enforceRecordingDeadline env => exact framed_enforce self.daemon
  | pollRecognition env => exact framed_poll hWaiting.closed
  | pollAudioTelemetry env => exact (untouched_telemetry self.daemon).framed
  | drainEvents => exact (untouched_drain self.daemon).framed
  | quit => exact framed_quit self.daemon
  | workerReturns index route | workerExits index =>
    exact VoxTypeDaemon.framed_composes.refl self.daemon
  | workerNotifies => exact ⟨rfl, rfl, id, fun _ _ hMem => absurd hMem List.not_mem_nil⟩

/-- A reload is refused, or replaces the configuration and its registry together. -/
theorem reload_prepared {self : System} {env : Environment} (h : Prepared self.daemon)
    (hLoads : SystemInput.Loads (.reloadConfiguration env)) :
    Prepared (self.step (.reloadConfiguration env)).2.daemon := by
  have hWaiting := (step_outcome self (.reloadConfiguration env)).waiting h.waiting
  change Waiting ((reloadConfiguration (self.boundary env)).run self.daemon).state at hWaiting
  change Prepared ((reloadConfiguration (self.boundary env)).run self.daemon).state
  rw [reloadConfiguration, Effects.Call.get_bind] at hWaiting ⊢
  split at hWaiting
  · rename_i hBusy
    rw [if_pos hBusy]
    exact h
  · rename_i hIdle
    rw [if_neg hIdle]
    cases hConfig : env.loadConfig with
    | error error =>
      have hBoundary : (self.boundary env).loadConfig = .error error := hConfig
      rw [hBoundary]
      exact h
    | ok config =>
      have hBoundary : (self.boundary env).loadConfig = .ok config := hConfig
      rw [hBoundary] at hWaiting ⊢
      dsimp only at hWaiting ⊢
      cases hRegistry : buildProviderRegistry config with
      | error error => exact h
      | ok registry =>
        rw [hRegistry] at hWaiting
        refine ⟨loads_routable hLoads hConfig, hRegistry, hWaiting, ?_⟩
        intro hRecording
        exact absurd (.inl hRecording) hIdle

end System

/-- What a run over validated configurations has established. -/
structure PreparedRun (log : List SystemEntry) (sys : System) : Prop where
  prepared : Prepared sys.daemon
  planned : ∀ k work, .workerStarted k work ∈ effects log → PlannedWork work

theorem PreparedRun.step {log : List SystemEntry} {sys : System} (h : PreparedRun log sys)
    {i : SystemInput} (hLoads : i.Loads) :
    PreparedRun (log ++ [(i, (sys.step i).1)]) (sys.step i).2 := by
  have hStarts : ∀ k work, .workerStarted k work ∈ (sys.step i).1.effects → PlannedWork work := by
    by_cases hReload : ∃ env, i = .reloadConfiguration env
    · obtain ⟨env, rfl⟩ := hReload
      intro k work hMem
      rcases Daemon.reload_outcome (sys.boundary env) sys.daemon with
        ⟨_, hRun⟩ | ⟨_, _, _, _, _, hRun⟩ <;>
      · rw [System.step, (System.perform_effects _ _ _).1, hRun] at hMem
        cases hMem
    · exact h.prepared.planned (System.step_framed h.prepared.waiting
        fun env hEq => hReload ⟨env, hEq⟩)
  constructor
  case prepared =>
    by_cases hReload : ∃ env, i = .reloadConfiguration env
    · obtain ⟨env, rfl⟩ := hReload
      exact System.reload_prepared h.prepared hLoads
    · exact h.prepared.framed (System.step_framed h.prepared.waiting
        fun env hEq => hReload ⟨env, hEq⟩) ((System.step_outcome sys i).waiting h.prepared.waiting)
  case planned =>
    intro k work hMem
    rw [effects_snoc] at hMem
    rcases List.mem_append.mp hMem with hMem | hMem
    · exact h.planned k work hMem
    · exact hStarts k work hMem

theorem prepared_run {config : Config} {registry : ProviderRegistry} (wake : WakeHandle)
    (hConfig : Routable config) (hRegistry : buildProviderRegistry config = .ok registry)
    {inputs : List SystemInput} (hLoads : ∀ i ∈ inputs, i.Loads) :
    PreparedRun ((systemMachine config registry wake).log inputs)
      ((systemMachine config registry wake).state inputs) := by
  induction inputs using List.reverseRecOn with
  | nil =>
    exact ⟨⟨hConfig, hRegistry, .idle rfl rfl, VoxTypeDaemon.captured_none rfl⟩,
      fun k work hMem => by cases hMem⟩
  | append_singleton inputs i ih =>
    rw [Transition.Machine.log_snoc, Transition.Machine.state_snoc]
    exact (ih fun j hMem => hLoads j (List.mem_append_left _ hMem)).step
      (hLoads i (List.mem_append_right _ (List.mem_singleton_self _)))

/-- The codes outside the `doubao` and `secret` families that an adapter fails with. -/
def adapterCodes : List String :=
  ["provider.cancelled", "provider.command_empty", "provider.command_exit",
    "provider.command_failed", "provider.command_output", "provider.command_output_too_large",
    "provider.command_timeout", "provider.command_wait", "provider.deepgram.http_failed",
    "provider.deepgram.invalid_json", "provider.deepgram.io_failed",
    "provider.deepgram.missing_transcript", "provider.http_failed", "provider.insecure_endpoint",
    "provider.invalid_json", "provider.io_failed", "provider.missing_text", "provider.mock_empty"]

def isAdapterCode (code : String) : Bool :=
  startsWith code "doubao." || startsWith code "secret." || adapterCodes.contains code

/-- The adapters fail with codes of their own. -/
def RouteEnvironment.OwnCodes (route : RouteEnvironment) : Prop :=
  ∀ i id input failure, route.recognize i id input = .error failure →
    isAdapterCode failure.error.code = true

theorem PlannedWork.attempt_error {work : RecognitionWork} (h : PlannedWork work)
    {route : RouteEnvironment} {error : VoxError}
    (hOutcome : (work.run route).outcome = .error error) : AttemptError route work.input error := by
  obtain ⟨_, _, _, _, _, hPlan⟩ := h
  exact routeLoop_error hPlan.registered (.inl hPlan.nonempty) hOutcome

theorem PlannedWork.outcome {work : RecognitionWork} (h : PlannedWork work)
    {route : RouteEnvironment} (hOwn : route.OwnCodes) {error : VoxError}
    (hOutcome : (work.run route).outcome = .error error) :
    error.code ≠ "provider.not_registered" ∧ error.code ≠ "provider.no_route" := by
  rcases h.attempt_error hOutcome with
    rfl | rfl | ⟨i, id, failure, hAnswer, rfl⟩
  · decide
  · decide
  · have hCode := hOwn i id _ failure hAnswer
    constructor <;>
    · intro hSame
      rw [hSame] at hCode
      exact absurd hCode (by decide)

/-- `stop`, called in `d`, closes the capture and calls `begin_recognition` in `d'`. -/
structure Begins (env : Environment) (d : VoxTypeDaemon) (requested : String)
    (session : SessionId) (audio : CapturedAudio) (d' : VoxTypeDaemon) : Prop where
  active : (Daemon.activeSessionId requested).run d = ⟨.ok session, d, []⟩
  accepted : ∃ effect, (d.telemetry env).answer (.stop session) = .ok effect
  captured : ∃ recording, d.recording = some recording ∧ env.stopCapture recording = .ok audio
  reached : d' = Daemon.stopping env d session

namespace Begins

open Effects (Call)
open Daemon

variable {env : Environment} {d d' : VoxTypeDaemon} {requested : String} {session : SessionId}
  {audio : CapturedAudio}

theorem run (h : Begins env d requested session audio d') :
    ∃ before, (stop env requested).run d =
      ((processCapture env session audio).run d').after before := by
  obtain ⟨effect, hAnswer⟩ := h.accepted
  obtain ⟨recording, hRecording, hStop⟩ := h.captured
  have hCapture : ((d.telemetry env).applied (.stop session)).recording = some recording :=
    (telemetry_work env d).1.trans hRecording
  refine ⟨[.command (.stop session) (.ok effect), .captureStopped (.ok audio)], ?_⟩
  rw [stop, Call.bind_ok h.active, pollAudioTelemetry, Call.modify_bind,
    Call.bind_ok (mapped_ok _ hAnswer), Call.get_bind, hCapture]
  dsimp only
  rw [closeCapture, Call.modify_bind, Call.emit_bind, hStop, h.reached]
  rfl

/-- The capture's profile is configured, and its providers can be named and planned for. -/
theorem plans (h : Begins env d requested session audio d') (hPrepared : Prepared d) :
    ∃ name profile policy, d'.activeProfile = some name ∧
      d'.config.profiles.get? name = some profile ∧ profilePolicy profile = .ok policy ∧
      ∀ route, d'.app.planRoute policy env.now = .ok route →
        PlanOf profile d'.app.registry route ∧ route.providers.Nodup := by
  obtain ⟨recording, hRecording, _⟩ := h.captured
  obtain ⟨name, profile, hActive, hProfile⟩ := hPrepared.captured (by rw [hRecording]; rfl)
  have hNames : ∀ provider ∈ profile.primary :: profile.fallbacks,
      validProviderId provider = true := fun provider hMem =>
    hPrepared.routable.provider_ids provider (hPrepared.routable.known name profile hProfile
      provider hMem)
  obtain ⟨policy, hPolicy⟩ := profilePolicy_ok hNames
  have hTelemetry : d.Untouched [] (d.telemetry env) := untouched_telemetry d
  have hConfig : d'.config = d.config := by
    rw [h.reached]
    exact hTelemetry.config
  refine ⟨name, profile, policy, ?_, ?_, hPolicy, ?_⟩
  · rw [h.reached]
    exact hTelemetry.activeProfile.trans hActive
  · rw [hConfig]
    exact hProfile
  · intro route hRoute
    have hPlan := planRoute_planOf hPolicy hRoute
    exact ⟨hPlan, (hPlan.sublist.nodup (hPrepared.routable.nodup name profile hProfile)).of_map _⟩

end Begins

/-- No internal misconfiguration is met in a run that has reached this state. -/
structure WellRouted (log : List SystemEntry) (d : VoxTypeDaemon) : Prop where
  begins : ∀ env requested session audio d', Begins env d requested session audio d' →
    ∃ name profile policy, d'.activeProfile = some name ∧
      d'.config.profiles.get? name = some profile ∧ Daemon.profilePolicy profile = .ok policy ∧
      ∀ route, d'.app.planRoute policy env.now = .ok route →
        PlanOf profile d'.app.registry route ∧ route.providers.Nodup
  errors : ∀ k work, .workerStarted k work ∈ effects log →
    ∀ route error, (work.run route).outcome = .error error → AttemptError route work.input error
  outcomes : ∀ k work, .workerStarted k work ∈ effects log →
    ∀ route : RouteEnvironment, route.OwnCodes →
      ∀ error, (work.run route).outcome = .error error →
        error.code ≠ "provider.not_registered" ∧ error.code ≠ "provider.no_route"

/-- A validated configuration is never met by an internal misconfiguration. -/
theorem well_routed (stored : StoredConfig) (hValid : stored.validate = .ok ()) :
    ∃ registry, buildProviderRegistry stored.toConfig = .ok registry ∧
      registry.adapters.map ProviderId.value = stored.providers.keys ∧
      ∀ wake inputs, (∀ i ∈ inputs, SystemInput.Loads i) →
        WellRouted ((systemMachine stored.toConfig registry wake).log inputs)
          ((systemMachine stored.toConfig registry wake).state inputs).daemon := by
  have hRoutable := validate_routable hValid
  obtain ⟨registry, hRegistry, hAdapters⟩ := buildProviderRegistry_ok hRoutable
  refine ⟨registry, hRegistry, hAdapters, fun wake inputs hLoads => ?_⟩
  have hRun := prepared_run wake hRoutable hRegistry hLoads
  constructor
  case begins => exact fun env requested session audio d' h => h.plans hRun.prepared
  case errors => exact fun k work hMem route error => (hRun.planned k work hMem).attempt_error
  case outcomes => exact fun k work hMem route hOwn error => (hRun.planned k work hMem).outcome hOwn

def storedDictation : StoredConfig :=
  { dictationConfig with
    schemaVersion := 1
    quotas := ⟨[("cloud", ⟨some 100, none, none⟩)], by decide⟩ }

theorem storedDictation_valid : storedDictation.validate = .ok () := by decide

/-- A reload, and a session after it. -/
theorem well_routed_dictation : ∃ registry,
    buildProviderRegistry dictationConfig = .ok registry ∧
      registry.adapters.map ProviderId.value = ["cloud"] ∧
      WellRouted ((systemMachine dictationConfig registry .disabled).log
          (.reloadConfiguration workingBoundary :: dictation))
        ((systemMachine dictationConfig registry .disabled).state
          (.reloadConfiguration workingBoundary :: dictation)).daemon := by
  obtain ⟨registry, hRegistry, hAdapters, hRuns⟩ :=
    well_routed storedDictation storedDictation_valid
  refine ⟨registry, hRegistry, hAdapters, hRuns .disabled _ ?_⟩
  have hLoads : SystemInput.Loads (.reloadConfiguration workingBoundary) := by
    refine ⟨.ok storedDictation, ?_⟩
    change _ = Except.map _ (storedDictation.validate >>= fun _ => pure storedDictation)
    rw [storedDictation_valid]
    rfl
  exact List.forall_mem_cons.mpr ⟨hLoads, by simp [dictation, SystemInput.Loads]⟩

end VoxType
