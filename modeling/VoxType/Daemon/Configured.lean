import VoxType.Daemon.Phase
import VoxType.Daemon.Validation

/-!
# Runs over validated configurations

The profile of a running capture stays configured, and every route that a
worker is started with holds registered providers only.
-/

namespace VoxType

set_option autoImplicit false

/-- A plan made from a profile for a registry. -/
structure PlanOf (profile : ProfileConfig) (registry : ProviderRegistry) (route : RoutePlan) :
    Prop where
  nonempty : route.providers ≠ []
  sublist : (route.providers.map ProviderId.value).Sublist (profile.primary :: profile.fallbacks)
  registered : ∀ id ∈ route.providers, registry.contains id = true

theorem providerId_value {name : String} {id : ProviderId} (h : ProviderId.new name = .ok id) :
    id.value = name := by
  rw [ProviderId.new] at h
  split at h
  · cases h
    rfl
  · cases h

theorem providerIds_values {names : List String} {ids : List ProviderId}
    (h : names.mapM ProviderId.new = .ok ids) : ids.map ProviderId.value = names := by
  have hAll := Checks.mapM_ok h
  clear h
  induction hAll with
  | nil => rfl
  | cons hFirst _ ih => rw [List.map_cons, providerId_value hFirst, ih]

/-- The policy of a profile names its providers. -/
theorem profilePolicy_names {profile : ProfileConfig} {policy : RoutingPolicy}
    (h : Daemon.profilePolicy profile = .ok policy) :
    (policy.primary :: policy.fallbacks).map ProviderId.value =
      profile.primary :: profile.fallbacks := by
  rw [Daemon.profilePolicy] at h
  obtain ⟨primary, hPrimary, h⟩ := Checks.bind_ok.mp h
  obtain ⟨fallbacks, hFallbacks, h⟩ := Checks.bind_ok.mp h
  cases h
  rw [List.map_cons, providerId_value hPrimary, providerIds_values hFallbacks]

theorem profilePolicy_ok {profile : ProfileConfig}
    (h : ∀ name ∈ profile.primary :: profile.fallbacks, validProviderId name = true) :
    ∃ policy, Daemon.profilePolicy profile = .ok policy := by
  obtain ⟨hPrimary, hFallbacks⟩ := List.forall_mem_cons.mp h
  obtain ⟨primary, hNew, _⟩ := providerId_new hPrimary
  obtain ⟨fallbacks, hAll⟩ := Checks.mapM_some (f := ProviderId.new)
    fun name hMem => (providerId_new (hFallbacks name hMem)).imp fun _ hId => hId.1
  refine ⟨⟨primary, fallbacks, profile.replay.policy⟩, ?_⟩
  rw [Daemon.profilePolicy]
  exact Checks.bind_ok.mpr ⟨primary, hNew, Checks.bind_ok.mpr ⟨fallbacks, hAll, rfl⟩⟩

theorem planRoute_planOf {app : AppController} {profile : ProfileConfig} {policy : RoutingPolicy}
    {now : Nat} {route : RoutePlan} (hPolicy : Daemon.profilePolicy profile = .ok policy)
    (hPlan : app.planRoute policy now = .ok route) : PlanOf profile app.registry route := by
  rw [AppController.planRoute, OrderedRouter.plan] at hPlan
  split at hPlan
  · cases hPlan
  · rename_i hSome
    cases hPlan
    constructor
    case nonempty => simpa using hSome
    case sublist =>
      rw [← profilePolicy_names hPolicy]
      exact List.filter_sublist.map _
    case registered =>
      intro id hMem
      obtain ⟨hConfigured, hAvailable⟩ := List.mem_filter.mp hMem
      rw [if_pos hConfigured] at hAvailable
      exact (Bool.and_eq_true_iff.mp hAvailable).1

namespace VoxTypeDaemon

/-- A running capture has a configured profile. -/
def Captured (d : VoxTypeDaemon) : Prop :=
  d.recording.isSome = true → ∃ name profile, d.activeProfile = some name ∧
    d.config.profiles.get? name = some profile

/-- The route of a worker was planned from a configured profile for this registry. -/
def Routes (d : VoxTypeDaemon) (work : RecognitionWork) : Prop :=
  work.registry = d.app.registry ∧ ∃ name profile,
    d.config.profiles.get? name = some profile ∧ PlanOf profile d.app.registry work.route

/-- What every call but a reload keeps. -/
structure Framed (d : VoxTypeDaemon) (trace : List DaemonEffect) (d' : VoxTypeDaemon) : Prop where
  config : d'.config = d.config
  registry : d'.app.registry = d.app.registry
  captured : d.Captured → d'.Captured
  routes : ∀ k work, .workerStarted k work ∈ trace → d.Routes work

/-- What a call keeps once the capture is closed. -/
def Closed (d : VoxTypeDaemon) (trace : List DaemonEffect) (d' : VoxTypeDaemon) : Prop :=
  d.recording = none → d'.recording = none ∧ d.Framed trace d'

/-- A call that starts nothing and leaves the configuration and the capture alone. -/
structure Untouched (d : VoxTypeDaemon) (trace : List DaemonEffect) (d' : VoxTypeDaemon) :
    Prop where
  config : d'.config = d.config
  registry : d'.app.registry = d.app.registry
  recording : d'.recording = d.recording
  activeProfile : d'.activeProfile = d.activeProfile
  starts : ∀ k work, .workerStarted k work ∉ trace

variable {d d' d'' : VoxTypeDaemon} {trace later : List DaemonEffect}

theorem Captured.congr (h : d.Captured) (hRecording : d'.recording = d.recording)
    (hProfile : d'.activeProfile = d.activeProfile) (hConfig : d'.config = d.config) :
    d'.Captured := by
  rw [Captured, hRecording, hProfile, hConfig]
  exact h

theorem captured_none (h : d.recording = none) : d.Captured := by
  intro hSome
  rw [h] at hSome
  cases hSome

theorem Untouched.framed (h : d.Untouched trace d') : d.Framed trace d' where
  config := h.config
  registry := h.registry
  captured := fun hCaptured => hCaptured.congr h.recording h.activeProfile h.config
  routes := fun k work hMem => absurd hMem (h.starts k work)

theorem Untouched.closed (h : d.Untouched trace d') : d.Closed trace d' :=
  fun hNone => ⟨h.recording.trans hNone, h.framed⟩

theorem Framed.trans (h : d.Framed trace d') (h' : d'.Framed later d'') :
    d.Framed (trace ++ later) d'' where
  config := h'.config.trans h.config
  registry := h'.registry.trans h.registry
  captured := fun hCaptured => h'.captured (h.captured hCaptured)
  routes := by
    intro k work hMem
    rcases List.mem_append.mp hMem with hMem | hMem
    · exact h.routes k work hMem
    · have hRoutes := h'.routes k work hMem
      rwa [Routes, h.config, h.registry] at hRoutes

theorem untouched_composes : Effects.Call.Composes Untouched where
  refl _ := ⟨rfl, rfl, rfl, rfl, fun _ _ => List.not_mem_nil⟩
  trans h h' := ⟨h'.config.trans h.config, h'.registry.trans h.registry,
    h'.recording.trans h.recording, h'.activeProfile.trans h.activeProfile,
    Daemon.starts_none_append h.starts h'.starts⟩

theorem framed_composes : Effects.Call.Composes Framed where
  refl d := (untouched_composes.refl d).framed
  trans := Framed.trans

theorem closed_composes : Effects.Call.Composes Closed where
  refl d := (untouched_composes.refl d).closed
  trans := by
    intro _ _ _ _ _ h h' hNone
    obtain ⟨hNone', hFramed⟩ := h hNone
    obtain ⟨hNone'', hFramed'⟩ := h' hNone'
    exact ⟨hNone'', hFramed.trans hFramed'⟩

end VoxTypeDaemon

namespace Daemon

open Effects (Call)
open Effects.Call (get modify emit throw attempt ofExcept Within)
open VoxTypeDaemon (Untouched Framed Closed untouched_composes framed_composes closed_composes)

variable {env : Environment}

section Untouched

theorem untouched_emit (effect : DaemonEffect) (h : ∀ k work, effect ≠ .workerStarted k work) :
    Within Untouched (emit effect : DaemonCall PUnit) :=
  fun _ => ⟨rfl, rfl, rfl, rfl, fun k work hMem => h k work (List.mem_singleton.mp hMem).symm⟩

theorem untouched_modify {ε : Type} {f : VoxTypeDaemon → VoxTypeDaemon}
    (h : ∀ d : VoxTypeDaemon, d.Untouched [] (f d)) :
    Within Untouched (modify f : Call VoxTypeDaemon ε DaemonEffect PUnit) := fun d => h d

theorem untouched_apply (c : Command) : Within Untouched (applyCommand c) := by
  intro d
  refine ⟨rfl, (d.app.apply_providers c).registry, rfl, rfl, ?_⟩
  intro k work hMem
  cases List.mem_singleton.mp hMem

theorem untouched_finish (session : SessionId) (outcome errorCode backend : String)
    (charCount : Nat) :
    Within Untouched (finishSession session outcome errorCode backend charCount) := by
  intro d
  have hProviders := d.app.finishSession_providers session outcome errorCode backend charCount
  refine ⟨rfl, hProviders.registry, rfl, rfl, ?_⟩
  intro k work hMem
  cases List.mem_singleton.mp hMem

theorem untouched_cancelLease : Within Untouched cancelLease :=
  fun d => ⟨rfl, rfl, rfl, rfl, starts_none d.lease_inert⟩

theorem untouched_telemetry : Within Untouched (pollAudioTelemetry env) := by
  intro d
  obtain ⟨_, _, _, hTelemetry⟩ := telemetry_eq env d
  change d.Untouched [] (d.telemetry env)
  rw [hTelemetry]
  exact ⟨rfl, rfl, rfl, rfl, fun _ _ => List.not_mem_nil⟩

theorem untouched_removeRecording (path : String) : Within Untouched (removeRecording path) := by
  intro d
  rw [removeRecording_run]
  exact ⟨rfl, rfl, rfl, rfl, starts_none (d.removal_inert path)⟩

/-- A mapped command whose effect is not looked at. -/
theorem untouched_command (c : Command) :
    Within Untouched ((applyCommand c).mapError mapError : DaemonCall CommandEffect) :=
  .mapError _ (untouched_apply c)

theorem untouched_attempt (c : Command) :
    Within Untouched (attempt (applyCommand c) : DaemonCall (Except VoxError CommandEffect)) :=
  .attempt (untouched_apply c)

theorem untouched_failNonterminal (session : SessionId) (code message : String) :
    Within Untouched (failNonterminalSession session code message) := by
  refine .bind untouched_composes (.get untouched_composes) fun d => ?_
  split
  · exact .bind untouched_composes (untouched_attempt _) fun _ => .pure untouched_composes _
  · exact .pure untouched_composes _

theorem untouched_noSpeech {α : Type} (session : SessionId) (value : α) :
    Within Untouched (do
      cancelLease
      let _ ← (applyCommand (.noSpeech session)).mapError mapError
      pure value : DaemonCall α) :=
  .bind untouched_composes untouched_cancelLease fun _ =>
    .bind untouched_composes (untouched_command _) fun _ => .pure untouched_composes _

theorem untouched_duration (session : SessionId) (recording : CapturedAudio) :
    Within Untouched (checkMinimumDuration session recording) := by
  refine .bind untouched_composes (.get untouched_composes) fun d => ?_
  split
  · exact .pure untouched_composes _
  · exact untouched_noSpeech session _

theorem untouched_activity (session : SessionId) (recording : CapturedAudio) :
    Within Untouched (checkVoiceActivity env session recording) := by
  refine .bind untouched_composes (.get untouched_composes) fun d => ?_
  split
  · exact .pure untouched_composes _
  · split
    · exact .throw untouched_composes _
    · split
      · split
        · exact .throw untouched_composes _
        · exact .pure untouched_composes _
      · exact untouched_noSpeech session _

theorem untouched_failRecognition (session : SessionId) (error : VoxError) :
    Within Untouched (failRecognition session error) :=
  .bind untouched_composes (untouched_attempt _) fun _ => .throw untouched_composes _

theorem untouched_insertText (session : SessionId) (text : String) :
    Within Untouched (insertText env session text) := by
  intro d
  obtain ⟨effects, answer, hInsertion, hRun⟩ := insertion_run env d session text
  rw [hRun]
  refine ⟨rfl, rfl, rfl, rfl, ?_⟩
  cases hInsertion <;> simp

theorem untouched_recordInsertion (session : SessionId) (providerId text : String)
    (vadResult : Option Vad.VadResult) (insertion : InsertionOutcome) :
    Within Untouched (recordInsertion session providerId text vadResult insertion) := by
  refine .bind untouched_composes (untouched_command _) fun _ =>
    .bind untouched_composes (.mapError _ (untouched_finish session _ _ _ _)) fun _ =>
      .bind untouched_composes (untouched_modify ?_) fun _ => .pure untouched_composes _
  intro d
  obtain ⟨hRecording, _, _, _, hProfile, hConfig⟩ := d.remember_work text
  exact ⟨hConfig, by rw [VoxTypeDaemon.remember_app], hRecording, hProfile,
    fun _ _ => List.not_mem_nil⟩

theorem untouched_complete (session : SessionId) (providerId text : String)
    (vadResult : Option Vad.VadResult) :
    Within Untouched (completeRecognition env session providerId text vadResult) := by
  refine .bind untouched_composes (untouched_command _) fun effect => ?_
  split
  · refine .bind untouched_composes (.attempt (untouched_insertText session text)) fun answer => ?_
    split
    · exact untouched_recordInsertion session providerId text vadResult _
    · exact .bind untouched_composes (untouched_attempt _) fun _ => .throw untouched_composes _
  · exact .throw untouched_composes _

theorem untouched_deliver (job : RecognitionJob) (outcome : Except VoxError RecognitionSuccess) :
    Within Untouched (deliver env job outcome) := by
  cases outcome with
  | ok success => exact untouched_complete job.session _ _ _
  | error error => exact untouched_failRecognition job.session error

theorem untouched_reset : Within Untouched reset :=
  .bind untouched_composes (untouched_command _) fun _ => .pure untouched_composes _

theorem untouched_drain : Within Untouched drainEvents :=
  .bind untouched_composes (.get untouched_composes) fun _ =>
    .bind untouched_composes (untouched_emit _ nofun) fun _ =>
      untouched_modify fun _ => ⟨rfl, rfl, rfl, rfl, fun _ _ => List.not_mem_nil⟩

end Untouched

section Closed

theorem closed_spawn {work : RecognitionWork} {job : RecognitionJob} {d : VoxTypeDaemon}
    (hRoutes : d.Routes work) :
    d.Closed ((spawnRecognition env work job).run d).trace
      ((spawnRecognition env work job).run d).state := by
  intro hNone
  rw [spawnRecognition]
  cases env.spawn with
  | error message => exact (closed_composes.refl d) hNone
  | ok u =>
    refine ⟨hNone, rfl, rfl, fun _ => VoxTypeDaemon.captured_none hNone, ?_⟩
    intro k started hMem
    cases List.mem_singleton.mp hMem
    exact hRoutes

theorem closed_plan (session : SessionId) (recording : CapturedAudio)
    (vadResult : Option Vad.VadResult) (audioMillis : Nat) :
    Within Closed (planRecognition env session recording vadResult audioMillis) := by
  intro d
  rw [planRecognition, Call.get_bind]
  cases hProfile : d.config.profiles.get? (d.activeProfile.getD d.config.defaultProfile) with
  | none => exact closed_composes.refl d
  | some profile =>
    dsimp only
    cases hPolicy : profilePolicy profile with
    | error error => exact closed_composes.refl d
    | ok policy =>
      dsimp only
      cases hPlan : d.app.planRoute policy env.now with
      | error error => exact (untouched_failRecognition session error d).closed
      | ok route => exact closed_spawn ⟨rfl, _, profile, hProfile, planRoute_planOf hPolicy hPlan⟩

theorem closed_begin (session : SessionId) (recording : CapturedAudio) :
    Within Closed (beginRecognition env session recording) := by
  refine .bind closed_composes (fun d => (untouched_duration session recording d).closed)
    fun checked => ?_
  cases checked with
  | some response => exact .pure closed_composes _
  | none =>
    refine .bind closed_composes (fun d => (untouched_activity session recording d).closed)
      fun activity => ?_
    cases activity with
    | noSpeech response => exact .pure closed_composes _
    | «continue» vadResult audioMillis => exact closed_plan session recording vadResult audioMillis

/-- Without a capture the profile is free to go. -/
theorem closed_withoutTarget :
    Within Closed (modify VoxTypeDaemon.withoutTarget : DaemonCall PUnit) :=
  fun _ hNone => ⟨hNone, rfl, rfl, fun _ => VoxTypeDaemon.captured_none hNone,
    fun _ _ hMem => absurd hMem List.not_mem_nil⟩

theorem closed_process (session : SessionId) (audio : CapturedAudio) :
    Within Closed (processCapture env session audio) := by
  refine .bind closed_composes (.attempt (closed_begin session audio)) fun response => ?_
  have hSettle : Within Closed (do
      let self ← get
      if self.recognitionJob.isNone then do
        removeRecording audio.path
        modify VoxTypeDaemon.withoutTarget
      else pure ()
      ofExcept response : DaemonCall String) := by
    refine .bind closed_composes (.get closed_composes) fun d => ?_
    split
    · exact .bind closed_composes (fun d => (untouched_removeRecording audio.path d).closed)
        fun _ => .bind closed_composes closed_withoutTarget fun _ => .ofExcept closed_composes _
    · exact .ofExcept closed_composes _
  cases response with
  | error error =>
    exact .bind closed_composes (fun d => (untouched_failNonterminal session _ _ d).closed)
      fun _ => .bind closed_composes (fun d => (untouched_cancelLease d).closed) fun _ => hSettle
  | ok value => exact hSettle

theorem closed_finishCurrent (job : RecognitionJob) (received : RecognitionRouteResult) :
    Within Closed (finishCurrentJob env job received) := by
  have hRecorded : ∀ d : VoxTypeDaemon,
      d.Closed [] (d.recorded received job.audioMillis env.now) := by
    intro d
    have hAccounts := d.app.recordRouteResult_accounts received job.audioMillis env.now
    exact VoxTypeDaemon.Untouched.closed ⟨rfl, hAccounts.registry, rfl, rfl,
      fun _ _ => List.not_mem_nil⟩
  refine .bind closed_composes hRecorded fun _ =>
    .bind closed_composes (.attempt fun d => (untouched_deliver job _ d).closed) fun result => ?_
  have hCleanup : Within Closed (do
      cleanupRecognitionJob job
      modify VoxTypeDaemon.withoutTarget
      let _ ← ofExcept result
      pure true : DaemonCall Bool) :=
    .bind closed_composes (fun d => (untouched_removeRecording job.recordingPath d).closed)
      fun _ => .bind closed_composes closed_withoutTarget fun _ =>
        .bind closed_composes (.ofExcept closed_composes _) fun _ => .pure closed_composes _
  cases result with
  | error error =>
    exact .bind closed_composes (fun d => (untouched_cancelLease d).closed) fun _ => hCleanup
  | ok value => exact hCleanup

end Closed

section Framed

theorem framed_close (session : SessionId) (recording : CaptureSession) :
    Within Framed (closeCapture env session recording) := by
  intro d
  rw [closeCapture, Call.modify_bind, Call.emit_bind]
  have hEmit : d.Framed [.captureStopped (env.stopCapture recording)] d.withoutRecording := by
    refine ⟨rfl, rfl, fun _ => VoxTypeDaemon.captured_none rfl, ?_⟩
    intro k work hMem
    cases List.mem_singleton.mp hMem
  refine hEmit.trans ?_
  cases env.stopCapture recording with
  | ok audio => exact (closed_process session audio d.withoutRecording rfl).2
  | error error =>
    exact (Within.bind untouched_composes (untouched_attempt (.fail session error))
      (fun _ => .throw untouched_composes (mapError error)) d.withoutRecording).framed

theorem framed_stop (requested : String) : Within Framed (stop env requested) := by
  have hActive : Within Untouched (activeSessionId requested) := by
    refine .bind untouched_composes (.get untouched_composes) fun d => ?_
    split
    · exact .throw untouched_composes _
    · split
      · exact .pure untouched_composes _
      · exact .throw untouched_composes _
  refine .bind framed_composes (fun d => (hActive d).framed) fun active =>
    .bind framed_composes (fun d => (untouched_telemetry d).framed) fun _ =>
      .bind framed_composes (fun d => (untouched_command _ d).framed) fun _ =>
        .bind framed_composes (.get framed_composes) fun d => ?_
  split
  · exact .throw framed_composes _
  · exact framed_close active _

/-- A capture starts under a profile that the configuration has. -/
theorem framed_beginSession {profileName : String} {session : SessionId} {d : VoxTypeDaemon}
    (hProfile : ∃ profile, d.config.profiles.get? profileName = some profile) :
    d.Framed ((beginSession env profileName session).run d).trace
      ((beginSession env profileName session).run d).state := by
  rw [beginSession, Call.get_bind]
  cases env.arm d.config.desktop.insertionBackend.mode session with
  | error error =>
    exact (Within.bind untouched_composes (untouched_attempt (.fail session error))
      (fun _ => .throw untouched_composes (mapError error)) d).framed
  | ok armed =>
    dsimp only
    rw [Call.emit_bind, Call.modify_bind]
    have hArmed : d.Framed [.armed session armed] (d.withArm (some armed)) := by
      refine ⟨rfl, rfl, fun hCaptured => hCaptured, ?_⟩
      intro k work hMem
      cases List.mem_singleton.mp hMem
    refine hArmed.trans ?_
    rw [startCapture, Call.get_bind]
    cases env.startCapture (some (d.withArm (some armed)).config.audio.device) with
    | ok recording =>
      dsimp only
      rw [Call.modify_bind]
      generalize hCapturing : (d.withArm (some armed)).capturing recording profileName env.now = d'
      have hFirst : (d.withArm (some armed)).Framed [] d' := by
        rw [← hCapturing]
        obtain ⟨profile, hConfigured⟩ := hProfile
        exact ⟨rfl, rfl, fun _ _ => ⟨profileName, profile, rfl, hConfigured⟩,
          fun _ _ hMem => absurd hMem List.not_mem_nil⟩
      exact hFirst.trans (Within.bind framed_composes
        (fun d => (untouched_command (.captureReady session) d).framed)
        (fun _ => .pure framed_composes session.value) d')
    | error error =>
      exact (Within.bind untouched_composes untouched_cancelLease (fun _ =>
        .bind untouched_composes (untouched_modify (f := fun d => d.withArm none) fun _ =>
          ⟨rfl, rfl, rfl, rfl, fun _ _ => List.not_mem_nil⟩) fun _ => .bind untouched_composes
            (untouched_attempt (.fail session error))
            fun _ => .throw untouched_composes (mapError error)) _).framed

theorem startProfile_configured {d : VoxTypeDaemon} {profile profileName : String}
    (h : startProfile d profile = .ok profileName) :
    ∃ selected, d.config.profiles.get? profileName = some selected := by
  rw [startProfile] at h
  split at h
  · cases h
  · cases hProfile : d.config.profile (if profile.isEmpty then none else some profile) with
    | none =>
      rw [hProfile] at h
      cases h
    | some found =>
      rw [hProfile] at h
      dsimp only at h
      split at h
      · cases h
      · cases h
        rw [Config.profile, Option.map_eq_some_iff] at hProfile
        obtain ⟨selected, hSelected, hFound⟩ := hProfile
        refine ⟨selected, ?_⟩
        rw [← hFound]
        exact hSelected

theorem framed_start (profile : String) : Within Framed (start env profile) := by
  intro d
  rw [start, Call.get_bind]
  cases hCheck : startProfile d profile with
  | error error => exact framed_composes.refl d
  | ok profileName =>
    refine Within.bind_at framed_composes (untouched_command _ d).framed fun effect hEffect => ?_
    cases effect with
    | beginCapture session request =>
      exact framed_beginSession (startProfile_configured hCheck)
    | _ => exact framed_composes.refl _

theorem framed_toggle (profile : String) : Within Framed (toggle env profile) := by
  refine .bind framed_composes (.get framed_composes) fun d => ?_
  split
  · exact framed_stop ""
  · exact framed_start profile

theorem framed_enforce : Within Framed (enforceRecordingDeadline env) := by
  refine .bind framed_composes (.get framed_composes) fun d => ?_
  split
  · exact .pure framed_composes _
  · split
    · exact .pure framed_composes _
    · exact .bind framed_composes (framed_stop "") fun _ => .pure framed_composes _

/-- A result is delivered to a machine that is finalizing, which has no capture. -/
theorem framed_poll {d : VoxTypeDaemon}
    (hFinal : ∀ session, d.state = .finalizing session → d.recording = none) :
    d.Framed ((pollRecognition env).run d).trace ((pollRecognition env).run d).state := by
  have hFinish : ∀ job received, d.Framed ((finishJob env job received).run d).trace
      ((finishJob env job received).run d).state := by
    intro job received
    rw [finishJob, Call.modify_bind, Call.get_bind]
    have hJob : d.Framed [] (d.withJob none) :=
      ⟨rfl, rfl, id, fun _ _ hMem => absurd hMem List.not_mem_nil⟩
    suffices hRest : (d.withJob none).Framed _ _ from hJob.trans hRest
    split
    · rename_i hCurrent
      have hNone := hFinal job.session ((current_iff (d.withJob none) job.session).mp hCurrent)
      exact (closed_finishCurrent job received (d.withJob none) hNone).2
    · exact (Within.bind untouched_composes (untouched_removeRecording job.recordingPath)
        (fun _ => .pure untouched_composes true) (d.withJob none)).framed
  rw [pollRecognition, Call.get_bind]
  cases d.recognitionJob with
  | none => exact framed_composes.refl d
  | some job =>
    dsimp only
    cases env.tryRecv job.channel with
    | empty => exact framed_composes.refl d
    | disconnected => exact hFinish job _
    | received result => exact hFinish job result

theorem framed_release (d : VoxTypeDaemon) :
    d.Framed (d.captureEffects ++ d.jobEffects ++ d.lease) d.released :=
  ⟨rfl, rfl, fun _ => VoxTypeDaemon.captured_none rfl,
    fun k work hMem => absurd hMem (starts_none (release_inert d) k work)⟩

theorem framed_cancel (requested : String) : Within Framed (cancel requested) := by
  intro d
  have hOutcome := cancel_outcome d requested
  generalize (cancel requested).run d = o at hOutcome ⊢
  cases hOutcome with
  | refused => exact framed_composes.refl d
  | rejected => exact ⟨rfl, rfl, id, by simp⟩
  | @cancelled session _ _ =>
    refine ⟨rfl, (d.app.apply_providers (.cancel session)).registry,
      fun _ => VoxTypeDaemon.captured_none rfl, ?_⟩
    intro k work hMem
    exact absurd hMem (starts_none (inert_append (inert_command _ _) (release_inert d)) k work)

theorem framed_quit : Within Framed quit := by
  intro d
  rw [quit_run]
  exact ⟨rfl, rfl, fun _ => VoxTypeDaemon.captured_none rfl, (framed_release d).routes⟩

end Framed

end Daemon

end VoxType
