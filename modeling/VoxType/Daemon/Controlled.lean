import VoxType.Daemon.Steps

/-!
# Operations as calls on the controller

An operation touches the controller through five of its methods. Whatever these
keep is kept by every operation.
-/

namespace VoxType

set_option autoImplicit false

/-- An effect outside the controller. -/
def DaemonEffect.Outside : DaemonEffect → Prop
  | .command _ _ | .finished _ _ | .drained _ => False
  | _ => True

/-- The command that `finish_session` has to follow. -/
def Command.completes : Command → Bool
  | .insertionComplete _ => true
  | _ => false

/-- The part of `complete_recognition` after the accepted transcript. -/
def Daemon.handOver (env : Environment) (session : SessionId) (providerId text : String)
    (vadResult : Option Vad.VadResult) : DaemonCall String := do
  match ← Effects.Call.attempt (insertText env session text) with
  | .ok insertion => recordInsertion session providerId text vadResult insertion
  | .error error => do
    let _ ← Effects.Call.attempt (applyCommand (.fail session error))
    Effects.Call.throw (mapError error)

/-- Relations that hold of the commands, and of everything that leaves the controller alone. -/
structure Commanded (R : VoxTypeDaemon → List DaemonEffect → VoxTypeDaemon → Prop) : Prop where
  composes : Effects.Call.Composes R
  quiet : ∀ {d d' : VoxTypeDaemon} {trace : List DaemonEffect}, d'.app = d.app →
    (∀ effect ∈ trace, effect.Outside) → R d trace d'
  command : ∀ c, c.completes = false → Effects.Call.Within R (Daemon.applyCommand c)

/-- Relations that hold of all calls on the controller. -/
structure Controlled (R : VoxTypeDaemon → List DaemonEffect → VoxTypeDaemon → Prop) : Prop
    extends Commanded R where
  notified : ∀ {d d' : VoxTypeDaemon}, d'.app = d.app.notify → R d [] d'
  replaced : ∀ {d d' : VoxTypeDaemon} (registry : ProviderRegistry),
    d'.app = d.app.replaceRegistry registry → R d [] d'
  recorded : ∀ (d : VoxTypeDaemon) (result : RecognitionRouteResult) (audioMillis now : Nat),
    R d [] (d.recorded result audioMillis now)
  drained : ∀ {d d' : VoxTypeDaemon}, d'.app = d.app.drainEvents.2 → R d [.drained d.app.events] d'
  handed : ∀ (env : Environment) (session : SessionId) (providerId text : String)
    (vadResult : Option Vad.VadResult),
    Effects.Call.Within R (Daemon.handOver env session providerId text vadResult)

namespace Commanded

open Effects (Call)
open Effects.Call (Within)

variable {R : VoxTypeDaemon → List DaemonEffect → VoxTypeDaemon → Prop} (h : Commanded R)

include h

theorem modify {f : VoxTypeDaemon → VoxTypeDaemon} (hApp : ∀ d : VoxTypeDaemon, (f d).app = d.app) :
    Within R (Call.modify f : DaemonCall PUnit) := by
  intro d
  apply h.quiet (hApp d)
  simp

theorem emit {effect : DaemonEffect} (hOutside : effect.Outside) :
    Within R (Call.emit effect : DaemonCall PUnit) := by
  intro d
  apply h.quiet rfl
  simpa using hOutside

theorem cancelLease : Within R Daemon.cancelLease := by
  intro d
  apply h.quiet rfl
  intro effect hMem
  obtain ⟨arm, _, rfl⟩ := List.mem_map.mp hMem
  trivial

theorem removeRecording (path : String) : Within R (Daemon.removeRecording path) := by
  refine .bind h.composes (.get h.composes) fun d => ?_
  split
  · exact .pure h.composes _
  · exact h.emit trivial

theorem mapped (c : Command) (hOther : c.completes = false) :
    Within R ((Daemon.applyCommand c).mapError mapError) := .mapError _ (h.command c hOther)

/-- A command whose answer is dropped, before the call goes on. -/
theorem dropped {α : Type} (c : Command) (hOther : c.completes = false)
    {x : DaemonCall α} (hx : Within R x) :
    Within R (do
      let _ ← Call.attempt (Daemon.applyCommand c)
      x : DaemonCall α) := .bind h.composes (.attempt (h.command c hOther)) fun _ => hx

theorem activeSessionId (requested : String) : Within R (Daemon.activeSessionId requested) := by
  refine .bind h.composes (.get h.composes) fun d => ?_
  split
  · exact .throw h.composes _
  · split
    · exact .pure h.composes _
    · exact .throw h.composes _

section Start

theorem startCapture (env : Environment) (profileName : String) (session : SessionId) :
    Within R (Daemon.startCapture env profileName session) := by
  refine .bind h.composes (.get h.composes) fun d => ?_
  split
  · exact .bind h.composes (h.modify fun _ => rfl) fun _ =>
      .bind h.composes (h.mapped _ rfl) fun _ => .pure h.composes _
  · exact .bind h.composes h.cancelLease fun _ => .bind h.composes (h.modify fun _ => rfl) fun _ =>
      h.dropped _ rfl (.throw h.composes _)

theorem start (env : Environment) (profile : String) : Within R (Daemon.start env profile) := by
  refine .bind h.composes (.get h.composes) fun d => ?_
  split
  · exact .throw h.composes _
  · refine .bind h.composes (h.mapped _ rfl) fun effect => ?_
    split
    · refine .bind h.composes (.get h.composes) fun d => ?_
      split
      · exact .bind h.composes (h.emit trivial) fun _ =>
          .bind h.composes (h.modify fun _ => rfl) fun _ => h.startCapture env _ _
      · exact h.dropped _ rfl (.throw h.composes _)
    · exact .throw h.composes _

end Start

section Stop

theorem telemetry (env : Environment) : Within R (Daemon.pollAudioTelemetry env) :=
  h.modify fun d => Daemon.telemetry_app env d

theorem noSpeech {α : Type} (session : SessionId) (value : α) :
    Within R (do
      Daemon.cancelLease
      let _ ← (Daemon.applyCommand (.noSpeech session)).mapError mapError
      pure value : DaemonCall α) :=
  .bind h.composes h.cancelLease fun _ => .bind h.composes (h.mapped _ rfl) fun _ =>
    .pure h.composes _

theorem checkMinimumDuration (session : SessionId) (audio : CapturedAudio) :
    Within R (Daemon.checkMinimumDuration session audio) := by
  refine .bind h.composes (.get h.composes) fun d => ?_
  split
  · exact .pure h.composes _
  · exact h.noSpeech session _

theorem checkVoiceActivity (env : Environment) (session : SessionId) (audio : CapturedAudio) :
    Within R (Daemon.checkVoiceActivity env session audio) := by
  refine .bind h.composes (.get h.composes) fun d => ?_
  split
  · exact .pure h.composes _
  · split
    · exact .throw h.composes _
    · split
      · split
        · exact .throw h.composes _
        · exact .pure h.composes _
      · exact h.noSpeech session _

theorem spawnRecognition (env : Environment) (work : RecognitionWork) (job : RecognitionJob) :
    Within R (Daemon.spawnRecognition env work job) := by
  rw [Daemon.spawnRecognition]
  split
  · exact .throw h.composes _
  · exact .bind h.composes (h.emit trivial) fun _ =>
      .bind h.composes (h.modify fun _ => rfl) fun _ => .pure h.composes _

theorem planRecognition (env : Environment) (session : SessionId) (audio : CapturedAudio)
    (vadResult : Option Vad.VadResult) (audioMillis : Nat) :
    Within R (Daemon.planRecognition env session audio vadResult audioMillis) := by
  refine .bind h.composes (.get h.composes) fun d => ?_
  split
  · exact .throw h.composes _
  · split
    · exact .throw h.composes _
    · split
      · exact h.dropped _ rfl (.throw h.composes _)
      · exact h.spawnRecognition env _ _

theorem beginRecognition (env : Environment) (session : SessionId) (audio : CapturedAudio) :
    Within R (Daemon.beginRecognition env session audio) := by
  refine .bind h.composes (h.checkMinimumDuration session audio) fun response => ?_
  split
  · exact .pure h.composes _
  · refine .bind h.composes (h.checkVoiceActivity env session audio) fun activity => ?_
    split
    · exact .pure h.composes _
    · exact h.planRecognition env session audio _ _

theorem failNonterminalSession (session : SessionId) (code message : String) :
    Within R (Daemon.failNonterminalSession session code message) := by
  refine .bind h.composes (.get h.composes) fun d => ?_
  split
  · exact h.dropped _ rfl (.pure h.composes _)
  · exact .pure h.composes _

theorem processCapture (env : Environment) (session : SessionId) (audio : CapturedAudio) :
    Within R (Daemon.processCapture env session audio) := by
  refine .bind h.composes (.attempt (h.beginRecognition env session audio)) fun response => ?_
  have settle : Within R (do
      let d ← Call.get
      if d.recognitionJob.isNone then do
        Daemon.removeRecording audio.path
        Call.modify VoxTypeDaemon.withoutTarget
      else pure ()
      Call.ofExcept response : DaemonCall String) := by
    refine .bind h.composes (.get h.composes) fun d => ?_
    dsimp only
    split
    · exact .bind h.composes (h.removeRecording _) fun _ =>
        .bind h.composes (h.modify fun _ => rfl) fun _ => .ofExcept h.composes response
    · exact .ofExcept h.composes response
  dsimp only
  split
  · exact .bind h.composes (h.failNonterminalSession _ _ _) fun _ =>
      .bind h.composes h.cancelLease fun _ => settle
  · exact settle

theorem stop (env : Environment) (requested : String) : Within R (Daemon.stop env requested) := by
  refine .bind h.composes (h.activeSessionId requested) fun active =>
    .bind h.composes (h.telemetry env) fun _ => .bind h.composes (h.mapped _ rfl) fun _ =>
      .bind h.composes (.get h.composes) fun d => ?_
  split
  · exact .throw h.composes _
  · refine .bind h.composes (h.modify fun _ => rfl) fun _ =>
      .bind h.composes (h.emit trivial) fun _ => ?_
    split
    · exact h.processCapture env active _
    · exact h.dropped _ rfl (.throw h.composes _)

theorem toggle (env : Environment) (profile : String) : Within R (Daemon.toggle env profile) := by
  refine .bind h.composes (.get h.composes) fun d => ?_
  split
  · exact h.stop env ""
  · exact h.start env profile

theorem enforceRecordingDeadline (env : Environment) :
    Within R (Daemon.enforceRecordingDeadline env) := by
  refine .bind h.composes (.get h.composes) fun d => ?_
  split
  · exact .pure h.composes _
  · split
    · exact .pure h.composes _
    · exact .bind h.composes (h.stop env "") fun _ => .pure h.composes _

end Stop

section Control

theorem releaseWork : Within R Daemon.releaseWork := by
  refine .bind h.composes ?_ fun _ => .bind h.composes ?_ fun _ =>
    .bind h.composes (h.modify fun _ => rfl) fun _ => h.cancelLease
  · refine .bind h.composes (.get h.composes) fun d => ?_
    split
    · exact .pure h.composes _
    · exact h.emit trivial
  · refine .bind h.composes (.get h.composes) fun d => ?_
    split
    · exact .pure h.composes _
    · exact .bind h.composes (h.emit trivial) fun _ => h.emit trivial

theorem cancel (requested : String) : Within R (Daemon.cancel requested) :=
  .bind h.composes (h.activeSessionId requested) fun _ => .bind h.composes (h.mapped _ rfl)
    fun _ => .bind h.composes h.releaseWork fun _ => h.modify fun _ => rfl

theorem reset : Within R Daemon.reset :=
  .bind h.composes (h.mapped _ rfl) fun _ => .pure h.composes _

end Control

end Commanded

namespace Controlled

open Effects (Call)
open Effects.Call (Within)

variable {R : VoxTypeDaemon → List DaemonEffect → VoxTypeDaemon → Prop} (h : Controlled R)

include h

theorem quit : Within R Daemon.quit :=
  .bind h.composes h.toCommanded.releaseWork fun _ _ => h.notified rfl

theorem reloadConfiguration (env : Environment) : Within R (Daemon.reloadConfiguration env) := by
  refine .bind h.composes (.get h.composes) fun d => ?_
  split
  · exact .throw h.composes _
  · split
    · exact .throw h.composes _
    · split
      · exact .throw h.composes _
      · exact fun _ => h.replaced _ rfl

section Poll

theorem deliver (env : Environment) (job : RecognitionJob)
    (outcome : Except VoxError RecognitionSuccess) : Within R (Daemon.deliver env job outcome) := by
  cases outcome with
  | error error => exact h.toCommanded.dropped _ rfl (.throw h.composes _)
  | ok success =>
    refine .bind h.composes (h.toCommanded.mapped _ rfl) fun effect => ?_
    split
    · exact h.handed env _ _ _ _
    · exact .throw h.composes _

theorem finishJob (env : Environment) (job : RecognitionJob) (received : RecognitionRouteResult) :
    Within R (Daemon.finishJob env job received) := by
  refine .bind h.composes (h.toCommanded.modify fun _ => rfl) fun _ =>
    .bind h.composes (.get h.composes) fun d => ?_
  split
  · refine .bind h.composes (fun d => h.recorded d received job.audioMillis env.now) fun _ =>
      .bind h.composes (.attempt (h.deliver env job _)) fun result => ?_
    have cleanup : Within R (do
        Daemon.cleanupRecognitionJob job
        Call.modify VoxTypeDaemon.withoutTarget
        let _ ← Call.ofExcept result
        pure true : DaemonCall Bool) :=
      .bind h.composes (h.toCommanded.removeRecording _) fun _ =>
        .bind h.composes (h.toCommanded.modify fun _ => rfl) fun _ =>
          .bind h.composes (.ofExcept h.composes result) fun _ => .pure h.composes _
    dsimp only
    split
    · exact .bind h.composes h.toCommanded.cancelLease fun _ => cleanup
    · exact cleanup
  · exact .bind h.composes (h.toCommanded.removeRecording _) fun _ => .pure h.composes _

theorem pollRecognition (env : Environment) : Within R (Daemon.pollRecognition env) := by
  refine .bind h.composes (.get h.composes) fun d => ?_
  split
  · exact .pure h.composes _
  · split
    · exact .pure h.composes _
    · exact h.finishJob env _ _
    · exact h.finishJob env _ _

end Poll

/-- The rule for the steps of the daemon with its workers. -/
theorem step (self : System) (i : SystemInput) :
    R self.daemon (self.step i).1.effects (self.step i).2.daemon := by
  cases i with
  | start env profile => exact h.toCommanded.start _ profile self.daemon
  | stop env session => exact h.toCommanded.stop _ session self.daemon
  | toggle env profile => exact h.toCommanded.toggle _ profile self.daemon
  | cancel session => exact h.toCommanded.cancel session self.daemon
  | reset => exact h.toCommanded.reset self.daemon
  | reloadConfiguration env => exact h.reloadConfiguration _ self.daemon
  | enforceRecordingDeadline env => exact h.toCommanded.enforceRecordingDeadline _ self.daemon
  | pollRecognition env => exact h.pollRecognition _ self.daemon
  | pollAudioTelemetry env => exact h.toCommanded.telemetry _ self.daemon
  | drainEvents => exact h.drained rfl
  | quit => exact h.quit self.daemon
  | workerNotifies => exact h.notified rfl
  | workerReturns | workerExits => exact h.quiet rfl (by simp [System.step, System.silent])

/-- The rule for a run from any state. -/
theorem runFrom (M : Transition.Machine System SystemInput SystemAnswer)
    (hStep : M.step = System.step) (self : System) (inputs : List SystemInput) :
    R self.daemon (effects (M.runFrom self inputs).1) (M.runFrom self inputs).2.daemon := by
  induction inputs generalizing self with
  | nil => exact h.composes.refl _
  | cons i inputs ih =>
    have hRest := ih (M.step self i).2
    rw [hStep] at hRest
    have hFirst := h.composes.trans (h.step self i) hRest
    simpa only [Transition.Machine.runFrom, hStep, effects, List.flatMap_cons] using hFirst

end Controlled

end VoxType
