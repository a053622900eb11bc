import VoxType.Core.SessionHistory
import VoxType.Daemon.Steps

/-!
# The session history of the daemon

Every operation replays its commands on the session machine, whether or not
they are refused for want of room.
-/

namespace VoxType

set_option autoImplicit false

def DaemonEffect.entry : DaemonEffect → Option SessionEntry
  | .command c answer => some (c, answer)
  | _ => none

/-- The calls of the session machine, with their answers. -/
def commandLog (trace : List DaemonEffect) : List SessionEntry :=
  trace.filterMap DaemonEffect.entry

@[simp] theorem commandLog_append (left right : List DaemonEffect) :
    commandLog (left ++ right) = commandLog left ++ commandLog right := List.filterMap_append

def Replays (d : VoxTypeDaemon) (trace : List DaemonEffect) (d' : VoxTypeDaemon) : Prop :=
  ∀ log, (begun (log ++ commandLog trace)).length ≤ u64Max →
    SessionHistory log d.app.machine → SessionHistory (log ++ commandLog trace) d'.app.machine

namespace Replays

open Effects (Call)
open Effects.Call (Composes Within)

theorem composes : Composes Replays where
  refl d log _ h := by
    rw [commandLog, List.filterMap_nil, List.append_nil]
    exact h
  trans := by
    intro d d' d'' first second hFirst hSecond log hBound h
    rw [commandLog_append, ← List.append_assoc] at hBound ⊢
    refine hSecond _ hBound (hFirst log ?_ h)
    rw [begun_append, List.length_append] at hBound
    omega

/-- A step that leaves the machine alone and issues no command. -/
theorem silent {d d' : VoxTypeDaemon} {trace : List DaemonEffect}
    (hMachine : d'.app.machine = d.app.machine) (hTrace : commandLog trace = []) :
    Replays d trace d' := by
  intro log _ h
  rw [hTrace, List.append_nil, hMachine]
  exact h

theorem command (c : Command) : Within Replays (Daemon.applyCommand c) := by
  intro d log hBound h
  rw [Daemon.applyCommand_run] at hBound ⊢
  change SessionHistory (log ++ [(c, d.answer c)]) (d.app.apply c).2.machine
  change (begun (log ++ [(c, d.answer c)])).length ≤ u64Max at hBound
  rcases d.app.apply_cases c with ⟨error, hApply⟩ | ⟨e, m', _, hAccepts, hApply⟩
  · rw [VoxTypeDaemon.answer, hApply]
    exact h.rejected c error
  · rw [VoxTypeDaemon.answer, hApply] at hBound ⊢
    rw [AppController.publish_machine]
    exact h.accepted hAccepts hBound

theorem modify {f : VoxTypeDaemon → VoxTypeDaemon}
    (hMachine : ∀ d : VoxTypeDaemon, (f d).app.machine = d.app.machine) :
    Within Replays (Call.modify f : DaemonCall PUnit) :=
  fun d => silent (hMachine d) rfl

theorem emit {effect : DaemonEffect} (hEntry : effect.entry = none) :
    Within Replays (Call.emit effect : DaemonCall PUnit) := by
  intro d
  refine silent rfl ?_
  rw [Call.emit_run, commandLog, List.filterMap_cons_none hEntry, List.filterMap_nil]

theorem commandLog_lease (d : VoxTypeDaemon) : commandLog d.lease = [] := by
  rw [commandLog, List.filterMap_eq_nil_iff]
  intro effect hMem
  obtain ⟨arm, _, rfl⟩ := List.mem_map.mp hMem
  rfl

theorem cancelLease : Within Replays Daemon.cancelLease :=
  fun d => silent rfl (commandLog_lease d)

theorem removeRecording (path : String) : Within Replays (Daemon.removeRecording path) := by
  refine .bind composes (.get composes) fun d => ?_
  split
  · exact .pure composes ()
  · exact emit rfl

theorem mapped (c : Command) :
    Within Replays ((Daemon.applyCommand c).mapError mapError) := .mapError _ (command c)

/-- A command whose answer is dropped, before the call goes on. -/
theorem dropped {α : Type} (c : Command) {x : DaemonCall α} (hx : Within Replays x) :
    Within Replays (do
      let _ ← Call.attempt (Daemon.applyCommand c)
      x : DaemonCall α) := .bind composes (.attempt (command c)) fun _ => hx

variable (env : Environment)

theorem activeSessionId (requested : String) :
    Within Replays (Daemon.activeSessionId requested) := by
  refine .bind composes (.get composes) fun d => ?_
  split
  · exact .throw composes _
  · split
    · exact .pure composes _
    · exact .throw composes _

theorem startCapture (profileName : String) (session : SessionId) :
    Within Replays (Daemon.startCapture env profileName session) := by
  refine .bind composes (.get composes) fun d => ?_
  split
  · exact .bind composes (modify fun _ => rfl) fun _ =>
      .bind composes (mapped _) fun _ => .pure composes _
  · exact .bind composes cancelLease fun _ => .bind composes (modify fun _ => rfl) fun _ =>
      dropped _ (.throw composes _)

theorem start (profile : String) : Within Replays (Daemon.start env profile) := by
  refine .bind composes (.get composes) fun d => ?_
  split
  · exact .throw composes _
  · refine .bind composes (mapped _) fun effect => ?_
    split
    · refine .bind composes (.get composes) fun d => ?_
      split
      · exact .bind composes (emit rfl) fun _ => .bind composes (modify fun _ => rfl) fun _ =>
          startCapture env _ _
      · exact dropped _ (.throw composes _)
    · exact .throw composes _

theorem checkMinimumDuration (session : SessionId) (audio : CapturedAudio) :
    Within Replays (Daemon.checkMinimumDuration session audio) := by
  refine .bind composes (.get composes) fun d => ?_
  split
  · exact .pure composes _
  · exact .bind composes cancelLease fun _ => .bind composes (mapped _) fun _ => .pure composes _

theorem checkVoiceActivity (session : SessionId) (audio : CapturedAudio) :
    Within Replays (Daemon.checkVoiceActivity env session audio) := by
  refine .bind composes (.get composes) fun d => ?_
  split
  · exact .pure composes _
  · split
    · exact .throw composes _
    · split
      · split
        · exact .throw composes _
        · exact .pure composes _
      · exact .bind composes cancelLease fun _ => .bind composes (mapped _) fun _ =>
          .pure composes _

theorem planRecognition (session : SessionId) (audio : CapturedAudio)
    (vadResult : Option Vad.VadResult) (audioMillis : Nat) :
    Within Replays (Daemon.planRecognition env session audio vadResult audioMillis) := by
  refine .bind composes (.get composes) fun d => ?_
  split
  · exact .throw composes _
  · split
    · exact .throw composes _
    · split
      · exact dropped _ (.throw composes _)
      · rw [Daemon.spawnRecognition]
        split
        · exact .throw composes _
        · exact .bind composes (emit rfl) fun _ => .bind composes (modify fun _ => rfl) fun _ =>
            .pure composes _

theorem beginRecognition (session : SessionId) (audio : CapturedAudio) :
    Within Replays (Daemon.beginRecognition env session audio) := by
  refine .bind composes (checkMinimumDuration session audio) fun response => ?_
  split
  · exact .pure composes _
  · refine .bind composes (checkVoiceActivity env session audio) fun activity => ?_
    split
    · exact .pure composes _
    · exact planRecognition env session audio _ _

theorem failNonterminalSession (session : SessionId) (code message : String) :
    Within Replays (Daemon.failNonterminalSession session code message) := by
  refine .bind composes (.get composes) fun d => ?_
  split
  · exact dropped _ (.pure composes ())
  · exact .pure composes ()

theorem processCapture (session : SessionId) (audio : CapturedAudio) :
    Within Replays (Daemon.processCapture env session audio) := by
  refine .bind composes (.attempt (beginRecognition env session audio)) fun response => ?_
  have settle : Within Replays (do
      let d ← Call.get
      if d.recognitionJob.isNone then do
        Daemon.removeRecording audio.path
        Call.modify VoxTypeDaemon.withoutTarget
      else pure ()
      Call.ofExcept response : DaemonCall String) := by
    refine .bind composes (.get composes) fun d => ?_
    dsimp only
    split
    · exact .bind composes (removeRecording _) fun _ => .bind composes (modify fun _ => rfl)
        fun _ => .ofExcept composes response
    · exact .ofExcept composes response
  dsimp only
  split
  · exact .bind composes (failNonterminalSession _ _ _) fun _ => .bind composes cancelLease
      fun _ => settle
  · exact settle

theorem stop (requested : String) : Within Replays (Daemon.stop env requested) := by
  refine .bind composes (activeSessionId requested) fun active => .bind composes ?_ fun _ =>
    .bind composes (mapped _) fun _ => .bind composes (.get composes) fun d => ?_
  · exact modify fun d => by rw [Daemon.telemetry_app]
  · split
    · exact .throw composes _
    · refine .bind composes (modify fun _ => rfl) fun _ => .bind composes (emit rfl) fun _ => ?_
      split
      · exact processCapture env active _
      · exact dropped _ (.throw composes _)

theorem toggle (profile : String) : Within Replays (Daemon.toggle env profile) := by
  refine .bind composes (.get composes) fun d => ?_
  split
  · exact stop env ""
  · exact start env profile

theorem releaseWork : Within Replays Daemon.releaseWork := by
  refine .bind composes ?_ fun _ => .bind composes ?_ fun _ =>
    .bind composes (modify fun _ => rfl) fun _ => cancelLease
  · refine .bind composes (.get composes) fun d => ?_
    split
    · exact .pure composes ()
    · exact emit rfl
  · refine .bind composes (.get composes) fun d => ?_
    split
    · exact .pure composes ()
    · exact .bind composes (emit rfl) fun _ => emit rfl

theorem cancel (requested : String) : Within Replays (Daemon.cancel requested) :=
  .bind composes (activeSessionId requested) fun _ => .bind composes (mapped _) fun _ =>
    .bind composes releaseWork fun _ => modify fun _ => rfl

theorem quit : Within Replays Daemon.quit :=
  .bind composes releaseWork fun _ => modify fun _ => rfl

theorem reset : Within Replays Daemon.reset :=
  .bind composes (mapped _) fun _ => .pure composes ()

theorem reloadConfiguration : Within Replays (Daemon.reloadConfiguration env) := by
  refine .bind composes (.get composes) fun d => ?_
  split
  · exact .throw composes _
  · split
    · exact .throw composes _
    · split
      · exact .throw composes _
      · exact modify fun _ => rfl

theorem enforceRecordingDeadline : Within Replays (Daemon.enforceRecordingDeadline env) := by
  refine .bind composes (.get composes) fun d => ?_
  split
  · exact .pure composes _
  · split
    · exact .pure composes _
    · exact .bind composes (stop env "") fun _ => .pure composes _

theorem insertText (session : SessionId) (text : String) :
    Within Replays (Daemon.insertText env session text) := by
  refine .bind composes (.get composes) fun d => ?_
  split
  · exact .throw composes _
  · split
    · exact .throw composes _
    · exact .bind composes (fun d => silent rfl rfl) fun _ => .ofExcept composes _

theorem finishSession (session : SessionId) (outcome errorCode backend : String)
    (charCount : Nat) :
    Within Replays (Daemon.finishSession session outcome errorCode backend charCount) :=
  fun d => silent (d.app.finishSession_machine session outcome errorCode backend charCount) rfl

theorem deliver (job : RecognitionJob) (outcome : Except VoxError RecognitionSuccess) :
    Within Replays (Daemon.deliver env job outcome) := by
  cases outcome with
  | error error => exact dropped _ (.throw composes _)
  | ok success =>
    refine .bind composes (mapped _) fun effect => ?_
    split
    · refine .bind composes (.attempt (insertText env _ _)) fun answer => ?_
      split
      · refine .bind composes (mapped _) fun _ => .bind composes (.mapError _ (finishSession _ _ _ _ _))
          fun _ => .bind composes (modify fun d => ?_) fun _ => .pure composes _
        rw [VoxTypeDaemon.remember_app]
      · exact dropped _ (.throw composes _)
    · exact .throw composes _

theorem finishJob (job : RecognitionJob) (received : RecognitionRouteResult) :
    Within Replays (Daemon.finishJob env job received) := by
  refine .bind composes (modify fun _ => rfl) fun _ => .bind composes (.get composes) fun d => ?_
  split
  · refine .bind composes (modify fun d => ?_) fun _ =>
      .bind composes (.attempt (deliver env job _)) fun result => ?_
    · exact (d.app.recordRouteResult_lifecycle received job.audioMillis env.now).1
    · have cleanup : ∀ result : Except FdoError String, Within Replays (do
          Daemon.cleanupRecognitionJob job
          Call.modify VoxTypeDaemon.withoutTarget
          let _ ← Call.ofExcept result
          pure true : DaemonCall Bool) := fun result =>
        .bind composes (removeRecording _) fun _ => .bind composes (modify fun _ => rfl) fun _ =>
          .bind composes (.ofExcept composes result) fun _ => .pure composes _
      dsimp only
      split
      · exact .bind composes cancelLease fun _ => cleanup _
      · exact cleanup _
  · exact .bind composes (removeRecording _) fun _ => .pure composes _

theorem pollRecognition : Within Replays (Daemon.pollRecognition env) := by
  refine .bind composes (.get composes) fun d => ?_
  split
  · exact .pure composes _
  · split
    · exact .pure composes _
    · exact finishJob env _ _
    · exact finishJob env _ _

theorem system_step (self : System) (i : SystemInput) :
    Replays self.daemon (self.step i).1.effects (self.step i).2.daemon := by
  cases i with
  | start env profile => exact start _ profile self.daemon
  | stop env session => exact stop _ session self.daemon
  | toggle env profile => exact toggle _ profile self.daemon
  | cancel session => exact cancel session self.daemon
  | reset => exact reset self.daemon
  | reloadConfiguration env => exact reloadConfiguration _ self.daemon
  | enforceRecordingDeadline env => exact enforceRecordingDeadline _ self.daemon
  | pollRecognition env => exact pollRecognition _ self.daemon
  | pollAudioTelemetry env =>
    exact silent (congrArg AppController.machine (Daemon.telemetry_app _ self.daemon)) rfl
  | quit => exact quit self.daemon
  | drainEvents | workerReturns | workerExits | workerNotifies => exact silent rfl rfl

end Replays

/-- The machine of the daemon has the history its commands give it. -/
theorem daemon_history (config : Config) (registry : ProviderRegistry) (wake : WakeHandle)
    (inputs : List SystemInput)
    (hStarts : (begun (commandLog (effects
      ((systemMachine config registry wake).log inputs)))).length ≤ u64Max) :
    SessionHistory (commandLog (effects ((systemMachine config registry wake).log inputs)))
      ((systemMachine config registry wake).state inputs).daemon.app.machine := by
  induction inputs using List.reverseRecOn with
  | nil => exact initial_history
  | append_singleton inputs i ih =>
    rw [Transition.Machine.log_snoc, effects_snoc, commandLog_append] at hStarts ⊢
    rw [Transition.Machine.state_snoc]
    refine Replays.system_step _ i _ hStarts (ih ?_)
    rw [begun_append, List.length_append] at hStarts
    omega

end VoxType
