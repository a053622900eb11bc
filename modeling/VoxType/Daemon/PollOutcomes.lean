import VoxType.Daemon.Commands

/-! # What `poll_recognition` can do -/

namespace VoxType

set_option autoImplicit false

namespace VoxTypeDaemon

/-- `self.app.finish_session` for an insertion that has succeeded. -/
def finished (self : VoxTypeDaemon) (session : SessionId) (backend : String) (charCount : Nat) :
    VoxTypeDaemon :=
  { self with app := (self.app.finishSession session "completed" "" backend charCount).2 }

@[simp] theorem remember_app (self : VoxTypeDaemon) (text : String) :
    (self.remember text).app = self.app := by
  rw [remember]
  split <;> rfl

theorem remember_work (self : VoxTypeDaemon) (text : String) :
    (self.remember text).recording = self.recording ∧
      (self.remember text).recordingStartedAt = self.recordingStartedAt ∧
      (self.remember text).recognitionJob = self.recognitionJob ∧
      (self.remember text).armedInsertion = self.armedInsertion ∧
      (self.remember text).activeProfile = self.activeProfile ∧
      (self.remember text).config = self.config := by
  rw [remember]
  split <;> exact ⟨rfl, rfl, rfl, rfl, rfl, rfl⟩

end VoxTypeDaemon

namespace Daemon

open Effects (Call)
open Effects.Call (get modify emit throw attempt ofExcept)

variable (env : Environment) (d : VoxTypeDaemon)

/-- What `insert_text` passes to the adapter, and what comes back. -/
inductive Insertion (session : SessionId) (text : String) :
    List DaemonEffect → Except VoxError InsertionOutcome → Prop
  | notArmed (error : VoxError) : Insertion session text [] (.error error)
  | committed {arm : InsertionArm} (hArm : d.armedInsertion = some arm)
    (hSession : arm.session = session) :
    Insertion session text [.committed session d.state arm text (env.commit arm text)]
      (env.commit arm text)

theorem insertion_run (session : SessionId) (text : String) :
    ∃ effects answer, Insertion env d session text effects answer ∧
      (insertText env session text).run d = ⟨answer, d, effects⟩ := by
  rw [insertText, Call.get_bind]
  cases hArm : d.armedInsertion with
  | none => exact ⟨[], _, .notArmed _, rfl⟩
  | some arm =>
    dsimp only
    split
    · exact ⟨[], _, .notArmed _, rfl⟩
    · rename_i hSession
      exact ⟨_, _, .committed hArm (not_not.mp hSession), rfl⟩

/-- What a delivered outcome does to a machine that is finalizing the session. -/
inductive DeliverOutcome (job : RecognitionJob) :
    Except VoxError RecognitionSuccess → DaemonOutcome String → Prop
  | failed (hRoom : d.Room) (error : VoxError) :
    DeliverOutcome job (.error error) ⟨.error (.failed error.toString),
      d.applied (.fail job.session error),
      [.command (.fail job.session error) (.ok (.cancelWork job.session))]⟩
  | blank (hRoom : d.Room) {success : RecognitionSuccess}
    (hBlank : RustText.isBlank success.transcript.text = true) {error : VoxError}
    (hError : error.code = "transcript.empty") :
    DeliverOutcome job (.ok success) ⟨.error (mapError error), d,
      [.command (.transcriptReady job.session success.transcript.text) (.error error)]⟩
  | notInserted (hRoom : d.Room) {success : RecognitionSuccess}
    (hText : RustText.isBlank success.transcript.text = false)
    (hRoom' : (d.applied (.transcriptReady job.session success.transcript.text)).Room)
    {effects : List DaemonEffect} {cause : VoxError}
    (hInsertion : Insertion env (d.applied (.transcriptReady job.session success.transcript.text))
      job.session success.transcript.text effects (.error cause)) :
    DeliverOutcome job (.ok success) ⟨.error (mapError cause),
      (d.applied (.transcriptReady job.session success.transcript.text)).applied
        (.fail job.session cause),
      .command (.transcriptReady job.session success.transcript.text)
          (.ok (.insertText job.session success.transcript.text)) ::
        (effects ++ [.command (.fail job.session cause) (.ok (.cancelWork job.session))])⟩
  | inserted (hRoom : d.Room) {success : RecognitionSuccess}
    (hText : RustText.isBlank success.transcript.text = false)
    (hRoom' : (d.applied (.transcriptReady job.session success.transcript.text)).Room)
    {effects : List DaemonEffect} {insertion : InsertionOutcome}
    (hInsertion : Insertion env (d.applied (.transcriptReady job.session success.transcript.text))
      job.session success.transcript.text effects (.ok insertion)) (response : String) :
    DeliverOutcome job (.ok success) ⟨.ok response,
      ((((d.applied (.transcriptReady job.session success.transcript.text)).applied
        (.insertionComplete job.session)).finished job.session insertion.backend
          success.transcript.text.length).remember success.transcript.text),
      .command (.transcriptReady job.session success.transcript.text)
          (.ok (.insertText job.session success.transcript.text)) ::
        (effects ++ [.command (.insertionComplete job.session) (.ok .none),
          .finished job.session (.ok ())])⟩
  | cut (hRoom : d.Room) {success : RecognitionSuccess}
    (hText : RustText.isBlank success.transcript.text = false)
    (hFull : ¬ (d.applied (.transcriptReady job.session success.transcript.text)).Room)
    {effects : List DaemonEffect} {answer : Except VoxError InsertionOutcome}
    (hInsertion : Insertion env (d.applied (.transcriptReady job.session success.transcript.text))
      job.session success.transcript.text effects answer) (error : FdoError) (refused : Command) :
    DeliverOutcome job (.ok success) ⟨.error error,
      d.applied (.transcriptReady job.session success.transcript.text),
      .command (.transcriptReady job.session success.transcript.text)
          (.ok (.insertText job.session success.transcript.text)) ::
        (effects ++ [.command refused (.error backpressureError)])⟩
  | full (hFull : ¬ d.Room) {outcome : Except VoxError RecognitionSuccess} (error : FdoError)
    (refused : Command) :
    DeliverOutcome job outcome ⟨.error error, d, [.command refused (.error backpressureError)]⟩

theorem finishSession_run {session : SessionId} {backend : String} {charCount : Nat}
    (hRoom : d.app.events.length ≠ maxPendingEvents) :
    ((finishSession session "completed" "" backend charCount).mapError mapError).run d =
      ⟨.ok (), d.finished session backend charCount, [.finished session (.ok ())]⟩ := by
  have hFinish := AppController.finishSession_room hRoom session "completed" "" backend charCount
  rw [Call.mapError, finishSession, VoxTypeDaemon.finished]
  simp only [hFinish]
  rfl

theorem recordInsertion_run {session : SessionId} {text : String} (providerId : String)
    (vadResult : Option Vad.VadResult) (insertion : InsertionOutcome) (hRoom : d.Room)
    (hState : d.state = .inserting session text) :
    ∃ response, (recordInsertion session providerId text vadResult insertion).run d =
      ⟨.ok response, (((d.applied (.insertionComplete session)).finished session insertion.backend
        text.length).remember text),
        [.command (.insertionComplete session) (.ok .none), .finished session (.ok ())]⟩ := by
  have hAccepts := SessionMachine.Accepts.insertionComplete (m := d.app.machine) hState
  have hAnswer := VoxTypeDaemon.answer_accepts hRoom hAccepts
  have hEvents := VoxTypeDaemon.events_applied hRoom hAccepts
  have hFinish : (d.applied (.insertionComplete session)).app.events.length ≠
      maxPendingEvents := by
    rw [hEvents]
    unfold VoxTypeDaemon.Room at hRoom
    simp only [Command.record, Command.terminal, Option.map_none, Option.toList_none,
      List.length_nil]
    unfold maxPendingEvents at *
    omega
  rw [recordInsertion, Call.bind_ok (mapped_ok d hAnswer), Call.bind_ok (finishSession_run _ hFinish),
    Call.modify_bind]
  exact ⟨_, rfl⟩

theorem recordInsertion_full {session : SessionId} {providerId text : String}
    {vadResult : Option Vad.VadResult} {insertion : InsertionOutcome} (hFull : ¬ d.Room) :
    (recordInsertion session providerId text vadResult insertion).run d =
      ⟨.error (mapError backpressureError), d,
        [.command (.insertionComplete session) (.error backpressureError)]⟩ := by
  obtain ⟨hAnswer, hApplied⟩ := VoxTypeDaemon.answer_full hFull (.insertionComplete session)
  rw [recordInsertion, Call.bind_error (mapped_error d hAnswer), hApplied]

theorem deliver_outcome (job : RecognitionJob) (outcome : Except VoxError RecognitionSuccess)
    (hState : d.state = .finalizing job.session) :
    DeliverOutcome env d job outcome ((deliver env job outcome).run d) := by
  have hSession : d.state.session = some job.session := by rw [hState]; rfl
  cases outcome with
  | error error =>
    rw [deliver, failRecognition, attempt_throw_run]
    by_cases hRoom : d.Room
    · rw [VoxTypeDaemon.answer_accepts hRoom (.fail error hSession)]
      exact .failed hRoom error
    · obtain ⟨hAnswer, hApplied⟩ := VoxTypeDaemon.answer_full hRoom (.fail job.session error)
      rw [hAnswer, hApplied]
      exact .full hRoom _ _
  | ok success =>
    rw [deliver, completeRecognition]
    by_cases hRoom : d.Room
    · cases hText : RustText.isBlank success.transcript.text with
      | true =>
        have hAnswer : d.answer (.transcriptReady job.session success.transcript.text) =
            .error (VoxError.new .protocol "transcript.empty"
              "provider returned an empty final transcript") := by
          have hMachine : d.app.machine.apply (.transcriptReady job.session
              success.transcript.text) = (.error (VoxError.new .protocol "transcript.empty"
                "provider returned an empty final transcript"), d.app.machine) := by
            change d.app.machine.state = _ at hState
            simp [SessionMachine.apply, SessionMachine.transcriptReady, hState, hText]
          rw [VoxTypeDaemon.answer, AppController.apply, if_neg (Nat.not_lt.mpr hRoom), hMachine]
        rw [Call.bind_error (mapped_error d hAnswer), VoxTypeDaemon.applied_error hAnswer]
        exact .blank hRoom hText rfl
      | false =>
        have hAccepts := SessionMachine.Accepts.transcriptReady (m := d.app.machine) hState hText
        rw [Call.bind_ok (mapped_ok d (VoxTypeDaemon.answer_accepts hRoom hAccepts))]
        have hInserting := VoxTypeDaemon.state_applied hRoom hAccepts
        generalize hNext : d.applied (.transcriptReady job.session success.transcript.text) = next
          at hInserting ⊢
        obtain ⟨effects, answer, hInsertion, hRun⟩ :=
          insertion_run env next job.session success.transcript.text
        dsimp only
        rw [Call.attempt_bind, hRun]
        subst hNext
        cases answer with
        | ok insertion =>
          dsimp only
          by_cases hRoom' : (d.applied (.transcriptReady job.session
              success.transcript.text)).Room
          · obtain ⟨response, hRecord⟩ := recordInsertion_run _ success.providerId.value
              job.vadResult insertion hRoom' hInserting
            rw [hRecord]
            exact .inserted hRoom hText hRoom' hInsertion response
          · rw [recordInsertion_full _ hRoom']
            exact .cut hRoom hText hRoom' hInsertion _ _
        | error cause =>
          dsimp only
          rw [attempt_throw_run, Call.after_mk, Call.after_mk]
          by_cases hRoom' : (d.applied (.transcriptReady job.session
              success.transcript.text)).Room
          · rw [VoxTypeDaemon.answer_accepts hRoom' (.fail cause (by
              change (VoxTypeDaemon.state _).session = _
              rw [hInserting]
              rfl))]
            exact .notInserted hRoom hText hRoom' hInsertion
          · obtain ⟨hAnswer, hApplied⟩ :=
              VoxTypeDaemon.answer_full hRoom' (.fail job.session cause)
            rw [hAnswer, hApplied]
            exact .cut hRoom hText hRoom' hInsertion _ _
    · obtain ⟨hAnswer, hApplied⟩ := VoxTypeDaemon.answer_full hRoom
        (.transcriptReady job.session success.transcript.text)
      rw [Call.bind_error (mapped_error d hAnswer), hApplied]
      exact .full hRoom _ _

/-- The target is released when the outcome could not be delivered. -/
def releaseOnError (o : DaemonOutcome String) : List DaemonEffect :=
  match o.result with
  | .error _ => o.state.lease
  | .ok _ => []

/-- What the daemon receives from the channel of its job. -/
inductive Receives (job : RecognitionJob) : RecognitionRouteResult → Prop
  | received {result : RecognitionRouteResult} (h : env.tryRecv job.channel = .received result) :
    Receives job result
  | disconnected (h : env.tryRecv job.channel = .disconnected) : Receives job workerDisconnected

/-- The state in which a received result is delivered. -/
def receiving (job : RecognitionJob) (received : RecognitionRouteResult) : VoxTypeDaemon :=
  (d.withJob none).recorded received job.audioMillis env.now

inductive PollOutcome : DaemonOutcome Bool → Prop
  | idle (hIdle : ∀ job, d.recognitionJob = some job → env.tryRecv job.channel = .empty) :
    PollOutcome ⟨.ok false, d, []⟩
  | stale {job : RecognitionJob} (hJob : d.recognitionJob = some job)
    (hState : d.state ≠ .finalizing job.session) :
    PollOutcome ⟨.ok true, d.withJob none, d.removal job.recordingPath⟩
  | delivered {job : RecognitionJob} {received : RecognitionRouteResult}
    (hJob : d.recognitionJob = some job) (hReceives : Receives env job received)
    (hState : d.state = .finalizing job.session) {o : DaemonOutcome String}
    (hDeliver : DeliverOutcome env (receiving env d job received) job received.outcome o) :
    PollOutcome ⟨o.result.map fun _ => true, o.state.withoutTarget,
      o.trace ++ releaseOnError o ++ o.state.removal job.recordingPath⟩

theorem receiving_lifecycle (job : RecognitionJob) (received : RecognitionRouteResult) :
    (receiving env d job received).state = d.state ∧
      (receiving env d job received).app.events = d.app.events ∧
      (receiving env d job received).app.machine = d.app.machine := by
  obtain ⟨hMachine, hEvents, _⟩ :=
    d.app.recordRouteResult_lifecycle received job.audioMillis env.now
  exact ⟨congrArg SessionMachine.state hMachine, hEvents, hMachine⟩

theorem current_iff (session : SessionId) :
    (d.state.name = "finalizing" ∧ d.state.session = some session) ↔
      d.state = .finalizing session := by
  cases d.state <;> simp [SessionState.name, SessionState.session]

theorem finishCurrentJob_run {job : RecognitionJob} {received : RecognitionRouteResult}
    {o : DaemonOutcome String}
    (hRun : (deliver env job received.outcome).run
      (d.recorded received job.audioMillis env.now) = o) :
    (finishCurrentJob env job received).run d =
      ⟨o.result.map fun _ => true, o.state.withoutTarget,
        o.trace ++ releaseOnError o ++ o.state.removal job.recordingPath⟩ := by
  rw [finishCurrentJob, Call.modify_bind, Call.attempt_bind, hRun, releaseOnError]
  cases o.result with
  | error error =>
    dsimp only
    rw [Call.bind_ok (cancelLease_run _), cleanupRecognitionJob,
      Call.bind_ok (removeRecording_run _ _)]
    simp [Except.map]
  | ok response =>
    dsimp only
    rw [cleanupRecognitionJob, Call.bind_ok (removeRecording_run _ _)]
    simp [Except.map]

theorem finishJob_outcome {job : RecognitionJob} {received : RecognitionRouteResult}
    (hJob : d.recognitionJob = some job) (hReceives : Receives env job received) :
    PollOutcome env d ((finishJob env job received).run d) := by
  have hSame : (d.withJob none).state = d.state := rfl
  rw [finishJob, Call.modify_bind, Call.get_bind]
  by_cases hState : d.state = .finalizing job.session
  · rw [if_pos ((current_iff _ _).mpr (hSame.trans hState)), finishCurrentJob_run env _ rfl]
    exact .delivered hJob hReceives hState (deliver_outcome env (receiving env d job received) job
      received.outcome ((receiving_lifecycle env d job received).1.trans hState))
  · rw [if_neg (fun h => hState ((hSame.symm.trans ((current_iff _ _).mp h)))),
      cleanupRecognitionJob, Call.bind_ok (removeRecording_run _ _), Call.pure_run, Call.after_mk,
      List.append_nil]
    exact .stale hJob hState

theorem poll_outcome : PollOutcome env d ((pollRecognition env).run d) := by
  rw [pollRecognition, Call.get_bind]
  cases hJob : d.recognitionJob with
  | none => exact .idle (by simp [hJob])
  | some job =>
    dsimp only
    cases hReceived : env.tryRecv job.channel with
    | empty =>
      refine .idle ?_
      intro other hOther
      rw [hJob] at hOther
      cases hOther
      exact hReceived
    | disconnected => exact finishJob_outcome env d hJob (.disconnected hReceived)
    | received result => exact finishJob_outcome env d hJob (.received hReceived)

end Daemon

end VoxType
