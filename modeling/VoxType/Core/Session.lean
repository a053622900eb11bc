import VoxType.Core.Error
import VoxType.Library.Run
import VoxType.Library.Text

/-!
# The session machine

A command on `&mut self` becomes a function to the answer and the new
machine; a rejected command returns the machine it leaves behind.
-/

namespace VoxType

set_option autoImplicit false

def u16Max : Nat := 2 ^ 16 - 1

def u32Max : Nat := 2 ^ 32 - 1

def u64Max : Nat := 2 ^ 64 - 1

structure SessionId where
  value : String
  deriving DecidableEq, Repr

def SessionId.fromCounter (counter : Nat) : SessionId := ⟨s!"session-{counter}"⟩

inductive TriggerMode
  | pushToTalk
  | toggle
  deriving DecidableEq, Repr

structure StartRequest where
  mode : TriggerMode
  profile : Option String
  deriving DecidableEq, Repr

inductive Command
  | start (request : StartRequest)
  | stop (session : SessionId)
  | cancel (session : SessionId)
  | captureReady (session : SessionId)
  | captureStopped (session : SessionId)
  | noSpeech (session : SessionId)
  | transcriptReady (session : SessionId) (text : String)
  | insertionComplete (session : SessionId)
  | fail (session : SessionId) (error : VoxError)
  | reset
  deriving DecidableEq, Repr

inductive SessionState
  | idle
  | preparing (session : SessionId) (mode : TriggerMode)
  | listening (session : SessionId) (mode : TriggerMode)
  | finalizing (session : SessionId)
  | inserting (session : SessionId) (text : String)
  | completed (session : SessionId)
  | cancelled (session : SessionId)
  | failed (session : SessionId) (error : VoxError)
  deriving DecidableEq, Repr

namespace SessionState

def name : SessionState → String
  | idle => "idle"
  | preparing .. => "preparing"
  | listening .. => "listening"
  | finalizing .. => "finalizing"
  | inserting .. => "inserting"
  | completed .. => "completed"
  | cancelled .. => "cancelled"
  | failed .. => "failed"

def session : SessionState → Option SessionId
  | idle => none
  | preparing session _
  | listening session _
  | finalizing session
  | inserting session _
  | completed session
  | cancelled session
  | failed session _ => some session

/-- The states `start` folds back to idle. -/
def isTerminal : SessionState → Bool
  | completed _ | cancelled _ | failed .. => true
  | _ => false

/-- The states `reset` refuses. -/
def isActive : SessionState → Bool
  | preparing .. | listening .. | finalizing _ | inserting .. => true
  | _ => false

end SessionState

inductive CommandEffect
  | none
  | beginCapture (session : SessionId) (request : StartRequest)
  | stopCapture (session : SessionId)
  | cancelWork (session : SessionId)
  | insertText (session : SessionId) (text : String)
  deriving DecidableEq, Repr

structure SessionMachine where
  state : SessionState
  nextId : Nat
  deriving DecidableEq, Repr

def invalidState (message : String) : VoxError :=
  VoxError.new .invalidState "session.invalid_state" message

def ensureSession (active requested : SessionId) : Except VoxError Unit :=
  if active = requested then .ok ()
  else .error (VoxError.new .invalidArgument "session.id_mismatch"
    "command targets a different session")

namespace SessionMachine

/-- `Default` -/
def initial : SessionMachine := { state := .idle, nextId := 1 }

def start (self : SessionMachine) (request : StartRequest) :
    Except VoxError CommandEffect × SessionMachine :=
  let self := if self.state.isTerminal then { self with state := .idle } else self
  if self.state ≠ .idle then (.error (invalidState "a session is already active"), self)
  else
    let session := SessionId.fromCounter self.nextId
    (.ok (.beginCapture session request),
      { state := .preparing session request.mode, nextId := min (self.nextId + 1) u64Max })

def stop (self : SessionMachine) (requested : SessionId) :
    Except VoxError CommandEffect × SessionMachine :=
  match self.state with
  | .listening session _ =>
    match ensureSession session requested with
    | .error error => (.error error, self)
    | .ok () => (.ok (.stopCapture session), { self with state := .finalizing session })
  | _ => (.error (invalidState "stop requires a listening session"), self)

def cancel (self : SessionMachine) (requested : SessionId) :
    Except VoxError CommandEffect × SessionMachine :=
  match self.state.session with
  | .none => (.error (invalidState "there is no session to cancel"), self)
  | .some active =>
    match ensureSession active requested with
    | .error error => (.error error, self)
    | .ok () => (.ok (.cancelWork active), { self with state := .cancelled active })

def captureReady (self : SessionMachine) (requested : SessionId) :
    Except VoxError CommandEffect × SessionMachine :=
  match self.state with
  | .preparing session mode =>
    match ensureSession session requested with
    | .error error => (.error error, self)
    | .ok () => (.ok .none, { self with state := .listening session mode })
  | _ => (.error (invalidState "capture-ready requires a preparing session"), self)

def captureStopped (self : SessionMachine) (requested : SessionId) :
    Except VoxError CommandEffect × SessionMachine :=
  match self.state with
  | .listening session _ =>
    match ensureSession session requested with
    | .error error => (.error error, self)
    | .ok () => (.ok .none, { self with state := .finalizing session })
  | _ => (.error (invalidState "capture-stopped requires a listening session"), self)

def transcriptReady (self : SessionMachine) (requested : SessionId) (text : String) :
    Except VoxError CommandEffect × SessionMachine :=
  match self.state with
  | .finalizing session =>
    match ensureSession session requested with
    | .error error => (.error error, self)
    | .ok () =>
      if RustText.isBlank text then
        (.error (VoxError.new .protocol "transcript.empty"
          "provider returned an empty final transcript"), self)
      else (.ok (.insertText session text), { self with state := .inserting session text })
  | _ => (.error (invalidState "a final transcript requires a finalizing session"), self)

def noSpeech (self : SessionMachine) (requested : SessionId) :
    Except VoxError CommandEffect × SessionMachine :=
  match self.state with
  | .finalizing session =>
    match ensureSession session requested with
    | .error error => (.error error, self)
    | .ok () => (.ok .none, { self with state := .completed session })
  | _ => (.error (invalidState "no-speech requires a finalizing session"), self)

def insertionComplete (self : SessionMachine) (requested : SessionId) :
    Except VoxError CommandEffect × SessionMachine :=
  match self.state with
  | .inserting session _ =>
    match ensureSession session requested with
    | .error error => (.error error, self)
    | .ok () => (.ok .none, { self with state := .completed session })
  | _ => (.error (invalidState "insertion-complete requires an inserting session"), self)

def fail (self : SessionMachine) (requested : SessionId) (error : VoxError) :
    Except VoxError CommandEffect × SessionMachine :=
  match self.state.session with
  | .none => (.error (invalidState "there is no active session to fail"), self)
  | .some active =>
    match ensureSession active requested with
    | .error mismatch => (.error mismatch, self)
    | .ok () => (.ok (.cancelWork requested), { self with state := .failed active error })

def reset (self : SessionMachine) : Except VoxError CommandEffect × SessionMachine :=
  if self.state.isActive then (.error (invalidState "cannot reset an active session"), self)
  else (.ok .none, { self with state := .idle })

def apply (self : SessionMachine) : Command → Except VoxError CommandEffect × SessionMachine
  | .start request => self.start request
  | .stop session => self.stop session
  | .cancel session => self.cancel session
  | .captureReady session => self.captureReady session
  | .captureStopped session => self.captureStopped session
  | .noSpeech session => self.noSpeech session
  | .transcriptReady session text => self.transcriptReady session text
  | .insertionComplete session => self.insertionComplete session
  | .fail session error => self.fail session error
  | .reset => self.reset

end SessionMachine

/-- Sequences of `SessionMachine::apply` calls from the default state. -/
def sessionMachine :
    Transition.Machine SessionMachine Command (Except VoxError CommandEffect) where
  start := SessionMachine.initial
  step := SessionMachine.apply

end VoxType
