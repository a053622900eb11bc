import VoxType.Fcitx.Context
import VoxType.Library.Run

/-!
# The Fcitx bridge

The addon and the input contexts of its host. Contexts come, change, lose and
gain focus and are destroyed at any time; a destroyed one never comes back.
-/

namespace VoxType.Fcitx

set_option autoImplicit false

structure CapabilityFlags where
  password : Bool
  sensitive : Bool
  surroundingText : Bool
  multiline : Bool
  terminal : Bool
  spellCheck : Bool
  deriving DecidableEq, Repr

structure SurroundingText where
  isValid : Bool
  text : Bytes
  cursor : Nat
  anchor : Nat
  deriving DecidableEq, Repr

structure InputContext where
  program : Bytes
  frontendName : Bytes
  hasFocus : Bool
  capabilityFlags : CapabilityFlags
  surroundingText : SurroundingText
  deriving DecidableEq, Repr

def isSecure (context : InputContext) : Bool :=
  context.capabilityFlags.password || context.capabilityFlags.sensitive

/-- Contexts by the order they were created in; `none` stands for a destroyed one. -/
structure Instance where
  contexts : List (Option InputContext)
  lastFocused : Option Nat
  deriving DecidableEq, Repr

namespace Instance

def context (self : Instance) (id : Nat) : Option InputContext := (self.contexts[id]?).join

/-- The object behind a reference, unless it is null or destroyed. -/
def get (self : Instance) (reference : Option Nat) : Option (Nat × InputContext) :=
  reference.bind fun id => (self.context id).map fun context => (id, context)

def lastFocusedInputContext (self : Instance) : Option (Nat × InputContext) :=
  self.get self.lastFocused

def update (self : Instance) (id : Nat) (f : InputContext → InputContext) : Instance :=
  { self with contexts := self.contexts.modify id (Option.map f) }

end Instance

inductive ContextEvent
  | created (context : InputContext)
  | destroyed (id : Nat)
  | focusIn (id : Nat)
  | focusOut (id : Nat)
  | capabilityChanged (id : Nat) (flags : CapabilityFlags)
  | surroundingTextUpdated (id : Nat) (text : SurroundingText)
  | lastFocusedChanged (last : Option Nat)

/-- The events of `watchContextEvents` -/
def ContextEvent.watched : ContextEvent → Bool
  | focusIn _ | focusOut _ | capabilityChanged _ _ | surroundingTextUpdated _ _ => true
  | _ => false

def Instance.happens (self : Instance) : ContextEvent → Instance
  | .created context => { self with contexts := self.contexts ++ [some context] }
  | .destroyed id => { self with contexts := self.contexts.set id none }
  | .focusIn id =>
    { self.update id fun context => { context with hasFocus := true } with lastFocused := some id }
  | .focusOut id => self.update id fun context => { context with hasFocus := false }
  | .capabilityChanged id flags =>
    self.update id fun context => { context with capabilityFlags := flags }
  | .surroundingTextUpdated id text =>
    self.update id fun context => { context with surroundingText := text }
  | .lastFocusedChanged last => { self with lastFocused := last }

structure Sender where
  address : Bytes
  length : Nat
  deriving DecidableEq, Repr

/-- What a commit was checked against. The deferred callback reads none of it. -/
structure Checked where
  session : Bytes
  context : Nat
  deriving DecidableEq, Repr

/-- The deferred callback, with what its closure holds. -/
inductive PendingCommit
  | legacy (checked : Checked) (pendingText : Bytes) (sender : Sender)
  | commit2 (checked : Checked)
  deriving DecidableEq, Repr

def PendingCommit.checked : PendingCommit → Checked
  | legacy checked _ _ => checked
  | commit2 checked => checked

structure VoxTypeBridge where
  pendingCommit : Option PendingCommit
  armedContext : Option Nat
  armedSession : Bytes
  legacyCommitPending : Bool
  pendingRequestId : Bytes
  pendingSession : Bytes
  pendingText : Bytes
  pendingSender : Sender
  completedRequestId : Bytes
  completedSession : Bytes
  completedTextSize : Nat
  completedTextFingerprint : UInt64
  completedResponse : Bytes
  contextGeneration : UInt64
  deriving DecidableEq

def VoxTypeBridge.initial : VoxTypeBridge where
  pendingCommit := none
  armedContext := none
  armedSession := []
  legacyCommitPending := false
  pendingRequestId := []
  pendingSession := []
  pendingText := []
  pendingSender := ⟨[], 0⟩
  completedRequestId := []
  completedSession := []
  completedTextSize := 0
  completedTextFingerprint := 0
  completedResponse := []
  contextGeneration := 1

inductive BridgeEffect
  | armed (session : Bytes) (context : Nat)
  | scheduled (checked : Checked) (requestId : Option Bytes) (text : Bytes)
  | committed (checked : Checked) (requestId : Option Bytes) (context : Nat) (text : Bytes)
  | completed (requestId response : Bytes)
  | sent (value : Bytes) (recipient : Sender)
  deriving DecidableEq

structure Addon where
  instance_ : Instance
  bridge : VoxTypeBridge
  deriving DecidableEq

def ok (detail : String) : Bytes := response (ascii "OK") (ascii detail)

def err (detail : String) : Bytes := response (ascii "ERR") (ascii detail)

namespace VoxTypeBridge

def clear (self : VoxTypeBridge) : VoxTypeBridge :=
  { self with
    pendingCommit := none
    legacyCommitPending := false
    pendingRequestId := []
    pendingSession := []
    pendingText := []
    pendingSender := { self.pendingSender with length := 0 }
    armedContext := none
    armedSession := [] }

def busy (self : VoxTypeBridge) : Bool := self.legacyCommitPending || !self.pendingRequestId.isEmpty

end VoxTypeBridge

/-- A response that is still to be sent, or effects after which nothing is sent. -/
abbrev Turn : Type := List BridgeEffect × Addon

namespace Addon

def withBridge (self : Addon) (bridge : VoxTypeBridge) : Addon := { self with bridge }

def sends (self : Addon) (value : Bytes) (recipient : Sender) : Turn :=
  ([.sent value recipient], self)

def arm (self : Addon) (session : Bytes) (sender : Sender) : Turn :=
  match self.instance_.lastFocusedInputContext with
  | none => self.sends (err "no-focused-context") sender
  | some (id, context) =>
    if !context.hasFocus then self.sends (err "no-focused-context") sender
    else if isSecure context then self.sends (err "secure-context") sender
    else
      ([.armed session id,
        .sent (ok "armed" ++ 0 :: context.program ++ 0 :: context.frontendName) sender],
        self.withBridge { self.bridge with armedContext := some id, armedSession := session })

def contextResponse (self : Addon) : Bytes :=
  match self.instance_.lastFocusedInputContext with
  | none => err "no-focused-context"
  | some (_, context) =>
    if !context.hasFocus then err "no-focused-context"
    else if isSecure context then err "secure-context"
    else
      let flags := context.capabilityFlags
      let capabilities := appendCapability [] flags.surroundingText (ascii "surrounding-text")
      let capabilities := appendCapability capabilities flags.multiline (ascii "multiline")
      let capabilities := appendCapability capabilities flags.terminal (ascii "terminal")
      let capabilities := appendCapability capabilities flags.spellCheck (ascii "spell-check")
      let surrounding := context.surroundingText
      let readable := flags.surroundingText && surrounding.isValid
      if readable && surrounding.text.contains 0 then err "unsupported-text"
      else
        let window :=
          if readable then boundedContext surrounding.text surrounding.cursor surrounding.anchor
          else .empty
        ok "context" ++ 0 :: context.program ++ 0 :: context.frontendName ++
          0 :: ascii (toString self.bridge.contextGeneration) ++
          0 :: ascii (toString window.cursor) ++ 0 :: ascii (toString window.anchor) ++
          0 :: capabilities ++ 0 :: ascii (if window.truncated then "1" else "0") ++
          0 :: window.text

/-- The checks `commit` and `commit2` make alike, once no other commit is pending. -/
inductive Admission
  | refused (clears : Bool) (value : Bytes)
  | admitted (context : Nat)
  deriving DecidableEq

def admission (self : Addon) (session text : Bytes) : Admission :=
  if session ≠ self.bridge.armedSession then .refused false (err "session-mismatch")
  else
    match self.instance_.get self.bridge.armedContext with
    | none => .refused true (err "focus-changed")
    | some (id, context) =>
      if !context.hasFocus ||
          self.instance_.lastFocusedInputContext.map Prod.fst ≠ some id then
        .refused true (err "focus-changed")
      else if isSecure context then .refused true (err "secure-context")
      else if text.isEmpty then .refused false (err "empty-text")
      else .admitted id

/-- The answer to a commit that is not admitted. -/
def refuse (self : Addon) (clears : Bool) (value : Bytes) (sender : Sender) : Turn :=
  (if clears then self.withBridge self.bridge.clear else self).sends value sender

def commit (self : Addon) (session text : Bytes) (sender : Sender) : Turn :=
  if self.bridge.busy then self.sends (err "commit-busy") sender
  else
    match self.admission session text with
    | .refused clears value => self.refuse clears value sender
    | .admitted context =>
      ([.scheduled ⟨session, context⟩ none text],
        self.withBridge { self.bridge with
          legacyCommitPending := true
          pendingCommit := some (.legacy ⟨session, context⟩ text sender) })

def commit2 (self : Addon) (requestId session text : Bytes) (sender : Sender) : Turn :=
  if requestId.isEmpty then self.sends (err "request-id-required") sender
  else if requestId = self.bridge.completedRequestId then
    if session = self.bridge.completedSession ∧ text.length = self.bridge.completedTextSize ∧
        textFingerprint text = self.bridge.completedTextFingerprint then
      self.sends self.bridge.completedResponse sender
    else self.sends (err "request-id-mismatch") sender
  else if requestId = self.bridge.pendingRequestId then
    if session = self.bridge.pendingSession ∧ text = self.bridge.pendingText then
      ([], self.withBridge { self.bridge with pendingSender := sender })
    else self.sends (err "request-id-mismatch") sender
  else if self.bridge.busy then self.sends (err "commit-busy") sender
  else
    match self.admission session text with
    | .refused clears value => self.refuse clears value sender
    | .admitted context =>
      ([.scheduled ⟨session, context⟩ (some requestId) text],
        self.withBridge { self.bridge with
          pendingRequestId := requestId
          pendingSession := session
          pendingText := text
          pendingSender := sender
          pendingCommit := some (.commit2 ⟨session, context⟩) })

def cancel (self : Addon) (session : Bytes) (sender : Sender) : Turn :=
  if !self.bridge.armedSession.isEmpty ∧ session ≠ self.bridge.armedSession then
    self.sends (err "session-mismatch") sender
  else (self.withBridge self.bridge.clear).sends (ok "cancelled") sender

/-- What the callback finds behind the armed reference. -/
inductive Dispatch
  | committed (context : Nat)
  | refused (value : Bytes)
  deriving DecidableEq

def dispatch (self : Addon) : Dispatch :=
  match self.instance_.get self.bridge.armedContext with
  | none => .refused (err "focus-changed")
  | some (id, context) =>
    if context.hasFocus && self.instance_.lastFocusedInputContext.map Prod.fst = some id &&
        !isSecure context then
      .committed id
    else if isSecure context then .refused (err "secure-context")
    else .refused (err "focus-changed")

def Dispatch.effects (checked : Checked) (requestId : Option Bytes) (text : Bytes) :
    Dispatch → List BridgeEffect
  | .committed context => [.committed checked requestId context text]
  | .refused _ => []

def Dispatch.result (success : Bytes) : Dispatch → Bytes
  | .committed _ => success
  | .refused value => value

/-- The event loop runs the deferred callback, where one is left. -/
def deferred (self : Addon) : Turn :=
  match self.bridge.pendingCommit with
  | none => ([], self)
  | some (.legacy checked pendingText sender) =>
    let found := self.dispatch
    (found.effects checked none pendingText ++ [.sent (found.result (ok "dispatched")) sender],
      self.withBridge { self.bridge with
        pendingCommit := none
        armedContext := none
        armedSession := []
        legacyCommitPending := false })
  | some (.commit2 checked) =>
    let bridge := self.bridge
    let found := self.dispatch
    let result := found.result (dispatchedResponse bridge.pendingRequestId)
    (found.effects checked (some bridge.pendingRequestId) bridge.pendingText ++
      [.completed bridge.pendingRequestId result, .sent result bridge.pendingSender],
      self.withBridge { bridge with
        pendingCommit := none
        completedRequestId := bridge.pendingRequestId
        completedSession := bridge.pendingSession
        completedTextSize := bridge.pendingText.length
        completedTextFingerprint := textFingerprint bridge.pendingText
        completedResponse := result
        pendingRequestId := []
        pendingSession := []
        pendingText := []
        pendingSender := { bridge.pendingSender with length := 0 }
        armedContext := none
        armedSession := [] })

/-- `receive`; `message` is the whole datagram, before the buffer truncates it. -/
def receive (self : Addon) (message : Bytes) (sender : Sender) : Turn :=
  if message.isEmpty then ([], self)
  else if maxDatagramSize < message.length then self.sends (err "message-too-large") sender
  else
    let command := field message 0
    if command = ascii "PING" then self.sends (ok "ready") sender
    else if command = ascii "CONTEXT" then self.sends self.contextResponse sender
    else if command = ascii "ARM" then self.arm (field message 1) sender
    else if command = ascii "COMMIT" then self.commit (field message 1) (field message 2) sender
    else if command = ascii "COMMIT2" then
      self.commit2 (field message 1) (field message 2) (field message 3) sender
    else if command = ascii "CANCEL" then self.cancel (field message 1) sender
    else self.sends (err "unknown-command") sender

end Addon

inductive BridgeInput
  | datagram (message : Bytes) (sender : Sender)
  | deferred
  | context (event : ContextEvent)

namespace Addon

def step (self : Addon) : BridgeInput → Turn
  | .datagram message sender => self.receive message sender
  | .deferred => self.deferred
  | .context event =>
    let generation := self.bridge.contextGeneration
    ([], { instance_ := self.instance_.happens event
           bridge := { self.bridge with
             contextGeneration := if event.watched then generation + 1 else generation } })

end Addon

/-- Runs of a new addon in a host with no contexts yet. -/
def bridgeMachine : Transition.Machine Addon BridgeInput (List BridgeEffect) where
  start := { instance_ := ⟨[], none⟩, bridge := .initial }
  step := Addon.step

abbrev BridgeEntry : Type := BridgeInput × List BridgeEffect

def bridgeEffects (log : List BridgeEntry) : List BridgeEffect := log.flatMap Prod.snd

@[simp] theorem bridgeEffects_append (left right : List BridgeEntry) :
    bridgeEffects (left ++ right) = bridgeEffects left ++ bridgeEffects right :=
  List.flatMap_append

@[simp] theorem bridgeEffects_snoc (log : List BridgeEntry) (entry : BridgeEntry) :
    bridgeEffects (log ++ [entry]) = bridgeEffects log ++ entry.2 := by
  rw [bridgeEffects_append]
  exact congrArg _ (List.append_nil _)

end VoxType.Fcitx
