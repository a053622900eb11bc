import VoxType.Daemon.State
import VoxType.Desktop.Restoration
import VoxType.Fcitx.ContextClient

/-!
# The desktop insertion adapter

A session is armed with one way of handing over its text, and its text goes
that way or not at all.
-/

namespace VoxType.Desktop

open Fcitx (Bytes FcitxTransport FcitxTarget ascii utf8)
open Effects.Call (Within Composes Yields)

set_option autoImplicit false

def parseArmResponse (response : Bytes) : Except VoxError FcitxTarget := do
  Fcitx.expectOk response
  let fields := response.splitOn 0
  let program ← Fcitx.parseIdentityField fields[2]?
  let frontend ← Fcitx.parseIdentityField fields[3]?
  pure ⟨program, frontend⟩

def armParts (session : SessionId) : List Bytes := [ascii "ARM", utf8 session.value]

/-- `FcitxBridge::arm_target` -/
def armTarget (bridge : FcitxTransport) (session : SessionId) : Except VoxError FcitxTarget := do
  let response ← bridge.request 0 (armParts session)
  parseArmResponse response

def mayAutoFallbackFromFcitx (error : VoxError) : Bool :=
  error.code == "fcitx.transport_failed" || error.code == "fcitx.runtime_unavailable"

structure DesktopInsertionAdapter where
  clipboard : ClipboardInserter

/-- What has become of a text: what the bridge answered, where it was asked, and what was run. -/
structure Handed where
  result : Except VoxError InsertionOutcome
  bridged : Option (Except VoxError Unit)
  commands : List DesktopEffect
  clipboard : Clipboard

namespace DesktopInsertionAdapter

def new (restoreClipboard : Bool) : DesktopInsertionAdapter :=
  ⟨ClipboardInserter.default.withRestore restoreClipboard⟩

def arm (bridge : FcitxTransport) (mode : InsertionMode) (session : SessionId) :
    Except VoxError InsertionArm :=
  match mode with
  | .auto =>
    match armTarget bridge session with
    | .ok _ => .ok ⟨session, "fcitx5"⟩
    | .error error =>
      if mayAutoFallbackFromFcitx error then .ok ⟨session, "copy-only"⟩ else .error error
  | .fcitx =>
    match armTarget bridge session with
    | .ok _ => .ok ⟨session, "fcitx5"⟩
    | .error error => .error error
  | .clipboard => .ok ⟨session, "wl-copy+ydotool"⟩
  | .copy => .ok ⟨session, "copy-only"⟩

/-- A call of the clipboard inserter, with its error under a code. -/
def viaClipboard (code : String) (call : DesktopCall InsertionResult) (clipboard : Clipboard) :
    Handed where
  result :=
    match (call.run clipboard).result with
    | .ok result => .ok ⟨result.backend, result.clipboardRestored⟩
    | .error error => .error (VoxError.new .unavailable code error.message)
  bridged := none
  commands := (call.run clipboard).trace
  clipboard := (call.run clipboard).state

def commit (self : DesktopInsertionAdapter) (bridge : FcitxTransport) (requestId : String)
    (env : Environment) (clipboard : Clipboard) (arm : InsertionArm) (text : String) : Handed :=
  if arm.backend = "fcitx5" then
    let answer := bridge.commit requestId arm.session text
    { result := answer.map fun _ => ⟨"fcitx5", true⟩
      bridged := some answer
      commands := []
      clipboard }
  else if arm.backend = "wl-copy+ydotool" then
    viaClipboard "desktop.insertion_failed" (self.clipboard.insert env text) clipboard
  else if arm.backend = "copy-only" then
    viaClipboard "desktop.copy_failed" (self.clipboard.copy env text) clipboard
  else
    { result := .error (VoxError.new .invalidState "desktop.invalid_arm"
        "insertion arm selected an unknown backend")
      bridged := none
      commands := []
      clipboard }

end DesktopInsertionAdapter

/-- A command that sends keys to whatever has the focus. -/
def DesktopEffect.SendsKeys : DesktopEffect → Prop
  | .ran program _ _ => program = "ydotool"
  | .slept _ => False

section Arming

variable {bridge : FcitxTransport} {session : SessionId}

theorem parseIdentityField_error {field : Option Bytes} {error : VoxError}
    (h : Fcitx.parseIdentityField field = .error error) :
    error.code = "fcitx.invalid_response" := by
  unfold Fcitx.parseIdentityField at h
  split at h
  · cases h
  · split at h
    · cases h
    · cases h
      rfl

/-- An answer of the addon is never taken for a missing addon. -/
theorem parseArmResponse_error {response : Bytes} {error : VoxError}
    (h : parseArmResponse response = .error error) : mayAutoFallbackFromFcitx error = false := by
  have hCode : error.code = "fcitx.bridge_rejected" ∨ error.code = "fcitx.invalid_response" := by
    unfold parseArmResponse at h
    cases hOk : Fcitx.expectOk response with
    | error rejected =>
      rw [hOk] at h
      cases h
      unfold Fcitx.expectOk at hOk
      dsimp only at hOk
      split at hOk
      · cases hOk
      · cases hOk
        exact .inl rfl
    | ok _ =>
      rw [hOk] at h
      cases hProgram : Fcitx.parseIdentityField (response.splitOn 0)[2]? with
      | error invalid =>
        simp only [hProgram] at h
        cases h
        exact .inr (parseIdentityField_error hProgram)
      | ok program =>
        simp only [hProgram] at h
        cases hFrontend : Fcitx.parseIdentityField (response.splitOn 0)[3]? with
        | error invalid =>
          simp only [hFrontend] at h
          cases h
          exact .inr (parseIdentityField_error hFrontend)
        | ok frontend =>
          simp only [hFrontend] at h
          cases h
  unfold mayAutoFallbackFromFcitx
  rcases hCode with hCode | hCode <;>
  · rw [hCode]
    decide

/-- What a session can be armed with. -/
inductive Armed (bridge : FcitxTransport) (session : SessionId) : InsertionMode → String → Prop
  | bridged {mode : InsertionMode} {response : Bytes} {target : FcitxTarget}
    (hMode : mode = .auto ∨ mode = .fcitx)
    (hAnswer : bridge.request 0 (armParts session) = .ok response)
    (hTarget : parseArmResponse response = .ok target) : Armed bridge session mode "fcitx5"
  | unanswered {error : VoxError} (hAnswer : bridge.request 0 (armParts session) = .error error)
    (hAbsent : mayAutoFallbackFromFcitx error = true) : Armed bridge session .auto "copy-only"
  | keys : Armed bridge session .clipboard "wl-copy+ydotool"
  | copied : Armed bridge session .copy "copy-only"

theorem armTarget_ok {target : FcitxTarget} (h : armTarget bridge session = .ok target) :
    ∃ response, bridge.request 0 (armParts session) = .ok response ∧
      parseArmResponse response = .ok target := by
  unfold armTarget at h
  cases hAnswer : bridge.request 0 (armParts session) with
  | error error =>
    rw [hAnswer] at h
    cases h
  | ok response =>
    rw [hAnswer] at h
    exact ⟨response, rfl, h⟩

theorem armTarget_absent {error : VoxError} (h : armTarget bridge session = .error error)
    (hAbsent : mayAutoFallbackFromFcitx error = true) :
    bridge.request 0 (armParts session) = .error error := by
  unfold armTarget at h
  cases hAnswer : bridge.request 0 (armParts session) with
  | error failed =>
    rw [hAnswer] at h
    cases h
    rfl
  | ok response =>
    rw [hAnswer] at h
    rw [parseArmResponse_error h] at hAbsent
    cases hAbsent

theorem arm_armed {mode : InsertionMode} {arm : InsertionArm}
    (h : DesktopInsertionAdapter.arm bridge mode session = .ok arm) :
    arm.session = session ∧ Armed bridge session mode arm.backend := by
  unfold DesktopInsertionAdapter.arm at h
  cases mode with
  | clipboard =>
    cases h
    exact ⟨rfl, .keys⟩
  | copy =>
    cases h
    exact ⟨rfl, .copied⟩
  | fcitx =>
    cases hTarget : armTarget bridge session with
    | error error =>
      simp only [hTarget] at h
      cases h
    | ok target =>
      simp only [hTarget] at h
      cases h
      obtain ⟨response, hAnswer, hParsed⟩ := armTarget_ok hTarget
      exact ⟨rfl, .bridged (.inr rfl) hAnswer hParsed⟩
  | auto =>
    cases hTarget : armTarget bridge session with
    | ok target =>
      simp only [hTarget] at h
      cases h
      obtain ⟨response, hAnswer, hParsed⟩ := armTarget_ok hTarget
      exact ⟨rfl, .bridged (.inl rfl) hAnswer hParsed⟩
    | error error =>
      simp only [hTarget] at h
      split at h
      · rename_i hAbsent
        cases h
        exact ⟨rfl, .unanswered (armTarget_absent hTarget hAbsent) hAbsent⟩
      · cases h

end Arming

section Committing

/-- No keys are sent. -/
def Silent (_ : Clipboard) (trace : List DesktopEffect) (_ : Clipboard) : Prop :=
  ∀ effect ∈ trace, ¬ effect.SendsKeys

theorem silent_composes : Composes Silent where
  refl clipboard effect hMem := by cases hMem
  trans := by
    intro clipboard clipboard' clipboard'' first second hFirst hSecond effect hMem
    rcases List.mem_append.mp hMem with hMem | hMem
    · exact hFirst effect hMem
    · exact hSecond effect hMem

theorem writeClipboard_silent (copy : WlCopy) (contents : Bytes) :
    Within Silent (writeClipboard copy contents) := by
  intro clipboard effect hMem
  rw [List.mem_singleton.mp hMem]
  simp [DesktopEffect.SendsKeys]

theorem copy_silent (inserter : ClipboardInserter) (env : Environment) (text : String) :
    Within Silent (inserter.copy env text) := by
  unfold ClipboardInserter.copy
  split
  · exact .throw silent_composes _
  · apply Within.bind silent_composes (writeClipboard_silent _ _)
    intro _
    exact .pure silent_composes _

theorem insert_backend (inserter : ClipboardInserter) (env : Environment) (text : String) :
    Yields (fun result => result.backend = "wl-copy+ydotool") (inserter.insert env text) := by
  unfold ClipboardInserter.insert
  split
  · exact .throw _
  · exact .last _ fun _ => .last _ fun _ => .last _ fun _ => .last _ fun _ => .last _ fun _ =>
      .pure rfl

theorem copy_backend (inserter : ClipboardInserter) (env : Environment) (text : String) :
    Yields (fun result => result.backend = "copy-only") (inserter.copy env text) := by
  unfold ClipboardInserter.copy
  split
  · exact .throw _
  · exact .last _ fun _ => .pure rfl

theorem viaClipboard_backend {code backend : String} {call : DesktopCall InsertionResult}
    (hCall : Yields (fun result => result.backend = backend) call) {clipboard : Clipboard}
    {outcome : InsertionOutcome}
    (h : (DesktopInsertionAdapter.viaClipboard code call clipboard).result = .ok outcome) :
    outcome.backend = backend := by
  unfold DesktopInsertionAdapter.viaClipboard at h
  dsimp only at h
  cases hResult : (call.run clipboard).result with
  | error error =>
    rw [hResult] at h
    cases h
  | ok result =>
    rw [hResult] at h
    cases h
    exact hCall _ _ hResult

/-- How the text of a session is handed over, by the mode it was armed in. -/
structure OneWay (bridge : FcitxTransport) (session : SessionId) (mode : InsertionMode)
    (arm : InsertionArm) (prior : Clipboard) (handed : Handed) : Prop where
  armed : arm.session = session ∧ Armed bridge session mode arm.backend
  bridged : handed.bridged ≠ none → arm.backend = "fcitx5" ∧ handed.commands = [] ∧
    handed.clipboard = prior
  unbridged : arm.backend = "fcitx5" → handed.bridged ≠ none
  keys : ∀ effect ∈ handed.commands, effect.SendsKeys → mode = .clipboard
  reported : ∀ outcome, handed.result = .ok outcome → outcome.backend = arm.backend

theorem Armed.commit {bridge : FcitxTransport} {session : SessionId} {mode : InsertionMode}
    {arm : InsertionArm} (h : Armed bridge session mode arm.backend)
    (self : DesktopInsertionAdapter) (later : FcitxTransport) (requestId : String)
    (env : Environment) (prior : Clipboard) (text : String) :
    (arm.backend = "fcitx5" ∧ ∃ result, self.commit later requestId env prior arm text =
        ⟨result, some (later.commit requestId arm.session text), [], prior⟩ ∧
          ∀ outcome, result = .ok outcome → outcome.backend = "fcitx5") ∨
      (mode = .clipboard ∧ arm.backend = "wl-copy+ydotool" ∧
        self.commit later requestId env prior arm text = DesktopInsertionAdapter.viaClipboard
          "desktop.insertion_failed" (self.clipboard.insert env text) prior) ∨
      (arm.backend = "copy-only" ∧
        self.commit later requestId env prior arm text = DesktopInsertionAdapter.viaClipboard
          "desktop.copy_failed" (self.clipboard.copy env text) prior) := by
  obtain ⟨armSession, backend⟩ := arm
  have copied : self.commit later requestId env prior ⟨armSession, "copy-only"⟩ text =
      DesktopInsertionAdapter.viaClipboard "desktop.copy_failed" (self.clipboard.copy env text)
        prior := by
    unfold DesktopInsertionAdapter.commit
    have hOther : "copy-only" ≠ "fcitx5" ∧ "copy-only" ≠ "wl-copy+ydotool" := by decide
    rw [if_neg hOther.1, if_neg hOther.2, if_pos rfl]
  cases h with
  | bridged =>
    refine .inl ⟨rfl, _, if_pos rfl, ?_⟩
    intro outcome hOutcome
    cases hAnswer : later.commit requestId armSession text with
    | error error =>
      rw [hAnswer] at hOutcome
      cases hOutcome
    | ok _ =>
      rw [hAnswer] at hOutcome
      cases hOutcome
      rfl
  | unanswered => exact .inr (.inr ⟨rfl, copied⟩)
  | copied => exact .inr (.inr ⟨rfl, copied⟩)
  | keys =>
    refine .inr (.inl ⟨rfl, rfl, ?_⟩)
    unfold DesktopInsertionAdapter.commit
    have hOther : "wl-copy+ydotool" ≠ "fcitx5" := by decide
    rw [if_neg hOther, if_pos rfl]

theorem OneWay.viaClipboard {bridge : FcitxTransport} {session : SessionId} {mode : InsertionMode}
    {arm : InsertionArm} {prior : Clipboard} {code : String} {call : DesktopCall InsertionResult}
    (hArmed : arm.session = session ∧ Armed bridge session mode arm.backend)
    (hBackend : arm.backend ≠ "fcitx5")
    (hKeys : mode = .clipboard ∨ Within Silent call)
    (hCall : Yields (fun result => result.backend = arm.backend) call) :
    OneWay bridge session mode arm prior
      (DesktopInsertionAdapter.viaClipboard code call prior) where
  armed := hArmed
  bridged hBridged := absurd rfl hBridged
  unbridged hOther := absurd hOther hBackend
  keys := by
    intro effect hMem hSends
    rcases hKeys with hMode | hSilent
    · exact hMode
    · exact absurd hSends (hSilent prior effect hMem)
  reported _ := viaClipboard_backend hCall

/-- A text goes the one way its session was armed with: through the bridge, whose commit is never
followed by another try, with keys only where the clipboard was chosen, and otherwise as a copy. -/
theorem one_way (self : DesktopInsertionAdapter) (bridge later : FcitxTransport)
    (requestId : String) (env : Environment) (prior : Clipboard) (mode : InsertionMode)
    (session : SessionId) (text : String) {arm : InsertionArm}
    (hArm : DesktopInsertionAdapter.arm bridge mode session = .ok arm) :
    OneWay bridge session mode arm prior (self.commit later requestId env prior arm text) := by
  have hArmed := arm_armed hArm
  rcases hArmed.2.commit self later requestId env prior text with
    ⟨hBackend, result, hCommit, hReported⟩ | ⟨hMode, hBackend, hCommit⟩ | ⟨hBackend, hCommit⟩
  · rw [hCommit]
    constructor
    case armed => exact hArmed
    case bridged => exact fun _ => ⟨hBackend, rfl, rfl⟩
    case unbridged => exact fun _ => Option.some_ne_none _
    case keys =>
      intro effect hMem
      cases hMem
    case reported =>
      rw [hBackend]
      exact hReported
  · rw [hCommit]
    apply OneWay.viaClipboard hArmed
    · rw [hBackend]
      decide
    · exact .inl hMode
    · rw [hBackend]
      exact insert_backend _ _ _
  · rw [hCommit]
    apply OneWay.viaClipboard hArmed
    · rw [hBackend]
      decide
    · exact .inr (copy_silent _ _ _)
    · rw [hBackend]
      exact copy_backend _ _ _

end Committing

/-- An addon that cannot be reached. -/
def absentAddon : FcitxTransport where
  runtimeDir := .error (VoxError.new .unavailable "fcitx.runtime_unavailable"
    "XDG_RUNTIME_DIR is unavailable")
  requestMessageAt _ _ := .error (VoxError.new .unavailable "fcitx.transport_failed" "timed out")

theorem one_way_absentAddon :
    OneWay absentAddon (.fromCounter 1) .auto ⟨.fromCounter 1, "copy-only"⟩ .empty
      ((DesktopInsertionAdapter.new true).commit absentAddon "7-1"
        ⟨.works, .works, .works, .works, none, .works, .works, .works⟩ .empty
        ⟨.fromCounter 1, "copy-only"⟩ "new") :=
  one_way _ absentAddon absentAddon "7-1" _ .empty .auto (.fromCounter 1) "new" rfl

end VoxType.Desktop
