import VoxType.Fcitx.Bridge

/-!
# What one step does to the bridge

Every datagram, callback and event of the host is one of a few kinds, whatever
the contexts of the host are.
-/

namespace VoxType.Fcitx

set_option autoImplicit false

/-- The successful `ARM`s of a trace. -/
def arms (effects : List BridgeEffect) : List (Bytes × Nat) :=
  effects.filterMap fun
    | .armed session context => some (session, context)
    | _ => none

/-- The sessions and requests whose text reached a context. -/
def dispatches (effects : List BridgeEffect) : List (Bytes × Option Bytes) :=
  effects.filterMap fun
    | .committed checked requestId _ _ => some (checked.session, requestId)
    | _ => none

@[simp] theorem arms_append (left right : List BridgeEffect) :
    arms (left ++ right) = arms left ++ arms right := List.filterMap_append

@[simp] theorem dispatches_append (left right : List BridgeEffect) :
    dispatches (left ++ right) = dispatches left ++ dispatches right := List.filterMap_append

/-- The context that can be armed or committed to: last focused, with focus and not secure. -/
def Instance.target (self : Instance) : Option Nat :=
  match self.lastFocusedInputContext with
  | none => none
  | some (id, context) => if context.hasFocus && !isSecure context then some id else none

namespace Instance

theorem get_eq_some {self : Instance} {reference : Option Nat} {id : Nat} {context : InputContext}
    (h : self.get reference = some (id, context)) :
    reference = some id ∧ self.context id = some context := by
  cases reference with
  | none => cases h
  | some id' =>
    rw [get, Option.bind_some, Option.map_eq_some_iff] at h
    obtain ⟨context', hContext, hPair⟩ := h
    cases hPair
    exact ⟨rfl, hContext⟩

theorem target_eq_some {self : Instance} {id : Nat} {context : InputContext}
    (hContext : self.context id = some context) :
    self.target = some id ↔ self.lastFocusedInputContext.map Prod.fst = some id ∧
      context.hasFocus = true ∧ isSecure context = false := by
  rw [target]
  cases hLast : self.lastFocusedInputContext with
  | none => simp
  | some found =>
    obtain ⟨id', context'⟩ := found
    have hFound := (get_eq_some hLast).2
    dsimp only
    constructor
    · intro h
      split at h
      · rename_i hOpen
        cases h
        rw [hContext] at hFound
        cases hFound
        rw [Bool.and_eq_true, Bool.not_eq_true'] at hOpen
        exact ⟨rfl, hOpen⟩
      · cases h
    · rintro ⟨hSame, hFocus, hSecure⟩
      cases hSame
      rw [hContext] at hFound
      cases hFound
      rw [hFocus, hSecure]
      rfl

end Instance

/-- A response that acknowledges no request. -/
def Plain (value : Bytes) : Prop := ∀ requestId, value ≠ dispatchedResponse requestId

theorem plain_of_field {value : Bytes} (h : field value 1 ≠ ascii "dispatched") : Plain value := by
  rintro requestId rfl
  exact h (field_dispatched requestId)

theorem plain_err (detail : String) : Plain (err detail) := by
  have hErr : ascii "ERR" = [69, 82, 82] := by decide
  have hOk : ascii "OK" = [79, 75] := by decide
  intro requestId h
  rw [err, dispatchedResponse, response, response, hErr, hOk] at h
  exact absurd (List.cons.inj h).1 (by decide)

theorem plain_ok {detail : String} (hDetail : ∀ byte ∈ ascii detail, byte ≠ 0)
    (hOther : ascii detail ≠ ascii "dispatched") (rest : Bytes) :
    Plain (ok detail ++ 0 :: rest) := by
  refine plain_of_field ?_
  rw [ok, response, List.append_assoc, List.cons_append, field_response _ _ hDetail]
  exact hOther

/-- The acknowledgement of a legacy commit echoes no request, not even an empty one. -/
theorem plain_dispatched : Plain (ok "dispatched") := by
  intro requestId h
  have hLength := congrArg List.length h
  rw [dispatchedResponse, List.length_append, List.length_cons] at hLength
  change (ok "dispatched").length = (ok "dispatched").length + _ at hLength
  omega

/-- The fields a commit lives in are unchanged. -/
structure VoxTypeBridge.SameWork (b b' : VoxTypeBridge) : Prop where
  pendingCommit : b'.pendingCommit = b.pendingCommit
  armedContext : b'.armedContext = b.armedContext
  armedSession : b'.armedSession = b.armedSession
  legacyCommitPending : b'.legacyCommitPending = b.legacyCommitPending
  pendingRequestId : b'.pendingRequestId = b.pendingRequestId
  pendingSession : b'.pendingSession = b.pendingSession
  pendingText : b'.pendingText = b.pendingText
  completedRequestId : b'.completedRequestId = b.completedRequestId
  completedSession : b'.completedSession = b.completedSession
  completedTextSize : b'.completedTextSize = b.completedTextSize
  completedTextFingerprint : b'.completedTextFingerprint = b.completedTextFingerprint
  completedResponse : b'.completedResponse = b.completedResponse

structure Request where
  requestId : Bytes
  session : Bytes
  text : Bytes
  deriving DecidableEq

/-- The fields of a `COMMIT2` datagram. -/
def BridgeInput.request : BridgeInput → Option Request
  | .datagram message _ =>
    if message.length ≤ maxDatagramSize ∧ field message 0 = ascii "COMMIT2" then
      some ⟨field message 1, field message 2, field message 3⟩
    else none
  | _ => none

/-- The input is an `ARM` datagram. -/
def BridgeInput.Arm : BridgeInput → Prop
  | .datagram message _ => message.length ≤ maxDatagramSize ∧ field message 0 = ascii "ARM"
  | _ => False

namespace VoxTypeBridge

def armed (self : VoxTypeBridge) (session : Bytes) (context : Nat) : VoxTypeBridge :=
  { self with armedContext := some context, armedSession := session }

def scheduled (self : VoxTypeBridge) (session : Bytes) (context : Nat) (text : Bytes)
    (sender : Sender) : VoxTypeBridge :=
  { self with
    legacyCommitPending := true
    pendingCommit := some (.legacy ⟨session, context⟩ text sender) }

def scheduled2 (self : VoxTypeBridge) (requestId session : Bytes) (context : Nat) (text : Bytes)
    (sender : Sender) : VoxTypeBridge :=
  { self with
    pendingRequestId := requestId
    pendingSession := session
    pendingText := text
    pendingSender := sender
    pendingCommit := some (.commit2 ⟨session, context⟩) }

def released (self : VoxTypeBridge) : VoxTypeBridge :=
  { self with
    pendingCommit := none
    armedContext := none
    armedSession := []
    legacyCommitPending := false }

def completed (self : VoxTypeBridge) (result : Bytes) : VoxTypeBridge :=
  { self with
    pendingCommit := none
    completedRequestId := self.pendingRequestId
    completedSession := self.pendingSession
    completedTextSize := self.pendingText.length
    completedTextFingerprint := textFingerprint self.pendingText
    completedResponse := result
    pendingRequestId := []
    pendingSession := []
    pendingText := []
    pendingSender := { self.pendingSender with length := 0 }
    armedContext := none
    armedSession := [] }

end VoxTypeBridge

inductive StepOutcome (self : Addon) (i : BridgeInput) : Turn → Prop
  | kept {next : Addon} (hSame : self.bridge.SameWork next.bridge) : StepOutcome self i ([], next)
  | answered {value : Bytes} {sender : Sender} (hPlain : Plain value) :
    StepOutcome self i (self.sends value sender)
  | repeated {requestId session text : Bytes} {sender : Sender}
    (hReceived : i.request = some ⟨requestId, session, text⟩) (hId : requestId ≠ [])
    (hCompleted : requestId = self.bridge.completedRequestId) :
    StepOutcome self i (self.sends self.bridge.completedResponse sender)
  | cleared {value : Bytes} {sender : Sender} (hPlain : Plain value) :
    StepOutcome self i ((self.withBridge self.bridge.clear).sends value sender)
  | armed {session value : Bytes} {sender : Sender} {context : Nat} (hReceived : i.Arm)
    (hTarget : self.instance_.target = some context) (hPlain : Plain value) :
    StepOutcome self i ([.armed session context, .sent value sender],
      self.withBridge (self.bridge.armed session context))
  | scheduled {text : Bytes} {sender : Sender} {context : Nat} (hFree : self.bridge.busy = false)
    (hArmed : self.bridge.armedContext = some context) :
    StepOutcome self i ([.scheduled ⟨self.bridge.armedSession, context⟩ none text],
      self.withBridge (self.bridge.scheduled self.bridge.armedSession context text sender))
  | scheduled2 {requestId text : Bytes} {sender : Sender} {context : Nat}
    (hReceived : i.request = some ⟨requestId, self.bridge.armedSession, text⟩)
    (hId : requestId ≠ []) (hFree : self.bridge.busy = false)
    (hArmed : self.bridge.armedContext = some context) :
    StepOutcome self i ([.scheduled ⟨self.bridge.armedSession, context⟩ (some requestId) text],
      self.withBridge
        (self.bridge.scheduled2 requestId self.bridge.armedSession context text sender))
  | dispatched {checked : Checked} {text : Bytes} {sender : Sender}
    (hPending : self.bridge.pendingCommit = some (.legacy checked text sender)) :
    StepOutcome self i
      (self.dispatch.effects checked none text ++
          [.sent (self.dispatch.result (ok "dispatched")) sender],
        self.withBridge self.bridge.released)
  | dispatched2 {checked : Checked}
    (hPending : self.bridge.pendingCommit = some (.commit2 checked)) :
    StepOutcome self i
      (self.dispatch.effects checked (some self.bridge.pendingRequestId) self.bridge.pendingText ++
          [.completed self.bridge.pendingRequestId
              (self.dispatch.result (dispatchedResponse self.bridge.pendingRequestId)),
            .sent (self.dispatch.result (dispatchedResponse self.bridge.pendingRequestId))
              self.bridge.pendingSender],
        self.withBridge (self.bridge.completed
          (self.dispatch.result (dispatchedResponse self.bridge.pendingRequestId))))

namespace Addon

theorem contextResponse_plain (self : Addon) : Plain self.contextResponse := by
  rw [contextResponse]
  split
  · exact plain_err _
  · split
    · exact plain_err _
    · split
      · exact plain_err _
      · dsimp only
        split
        · exact plain_err _
        · simp only [List.append_assoc, List.cons_append]
          exact plain_ok (by decide +kernel) (by decide +kernel) _

theorem arm_outcome (self : Addon) {i : BridgeInput} (hReceived : i.Arm) (session : Bytes)
    (sender : Sender) : StepOutcome self i (self.arm session sender) := by
  rw [arm]
  split
  · exact .answered (plain_err _)
  · rename_i id context hLast
    split
    · exact .answered (plain_err _)
    · rename_i hFocus
      split
      · exact .answered (plain_err _)
      · rename_i hSecure
        refine .armed hReceived ?_ ?_
        · rw [Instance.target_eq_some (Instance.get_eq_some hLast).2, hLast]
          exact ⟨rfl, by simpa using hFocus, by simpa using hSecure⟩
        · simp only [List.append_assoc, List.cons_append]
          exact plain_ok (by decide +kernel) (by decide +kernel) _

theorem admitted {self : Addon} {session text : Bytes} {context : Nat}
    (h : self.admission session text = .admitted context) :
    session = self.bridge.armedSession ∧ self.bridge.armedContext = some context := by
  rw [admission] at h
  split at h
  · cases h
  · rename_i hSession
    split at h
    · cases h
    · rename_i id found hGet
      split at h
      · cases h
      · split at h
        · cases h
        · split at h
          · cases h
          · cases h
            exact ⟨not_not.mp hSession, (Instance.get_eq_some hGet).1⟩

theorem refused {self : Addon} {session text : Bytes} {clears : Bool} {value : Bytes}
    (h : self.admission session text = .refused clears value) : Plain value := by
  rw [admission] at h
  repeat' split at h
  all_goals cases h
  all_goals exact plain_err _

theorem refuse_outcome (self : Addon) {i : BridgeInput} (clears : Bool) {value : Bytes}
    (hPlain : Plain value) (sender : Sender) :
    StepOutcome self i (self.refuse clears value sender) := by
  cases clears with
  | false => exact .answered hPlain
  | true => exact .cleared hPlain

theorem commit_outcome (self : Addon) {i : BridgeInput} (session text : Bytes) (sender : Sender) :
    StepOutcome self i (self.commit session text sender) := by
  rw [commit]
  split
  · exact .answered (plain_err _)
  · rename_i hFree
    split
    · rename_i clears value hAdmit
      exact self.refuse_outcome clears (refused hAdmit) sender
    · rename_i context hAdmit
      obtain ⟨rfl, hArmed⟩ := admitted hAdmit
      exact .scheduled (Bool.eq_false_of_not_eq_true hFree) hArmed

theorem commit2_outcome (self : Addon) {i : BridgeInput} {requestId session text : Bytes}
    (hReceived : i.request = some ⟨requestId, session, text⟩) (sender : Sender) :
    StepOutcome self i (self.commit2 requestId session text sender) := by
  rw [commit2]
  split
  · exact .answered (plain_err _)
  · rename_i hEmpty
    have hId : requestId ≠ [] := fun h => hEmpty (List.isEmpty_iff.mpr h)
    split
    · rename_i hCompleted
      split
      · exact .repeated hReceived hId hCompleted
      · exact .answered (plain_err _)
    · split
      · split
        · exact .kept ⟨rfl, rfl, rfl, rfl, rfl, rfl, rfl, rfl, rfl, rfl, rfl, rfl⟩
        · exact .answered (plain_err _)
      · split
        · exact .answered (plain_err _)
        · rename_i hFree
          split
          · rename_i clears value hAdmit
            exact self.refuse_outcome clears (refused hAdmit) sender
          · rename_i context hAdmit
            obtain ⟨rfl, hArmed⟩ := admitted hAdmit
            exact .scheduled2 hReceived hId (Bool.eq_false_of_not_eq_true hFree) hArmed

theorem cancel_outcome (self : Addon) {i : BridgeInput} (session : Bytes) (sender : Sender) :
    StepOutcome self i (self.cancel session sender) := by
  rw [cancel]
  split
  · exact .answered (plain_err _)
  · exact .cleared (plain_of_field (by decide))

theorem deferred_outcome (self : Addon) {i : BridgeInput} : StepOutcome self i self.deferred := by
  rw [deferred]
  split
  · exact .kept ⟨rfl, rfl, rfl, rfl, rfl, rfl, rfl, rfl, rfl, rfl, rfl, rfl⟩
  · rename_i hPending
    exact .dispatched hPending
  · rename_i hPending
    exact .dispatched2 hPending

theorem step_outcome (self : Addon) (i : BridgeInput) : StepOutcome self i (self.step i) := by
  cases i with
  | deferred => exact self.deferred_outcome
  | context event => exact .kept ⟨rfl, rfl, rfl, rfl, rfl, rfl, rfl, rfl, rfl, rfl, rfl, rfl⟩
  | datagram message sender =>
    rw [step, receive]
    split
    · exact .kept ⟨rfl, rfl, rfl, rfl, rfl, rfl, rfl, rfl, rfl, rfl, rfl, rfl⟩
    · split
      · exact .answered (plain_err _)
      · rename_i hSize
        have hSize := Nat.le_of_not_lt hSize
        dsimp only
        split
        · exact .answered (plain_of_field (by decide))
        · split
          · exact .answered self.contextResponse_plain
          · split
            · rename_i hArm
              exact self.arm_outcome (i := .datagram message sender) ⟨hSize, hArm⟩ _ sender
            · split
              · exact self.commit_outcome _ _ sender
              · split
                · rename_i hCommit2
                  exact self.commit2_outcome (i := .datagram message sender)
                    (if_pos ⟨hSize, hCommit2⟩) sender
                · split
                  · exact self.cancel_outcome _ sender
                  · exact .answered (plain_err _)

theorem dispatch_committed {self : Addon} {context : Nat}
    (h : self.dispatch = .committed context) :
    self.bridge.armedContext = some context ∧ self.instance_.target = some context := by
  rw [dispatch] at h
  split at h
  · cases h
  · rename_i id found hGet
    obtain ⟨hArmed, hContext⟩ := Instance.get_eq_some hGet
    split at h
    · rename_i hOpen
      cases h
      rw [Instance.target_eq_some hContext]
      simp only [Bool.and_eq_true, Bool.not_eq_true', decide_eq_true_eq] at hOpen
      exact ⟨hArmed, hOpen.1.2, hOpen.1.1, hOpen.2⟩
    · split at h <;> cases h

theorem Dispatch.mem_effects {found : Dispatch} {checked checked' : Checked}
    {requestId requestId' : Option Bytes} {text text' : Bytes} {context : Nat}
    (h : .committed checked' requestId' context text' ∈
      found.effects checked requestId text) :
    found = .committed context ∧ checked' = checked ∧ requestId' = requestId ∧ text' = text := by
  cases found with
  | refused value => cases h
  | committed context' =>
    cases List.mem_singleton.mp h
    exact ⟨rfl, rfl, rfl, rfl⟩

end Addon

end VoxType.Fcitx
