import VoxType.Doubao.Outgoing

/-!
# The evidence along a session

How sure a session is that its audio was accepted, from call to call.
-/

namespace VoxType

set_option autoImplicit false

def AudioAcceptance.strength : AudioAcceptance → Nat
  | notAccepted => 0
  | possiblyAccepted => 1
  | accepted => 2

instance : Preorder AudioAcceptance := Preorder.lift AudioAcceptance.strength

theorem AudioAcceptance.le_iff {first second : AudioAcceptance} :
    first ≤ second ↔ first.strength ≤ second.strength := Iff.rfl

theorem AudioAcceptance.le_accepted (evidence : AudioAcceptance) : evidence ≤ .accepted := by
  rw [AudioAcceptance.le_iff]
  cases evidence <;> decide

namespace Doubao

open DoubaoSessionProtocol

variable {fromSlice : Bytes → Option Json} {protocol after : DoubaoSessionProtocol}
  {call : SessionCall} {reply : SessionReply}

/-- An audio request is reported as written after its audio was proved to be accepted. -/
structure DoubaoSessionProtocol.Weakens (protocol : DoubaoSessionProtocol) (call : SessionCall) :
    Prop where
  call : call = .confirmAudioSent ∨ call = .markAudioWriteAmbiguous
  phase : protocol.phase = .streaming
  inputState : protocol.inputState = .audioRequestPending
  accepted : protocol.audioAcceptance = .accepted

theorem failing_evidence : protocol.failing.audioAcceptance = protocol.audioAcceptance := by
  rw [failing]
  split <;> rfl

theorem noting_evidence (event : RecognitionEvent) :
    protocol.audioAcceptance ≤ (noting event protocol).audioAcceptance := by
  rw [noting]
  dsimp only
  split
  · exact AudioAcceptance.le_accepted _
  · exact le_refl _

theorem possiblyAccepted_le (h : protocol.audioAcceptance ≠ .accepted) :
    protocol.audioAcceptance ≤ .possiblyAccepted := by
  rw [AudioAcceptance.le_iff]
  cases hEvidence : protocol.audioAcceptance with
  | notAccepted => decide
  | possiblyAccepted => decide
  | accepted => exact absurd hEvidence h

theorem DoubaoSessionProtocol.Taken.evidence_le (hTaken : Taken fromSlice protocol call reply after)
    (h : ¬ protocol.Weakens call) : protocol.audioAcceptance ≤ after.audioAcceptance := by
  cases hTaken with
  | confirmAudioSent hPhase hInput =>
    exact possiblyAccepted_le fun hAccepted => h ⟨.inl rfl, hPhase, hInput, hAccepted⟩
  | markAudioWriteAmbiguous hPhase hInput =>
    exact possiblyAccepted_le fun hAccepted => h ⟨.inr rfl, hPhase, hInput, hAccepted⟩
  | recognized message response hUsed hPhase event => exact noting_evidence event
  | cancelled =>
    rw [cancel]
    split <;> exact le_refl _
  | refused call error after hCall hRefused =>
    cases hRefused with
    | unreceived => exact le_refl _
    | failing => exact failing_evidence.ge
    | emptyFinal event => exact (noting_evidence event).trans failing_evidence.ge
  | _ => exact le_refl _

theorem DoubaoSessionProtocol.Weakens.evidence (h : protocol.Weakens call) :
    (protocol.call fromSlice call).2.audioAcceptance = .possiblyAccepted := by
  rcases h.call with rfl | rfl
  · rw [DoubaoSessionProtocol.call, confirmAudioSent, requirePhase_bind h.phase,
      Effects.Call.get_bind, if_neg (not_not.mpr h.inputState)]
    rfl
  · rw [DoubaoSessionProtocol.call, markAudioWriteAmbiguous, requirePhase_bind h.phase,
      Effects.Call.get_bind, if_neg (not_not.mpr h.inputState)]
    rfl

theorem evidence_le_iff :
    protocol.audioAcceptance ≤ (protocol.call fromSlice call).2.audioAcceptance ↔
      ¬ protocol.Weakens call := by
  constructor
  · intro hLe hWeakens
    rw [hWeakens.evidence, hWeakens.accepted, AudioAcceptance.le_iff] at hLe
    exact absurd hLe (by decide)
  · exact (call_taken fromSlice protocol call).evidence_le

/-- The evidence never falls along a run exactly where no audio request of it is reported as
written after the audio was proved to be accepted. -/
theorem evidence_never_weakens (fromSlice : Bytes → Option Json) (protocol : DoubaoSessionProtocol)
    (calls : List SessionCall) :
    (∀ earlier more rest, calls = earlier ++ more ++ rest →
      ((protocolMachine fromSlice protocol).state earlier).audioAcceptance ≤
        ((protocolMachine fromSlice protocol).state (earlier ++ more)).audioAcceptance) ↔
      (protocolMachine fromSlice protocol).Along (fun _ state call => ¬ state.Weakens call)
        calls := by
  rw [(protocolMachine fromSlice protocol).never_falls_iff audioAcceptance]
  exact forall_congr' fun _ => forall_congr' fun _ => forall_congr' fun _ =>
    forall_congr' fun _ => evidence_le_iff

def interimJson : Bytes :=
  asBytes "\x7b\"results\":[\x7b\"text\":\"hi\",\"is_interim\":true\x7d]\x7d"

/-- What is read of the two texts below. -/
def readInterim (bytes : Bytes) : Option Json :=
  if bytes = interimJson then
    some (.object [("results", .array [.object [("text", .string "hi"),
      ("is_interim", .bool true)]])])
  else if bytes = [0x7b, 0x7d] then some (.object []) else none

/-- An interim result between two frames. -/
def interrupted : List SessionCall :=
  opening ++ frame ++ [.handleBinary (writeBytes (response "r" "Result") 7 interimJson)]

theorem evidence_taken_back :
    DoubaoSessionProtocol.new "r" = .ok (idle "r") ∧
      ((protocolMachine readInterim (idle "r")).state interrupted).audioAcceptance = .accepted ∧
      ((protocolMachine readInterim (idle "r")).state (interrupted ++ frame)).audioAcceptance =
        .possiblyAccepted ∧
      ¬ AudioAcceptance.accepted ≤ AudioAcceptance.possiblyAccepted :=
  ⟨by decide, by decide, by decide, by decide⟩

end Doubao

end VoxType
