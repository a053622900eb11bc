import VoxType.Audio.Vad
import VoxType.Library.Run

/-!
# What one level does to the detector

The six things that can happen when a level is read, and runs of the detector
whose outputs keep the entry threshold that was in force.
-/

namespace VoxType.Vad

set_option autoImplicit false

/-- `entry_threshold.saturating_mul(3) / 4` -/
def exitThreshold (entryThreshold : Nat) : Nat := satMul u16Max entryThreshold 3 / 4

/-- The part of the detector that decides where speech begins and ends. -/
structure Bracket where
  speechActive : Bool
  attackFrames : Nat
  attackStartFrame : Option Nat
  releaseFrames : Nat
  speechStartFrame : Option Nat
  speechEndFrame : Option Nat
  deriving DecidableEq, Repr

namespace StreamingVad

def bracket (self : StreamingVad) : Bracket :=
  { speechActive := self.speechActive
    attackFrames := self.attackFrames
    attackStartFrame := self.attackStartFrame
    releaseFrames := self.releaseFrames
    speechStartFrame := self.speechStartFrame
    speechEndFrame := self.speechEndFrame }

theorem bracket_fields {self : StreamingVad} {b : Bracket} (h : self.bracket = b) :
    self.speechActive = b.speechActive ∧ self.attackFrames = b.attackFrames ∧
      self.attackStartFrame = b.attackStartFrame ∧ self.releaseFrames = b.releaseFrames ∧
      self.speechStartFrame = b.speechStartFrame ∧ self.speechEndFrame = b.speechEndFrame := by
  subst h
  exact ⟨rfl, rfl, rfl, rfl, rfl, rfl⟩

/-- The first frame of the attack that the next loud frame belongs to. -/
def attackStart (self : StreamingVad) : Option Nat :=
  if self.attackFrames = 0 then some self.totalFrames else self.attackStartFrame

/-- The bracket, the verdict on the frame and the event after one level. -/
inductive LevelOutcome (self : StreamingVad) (rms : Nat) : Bracket → Bool → Option VadEvent → Prop
  | sustained (hActive : self.speechActive = true)
      (hLoud : exitThreshold self.adaptiveThreshold ≤ rms) :
      LevelOutcome self rms
        { self.bracket with
          releaseFrames := 0, speechEndFrame := some (satAdd u32Max self.totalFrames 1) } true none
  | lapsing (hActive : self.speechActive = true)
      (hQuiet : rms < exitThreshold self.adaptiveThreshold)
      (hShort : satAdd u32Max self.releaseFrames 1 < endSilenceFrames) :
      LevelOutcome self rms
        { self.bracket with releaseFrames := satAdd u32Max self.releaseFrames 1 } false none
  | ended (hActive : self.speechActive = true)
      (hQuiet : rms < exitThreshold self.adaptiveThreshold)
      (hLong : endSilenceFrames ≤ satAdd u32Max self.releaseFrames 1) :
      LevelOutcome self rms { self.bracket with speechActive := false, releaseFrames := 0 } false
        (self.speechEndFrame.map .speechEnded)
  | attacking (hInactive : self.speechActive = false) (hLoud : self.adaptiveThreshold ≤ rms)
      (hShort : satAdd u32Max self.attackFrames 1 < max self.config.minimumVoicedFrames 1) :
      LevelOutcome self rms
        { self.bracket with
          attackFrames := satAdd u32Max self.attackFrames 1
          attackStartFrame := self.attackStart } true none
  | started (hInactive : self.speechActive = false) (hLoud : self.adaptiveThreshold ≤ rms)
      (hLong : max self.config.minimumVoicedFrames 1 ≤ satAdd u32Max self.attackFrames 1) :
      LevelOutcome self rms
        { self.bracket with
          speechActive := true
          attackFrames := 0
          attackStartFrame := none
          speechStartFrame :=
            some (self.speechStartFrame.getD (self.attackStart.getD self.totalFrames))
          speechEndFrame := some (satAdd u32Max self.totalFrames 1) } true
        (some (.speechStarted (self.attackStart.getD self.totalFrames)))
  | quiet (hInactive : self.speechActive = false) (hQuiet : rms < self.adaptiveThreshold) :
      LevelOutcome self rms { self.bracket with attackFrames := 0, attackStartFrame := none } false
        none

theorem processLevel_outcome (self : StreamingVad) (rms : Nat) :
    self.LevelOutcome rms (self.processLevel rms).2.bracket (self.processLevel rms).1.voiced
      (self.processLevel rms).1.event := by
  rw [processLevel]
  dsimp only
  by_cases hActive : self.speechActive = true
  · rw [if_pos hActive, readActive]
    split
    case isTrue hLoud => exact .sustained hActive hLoud
    case isFalse hQuiet =>
      have hBelow : rms < exitThreshold self.adaptiveThreshold := Nat.lt_of_not_le hQuiet
      dsimp only
      split
      case isTrue hLong => exact .ended hActive hBelow hLong
      case isFalse hShort => exact .lapsing hActive hBelow (Nat.lt_of_not_le hShort)
  · rw [if_neg hActive]
    have hInactive : self.speechActive = false := Bool.eq_false_iff.mpr hActive
    split
    case isTrue hLoud =>
      rw [readAttack]
      dsimp only
      split
      case isTrue hLong => exact .started hInactive hLoud hLong
      case isFalse hShort => exact .attacking hInactive hLoud (Nat.lt_of_not_le hShort)
    case isFalse hQuiet => exact .quiet hInactive (Nat.lt_of_not_le hQuiet)

/-- Whatever the level, it is counted, and the configuration stays. -/
theorem processLevel_kept (self : StreamingVad) (rms : Nat) :
    (self.processLevel rms).2.config = self.config ∧
      (self.processLevel rms).2.totalFrames = satAdd u32Max self.totalFrames 1 := by
  rw [processLevel]
  dsimp only
  split
  · rw [readActive]
    split
    · exact ⟨rfl, rfl⟩
    · dsimp only
      split <;> exact ⟨rfl, rfl⟩
  · split
    · rw [readAttack]
      dsimp only
      split <;> exact ⟨rfl, rfl⟩
    · exact ⟨rfl, rfl⟩

/-- A start is emitted at a voiced frame, and speech is active from then on. -/
theorem started_active (self : StreamingVad) {rms s : Nat}
    (hEvent : (self.processLevel rms).1.event = some (.speechStarted s)) :
    (self.processLevel rms).1.voiced = true ∧ (self.processLevel rms).1.speechActive = true := by
  have hOutcome := self.processLevel_outcome rms
  change _ ∧ (self.processLevel rms).2.speechActive = true
  generalize hBracket : (self.processLevel rms).2.bracket = bracket at hOutcome
  obtain ⟨hActive', -⟩ := bracket_fields hBracket
  generalize (self.processLevel rms).1.voiced = voiced at hOutcome ⊢
  rw [hEvent] at hOutcome
  generalize hStart : some (VadEvent.speechStarted s) = event at hOutcome
  cases hOutcome with
  | sustained | lapsing | attacking | quiet => cases hStart
  | ended =>
    obtain ⟨_, _, hEq⟩ := Option.map_eq_some_iff.mp hStart.symm
    cases hEq
  | started => exact ⟨rfl, hActive'⟩

/-- The entry threshold moves with the noise floor only. -/
theorem processLevel_threshold (self : StreamingVad) (rms : Nat) :
    (self.processLevel rms).2.adaptiveThreshold = self.adaptiveThreshold ∨
      ∃ noiseFloor,
        (self.processLevel rms).2.adaptiveThreshold = thresholdFor self.config noiseFloor := by
  rw [processLevel]
  dsimp only
  split
  · rw [readActive]
    split
    · exact .inl rfl
    · dsimp only
      split
      · exact .inr ⟨_, rfl⟩
      · exact .inl rfl
  · split
    · rw [readAttack]
      dsimp only
      split <;> exact .inl rfl
    · exact .inr ⟨_, rfl⟩

/-- An attack leaves the threshold alone. -/
theorem processLevel_attack {self : StreamingVad} {rms : Nat} (hInactive : self.speechActive = false)
    (hLoud : self.adaptiveThreshold ≤ rms) :
    (self.processLevel rms).2.adaptiveThreshold = self.adaptiveThreshold := by
  rw [processLevel]
  dsimp only
  rw [if_neg (by rw [hInactive]; exact Bool.false_ne_true), if_pos hLoud, readAttack]
  dsimp only
  split <;> rfl

end StreamingVad

theorem satAdd_eq {bound a b : Nat} (h : a + b ≤ bound) : satAdd bound a b = a + b :=
  Nat.min_eq_left h

end VoxType.Vad
