import VoxType.Audio.VadEvents
import VoxType.Daemon.Validation

/-!
# The exit threshold under saturation

Three times the entry threshold is computed in sixteen bits. Above 21845 the
product saturates and the exit threshold stays where it is.
-/

namespace VoxType.Vad

set_option autoImplicit false

/-- The largest entry threshold whose triple has sixteen bits. -/
def largestExact : Nat := 21845

/-- While speech is active, the exit threshold is three quarters of the entry threshold. -/
def RatioHeld (vad : StreamingVad) (rms : Nat) : Prop :=
  vad.speechActive = true →
    ((vad.processLevel rms).1.voiced = true ↔ 3 * vad.adaptiveThreshold / 4 ≤ rms) ∧
      3 * vad.adaptiveThreshold / 4 ≤ exitThreshold vad.adaptiveThreshold

instance (vad : StreamingVad) (rms : Nat) : Decidable (RatioHeld vad rms) :=
  inferInstanceAs (Decidable (_ → _))

def Exact (vad : StreamingVad) : Prop :=
  vad.speechActive = true → vad.adaptiveThreshold ≤ largestExact

theorem exitThreshold_exact {threshold : Nat} (h : threshold ≤ largestExact) :
    exitThreshold threshold = 3 * threshold / 4 := by
  rw [largestExact] at h
  rw [exitThreshold, satMul, Nat.min_eq_left (by rw [u16Max]; omega), Nat.mul_comm]

theorem le_exitThreshold_iff (threshold : Nat) :
    3 * threshold / 4 ≤ exitThreshold threshold ↔ threshold ≤ largestExact := by
  constructor
  · intro h
    rw [exitThreshold, satMul, u16Max] at h
    rw [largestExact]
    omega
  · exact fun h => (exitThreshold_exact h).ge

theorem voiced_iff {vad : StreamingVad} (hActive : vad.speechActive = true) (rms : Nat) :
    (vad.processLevel rms).1.voiced = true ↔ exitThreshold vad.adaptiveThreshold ≤ rms := by
  have hOutcome := vad.processLevel_outcome rms
  generalize (vad.processLevel rms).1.voiced = voiced at hOutcome ⊢
  generalize (vad.processLevel rms).1.event = event at hOutcome
  generalize (vad.processLevel rms).2.bracket = bracket at hOutcome
  cases hOutcome with
  | sustained _ hLoud => exact iff_of_true rfl hLoud
  | lapsing _ hQuiet | ended _ hQuiet =>
    exact iff_of_false Bool.false_ne_true (Nat.not_le_of_lt hQuiet)
  | attacking hInactive | started hInactive | quiet hInactive =>
    exact absurd (hActive.symm.trans hInactive) nofun

theorem ratioHeld_iff (vad : StreamingVad) (rms : Nat) : RatioHeld vad rms ↔ Exact vad := by
  refine forall_congr' fun hActive => ?_
  rw [voiced_iff hActive, le_exitThreshold_iff]
  refine and_iff_right_of_imp fun hExact => ?_
  rw [exitThreshold_exact hExact]

theorem thresholdFor_le (config : VadConfig) (noiseFloor : Nat) :
    thresholdFor config noiseFloor ≤ 4 * config.rmsThreshold := by
  simp only [thresholdFor, satMul]
  omega

section Runs

variable (config : VadConfig) (noiseFloor : Option Nat)

theorem along_ratioHeld_iff (levels : List Nat) :
    (vadMachine config noiseFloor).Along (fun _ vad rms => RatioHeld vad rms) levels ↔
      (vadMachine config noiseFloor).Along (fun _ vad _ => Exact vad) levels :=
  ⟨fun h before rms after hSplit => (ratioHeld_iff _ rms).mp (h before rms after hSplit),
    fun h before rms after hSplit => (ratioHeld_iff _ rms).mpr (h before rms after hSplit)⟩

/-- The entry threshold is at most four times the configured one. -/
theorem threshold_bounded (levels : List Nat) :
    ((vadMachine config noiseFloor).state levels).config = config ∧
      ((vadMachine config noiseFloor).state levels).adaptiveThreshold ≤
        4 * config.rmsThreshold := by
  refine (vadMachine config noiseFloor).invariant
    (P := fun _ vad => vad.config = config ∧ vad.adaptiveThreshold ≤ 4 * config.rmsThreshold)
    ⟨rfl, thresholdFor_le config _⟩ ?_ levels
  rintro _ vad rms ⟨hConfig, hBound⟩
  refine ⟨(vad.processLevel_kept rms).1.trans hConfig, ?_⟩
  rcases vad.processLevel_threshold rms with hSame | ⟨floor, hMoved⟩
  · exact hSame ▸ hBound
  · change (vad.processLevel rms).2.adaptiveThreshold ≤ _
    rw [hMoved, hConfig]
    exact thresholdFor_le config floor

end Runs

/-- The entry threshold of a detector that was seeded with the largest noise floor. -/
theorem seeded_threshold {config : VadConfig} (hHigh : 5461 < config.rmsThreshold)
    (hRange : config.rmsThreshold ≤ 10000) :
    largestExact < (StreamingVad.withOptionalNoiseFloor config (some u16Max)).adaptiveThreshold ∧
      (StreamingVad.withOptionalNoiseFloor config (some u16Max)).adaptiveThreshold ≤ u16Max := by
  change _ < thresholdFor config u16Max ∧ thresholdFor config u16Max ≤ _
  simp only [thresholdFor, satMul, satAdd, u16Max, largestExact]
  omega

/-- A loud level goes on with an attack, or ends it. -/
theorem loud_step {vad : StreamingVad} {rms : Nat} (hInactive : vad.speechActive = false)
    (hLoud : vad.adaptiveThreshold ≤ rms) :
    (satAdd u32Max vad.attackFrames 1 < max vad.config.minimumVoicedFrames 1 ∧
        (vad.processLevel rms).2.speechActive = false ∧
        (vad.processLevel rms).2.attackFrames = satAdd u32Max vad.attackFrames 1) ∨
      (max vad.config.minimumVoicedFrames 1 ≤ satAdd u32Max vad.attackFrames 1 ∧
        (vad.processLevel rms).2.speechActive = true) := by
  have hOutcome := vad.processLevel_outcome rms
  generalize hBracket : (vad.processLevel rms).2.bracket = bracket at hOutcome
  obtain ⟨hActive', hAttack', -⟩ := StreamingVad.bracket_fields hBracket
  generalize (vad.processLevel rms).1.voiced = voiced at hOutcome
  generalize (vad.processLevel rms).1.event = event at hOutcome
  cases hOutcome with
  | sustained hActive | lapsing hActive | ended hActive =>
    exact absurd (hActive.symm.trans hInactive) nofun
  | attacking _ _ hShort => exact .inl ⟨hShort, hActive'.trans hInactive, hAttack'⟩
  | started _ _ hLong => exact .inr ⟨hLong, hActive'⟩
  | quiet _ hQuiet => exact absurd hLoud (Nat.not_le_of_lt hQuiet)

section Loud

variable {config : VadConfig}
  (hLoud : (StreamingVad.withOptionalNoiseFloor config (some u16Max)).adaptiveThreshold ≤ u16Max)
  (hFrames : config.minimumVoicedFrames ≤ 100)

include hLoud hFrames

/-- The loudest level, again and again: an attack until speech starts. -/
theorem loud_attack {k : Nat} (hShort : k < max config.minimumVoicedFrames 1) :
    ((vadMachine config (some u16Max)).state (List.replicate k u16Max)).speechActive = false ∧
      ((vadMachine config (some u16Max)).state (List.replicate k u16Max)).attackFrames = k ∧
      ((vadMachine config (some u16Max)).state (List.replicate k u16Max)).adaptiveThreshold =
        (StreamingVad.withOptionalNoiseFloor config (some u16Max)).adaptiveThreshold := by
  induction k with
  | zero => exact ⟨rfl, rfl, rfl⟩
  | succ k ih =>
    obtain ⟨hInactive, hAttack, hThreshold⟩ := ih (by omega)
    rw [List.replicate_succ', Transition.Machine.state_snoc]
    have hConfig := (threshold_bounded config (some u16Max) (List.replicate k u16Max)).1
    generalize (vadMachine config (some u16Max)).state (List.replicate k u16Max) = vad at *
    have hAbove : vad.adaptiveThreshold ≤ u16Max := hThreshold ▸ hLoud
    have hNext : satAdd u32Max vad.attackFrames 1 = k + 1 := by
      rw [hAttack, satAdd_eq (by rw [u32Max]; omega)]
    rcases loud_step hInactive hAbove with ⟨-, hStill, hGrown⟩ | ⟨hLong, -⟩
    · exact ⟨hStill, hGrown.trans hNext,
        (StreamingVad.processLevel_attack hInactive hAbove).trans hThreshold⟩
    · rw [hConfig, hNext] at hLong
      omega

theorem loud_start :
    ((vadMachine config (some u16Max)).state
        (List.replicate (max config.minimumVoicedFrames 1) u16Max)).speechActive = true ∧
      ((vadMachine config (some u16Max)).state
        (List.replicate (max config.minimumVoicedFrames 1) u16Max)).adaptiveThreshold =
        (StreamingVad.withOptionalNoiseFloor config (some u16Max)).adaptiveThreshold := by
  obtain ⟨k, hCount⟩ : ∃ k, max config.minimumVoicedFrames 1 = k + 1 :=
    ⟨max config.minimumVoicedFrames 1 - 1, by omega⟩
  have hShort : k < max config.minimumVoicedFrames 1 := by omega
  obtain ⟨hInactive, hAttack, hThreshold⟩ := loud_attack hLoud hFrames hShort
  rw [hCount, List.replicate_succ', Transition.Machine.state_snoc]
  have hConfig := (threshold_bounded config (some u16Max) (List.replicate k u16Max)).1
  generalize (vadMachine config (some u16Max)).state (List.replicate k u16Max) = vad at *
  have hAbove : vad.adaptiveThreshold ≤ u16Max := hThreshold ▸ hLoud
  refine ⟨?_, (StreamingVad.processLevel_attack hInactive hAbove).trans hThreshold⟩
  rcases loud_step hInactive hAbove with ⟨hStep, -⟩ | ⟨-, hStarted⟩
  · rw [hConfig, hCount, hAttack, satAdd_eq (by rw [u32Max]; omega)] at hStep
    exact absurd hStep (Nat.lt_irrefl _)
  · exact hStarted

end Loud

/-- What the audio section of an accepted configuration promises of the detector. -/
theorem validateAudio_vad {audio : AudioConfig} (h : validateAudio audio = .ok ()) :
    1 ≤ audio.vadRmsThreshold ∧ audio.vadRmsThreshold ≤ 10000 ∧
      audio.vadMinimumVoicedFrames ≤ 100 := by
  obtain ⟨_, hThreshold, h⟩ := Checks.bind_ok.mp h
  obtain ⟨_, _, h⟩ := Checks.bind_ok.mp h
  obtain ⟨_, _, h⟩ := Checks.bind_ok.mp h
  obtain ⟨_, hFrames, _⟩ := Checks.bind_ok.mp h
  have hThreshold := Checks.require_ok.mp hThreshold
  have hFrames := Checks.require_ok.mp hFrames
  simp only [Bool.not_eq_true', Bool.or_eq_false_iff, beq_eq_false_iff_ne, decide_eq_false_iff_not,
    Bool.and_eq_true, decide_eq_true_eq] at hThreshold hFrames
  omega

/-- The detector of a daemon. -/
def configured (audio : AudioConfig) : VadConfig :=
  ⟨audio.vadRmsThreshold, audio.vadMinimumVoicedFrames⟩

/-- The ratio holds in a run just as long as the threshold in force is at most `largestExact`,
and in every run just where the configured threshold is at most a quarter of that. -/
theorem hysteresis_iff (audio : AudioConfig) (hValid : validateAudio audio = .ok ()) :
    (∀ noiseFloor levels,
      (vadMachine (configured audio) noiseFloor).Along (fun _ vad rms => RatioHeld vad rms) levels ↔
        (vadMachine (configured audio) noiseFloor).Along (fun _ vad _ => Exact vad) levels) ∧
    ((∀ noiseFloor levels, (∀ floor ∈ noiseFloor, floor ≤ u16Max) → (∀ rms ∈ levels, rms ≤ u16Max) →
        (vadMachine (configured audio) noiseFloor).Along (fun _ vad rms => RatioHeld vad rms)
          levels) ↔
      audio.vadRmsThreshold ≤ 5461) := by
  obtain ⟨-, hRange, hFrames⟩ := validateAudio_vad hValid
  refine ⟨along_ratioHeld_iff _, ?_, ?_⟩
  · intro h
    by_contra hHigh
    have hSeeded := @seeded_threshold (configured audio) (Nat.lt_of_not_le hHigh) hRange
    obtain ⟨hActive, hThreshold⟩ := loud_start hSeeded.2 hFrames
    have hHeld := h (some u16Max)
      (List.replicate (max (configured audio).minimumVoicedFrames 1) u16Max ++ [0])
      (fun floor hFloor => (Option.some.inj hFloor).ge) (by
        intro rms hMem
        rcases List.mem_append.mp hMem with hMem | hMem
        · exact (List.eq_of_mem_replicate hMem).le
        · rw [List.mem_singleton.mp hMem]
          exact Nat.zero_le _)
    have hExact := (along_ratioHeld_iff _ _ _).mp hHeld _ 0 [] rfl hActive
    rw [hThreshold] at hExact
    exact absurd hSeeded.1 (Nat.not_lt_of_le hExact)
  · intro hLow noiseFloor levels _ _
    refine (along_ratioHeld_iff _ _ _).mpr fun before rms after _ _ => ?_
    have hBound := (threshold_bounded (configured audio) noiseFloor before).2
    change _ ≤ 4 * audio.vadRmsThreshold at hBound
    rw [largestExact]
    omega

/-- A loud room and a high threshold, both of which are accepted. -/
def loudRoom : AudioConfig := ⟨"", 50, 60, true, 10000, 1⟩

theorem hysteresis_broken :
    validateAudio loudRoom = .ok () ∧
      ¬ (vadMachine (configured loudRoom) (some 30000)).Along (fun _ vad rms => RatioHeld vad rms)
        [50000, 20000] := by
  decide

theorem hysteresis_iff_loudRoom :
    ¬ ∀ noiseFloor levels, (∀ floor ∈ noiseFloor, floor ≤ u16Max) →
      (∀ rms ∈ levels, rms ≤ u16Max) →
        (vadMachine (configured loudRoom) noiseFloor).Along (fun _ vad rms => RatioHeld vad rms)
          levels := by
  rw [(hysteresis_iff loudRoom (by decide)).2]
  decide

end VoxType.Vad
