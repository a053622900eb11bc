import VoxType.Audio.VadEvents

/-!
# Tracking of the noise floor

The floor moves at quiet frames only, towards their levels and never past
them. The entry threshold follows it within a range that the configuration
fixes.
-/

namespace VoxType.Vad

set_option autoImplicit false

theorem thresholdFor_mem (config : VadConfig) (noiseFloor : Nat) :
    config.rmsThreshold ≤ thresholdFor config noiseFloor ∧
      thresholdFor config noiseFloor ≤
        max config.rmsThreshold (min u16Max (4 * config.rmsThreshold)) := by
  simp only [thresholdFor, satMul]
  omega

theorem exitThreshold_le (threshold : Nat) : exitThreshold threshold ≤ threshold := by
  rw [exitThreshold, satMul]
  omega

section Smoothing

variable {current sample : Nat}

theorem smooth_falling (hCurrent : current ≤ u16Max) (h : sample ≤ current) (shift : Nat) :
    sample ≤ smooth current sample shift ∧ smooth current sample shift ≤ current := by
  have hDelta : (sample : Int) - current ≤ 0 := by omega
  have hLow := Int.le_shiftRight_of_nonpos (s := shift) hDelta
  have hHigh := Int.shiftRight_le_of_nonpos (s := shift) hDelta
  rw [smooth, if_pos (by omega)]
  omega

theorem smooth_rising (hSample : sample ≤ u16Max) (h : current ≤ sample) (shift : Nat) :
    current ≤ smooth current sample shift ∧ smooth current sample shift ≤ sample := by
  have hDelta : (0 : Int) ≤ (sample : Int) - current := by omega
  have hLow := Int.le_shiftRight_of_nonneg (s := shift) hDelta
  have hHigh := Int.shiftRight_le_of_nonneg (s := shift) hDelta
  rw [smooth, if_pos (by omega)]
  omega

end Smoothing

namespace StreamingVad

/-- A level moves the floor to itself, or to between the floor and itself. -/
theorem updateNoise_floor {self : StreamingVad} {rms : Nat} (hRms : rms ≤ u16Max)
    (hFloor : ∀ floor ∈ self.noiseFloor, floor ≤ u16Max) :
    ∃ floor, (self.updateNoise rms).noiseFloor = some floor ∧
      (floor = rms ∨ ∃ current, self.noiseFloor = some current ∧
        min current rms ≤ floor ∧ floor ≤ max current rms) := by
  rw [updateNoise]
  cases hCurrent : self.noiseFloor with
  | none => exact ⟨rms, rfl, .inl rfl⟩
  | some current =>
    have hBound := hFloor current hCurrent
    refine ⟨_, rfl, .inr ⟨current, rfl, ?_⟩⟩
    dsimp only
    split
    case isTrue hLe =>
      have hSmooth := smooth_falling hBound hLe 3
      omega
    case isFalse hLt =>
      have hSmooth := smooth_rising hRms (Nat.le_of_not_le hLt) 5
      omega

/-- The floor stays, or a quiet frame that leaves speech inactive updates it. -/
theorem processLevel_noise (self : StreamingVad) (rms : Nat) :
    (self.processLevel rms).2.noiseFloor = self.noiseFloor ∨
      rms < self.adaptiveThreshold ∧ (self.processLevel rms).2.speechActive = false ∧
        (self.processLevel rms).2.noiseFloor = (self.updateNoise rms).noiseFloor := by
  rw [processLevel]
  dsimp only
  split
  case isTrue hActive =>
    rw [readActive]
    split
    case isTrue => exact .inl rfl
    case isFalse hQuiet =>
      dsimp only
      split
      · have hExit := exitThreshold_le self.adaptiveThreshold
        rw [exitThreshold] at hExit
        exact .inr ⟨by omega, rfl, rfl⟩
      · exact .inl rfl
  case isFalse hInactive =>
    split
    case isTrue =>
      rw [readAttack]
      dsimp only
      split <;> exact .inl rfl
    case isFalse hQuiet =>
      exact .inr ⟨Nat.lt_of_not_le hQuiet, Bool.eq_false_iff.mpr hInactive, rfl⟩

end StreamingVad

section Runs

variable (config : VadConfig) (seed : Option Nat)

/-- The floor after some levels. -/
def floorAfter (levels : List Nat) : Option Nat := ((vadMachine config seed).state levels).noiseFloor

/-- A level of the run that changed the floor when it was read. -/
def Taught (levels : List Nat) (level : Nat) : Prop :=
  ∃ before after, levels = before ++ level :: after ∧
    floorAfter config seed (before ++ [level]) ≠ floorAfter config seed before

/-- The seed, and the levels that changed the floor. -/
def Source (levels : List Nat) (level : Nat) : Prop :=
  seed = some level ∨ Taught config seed levels level

/-- How the floor and the threshold follow the levels of a run. -/
structure NoiseTracked (levels : List Nat) : Prop where
  bounded : config.rmsThreshold ≤ ((vadMachine config seed).state levels).adaptiveThreshold ∧
    ((vadMachine config seed).state levels).adaptiveThreshold ≤
      max config.rmsThreshold (min u16Max (4 * config.rmsThreshold))
  learned : ∀ before level after, levels = before ++ level :: after →
    floorAfter config seed (before ++ [level]) ≠ floorAfter config seed before →
      level < ((vadMachine config seed).state before).adaptiveThreshold ∧
        ((vadMachine config seed).state (before ++ [level])).speechActive = false
  spanned : ∀ floor, floorAfter config seed levels = some floor →
    ∃ low high, Source config seed levels low ∧ Source config seed levels high ∧
      low ≤ floor ∧ floor ≤ high

variable {config seed}

theorem Source.mono {levels : List Nat} {level : Nat} (h : Source config seed levels level)
    (later : Nat) : Source config seed (levels ++ [later]) level := by
  rcases h with hSeed | ⟨before, after, rfl, hChanged⟩
  · exact .inl hSeed
  · refine .inr ⟨before, after ++ [later], ?_, hChanged⟩
    rw [List.append_assoc, List.cons_append]

theorem threshold_mem (levels : List Nat) :
    config.rmsThreshold ≤ ((vadMachine config seed).state levels).adaptiveThreshold ∧
      ((vadMachine config seed).state levels).adaptiveThreshold ≤
        max config.rmsThreshold (min u16Max (4 * config.rmsThreshold)) := by
  have hInvariant := (vadMachine config seed).invariant
    (P := fun _ vad => vad.config = config ∧
      ∃ noiseFloor, vad.adaptiveThreshold = thresholdFor config noiseFloor)
    ⟨rfl, _, rfl⟩ ?_ levels
  · obtain ⟨-, noiseFloor, hThreshold⟩ := hInvariant
    rw [hThreshold]
    exact thresholdFor_mem config noiseFloor
  · rintro _ vad rms ⟨hConfig, hThreshold⟩
    refine ⟨(vad.processLevel_kept rms).1.trans hConfig, ?_⟩
    rcases vad.processLevel_threshold rms with hSame | ⟨noiseFloor, hMoved⟩
    · exact ⟨_, hSame.trans hThreshold.choose_spec⟩
    · exact ⟨noiseFloor, hMoved.trans (by rw [hConfig])⟩

/-- One more level: the floor stays, or the level is quiet and the floor moves towards it. -/
theorem floorAfter_snoc (levels : List Nat) (level : Nat) :
    floorAfter config seed (levels ++ [level]) = floorAfter config seed levels ∨
      level < ((vadMachine config seed).state levels).adaptiveThreshold ∧
        ((vadMachine config seed).state (levels ++ [level])).speechActive = false ∧
          floorAfter config seed (levels ++ [level]) =
            (((vadMachine config seed).state levels).updateNoise level).noiseFloor := by
  rw [floorAfter, Transition.Machine.state_snoc]
  exact StreamingVad.processLevel_noise _ level

theorem floor_spanned {levels : List Nat} (hSeed : ∀ floor ∈ seed, floor ≤ u16Max)
    (hLevels : ∀ level ∈ levels, level ≤ u16Max) :
    ∀ floor, floorAfter config seed levels = some floor → floor ≤ u16Max ∧
      ∃ low high, Source config seed levels low ∧ Source config seed levels high ∧
        low ≤ floor ∧ floor ≤ high := by
  induction levels using List.reverseRecOn with
  | nil =>
    intro floor hFloor
    exact ⟨hSeed floor hFloor, floor, floor, .inl hFloor, .inl hFloor, le_rfl, le_rfl⟩
  | append_singleton levels level ih =>
    intro floor hFloor
    have hBefore := ih fun other hOther => hLevels other (List.mem_append_left _ hOther)
    have hLevel := hLevels level (List.mem_append_right _ (List.mem_singleton_self level))
    by_cases hSame : floorAfter config seed (levels ++ [level]) = floorAfter config seed levels
    · obtain ⟨hBound, low, high, hLow, hHigh, hSpan⟩ := hBefore floor (hSame ▸ hFloor)
      exact ⟨hBound, low, high, hLow.mono level, hHigh.mono level, hSpan⟩
    · have hTaught : Source config seed (levels ++ [level]) level :=
        .inr ⟨levels, [], rfl, hSame⟩
      obtain ⟨-, -, hMoved⟩ := (floorAfter_snoc levels level).resolve_left hSame
      obtain ⟨moved, hUpdated, hBetween⟩ := StreamingVad.updateNoise_floor hLevel
        fun current hCurrent => (hBefore current hCurrent).1
      have hEq : moved = floor := Option.some.inj (hUpdated.symm.trans (hMoved.symm.trans hFloor))
      subst hEq
      rcases hBetween with rfl | ⟨current, hCurrent, hLow, hHigh⟩
      · exact ⟨hLevel, moved, moved, hTaught, hTaught, le_rfl, le_rfl⟩
      · obtain ⟨hBound, low, high, hLowSource, hHighSource, hSpan⟩ := hBefore current hCurrent
        refine ⟨by omega, ?_⟩
        rcases Nat.le_total level current with hFalls | hRises
        · exact ⟨level, high, hTaught, hHighSource.mono level, by omega, by omega⟩
        · exact ⟨low, level, hLowSource.mono level, hTaught, by omega, by omega⟩

theorem noise_tracked {levels : List Nat} (hSeed : ∀ floor ∈ seed, floor ≤ u16Max)
    (hLevels : ∀ level ∈ levels, level ≤ u16Max) : NoiseTracked config seed levels where
  bounded := threshold_mem levels
  learned := by
    rintro before level after - hChanged
    obtain ⟨hQuiet, hInactive, -⟩ := (floorAfter_snoc before level).resolve_left hChanged
    exact ⟨hQuiet, hInactive⟩
  spanned := fun floor hFloor => (floor_spanned hSeed hLevels floor hFloor).2

/-- A quiet frame, a loud one and a quiet one on a seeded detector. -/
theorem noise_tracked_seeded : NoiseTracked ⟨300, 2⟩ (some 100) [40, 2000, 220] :=
  noise_tracked (by decide) (by decide)

end Runs

end VoxType.Vad
