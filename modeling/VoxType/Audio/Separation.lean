import VoxType.Audio.Calibration
import VoxType.Audio.CaptureLoop
import VoxType.Daemon.Validation

/-!
# What an applicable calibration says

The threshold lies between the levels of the two phases, and the configuration
accepts it. The levels are those of the offline detector.
-/

namespace VoxType.Calibration

open Vad (satAdd satMul)

set_option autoImplicit false

section Phase

/-- Both folds sum the same squares over the same samples. -/
theorem frameSums_vad (levels : List Nat) (sums : FrameSums) (vad : Vad.FrameSums)
    (hSquare : sums.squareSum = vad.squareSum) (hSamples : sums.frameSamples = vad.samples) :
    (levels.foldl FrameSums.add sums).squareSum = (levels.foldl Vad.FrameSums.add vad).squareSum ∧
      (levels.foldl FrameSums.add sums).frameSamples =
        (levels.foldl Vad.FrameSums.add vad).samples := by
  induction levels generalizing sums vad with
  | nil => exact ⟨hSquare, hSamples⟩
  | cons level levels ih =>
    refine ih (sums.add level) (vad.add level) ?_ ?_
    · rw [FrameSums.add, Vad.FrameSums.add, hSquare]
      rfl
    · rw [FrameSums.add, Vad.FrameSums.add, hSamples]
      rfl

theorem frameSums_peak (levels : List Nat) (sums : FrameSums) :
    (levels.foldl FrameSums.add sums).peak = levels.foldl max sums.peak := by
  induction levels generalizing sums with
  | nil => rfl
  | cons level levels ih => exact ih _

theorem le_foldl_max (levels : List Nat) (start : Nat) :
    start ≤ levels.foldl max start ∧ ∀ level ∈ levels, level ≤ levels.foldl max start := by
  induction levels generalizing start with
  | nil => exact ⟨le_refl _, nofun⟩
  | cons level levels ih =>
    obtain ⟨hStart, hLevels⟩ := ih (max start level)
    refine ⟨(le_max_left _ _).trans hStart, ?_⟩
    intro other hMem
    rcases List.mem_cons.mp hMem with rfl | hMem
    · exact (le_max_right _ _).trans hStart
    · exact hLevels other hMem

theorem phaseFrame_levels (stats : PhaseStats) (frame : List UInt8) :
    (stats.frame frame).levels = stats.levels ++ [(Vad.frameLevel frame).1] := by
  obtain ⟨hSquare, hSamples⟩ := frameSums_vad (magnitudes frame)
    ⟨stats.peak, stats.clippedSamples, 0, 0⟩ ⟨0, 0, 0⟩ rfl rfl
  rw [PhaseStats.frame, Vad.frameLevel, hSquare, hSamples]
  rfl

theorem phaseFrame_peak (stats : PhaseStats) (frame : List UInt8) :
    stats.peak ≤ (stats.frame frame).peak ∧
      ∀ magnitude ∈ magnitudes frame, magnitude ≤ (stats.frame frame).peak := by
  rw [PhaseStats.frame]
  dsimp only
  rw [frameSums_peak]
  exact le_foldl_max _ _

theorem foldl_levels (frames : List (List UInt8)) (stats : PhaseStats) :
    (frames.foldl PhaseStats.frame stats).levels =
      stats.levels ++ frames.map fun frame => (Vad.frameLevel frame).1 := by
  induction frames generalizing stats with
  | nil => exact (List.append_nil _).symm
  | cons frame frames ih =>
    rw [List.foldl_cons, ih, phaseFrame_levels, List.append_assoc]
    rfl

theorem foldl_peak (frames : List (List UInt8)) (stats : PhaseStats) :
    stats.peak ≤ (frames.foldl PhaseStats.frame stats).peak ∧
      ∀ frame ∈ frames, ∀ magnitude ∈ magnitudes frame,
        magnitude ≤ (frames.foldl PhaseStats.frame stats).peak := by
  induction frames generalizing stats with
  | nil => exact ⟨le_refl _, nofun⟩
  | cons frame frames ih =>
    obtain ⟨hStart, hFrames⟩ := ih (stats.frame frame)
    obtain ⟨hPeak, hSamples⟩ := phaseFrame_peak stats frame
    refine ⟨hPeak.trans hStart, ?_⟩
    intro other hMem magnitude hMagnitude
    rcases List.mem_cons.mp hMem with rfl | hMem
    · exact (hSamples magnitude hMagnitude).trans hStart
    · exact hFrames other hMem magnitude hMagnitude

theorem phaseStats_levels (pcm : List UInt8) :
    (phaseStats pcm).levels =
      (Framing.frames bytesPerFrame pcm).map fun frame => (Vad.frameLevel frame).1 :=
  foldl_levels _ .default

theorem phaseStats_peak {pcm frame : List UInt8} (hFrame : frame ∈ Framing.frames bytesPerFrame pcm)
    {magnitude : Nat} (hMagnitude : magnitude ∈ magnitudes frame) :
    magnitude ≤ (phaseStats pcm).peak :=
  (foldl_peak _ .default).2 frame hFrame magnitude hMagnitude

theorem frameSums_unclipped {levels : List Nat} (h : ∀ level ∈ levels, level < 32700)
    (sums : FrameSums) :
    (levels.foldl FrameSums.add sums).clippedSamples = sums.clippedSamples := by
  induction levels generalizing sums with
  | nil => rfl
  | cons level levels ih =>
    obtain ⟨hLevel, hRest⟩ := List.forall_mem_cons.mp h
    rw [List.foldl_cons, ih hRest, FrameSums.add]
    exact if_neg (Nat.not_le_of_lt hLevel)

theorem foldl_unclipped {frames : List (List UInt8)}
    (h : ∀ frame ∈ frames, ∀ magnitude ∈ magnitudes frame, magnitude < 32700)
    (stats : PhaseStats) :
    (frames.foldl PhaseStats.frame stats).clippedSamples = stats.clippedSamples := by
  induction frames generalizing stats with
  | nil => rfl
  | cons frame frames ih =>
    obtain ⟨hFrame, hRest⟩ := List.forall_mem_cons.mp h
    rw [List.foldl_cons, ih hRest]
    exact frameSums_unclipped hFrame _

theorem foldl_max_le {levels : List Nat} {bound : Nat} (h : ∀ level ∈ levels, level ≤ bound)
    {start : Nat} (hStart : start ≤ bound) : levels.foldl max start ≤ bound := by
  induction levels generalizing start with
  | nil => exact hStart
  | cons level levels ih =>
    obtain ⟨hLevel, hRest⟩ := List.forall_mem_cons.mp h
    exact ih hRest (max_le hStart hLevel)

theorem foldl_peak_le {frames : List (List UInt8)} {bound : Nat}
    (h : ∀ frame ∈ frames, ∀ magnitude ∈ magnitudes frame, magnitude ≤ bound)
    {stats : PhaseStats} (hStats : stats.peak ≤ bound) :
    (frames.foldl PhaseStats.frame stats).peak ≤ bound := by
  induction frames generalizing stats with
  | nil => exact hStats
  | cons frame frames ih =>
    obtain ⟨hFrame, hRest⟩ := List.forall_mem_cons.mp h
    refine ih hRest ?_
    rw [PhaseStats.frame]
    dsimp only
    rw [frameSums_peak]
    exact foldl_max_le hFrame hStats

theorem phaseStats_unclipped {pcm : List UInt8}
    (h : ∀ frame ∈ Framing.frames bytesPerFrame pcm, ∀ magnitude ∈ magnitudes frame,
      magnitude < 32700) : (phaseStats pcm).clippedSamples = 0 :=
  foldl_unclipped h .default

theorem narrowLevel_le (level : Option Nat) : narrowLevel level ≤ u16Max := by
  rw [narrowLevel.eq_def]
  split
  · split
    · assumption
    · exact Nat.zero_le _
  · exact Nat.zero_le _

theorem level_le {pcm : List UInt8} {level : Nat} (hMem : level ∈ (phaseStats pcm).levels) :
    level ≤ u16Max := by
  rw [phaseStats_levels] at hMem
  obtain ⟨frame, _, rfl⟩ := List.mem_map.mp hMem
  exact narrowLevel_le _

theorem length_levels (pcm : List UInt8) :
    (phaseStats pcm).levels.length = pcm.length / bytesPerFrame := by
  rw [phaseStats_levels, List.length_map, Framing.length_frames (by decide)]

end Phase

section Percentile

variable {values : List Nat} {part : Nat}

theorem percentile_place (hPart : part ≤ 100) (hLength : values.length ≤ isizeMax / bytesPerFrame) :
    satMul u64Max ((Rank.sorted values).length - 1) part / 100 = (values.length - 1) * part / 100 := by
  have hProduct : (values.length - 1) * part ≤ isizeMax / bytesPerFrame * 100 :=
    Nat.mul_le_mul ((Nat.sub_le _ _).trans hLength) hPart
  have hBound : isizeMax / bytesPerFrame * 100 ≤ u64Max := by decide
  rw [Rank.length_sorted, satMul, Nat.min_eq_left (hProduct.trans hBound)]

theorem percentile_lt (hPart : part ≤ 100) (hValues : values ≠ []) :
    (values.length - 1) * part / 100 < (Rank.sorted values).length := by
  have hPos := List.length_pos_iff.mpr hValues
  have hLe : (values.length - 1) * part / 100 ≤ values.length - 1 :=
    Nat.div_le_of_le_mul (by rw [Nat.mul_comm 100]; exact Nat.mul_le_mul_left _ hPart)
  rw [Rank.length_sorted]
  omega

theorem percentile_eq (hPart : part ≤ 100) (hValues : values ≠ [])
    (hLength : values.length ≤ isizeMax / bytesPerFrame) :
    ∃ hPlace : (values.length - 1) * part / 100 < (Rank.sorted values).length,
      percentile values part = (Rank.sorted values)[(values.length - 1) * part / 100] := by
  refine ⟨percentile_lt hPart hValues, ?_⟩
  rw [percentile, percentile_place hPart hLength, List.getD_eq_getElem]

theorem percentile_mem (hPart : part ≤ 100) (hValues : values ≠ [])
    (hLength : values.length ≤ isizeMax / bytesPerFrame) : percentile values part ∈ values := by
  obtain ⟨hPlace, hEq⟩ := percentile_eq hPart hValues hLength
  rw [hEq]
  exact Rank.mem_sorted.mp (List.getElem_mem hPlace)

end Percentile

section Threshold

variable {noise speech : Nat}

theorem suggestedThreshold_le (noise speech : Nat) : suggestedThreshold noise speech ≤ 10000 := by
  rw [suggestedThreshold]
  split <;> exact Nat.min_le_right _ _

/-- A distance of more than 100 leaves room for the threshold. -/
theorem suggestedThreshold_lt (h : noise + 100 < speech) :
    suggestedThreshold noise speech < speech := by
  rw [suggestedThreshold, if_neg (by omega)]
  have hSum : satAdd u16Max noise (max ((speech - noise) / 4) 80) ≤
      noise + max ((speech - noise) / 4) 80 := Nat.min_le_left _ _
  refine (Nat.min_le_left _ _).trans_lt (hSum.trans_lt ?_)
  omega

theorem separated {speech : Nat} (hSpeech : speech ≤ u16Max)
    (h : ¬ speech ≤ satAdd u16Max noise 100) : noise + 100 < speech := by
  rw [satAdd] at h
  omega

end Threshold

section Applicable

variable {F : Type} (floats : Floats F)

/-- What an answer that can be applied has not run into. -/
theorem confidenceOf_ne_low {snrDb clippingRatio : F}
    {clipping noSpeech tooQuiet noiseUnstable : Bool}
    (h : confidenceOf floats snrDb clippingRatio
      (reasonOf floats clipping noSpeech tooQuiet noiseUnstable snrDb) ≠ .low) :
    clipping = false ∧ noSpeech = false ∧ tooQuiet = false ∧ noiseUnstable = false := by
  rw [reasonOf] at h
  cases clipping
  case true => exact absurd rfl h
  cases noSpeech
  case true => exact absurd rfl h
  cases tooQuiet
  case true => exact absurd rfl h
  cases noiseUnstable
  case true => exact absurd rfl h
  exact ⟨rfl, rfl, rfl, rfl⟩

/-- What can be applied passed every check. -/
structure Passed (silence speech : PhaseStats) : Prop where
  unclipped : max silence.peak speech.peak < 32700
  distance : ¬ percentile speech.levels 50 ≤ satAdd u16Max (percentile silence.levels 95) 100
  above : percentile silence.levels 95 <
    suggestedThreshold (percentile silence.levels 95) (percentile speech.levels 50)

theorem resultOf_passed {silence speech : PhaseStats}
    (h : (resultOf floats silence speech).canApply = true) : Passed silence speech := by
  simp only [resultOf, Bool.and_eq_true, bne_iff_ne, decide_eq_true_eq] at h
  obtain ⟨⟨hConfidence, _⟩, hThreshold⟩ := h
  obtain ⟨hClipping, hSpeech, _, _⟩ := confidenceOf_ne_low floats hConfidence
  rw [Bool.or_eq_false_iff, decide_eq_false_iff_not] at hClipping hSpeech
  exact ⟨Nat.lt_of_not_le hClipping.2, hSpeech.1, hThreshold⟩

end Applicable

section Accepted

theorem validateAudio_threshold {audio : AudioConfig} (h : validateAudio audio = .ok ())
    {threshold : Nat} (hPos : 0 < threshold) (hLe : threshold ≤ 10000) :
    validateAudio { audio with vadRmsThreshold := threshold } = .ok () := by
  rw [validateAudio, Checks.bind_ok] at h ⊢
  obtain ⟨_, _, hRest⟩ := h
  refine ⟨(), Checks.require_ok.mpr ?_, hRest⟩
  rw [Bool.not_eq_true', Bool.or_eq_false_iff, beq_eq_false_iff_ne, decide_eq_false_iff_not]
  exact ⟨hPos.ne', Nat.not_lt_of_le hLe⟩

/-- What the settings do with a threshold that is applied. -/
def withVadRmsThreshold (stored : StoredConfig) (threshold : Nat) : StoredConfig :=
  { stored with audio := { stored.audio with vadRmsThreshold := threshold } }

theorem validate_threshold {stored : StoredConfig} (h : stored.validate = .ok ())
    {threshold : Nat} (hPos : 0 < threshold) (hLe : threshold ≤ 10000) :
    (withVadRmsThreshold stored threshold).validate = .ok () := by
  simp only [StoredConfig.validate, Checks.bind_ok] at h ⊢
  obtain ⟨_, hSchema, _, hProfile, _, hRoutes, _, hProviders, _, hQuotas, hAudio⟩ := h
  exact ⟨_, hSchema, _, hProfile, _, hRoutes, _, hProviders, _, hQuotas,
    validateAudio_threshold hAudio hPos hLe⟩

end Accepted

section Counts

variable {values : List Nat} {bound : Nat}

theorem count_above_percentile (hValues : values ≠ [])
    (hLength : values.length ≤ isizeMax / bytesPerFrame) (h : percentile values 95 < bound) :
    values.countP (bound ≤ ·) ≤ ((values.length - 1) * 5) ⌈/⌉ 100 := by
  obtain ⟨hPlace, hEq⟩ := percentile_eq (show 95 ≤ 100 by decide) hValues hLength
  have hCount := Rank.count_le_of_below hPlace (hEq ▸ h)
  rw [Nat.ceilDiv_eq_add_pred_div]
  omega

theorem count_from_percentile (hValues : values ≠ [])
    (hLength : values.length ≤ isizeMax / bytesPerFrame) (h : bound ≤ percentile values 50) :
    values.length ≤ 2 * values.countP (bound ≤ ·) := by
  obtain ⟨hPlace, hEq⟩ := percentile_eq (show 50 ≤ 100 by decide) hValues hLength
  have hCount := Rank.le_count_of_reached hPlace (hEq ▸ h)
  omega

end Counts

section Main

variable {F : Type} (floats : Floats F) {silencePcm speechPcm : PcmSlice}
  {result : CalibrationResult F}

theorem length_levels_le (pcm : PcmSlice) :
    (phaseStats pcm.bytes).levels.length ≤ isizeMax / bytesPerFrame := by
  rw [length_levels]
  exact Nat.div_le_div_right pcm.length_le

theorem levels_ne_nil {pcm : PcmSlice}
    (h : ¬ (phaseStats pcm.bytes).levels.length < minPhaseFrames) :
    (phaseStats pcm.bytes).levels ≠ [] := by
  intro hNil
  rw [hNil] at h
  exact h (by decide)

/-- The threshold of a result lies between the two phases. -/
structure Separates (silencePcm speechPcm : PcmSlice) (result : CalibrationResult F) : Prop where
  above_noise : result.noiseP95 < result.suggestedThreshold
  below_speech : result.suggestedThreshold < result.speechP50
  range : 1 ≤ result.suggestedThreshold ∧ result.suggestedThreshold ≤ 10000
  accepted : ∀ stored : StoredConfig, stored.validate = .ok () →
    (withVadRmsThreshold stored result.suggestedThreshold).validate = .ok ()
  voiced : (phaseStats speechPcm.bytes).levels.length ≤
    2 * (phaseStats speechPcm.bytes).levels.countP (result.suggestedThreshold ≤ ·)
  quiet : (phaseStats silencePcm.bytes).levels.countP (result.suggestedThreshold ≤ ·) ≤
    (((phaseStats silencePcm.bytes).levels.length - 1) * 5) ⌈/⌉ 100
  unclipped : ∀ pcm ∈ [silencePcm, speechPcm], ∀ frame ∈ Framing.frames bytesPerFrame pcm.bytes,
    ∀ magnitude ∈ magnitudes frame, magnitude < 32700

theorem analyze_separates (hResult : analyze floats silencePcm speechPcm = .ok result)
    (hApply : result.canApply = true) : Separates silencePcm speechPcm result := by
  rw [analyze] at hResult
  split at hResult
  · cases hResult
  rename_i hLong
  obtain ⟨hSilence, hSpeech⟩ := not_or.mp hLong
  cases hResult
  have hPassed := resultOf_passed floats hApply
  have hSpeechLe : percentile (phaseStats speechPcm.bytes).levels 50 ≤ u16Max :=
    level_le (percentile_mem (by decide) (levels_ne_nil hSpeech) (length_levels_le _))
  have hBelow := suggestedThreshold_lt (separated hSpeechLe hPassed.distance)
  have hPos := (Nat.zero_le _).trans_lt hPassed.above
  have hLe := suggestedThreshold_le (percentile (phaseStats silencePcm.bytes).levels 95)
    (percentile (phaseStats speechPcm.bytes).levels 50)
  refine
    { above_noise := hPassed.above
      below_speech := hBelow
      range := ⟨hPos, hLe⟩
      accepted := fun stored hValid => validate_threshold hValid hPos hLe
      voiced := count_from_percentile (levels_ne_nil hSpeech) (length_levels_le _) hBelow.le
      quiet := count_above_percentile (levels_ne_nil hSilence) (length_levels_le _) hPassed.above
      unclipped := ?_ }
  intro pcm hPcm frame hFrame magnitude hMagnitude
  refine (phaseStats_peak hFrame hMagnitude).trans_lt ?_
  rcases List.mem_pair.mp hPcm with rfl | rfl
  · exact (Nat.le_max_left _ _).trans_lt hPassed.unclipped
  · exact (Nat.le_max_right _ _).trans_lt hPassed.unclipped

end Main

section Steady

/-- Rational numbers; the logarithm is exact at powers of ten. -/
def rationals : Floats ℚ where
  ofNat n := n
  literal q := q
  mul := (· * ·)
  div := (· / ·)
  log10 q := Nat.log 10 ⌊q⌋₊
  lt a b := decide (a < b)
  le a b := decide (a ≤ b)

/-- A frame of one sample. -/
def tone (low high : UInt8) : List UInt8 := (List.replicate 320 [low, high]).flatten

theorem length_tone (low high : UInt8) : (tone low high).length = bytesPerFrame := by
  rw [tone, List.length_flatten, List.map_replicate, List.sum_replicate]
  rfl

theorem magnitudes_tone (low high : UInt8) :
    magnitudes (tone low high) = List.replicate 320 (sampleMagnitude low high) := by
  have hMany : ∀ n, magnitudes (List.replicate n [low, high]).flatten =
      List.replicate n (sampleMagnitude low high) := by
    intro n
    induction n with
    | zero => rfl
    | succ n ih =>
      rw [List.replicate_succ, List.flatten_cons, List.replicate_succ, ← ih]
      rfl
  exact hMany 320

theorem frameLevel_tone (low high : UInt8) :
    (Vad.frameLevel (tone low high)).1 = sampleMagnitude low high := by
  have hSquare : meanSquare (tone low high) = sampleMagnitude low high * sampleMagnitude low high := by
    rw [meanSquare, magnitudes_tone, squareSum, List.map_replicate, List.sum_replicate,
      List.length_replicate, smul_eq_mul, Nat.mul_div_cancel_left _ (by decide)]
  have hLe := sampleMagnitude_le low high
  rw [(frame_levels (length_tone low high) 0).2, vad_integerSqrt, hSquare, Nat.sqrt_eq, narrowLevel,
    if_pos (hLe.trans (by decide))]

/-- Half a second of one sample. -/
def steady (low high : UInt8) : PcmSlice where
  bytes := (List.replicate 25 (tone low high)).flatten
  length_le := by
    rw [List.length_flatten, List.map_replicate, List.sum_replicate, length_tone]
    decide

theorem frames_steady (low high : UInt8) :
    Framing.frames bytesPerFrame (steady low high).bytes = List.replicate 25 (tone low high) :=
  Framing.frames_flatten (by decide) fun piece hPiece => by
    rw [List.eq_of_mem_replicate hPiece, length_tone]

theorem levels_steady (low high : UInt8) :
    (phaseStats (steady low high).bytes).levels =
      List.replicate 25 (sampleMagnitude low high) := by
  rw [phaseStats_levels, frames_steady, List.map_replicate, frameLevel_tone]

theorem magnitude_steady {low high : UInt8} {frame : List UInt8}
    (hFrame : frame ∈ Framing.frames bytesPerFrame (steady low high).bytes) {magnitude : Nat}
    (hMagnitude : magnitude ∈ magnitudes frame) : magnitude = sampleMagnitude low high := by
  rw [frames_steady] at hFrame
  rw [List.eq_of_mem_replicate hFrame, magnitudes_tone] at hMagnitude
  exact List.eq_of_mem_replicate hMagnitude

theorem unclipped_steady {low high : UInt8} (h : sampleMagnitude low high < 32700) :
    (phaseStats (steady low high).bytes).clippedSamples = 0 :=
  phaseStats_unclipped fun _ hFrame _ hMagnitude => (magnitude_steady hFrame hMagnitude).trans_lt h

theorem peak_steady (low high : UInt8) :
    (phaseStats (steady low high).bytes).peak ≤ sampleMagnitude low high :=
  foldl_peak_le (fun _ hFrame _ hMagnitude => (magnitude_steady hFrame hMagnitude).le)
    (Nat.zero_le _)

theorem percentile_replicate (value : Nat) {part : Nat} (hPart : part ≤ 100) :
    percentile (List.replicate 25 value) part = value := by
  have hValues : List.replicate 25 value ≠ [] := nofun
  have hLength : (List.replicate 25 value).length ≤ isizeMax / bytesPerFrame := by
    rw [List.length_replicate]
    decide
  exact List.eq_of_mem_replicate (percentile_mem hPart hValues hLength)

theorem ratio_zero (denominator : Nat) : ratio rationals 0 denominator = 0 := by
  rw [ratio]
  split
  · rfl
  · exact zero_div _

theorem canApply_steady :
    (resultOf rationals (phaseStats (steady 0 0).bytes)
      (phaseStats (steady 0xE8 0x03).bytes)).canApply = true := by
  have hQuiet := levels_steady 0 0
  have hLoud := levels_steady 0xE8 0x03
  have hQuietClipped := unclipped_steady (show sampleMagnitude 0 0 < 32700 by decide)
  have hLoudClipped := unclipped_steady (show sampleMagnitude 0xE8 0x03 < 32700 by decide)
  have hPeak : ¬ 32700 ≤ max (phaseStats (steady 0 0).bytes).peak
      (phaseStats (steady 0xE8 0x03).bytes).peak :=
    Nat.not_le_of_lt (max_lt ((peak_steady 0 0).trans_lt (by decide))
      ((peak_steady 0xE8 0x03).trans_lt (by decide)))
  simp only [resultOf, hQuiet, hLoud, hQuietClipped, hLoudClipped, satAdd, Nat.add_zero,
    Nat.zero_min, ratio_zero, hPeak, decide_false, percentile_replicate _ (show 20 ≤ 100 by decide),
    percentile_replicate _ (show 50 ≤ 100 by decide),
    percentile_replicate _ (show 95 ≤ 100 by decide)]
  decide +kernel

theorem analyze_steady :
    analyze rationals (steady 0 0) (steady 0xE8 0x03) =
      .ok (resultOf rationals (phaseStats (steady 0 0).bytes)
        (phaseStats (steady 0xE8 0x03).bytes)) := by
  rw [analyze]
  refine if_neg ?_
  rw [levels_steady, levels_steady, List.length_replicate, List.length_replicate]
  decide

/-- A silent phase and one of a constant level. -/
theorem analyze_separates_steady :
    Separates (steady 0 0) (steady 0xE8 0x03)
      (resultOf rationals (phaseStats (steady 0 0).bytes)
        (phaseStats (steady 0xE8 0x03).bytes)) :=
  analyze_separates rationals analyze_steady canApply_steady

end Steady

end VoxType.Calibration
