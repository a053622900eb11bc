import VoxType.Audio.LevelAgreement

/-!
# The reader loop and the levels it reports

However its reads split the stream, the loop reports one metrics record for
each complete frame of the recorded file. Those records and the offline
detector agree exactly on frames whose mean square has agreeing roots.
-/

namespace VoxType

set_option autoImplicit false

/-- Bytes `640k .. 640k+640` of a recording. -/
def frameBytes (pcm : List UInt8) (k : Nat) : List UInt8 :=
  (pcm.drop (bytesPerFrame * k)).take bytesPerFrame

namespace Capture

/-- Metrics of consecutive frames; the frame number saturates. -/
def numbered (frame : Nat) : List (List UInt8) → List AudioFrameMetrics
  | [] => []
  | pcm :: rest => frameMetrics frame pcm :: numbered (min (frame + 1) u64Max) rest

theorem numbered_append (frame : Nat) (hFrame : frame ≤ u64Max) (left right : List (List UInt8)) :
    numbered frame (left ++ right) =
      numbered frame left ++ numbered (min (frame + left.length) u64Max) right := by
  induction left generalizing frame with
  | nil => simp [numbered, Nat.min_eq_left hFrame]
  | cons pcm left ih =>
    rw [List.cons_append, numbered, numbered, ih _ (Nat.min_le_right _ _), List.cons_append]
    have hNext : min (min (frame + 1) u64Max + left.length) u64Max =
        min (frame + (pcm :: left).length) u64Max := by
      rw [List.length_cons]
      omega
    rw [hNext]

theorem getElem?_numbered (frame : Nat) (hFrame : frame ≤ u64Max) (frames : List (List UInt8))
    (k : Nat) :
    (numbered frame frames)[k]? = frames[k]?.map (frameMetrics (min (frame + k) u64Max)) := by
  induction frames generalizing frame k with
  | nil => simp [numbered]
  | cons pcm frames ih =>
    cases k with
    | zero => simp [numbered, Nat.min_eq_left hFrame]
    | succ k =>
      rw [numbered, List.getElem?_cons_succ, List.getElem?_cons_succ, ih _ (Nat.min_le_right _ _)]
      have hNext : min (min (frame + 1) u64Max + k) u64Max = min (frame + (k + 1)) u64Max := by
        omega
      rw [hNext]

theorem bytesPerFrame_pos : 0 < bytesPerFrame := by decide

theorem drainPending_eq (pending : List UInt8) (frame : Nat) (hFrame : frame ≤ u64Max) :
    drainPending pending frame =
      (Framing.rest bytesPerFrame pending,
        min (frame + (Framing.frames bytesPerFrame pending).length) u64Max,
        numbered frame (Framing.frames bytesPerFrame pending)) := by
  induction pending, frame using drainPending.induct with
  | case1 pending frame hLong ih =>
    rw [drainPending, if_pos hLong, ih (Nat.min_le_right _ _),
      Framing.frames_cons bytesPerFrame_pos hLong, Framing.rest_drop bytesPerFrame_pos hLong]
    refine Prod.ext rfl (Prod.ext ?_ rfl)
    change min (min (frame + 1) u64Max + _) u64Max = min (frame + (_ + 1)) u64Max
    omega
  | case2 pending frame hShort =>
    have hLength : pending.length < bytesPerFrame := Nat.lt_of_not_le hShort
    rw [drainPending, if_neg hShort, Framing.frames_short hLength, Framing.rest_short hLength]
    simp [numbered, Nat.min_eq_left hFrame]

/-- What the reader holds is determined by what it has recorded. -/
structure Reader.Framed (reader : Reader) : Prop where
  pending : reader.pending = Framing.rest bytesPerFrame reader.output
  frame : reader.frame = min (Framing.frames bytesPerFrame reader.output).length u64Max
  written : reader.written = min reader.output.length u64Max
  metrics : reader.metrics = numbered 0 (Framing.frames bytesPerFrame reader.output)

theorem Reader.framed_initial : Reader.initial.Framed := by
  have hShort : ([] : List UInt8).length < bytesPerFrame := by decide
  constructor
  · exact (Framing.rest_short hShort).symm
  · change 0 = min (Framing.frames bytesPerFrame []).length u64Max
    rw [Framing.frames_short hShort]
    rfl
  · rfl
  · change [] = numbered 0 (Framing.frames bytesPerFrame [])
    rw [Framing.frames_short hShort]
    rfl

theorem Reader.framed_readChunk {self : Reader} (h : self.Framed) (buffer : List UInt8) :
    (self.readChunk buffer).Framed := by
  obtain ⟨hFrames, hRest⟩ :=
    Framing.frames_append bytesPerFrame_pos self.output buffer
  have hFrame : self.frame ≤ u64Max := by
    rw [h.frame]
    exact Nat.min_le_right _ _
  have hDrain := drainPending_eq (self.pending ++ buffer) self.frame hFrame
  constructor
  · change (drainPending (self.pending ++ buffer) self.frame).1 = _
    rw [hDrain, h.pending]
    exact hRest.symm
  · change (drainPending (self.pending ++ buffer) self.frame).2.1 =
      min (Framing.frames bytesPerFrame (self.output ++ buffer)).length u64Max
    rw [hDrain, h.pending, h.frame, hFrames, List.length_append]
    change min (min _ u64Max + _) u64Max = _
    omega
  · change min (self.written + buffer.length) u64Max =
      min (self.output ++ buffer).length u64Max
    rw [h.written, List.length_append]
    omega
  · change self.metrics ++ (drainPending (self.pending ++ buffer) self.frame).2.2 =
      numbered 0 (Framing.frames bytesPerFrame (self.output ++ buffer))
    rw [hDrain, hFrames, numbered_append 0 (Nat.zero_le _), Nat.zero_add, ← h.frame, ← h.metrics,
      ← h.pending]

theorem Reader.framed_run {self : Reader} (h : self.Framed) (reads : List (List UInt8)) :
    (self.run reads).Framed := by
  induction reads generalizing self with
  | nil => exact h
  | cons buffer reads ih =>
    cases buffer with
    | nil => exact h
    | cons byte buffer => exact ih (Reader.framed_readChunk h (byte :: buffer))

/-- The recording is the concatenation of the reads before the first empty one. -/
theorem Reader.output_run (self : Reader) (reads : List (List UInt8)) :
    (self.run reads).output = self.output ++ (reads.takeWhile (· ≠ [])).flatten := by
  induction reads generalizing self with
  | nil => simp [Reader.run]
  | cons buffer reads ih =>
    cases buffer with
    | nil => simp [Reader.run]
    | cons byte buffer =>
      rw [Reader.run, ih]
      · simp [Reader.readChunk]
      · exact List.cons_ne_nil _ _

/-- The `k`-th record describes the `k`-th complete frame of the recording. -/
theorem Reader.getElem?_metrics (reads : List (List UInt8)) (k : Nat) :
    (Reader.initial.run reads).metrics[k]? =
      if bytesPerFrame * k + bytesPerFrame ≤ (Reader.initial.run reads).output.length then
        some (frameMetrics (min k u64Max) (frameBytes (Reader.initial.run reads).output k))
      else none := by
  rw [(Reader.framed_run Reader.framed_initial reads).metrics,
    getElem?_numbered 0 (Nat.zero_le _), Nat.zero_add, Framing.getElem?_frames bytesPerFrame_pos]
  split <;> rfl

end Capture

/-- A full frame holds 320 samples, so neither fold saturates. -/
theorem frame_levels {pcm : List UInt8} (hLength : pcm.length = bytesPerFrame) (frame : Nat) :
    (Capture.frameMetrics frame pcm).rms =
        narrowLevel (some (Capture.integerSqrt (meanSquare pcm))) ∧
      Vad.frameLevel pcm =
        (narrowLevel (some (Vad.integerSqrt (meanSquare pcm))),
          (Capture.frameMetrics frame pcm).peak) := by
  have hCount : (magnitudes pcm).length = 320 := by
    rw [length_magnitudes, hLength]
    decide
  obtain ⟨hSum, hSamples, hPeak⟩ :=
    capture_sums (magnitudes pcm) (magnitudes_le pcm) ⟨0, 0, 0, 0⟩
      (by rw [hCount]; decide) (by rw [hCount]; decide)
  obtain ⟨hSum', hSamples', hPeak'⟩ :=
    vad_sums (magnitudes pcm) (magnitudes_le pcm) ⟨0, 0, 0⟩
      (by rw [hCount]; decide) (by rw [hCount]; decide)
  have hNonzero : (magnitudes pcm).length ≠ 0 := by omega
  simp only [Nat.zero_add] at hSum hSamples hSum' hSamples'
  constructor
  · simp only [Capture.frameMetrics, hSum, hSamples, checkedDiv, if_neg hNonzero, Option.map_some,
      meanSquare]
  · simp only [Vad.frameLevel, Capture.frameMetrics, hSum', hSamples', hPeak, hPeak', checkedDiv,
      if_neg hNonzero, Option.map_some, meanSquare]

theorem meanSquare_le {pcm : List UInt8} (hLength : pcm.length = bytesPerFrame) :
    meanSquare pcm ≤ 2 ^ 30 := by
  have hCount : (magnitudes pcm).length = 320 := by
    rw [length_magnitudes, hLength]
    decide
  have hSum := squareSum_le (magnitudes pcm) (magnitudes_le pcm)
  rw [meanSquare, hCount]
  rw [hCount] at hSum
  omega

theorem vad_root_le {v : Nat} (h : v ≤ 2 ^ 30) : Vad.integerSqrt v ≤ 2 ^ 15 := by
  rw [vad_integerSqrt]
  have hSqrt := Nat.sqrt_le_sqrt h
  have hTop : Nat.sqrt (2 ^ 30) = 2 ^ 15 := by
    rw [show (2 : Nat) ^ 30 = 2 ^ 15 * 2 ^ 15 by norm_num]
    exact Nat.sqrt_eq _
  omega

theorem capture_root_le {v : Nat} (h : v ≤ 2 ^ 30) : Capture.integerSqrt v ≤ 2 ^ 15 := by
  rcases Nat.eq_zero_or_pos v with rfl | hPos
  · decide
  · have hNonzero : v ≠ 0 := by omega
    rw [capture_integerSqrt hNonzero (by omega)]
    split
    · rw [← vad_integerSqrt]
      exact vad_root_le h
    · have hLog : v.log2 < 31 := (Nat.log2_lt hNonzero).mpr (by omega)
      exact Nat.pow_le_pow_right (by decide) (by omega)

theorem frame_levels_agree_iff {pcm : List UInt8} (hLength : pcm.length = bytesPerFrame)
    (frame : Nat) :
    ((Capture.frameMetrics frame pcm).rms, (Capture.frameMetrics frame pcm).peak) =
        Vad.frameLevel pcm ↔ RootsAgree (meanSquare pcm) := by
  obtain ⟨hLive, hOffline⟩ := frame_levels hLength frame
  have hMean := meanSquare_le hLength
  have hVad := vad_root_le hMean
  have hCapture := capture_root_le hMean
  rw [hLive, hOffline, Prod.mk.injEq, and_iff_left rfl,
    ← roots_agree_iff (Nat.lt_of_le_of_lt hMean (by decide))]
  have hFits : 2 ^ 15 ≤ u16Max := by decide
  simp only [narrowLevel, if_pos (Nat.le_trans hVad hFits), if_pos (Nat.le_trans hCapture hFits)]

/-- Every full frame of the recording that the reader loop makes has the same two levels. -/
def LevelsAgree (reads : List (List UInt8)) : Prop :=
  ∀ k metrics, (Capture.Reader.initial.run reads).metrics[k]? = some metrics →
    (metrics.rms, metrics.peak) =
      Vad.frameLevel (frameBytes (Capture.Reader.initial.run reads).output k)

theorem length_frameBytes {pcm : List UInt8} {k : Nat}
    (h : bytesPerFrame * k + bytesPerFrame ≤ pcm.length) :
    (frameBytes pcm k).length = bytesPerFrame := by
  rw [frameBytes, List.length_take, List.length_drop]
  omega

theorem levels_agree_iff (reads : List (List UInt8)) :
    LevelsAgree reads ↔
      ∀ k, bytesPerFrame * k + bytesPerFrame ≤ (Capture.Reader.initial.run reads).output.length →
        RootsAgree (meanSquare (frameBytes (Capture.Reader.initial.run reads).output k)) := by
  constructor
  · intro hAgree k hFull
    have hMetrics := Capture.Reader.getElem?_metrics reads k
    rw [if_pos hFull] at hMetrics
    exact (frame_levels_agree_iff (length_frameBytes hFull) _).mp (hAgree k _ hMetrics)
  · intro hRoots k metrics hMetrics
    rw [Capture.Reader.getElem?_metrics reads k] at hMetrics
    split at hMetrics
    · rename_i hFull
      cases hMetrics
      exact (frame_levels_agree_iff (length_frameBytes hFull) _).mpr (hRoots k hFull)
    · cases hMetrics

theorem magnitudes_constant (n : Nat) (low high : UInt8) :
    magnitudes (List.replicate n [low, high]).flatten =
      List.replicate n (sampleMagnitude low high) := by
  induction n with
  | zero => rfl
  | succ n ih =>
    rw [List.replicate_succ, List.flatten_cons, List.replicate_succ]
    exact congrArg (sampleMagnitude low high :: ·) ih

theorem meanSquare_constant {n : Nat} (hPos : 0 < n) (low high : UInt8) :
    meanSquare (List.replicate n [low, high]).flatten =
      sampleMagnitude low high * sampleMagnitude low high := by
  rw [meanSquare, magnitudes_constant, squareSum, List.map_replicate, List.sum_replicate,
    List.length_replicate, smul_eq_mul, Nat.mul_div_cancel_left _ hPos]

theorem not_levelsAgree_of_frame {pcm : List UInt8} (hLength : pcm.length = bytesPerFrame)
    (hRoots : ¬ RootsAgree (meanSquare pcm)) : ¬ LevelsAgree [pcm] := by
  intro hAgree
  have hRead : pcm ≠ [] := List.ne_nil_of_length_pos (by rw [hLength]; decide)
  have hOutput : (Capture.Reader.initial.run [pcm]).output = pcm := by
    rw [Capture.Reader.output_run]
    simp [hRead, Capture.Reader.initial]
  have hFrame : frameBytes pcm 0 = pcm := by
    rw [frameBytes, Nat.mul_zero, List.drop_zero, ← hLength, List.take_length]
  have hMetrics := Capture.Reader.getElem?_metrics [pcm] 0
  rw [hOutput, hLength, if_pos (by decide), hFrame] at hMetrics
  have hLevels := hAgree 0 _ hMetrics
  rw [hOutput, hFrame] at hLevels
  exact hRoots ((frame_levels_agree_iff hLength _).mp hLevels)

/-- One frame of the constant sample 5: the live level is 4, the offline level is 5. -/
theorem levels_disagree_constantFive :
    ¬ LevelsAgree [(List.replicate 320 [5, 0]).flatten] := by
  apply not_levelsAgree_of_frame
  · rw [List.length_flatten, List.map_replicate, List.sum_replicate]
    rfl
  · rw [meanSquare_constant (by decide), RootsAgree]
    decide

end VoxType
