import VoxType.Audio.Vad
import VoxType.Library.Rank

/-!
# Calibration of the microphone

A quiet phase and a speaking phase give a threshold between the two. Floating
point is left open: `Floats` holds its operations.
-/

namespace VoxType.Calibration

open Vad (satAdd satMul)

set_option autoImplicit false

def minPhaseFrames : Nat := 25

def isizeMax : Nat := 2 ^ 63 - 1

/-- A slice of bytes has at most `isize::MAX` of them. -/
structure PcmSlice where
  bytes : List UInt8
  length_le : bytes.length ≤ isizeMax

structure Floats (F : Type) where
  ofNat : Nat → F
  literal : ℚ → F
  mul : F → F → F
  div : F → F → F
  log10 : F → F
  lt : F → F → Bool
  le : F → F → Bool

inductive CalibrationConfidence
  | high
  | medium
  | low
  deriving DecidableEq, Repr

inductive CalibrationReason
  | good
  | marginalSnr
  | noSpeech
  | tooQuiet
  | clipping
  | unstableNoise
  deriving DecidableEq, Repr

structure CalibrationResult (F : Type) where
  noiseP20 : Nat
  noiseP50 : Nat
  noiseP95 : Nat
  speechP50 : Nat
  speechP95 : Nat
  peak : Nat
  snrDb : F
  clippingRatio : F
  speechRatio : F
  suggestedThreshold : Nat
  confidence : CalibrationConfidence
  reason : CalibrationReason
  canApply : Bool
  deriving DecidableEq, Repr

/-- The root starts at the value itself. -/
def integerSqrt (value : Nat) : Nat :=
  if value < 2 then value
  else Newton.descend (fun estimate => (estimate + value / estimate) / 2) value

structure PhaseStats where
  levels : List Nat
  peak : Nat
  clippedSamples : Nat
  samples : Nat
  deriving DecidableEq, Repr

def PhaseStats.default : PhaseStats :=
  { levels := [], peak := 0, clippedSamples := 0, samples := 0 }

/-- What the loop over the samples of a frame changes. -/
structure FrameSums where
  peak : Nat
  clippedSamples : Nat
  squareSum : Nat
  frameSamples : Nat

def FrameSums.add (sums : FrameSums) (magnitude : Nat) : FrameSums :=
  { peak := max sums.peak magnitude
    clippedSamples :=
      if 32700 ≤ magnitude then satAdd u64Max sums.clippedSamples 1 else sums.clippedSamples
    squareSum := satAdd u64Max sums.squareSum (satMul u64Max magnitude magnitude)
    frameSamples := satAdd u64Max sums.frameSamples 1 }

def PhaseStats.frame (stats : PhaseStats) (frame : List UInt8) : PhaseStats :=
  let sums := (magnitudes frame).foldl FrameSums.add ⟨stats.peak, stats.clippedSamples, 0, 0⟩
  let rms := narrowLevel ((checkedDiv sums.squareSum sums.frameSamples).map integerSqrt)
  { levels := stats.levels ++ [rms]
    peak := sums.peak
    clippedSamples := sums.clippedSamples
    samples := satAdd u64Max stats.samples sums.frameSamples }

def phaseStats (pcm : List UInt8) : PhaseStats :=
  (Framing.frames bytesPerFrame pcm).foldl PhaseStats.frame .default

/-- The index stays inside a list that is not empty. -/
def percentile (values : List Nat) (percentile : Nat) : Nat :=
  let sorted := Rank.sorted values
  sorted.getD (satMul u64Max (sorted.length - 1) percentile / 100) 0

def suggestedThreshold (noiseP95 speechP50 : Nat) : Nat :=
  if speechP50 ≤ noiseP95 then min (satAdd u16Max noiseP95 80) 10000
  else
    let separation := speechP50 - noiseP95
    min (satAdd u16Max noiseP95 (max (separation / 4) 80)) 10000

section Analyze

variable {F : Type} (floats : Floats F)

def ratio (numerator denominator : Nat) : F :=
  if denominator = 0 then floats.literal 0
  else floats.div (floats.ofNat (min numerator u32Max)) (floats.ofNat (min denominator u32Max))

def reasonOf (clipping noSpeech tooQuiet noiseUnstable : Bool) (snrDb : F) : CalibrationReason :=
  if clipping then .clipping
  else if noSpeech then .noSpeech
  else if tooQuiet then .tooQuiet
  else if noiseUnstable then .unstableNoise
  else if floats.lt snrDb (floats.literal 12) then .marginalSnr
  else .good

def confidenceOf (snrDb clippingRatio : F) : CalibrationReason → CalibrationConfidence
  | .good =>
    if floats.le (floats.literal 16) snrDb && floats.lt clippingRatio (floats.literal (1 / 1000))
    then .high else .medium
  | .marginalSnr => .medium
  | .noSpeech | .tooQuiet | .clipping | .unstableNoise => .low

/-- The rest of `analyze`, for phases that are long enough. -/
def resultOf (silence speech : PhaseStats) : CalibrationResult F :=
  let noiseP20 := percentile silence.levels 20
  let noiseP50 := percentile silence.levels 50
  let noiseP95 := percentile silence.levels 95
  let speechP50 := percentile speech.levels 50
  let speechP95 := percentile speech.levels 95
  let peak := max silence.peak speech.peak
  let totalSamples := satAdd u64Max silence.samples speech.samples
  let clippedSamples := satAdd u64Max silence.clippedSamples speech.clippedSamples
  let clippingRatio := ratio floats clippedSamples totalSamples
  let noiseReference := floats.ofNat (max noiseP50 1)
  let speechReference := floats.ofNat (max speechP50 1)
  let snrDb := floats.mul (floats.literal 20) (floats.log10 (floats.div speechReference noiseReference))
  let noiseUnstable : Bool := satAdd u16Max (satMul u16Max noiseP20 3) 200 < noiseP95
  let noSpeech : Bool := speechP50 ≤ satAdd u16Max noiseP95 100 ||
    floats.lt snrDb (floats.literal 6)
  let tooQuiet : Bool := speechP95 < 500
  let clipping : Bool := floats.le (floats.literal (1 / 100)) clippingRatio || 32700 ≤ peak
  let reason := reasonOf floats clipping noSpeech tooQuiet noiseUnstable snrDb
  let confidence := confidenceOf floats snrDb clippingRatio reason
  let suggestedThreshold := suggestedThreshold noiseP95 speechP50
  let voicedFrames := speech.levels.countP (suggestedThreshold ≤ ·)
  let speechRatio := ratio floats voicedFrames speech.levels.length
  let canApply := confidence != .low && floats.le (floats.literal (1 / 5)) speechRatio &&
    noiseP95 < suggestedThreshold
  { noiseP20, noiseP50, noiseP95, speechP50, speechP95, peak, snrDb, clippingRatio, speechRatio,
    suggestedThreshold, confidence, reason, canApply }

/-- The error is the text of a `CalibrationError`. -/
def analyze (silencePcm speechPcm : PcmSlice) : Except String (CalibrationResult F) :=
  let silence := phaseStats silencePcm.bytes
  let speech := phaseStats speechPcm.bytes
  if silence.levels.length < minPhaseFrames ∨ speech.levels.length < minPhaseFrames then
    .error "calibration phases are too short"
  else .ok (resultOf floats silence speech)

end Analyze

end VoxType.Calibration
