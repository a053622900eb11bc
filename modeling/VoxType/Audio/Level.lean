import VoxType.Core.Session
import VoxType.Library.Newton
import VoxType.Library.Framing

/-!
# Frame levels of the capture path and of the offline detector

Both sides fold the samples of a frame and take an integer square root of
their own. Machine integers are natural numbers that saturate where the
source saturates.
-/

namespace VoxType

set_option autoImplicit false

def bytesPerFrame : Nat := 640

/-- `i16::from_le_bytes([low, high]).unsigned_abs()` -/
def sampleMagnitude (low high : UInt8) : Nat :=
  let word := low.toNat + 256 * high.toNat
  if word < 2 ^ 15 then word else 2 ^ 16 - word

/-- Magnitudes of the samples in `chunks_exact(2)`; an odd last byte is dropped. -/
def magnitudes : List UInt8 → List Nat
  | low :: high :: rest => sampleMagnitude low high :: magnitudes rest
  | _ => []

/-- `u16::try_from(value).unwrap_or_default()` after an optional root -/
def narrowLevel : Option Nat → Nat
  | some value => if value ≤ u16Max then value else 0
  | none => 0

/-- `checked_div` -/
def checkedDiv (a b : Nat) : Option Nat := if b = 0 then none else some (a / b)

namespace Capture

structure AudioFrameMetrics where
  frame : Nat
  rms : Nat
  peak : Nat
  clippedSamples : Nat
  samples : Nat
  deriving DecidableEq, Repr

/-- The root of the capture path starts at a power of two near the root. -/
def integerSqrt (value : Nat) : Nat :=
  if value = 0 then 0
  else Newton.descend (fun estimate => min (estimate + value / estimate) u64Max / 2)
    (1 <<< ((value.log2 + 1) / 2))

structure FrameSums where
  squareSum : Nat
  peak : Nat
  clippedSamples : Nat
  samples : Nat

def FrameSums.add (sums : FrameSums) (magnitude : Nat) : FrameSums :=
  { squareSum := min (sums.squareSum + min (magnitude * magnitude) u64Max) u64Max
    peak := max sums.peak magnitude
    clippedSamples :=
      if magnitude ≥ 32767 - 32 then min (sums.clippedSamples + 1) u16Max else sums.clippedSamples
    samples := min (sums.samples + 1) u16Max }

def frameMetrics (frame : Nat) (pcm : List UInt8) : AudioFrameMetrics :=
  let sums := (magnitudes pcm).foldl FrameSums.add ⟨0, 0, 0, 0⟩
  { frame
    rms := narrowLevel ((checkedDiv sums.squareSum sums.samples).map integerSqrt)
    peak := sums.peak
    clippedSamples := sums.clippedSamples
    samples := sums.samples }

/-- What the reader thread holds, the recorded file and the metrics it has produced. -/
structure Reader where
  pending : List UInt8
  frame : Nat
  written : Nat
  output : List UInt8
  metrics : List AudioFrameMetrics

/-- `while pending.len() >= BYTES_PER_FRAME` -/
def drainPending (pending : List UInt8) (frame : Nat) :
    List UInt8 × Nat × List AudioFrameMetrics :=
  if bytesPerFrame ≤ pending.length then
    let drained := drainPending (pending.drop bytesPerFrame) (min (frame + 1) u64Max)
    (drained.1, drained.2.1, frameMetrics frame (pending.take bytesPerFrame) :: drained.2.2)
  else (pending, frame, [])
termination_by pending.length
decreasing_by
  rename_i h
  rw [List.length_drop]
  unfold bytesPerFrame at h ⊢
  omega

def Reader.readChunk (self : Reader) (buffer : List UInt8) : Reader :=
  let drained := drainPending (self.pending ++ buffer) self.frame
  { pending := drained.1
    frame := drained.2.1
    written := min (self.written + buffer.length) u64Max
    output := self.output ++ buffer
    metrics := self.metrics ++ drained.2.2 }

/-- The reader loop over the buffers its reads return; an empty read ends it. -/
def Reader.run (self : Reader) : List (List UInt8) → Reader
  | [] => self
  | [] :: _ => self
  | buffer :: reads => (self.readChunk buffer).run reads

def Reader.initial : Reader :=
  { pending := [], frame := 0, written := 0, output := [], metrics := [] }

end Capture

namespace Vad

/-- The root of the offline detector starts at the value itself. -/
def integerSqrt (value : Nat) : Nat :=
  if value < 2 then value
  else Newton.descend (fun estimate => (estimate + value / estimate) / 2) value

structure FrameSums where
  squareSum : Nat
  samples : Nat
  peak : Nat

def FrameSums.add (sums : FrameSums) (magnitude : Nat) : FrameSums :=
  { squareSum := min (sums.squareSum + min (magnitude * magnitude) u64Max) u64Max
    samples := min (sums.samples + 1) u64Max
    peak := max sums.peak magnitude }

def frameLevel (frame : List UInt8) : Nat × Nat :=
  let sums := (magnitudes frame).foldl FrameSums.add ⟨0, 0, 0⟩
  (narrowLevel ((checkedDiv sums.squareSum sums.samples).map integerSqrt), sums.peak)

end Vad

end VoxType
