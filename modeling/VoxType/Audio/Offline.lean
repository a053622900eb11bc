import VoxType.Audio.Vad
import VoxType.Library.Files

/-!
# Analysis of a finished recording

The batch analysis seeds the streaming detector with a low percentile of all
levels and reads the levels of the whole recording. Trimming rewrites the file.
-/

namespace VoxType.Vad

set_option autoImplicit false

def preRollFrames : Nat := 8

def postRollFrames : Nat := 15

def emptyResult (peak : Nat) : VadResult :=
  { speechDetected := false
    voicedFrames := 0
    totalFrames := 0
    peak
    averageRms := 0
    noiseFloor := 0
    adaptiveThreshold := 0
    speechStartFrame := none
    speechEndFrame := none
    trimStartFrame := none
    trimEndFrame := none }

namespace StreamingVad

def withNoiseFloor (config : VadConfig) (noiseFloor : Nat) : StreamingVad :=
  withOptionalNoiseFloor config (some noiseFloor)

def finish (self : StreamingVad) : VadResult :=
  if self.totalFrames = 0 then emptyResult self.peak
  else
    let averageRms := self.rmsSum / self.totalFrames
    { speechDetected := self.speechStartFrame.isSome && self.speechEndFrame.isSome
      voicedFrames := self.voicedFrames
      totalFrames := self.totalFrames
      peak := self.peak
      averageRms := if averageRms ≤ u16Max then averageRms else u16Max
      noiseFloor := self.noiseFloor.getD 0
      adaptiveThreshold := self.adaptiveThreshold
      speechStartFrame := self.speechStartFrame
      speechEndFrame := self.speechEndFrame
      trimStartFrame := self.speechStartFrame.map (· - preRollFrames)
      trimEndFrame := self.speechEndFrame.map fun value =>
        min (satAdd u32Max value postRollFrames) self.totalFrames }

end StreamingVad

/-- `chunks`: the complete frames, and what is left over. -/
def chunks (pcm : List UInt8) : List (List UInt8) :=
  Framing.frames bytesPerFrame pcm ++
    match Framing.rest bytesPerFrame pcm with
    | [] => []
    | byte :: rest => [byte :: rest]

def frameLevels (pcm : List UInt8) : List Nat × Nat :=
  (chunks pcm).foldl (fun (levels, peak) frame =>
    let (rms, framePeak) := frameLevel frame
    if 2 ≤ frame.length then (levels ++ [rms], max peak framePeak) else (levels, peak)) ([], 0)

def lowPercentile (levels : List Nat) : Nat :=
  let sorted := levels.mergeSort
  sorted.getD (min ((sorted.length - 1) * 20) u64Max / 100) 0

def analyzePcm (pcm : List UInt8) (config : VadConfig) : VadResult :=
  let (levels, peak) := frameLevels pcm
  if levels.isEmpty then emptyResult peak
  else
    let vad := levels.foldl (fun vad level => (vad.processLevel level).2)
      (StreamingVad.withNoiseFloor config (lowPercentile levels))
    { vad with peak }.finish

def analyzeFile (path : String) (config : VadConfig) : Files.FileCall VadResult := do
  let pcm ← Files.read path
  pure (analyzePcm pcm config)

def trimFile (path : String) (result : VadResult) : Files.FileCall Nat :=
  match result.trimStartFrame, result.trimEndFrame with
  | some start, some stop => do
    let pcm ← Files.read path
    let start := min (satMul u64Max start bytesPerFrame) pcm.length
    let stop := min (satMul u64Max stop bytesPerFrame) pcm.length
    if stop ≤ start then pure pcm.length
    else do
      Files.write path ((pcm.take stop).drop start)
      pure (stop - start)
  | _, _ => Files.size path

end VoxType.Vad
