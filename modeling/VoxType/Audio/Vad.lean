import VoxType.Audio.Level

/-!
# The streaming voice activity detector

Levels are `u16`, frame counts are `u32`; both saturate.
-/

namespace VoxType.Vad

set_option autoImplicit false

def releaseFrames : Nat := 3

def hangoverFrames : Nat := 12

def endSilenceFrames : Nat := releaseFrames + hangoverFrames

structure VadConfig where
  rmsThreshold : Nat
  minimumVoicedFrames : Nat
  deriving DecidableEq, Repr

structure VadResult where
  speechDetected : Bool
  voicedFrames : Nat
  totalFrames : Nat
  peak : Nat
  averageRms : Nat
  noiseFloor : Nat
  adaptiveThreshold : Nat
  speechStartFrame : Option Nat
  speechEndFrame : Option Nat
  trimStartFrame : Option Nat
  trimEndFrame : Option Nat
  deriving DecidableEq, Repr

inductive VadEvent
  | speechStarted (frame : Nat)
  | speechEnded (frame : Nat)
  deriving DecidableEq, Repr

structure VadFrameAnalysis where
  frame : Nat
  rms : Nat
  noiseFloor : Nat
  adaptiveThreshold : Nat
  voiced : Bool
  speechActive : Bool
  attackFrames : Nat
  releaseFrames : Nat
  hangoverFramesRemaining : Nat
  event : Option VadEvent
  deriving DecidableEq, Repr

structure StreamingVad where
  config : VadConfig
  noiseFloor : Option Nat
  adaptiveThreshold : Nat
  totalFrames : Nat
  voicedFrames : Nat
  rmsSum : Nat
  peak : Nat
  attackFrames : Nat
  attackStartFrame : Option Nat
  releaseFrames : Nat
  speechActive : Bool
  speechStartFrame : Option Nat
  speechEndFrame : Option Nat
  deriving DecidableEq, Repr

/-- `saturating_add` on a type whose largest value is `bound` -/
def satAdd (bound a b : Nat) : Nat := min (a + b) bound

def satMul (bound a b : Nat) : Nat := min (a * b) bound

def thresholdFor (config : VadConfig) (noiseFloor : Nat) : Nat :=
  let noiseThreshold := satAdd u16Max (satMul u16Max noiseFloor 2) 80
  max config.rmsThreshold (min noiseThreshold (satMul u16Max config.rmsThreshold 4))

/-- The shift of a negative difference rounds down. -/
def smooth (current sample shift : Nat) : Nat :=
  let value : Int := (current : Int) + ((sample : Int) - (current : Int)) >>> shift
  if 0 ≤ value ∧ value ≤ (u16Max : Int) then value.toNat else 0

namespace StreamingVad

def withOptionalNoiseFloor (config : VadConfig) (noiseFloor : Option Nat) : StreamingVad :=
  { config
    noiseFloor
    adaptiveThreshold := thresholdFor config (noiseFloor.getD 0)
    totalFrames := 0
    voicedFrames := 0
    rmsSum := 0
    peak := 0
    attackFrames := 0
    attackStartFrame := none
    releaseFrames := 0
    speechActive := false
    speechStartFrame := none
    speechEndFrame := none }

def new (config : VadConfig) : StreamingVad := withOptionalNoiseFloor config none

def updateNoise (self : StreamingVad) (rms : Nat) : StreamingVad :=
  let noiseFloor := match self.noiseFloor with
    | none => rms
    | some current => if rms ≤ current then smooth current rms 3 else smooth current rms 5
  { self with
    noiseFloor := some noiseFloor
    adaptiveThreshold := thresholdFor self.config noiseFloor }

/-- What one level does to the detector, and what the analysis reports besides it. -/
structure Reading where
  vad : StreamingVad
  voiced : Bool
  event : Option VadEvent
  reportedAttack : Nat
  reportedRelease : Nat

def readActive (self : StreamingVad) (frame rms exitThreshold : Nat) : Reading :=
  if exitThreshold ≤ rms then
    { vad := { self with
        voicedFrames := satAdd u32Max self.voicedFrames 1
        releaseFrames := 0
        speechEndFrame := some (satAdd u32Max frame 1) }
      voiced := true, event := none, reportedAttack := 0, reportedRelease := 0 }
  else
    let release := satAdd u32Max self.releaseFrames 1
    if endSilenceFrames ≤ release then
      { vad := { self with speechActive := false, releaseFrames := 0 }.updateNoise rms
        voiced := false
        event := self.speechEndFrame.map .speechEnded
        reportedAttack := 0
        reportedRelease := release }
    else
      { vad := { self with releaseFrames := release }
        voiced := false, event := none, reportedAttack := 0, reportedRelease := release }

def readAttack (self : StreamingVad) (frame : Nat) : Reading :=
  let attackStart := if self.attackFrames = 0 then some frame else self.attackStartFrame
  let attack := satAdd u32Max self.attackFrames 1
  let self := { self with
    voicedFrames := satAdd u32Max self.voicedFrames 1
    attackStartFrame := attackStart
    attackFrames := attack }
  if max self.config.minimumVoicedFrames 1 ≤ attack then
    let start := attackStart.getD frame
    { vad := { self with
        speechActive := true
        speechStartFrame := some (self.speechStartFrame.getD start)
        speechEndFrame := some (satAdd u32Max frame 1)
        attackFrames := 0
        attackStartFrame := none }
      voiced := true
      event := some (.speechStarted start)
      reportedAttack := attack
      reportedRelease := 0 }
  else
    { vad := self, voiced := true, event := none, reportedAttack := attack, reportedRelease := 0 }

def processLevel (self : StreamingVad) (rms : Nat) : VadFrameAnalysis × StreamingVad :=
  let frame := self.totalFrames
  let entryThreshold := self.adaptiveThreshold
  let exitThreshold := satMul u16Max entryThreshold 3 / 4
  let self := { self with
    totalFrames := satAdd u32Max self.totalFrames 1
    rmsSum := satAdd u64Max self.rmsSum rms }
  let reading :=
    if self.speechActive then self.readActive frame rms exitThreshold
    else if entryThreshold ≤ rms then self.readAttack frame
    else
      { vad := { self with attackFrames := 0, attackStartFrame := none }.updateNoise rms
        voiced := false, event := none, reportedAttack := 0, reportedRelease := 0 }
  ({ frame
     rms
     noiseFloor := reading.vad.noiseFloor.getD 0
     adaptiveThreshold := reading.vad.adaptiveThreshold
     voiced := reading.voiced
     speechActive := reading.vad.speechActive
     attackFrames := reading.reportedAttack
     releaseFrames := reading.reportedRelease
     hangoverFramesRemaining :=
       if reading.vad.speechActive ∧ 0 < reading.reportedRelease then
         endSilenceFrames - reading.reportedRelease
       else 0
     event := reading.event }, reading.vad)

end StreamingVad

end VoxType.Vad
