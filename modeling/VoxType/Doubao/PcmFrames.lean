import VoxType.Doubao.Runner
import VoxType.Library.Framing

/-!
# Frames of a recording

The driver pulls frames out of a reader, a microphone pushes chunks into a
framer. A recording is cut into the same frames either way.
-/

namespace VoxType.Doubao

set_option autoImplicit false

/-- A reader hands out its bytes in order, as few at a time as it likes. It may be interrupted
any number of times, but not for ever. -/
structure Reader (σ : Type) where
  read : Nat → σ → ReadResult × σ
  remaining : σ → Bytes
  interruptions : σ → Nat
  bytes_eq : ∀ {n s s' data}, read n s = (.bytes data, s') → remaining s = data ++ remaining s'
  bytes_le : ∀ {n s s' data}, read n s = (.bytes data, s') → data.length ≤ n
  bytes_end : ∀ {n s s'}, 0 < n → read n s = (.bytes [], s') → remaining s = []
  interrupted_eq : ∀ {n s s'}, read n s = (.interrupted, s') → remaining s' = remaining s
  interrupted_lt : ∀ {n s s'}, read n s = (.interrupted, s') → interruptions s' < interruptions s

def invalidPcm : VoxError :=
  voxError .invalidArgument "doubao.invalid_pcm"
    "PCM recording ended with an incomplete sample" false

def pcmReadFailed : VoxError :=
  voxError .unavailable "doubao.pcm_read_failed" "Could not read the PCM recording" true

/-- The frame after the loop; its bytes that were not filled are zero. -/
def filledFrame (filled : Bytes) : Except VoxError (Option Bytes) :=
  if filled.length % 2 ≠ 0 then .error invalidPcm
  else .ok (some (filled ++ List.replicate (pcmFrameBytes - filled.length) 0))

namespace Reader

variable {σ : Type} (self : Reader σ)

theorem bytes_shorter {n : Nat} {s s' : σ} {data : Bytes}
    (h : self.read n s = (.bytes data, s')) (hData : data ≠ []) :
    (self.remaining s').length < (self.remaining s).length := by
  have hPos := List.length_pos_iff.mpr hData
  rw [self.bytes_eq h, List.length_append]
  omega

/-- The loop of `read_pcm_frame`, with the bytes that are filled so far. -/
def readPcmFrame (filled : Bytes) (s : σ) : Except VoxError (Option Bytes) × σ :=
  if filled.length < pcmFrameBytes then
    match _hRead : self.read (pcmFrameBytes - filled.length) s with
    | (.bytes data, s') =>
      if _hEnd : data = [] then
        if filled = [] then (.ok none, s') else (filledFrame filled, s')
      else readPcmFrame (filled ++ data) s'
    | (.interrupted, s') => readPcmFrame filled s'
    | (.failed, s') => (.error pcmReadFailed, s')
  else (filledFrame filled, s)
termination_by ((self.remaining s).length, self.interruptions s)
decreasing_by
  · exact Prod.Lex.left _ _ (self.bytes_shorter _hRead _hEnd)
  · rw [self.interrupted_eq _hRead]
    exact Prod.Lex.right _ (self.interrupted_lt _hRead)

/-- What one call does with the bytes that are filled and those that remain. -/
structure Reads {σ : Type} (reader : Reader σ) (filled : Bytes) (s : σ)
    (called : Except VoxError (Option Bytes) × σ) : Prop where
  result : called.1 =
    if filled ++ reader.remaining s = [] then .ok none
    else filledFrame ((filled ++ reader.remaining s).take pcmFrameBytes)
  remaining : reader.remaining called.2 = (filled ++ reader.remaining s).drop pcmFrameBytes

theorem Reads.moved {filled filled' : Bytes} {s s' : σ} {called : Except VoxError (Option Bytes) × σ}
    (h : self.Reads filled' s' called)
    (hSame : filled' ++ self.remaining s' = filled ++ self.remaining s) :
    self.Reads filled s called := by
  refine ⟨?_, ?_⟩
  · rw [h.result, hSame]
  · rw [h.remaining, hSame]

theorem readPcmFrame_reads (filled : Bytes) (s : σ) (hFilled : filled.length ≤ pcmFrameBytes) :
    (∃ n t, (self.read n t).1 = .failed) ∧
        (self.readPcmFrame filled s).1 = .error pcmReadFailed ∨
      self.Reads filled s (self.readPcmFrame filled s) := by
  fun_induction self.readPcmFrame filled s with
  | case1 s s' hRoom hRead =>
    have hAll := self.bytes_end (by omega) hRead
    have hLater := self.bytes_eq hRead
    rw [hAll] at hLater
    refine .inr ⟨?_, ?_⟩
    · rw [hAll]
      rfl
    · rw [hAll]
      exact (List.append_eq_nil_iff.mp hLater.symm).2
  | case2 filled s hRoom s' hSome hRead =>
    have hAll := self.bytes_end (by omega) hRead
    have hLater := self.bytes_eq hRead
    rw [hAll] at hLater
    refine .inr ⟨?_, ?_⟩
    · rw [hAll, List.append_nil, if_neg hSome, List.take_of_length_le hFilled]
    · rw [hAll, List.append_nil, List.drop_of_length_le hFilled]
      exact (List.append_eq_nil_iff.mp hLater.symm).2
  | case3 filled s hRoom data s' hRead hData ih =>
    have hRoomy := self.bytes_le hRead
    have hFits : (filled ++ data).length ≤ pcmFrameBytes := by
      rw [List.length_append]
      omega
    have hSame : filled ++ data ++ self.remaining s' = filled ++ self.remaining s := by
      rw [List.append_assoc, ← self.bytes_eq hRead]
    exact (ih hFits).imp_right fun h => h.moved self hSame
  | case4 filled s hRoom s' hRead ih =>
    exact (ih hFilled).imp_right fun h => h.moved self (by rw [self.interrupted_eq hRead])
  | case5 filled s hRoom s' hRead => exact .inl ⟨⟨_, _, congrArg Prod.fst hRead⟩, rfl⟩
  | case6 filled s hFull =>
    have hLength : filled.length = pcmFrameBytes := by omega
    have hSome : filled ++ self.remaining s ≠ [] := by
      intro hNone
      rw [(List.append_eq_nil_iff.mp hNone).1] at hLength
      cases hLength
    refine .inr ⟨?_, ?_⟩
    · rw [if_neg hSome, List.take_left' hLength]
    · rw [List.drop_left' hLength]

theorem readPcmFrame_shorter {s s' : σ} {frame : Bytes}
    (h : self.readPcmFrame [] s = (.ok (some frame), s')) :
    (self.remaining s').length < (self.remaining s).length := by
  have hReads := self.readPcmFrame_reads [] s (Nat.zero_le _)
  rw [h] at hReads
  rcases hReads with ⟨-, hFailed⟩ | hReads
  · cases hFailed
  have hResult := hReads.result
  rw [hReads.remaining, List.nil_append, List.length_drop]
  split at hResult
  · cases hResult
  case isFalse hSome =>
    have hPos := List.length_pos_iff.mpr hSome
    rw [List.nil_append] at hPos
    rw [pcmFrameBytes]
    omega

/-- Calling `read_pcm_frame` until it returns `None`. -/
def readFrames (s : σ) : Except VoxError (List Bytes) :=
  match _hCall : self.readPcmFrame [] s with
  | (.error error, _) => .error error
  | (.ok none, _) => .ok []
  | (.ok (some frame), s') => (readFrames s').map (frame :: ·)
termination_by (self.remaining s).length
decreasing_by exact self.readPcmFrame_shorter _hCall

theorem filledFrame_even {filled : Bytes} (h : filled.length % 2 = 0) :
    filledFrame filled = .ok (some (Framing.pad pcmFrameBytes 0 filled)) :=
  if_neg (by rw [h]; decide)

/-- A reader that never fails gives the padded frames of all that remains. -/
theorem readFrames_padded (hHealthy : ∀ n t, (self.read n t).1 ≠ .failed) (s : σ)
    (hEven : (self.remaining s).length % 2 = 0) :
    self.readFrames s = .ok (Framing.padded pcmFrameBytes 0 (self.remaining s)) := by
  have hPos : 0 < pcmFrameBytes := by decide
  have hCalled : ∀ t, self.Reads [] t (self.readPcmFrame [] t) := by
    intro t
    rcases self.readPcmFrame_reads [] t (Nat.zero_le _) with ⟨⟨n, u, hFailed⟩, -⟩ | hReads
    · exact absurd hFailed (hHealthy n u)
    · exact hReads
  have hTaken : ((self.remaining s).take pcmFrameBytes).length % 2 = 0 := by
    rw [List.length_take, pcmFrameBytes]
    omega
  have hReads := hCalled s
  fun_induction self.readFrames s with
  | case1 s error s' hCall =>
    have hResult := hReads.result
    rw [hCall, List.nil_append, filledFrame_even hTaken] at hResult
    split at hResult <;> cases hResult
  | case2 s s' hCall =>
    have hResult := hReads.result
    rw [hCall, List.nil_append, filledFrame_even hTaken] at hResult
    split at hResult
    case isTrue hNone => rw [hNone, Framing.padded_nil hPos]
    case isFalse => cases hResult
  | case3 s frame s' hCall ih =>
    have hResult := hReads.result
    have hRemaining := hReads.remaining
    rw [hCall, List.nil_append, filledFrame_even hTaken] at hResult
    rw [hCall, List.nil_append] at hRemaining
    split at hResult
    case isTrue => cases hResult
    case isFalse hSome =>
      cases hResult
      have hLater : (self.remaining s').length % 2 = 0 := by
        rw [hRemaining, List.length_drop, pcmFrameBytes]
        omega
      have hLaterTaken : ((self.remaining s').take pcmFrameBytes).length % 2 = 0 := by
        rw [List.length_take, pcmFrameBytes]
        omega
      rw [ih hLater hLaterTaken (hCalled s'), hRemaining, Framing.padded_cons hPos hSome]
      rfl

section Driver

/-- What the reader answers during one call. -/
def heard (filled : Bytes) (s : σ) : List ReadResult :=
  if filled.length < pcmFrameBytes then
    match _hRead : self.read (pcmFrameBytes - filled.length) s with
    | (.bytes data, s') => .bytes data :: if _hEnd : data = [] then [] else heard (filled ++ data) s'
    | (.interrupted, s') => .interrupted :: heard filled s'
    | (.failed, _) => [.failed]
  else []
termination_by ((self.remaining s).length, self.interruptions s)
decreasing_by
  · exact Prod.Lex.left _ _ (self.bytes_shorter _hRead _hEnd)
  · rw [self.interrupted_eq _hRead]
    exact Prod.Lex.right _ (self.interrupted_lt _hRead)

open SessionDriver (ask)

theorem ask_bind {α β : Type} (answers : Nat → α) (next : α → DriverCall β)
    (driver : SessionDriver) :
    (ask answers >>= next).run driver =
      (next (answers driver.asked)).run { driver with asked := driver.asked + 1 } :=
  Effects.Call.bind_ok (rfl : (ask answers).run driver = _) next

variable {self} {filled data : Bytes} {s s' : σ}

theorem heard_bytes (hRoom : filled.length < pcmFrameBytes)
    (h : self.read (pcmFrameBytes - filled.length) s = (.bytes data, s')) :
    self.heard filled s =
      .bytes data :: if data = [] then [] else self.heard (filled ++ data) s' := by
  rw [heard, if_pos hRoom]
  split <;> rename_i hRead <;> cases h.symm.trans hRead
  rfl

theorem heard_interrupted (hRoom : filled.length < pcmFrameBytes)
    (h : self.read (pcmFrameBytes - filled.length) s = (.interrupted, s')) :
    self.heard filled s = .interrupted :: self.heard filled s' := by
  rw [heard, if_pos hRoom]
  split <;> rename_i hRead <;> cases h.symm.trans hRead
  rfl

theorem heard_failed (hRoom : filled.length < pcmFrameBytes)
    (h : self.read (pcmFrameBytes - filled.length) s = (.failed, s')) :
    self.heard filled s = [.failed] := by
  rw [heard, if_pos hRoom]
  split <;> rename_i hRead <;> cases h.symm.trans hRead
  rfl

theorem heard_full (hFull : ¬ filled.length < pcmFrameBytes) : self.heard filled s = [] := by
  rw [heard, if_neg hFull]

/-- The driver's loop, on the answers of a reader, is the loop of the reader. -/
theorem driver_readPcmFrame (env : Surroundings) (filled : Bytes) (s : σ) (driver : SessionDriver)
    (turns : Nat) (hTurns : (self.heard filled s).length < turns)
    (hAnswers : ∀ k answer, (self.heard filled s)[k]? = some answer →
      env.read (driver.asked + k) = answer) :
    (SessionDriver.readPcmFrame env filled turns).run driver =
      { result := (self.readPcmFrame filled s).1.mapError .failed
        state := { driver with asked := driver.asked + (self.heard filled s).length }
        trace := [] } := by
  fun_induction self.readPcmFrame filled s generalizing driver turns with
  | case1 s s' hRoom hRead =>
    obtain ⟨turns, rfl⟩ := Nat.exists_eq_add_of_lt (Nat.zero_lt_of_lt hTurns)
    rw [heard_bytes hRoom hRead] at hAnswers ⊢
    rw [Nat.zero_add, SessionDriver.readPcmFrame, if_pos hRoom, ask_bind,
      show env.read driver.asked = .bytes [] from hAnswers 0 _ rfl]
    rfl
  | case2 filled s hRoom s' hSome hRead =>
    obtain ⟨turns, rfl⟩ := Nat.exists_eq_add_of_lt (Nat.zero_lt_of_lt hTurns)
    rw [heard_bytes hRoom hRead] at hAnswers ⊢
    rw [Nat.zero_add, SessionDriver.readPcmFrame, if_pos hRoom, ask_bind,
      show env.read driver.asked = .bytes [] from hAnswers 0 _ rfl]
    simp only [List.take_nil, if_true, if_neg hSome, filledFrame]
    split <;> rfl
  | case3 filled s hRoom data s' hRead hData ih =>
    obtain ⟨turns, rfl⟩ := Nat.exists_eq_add_of_lt (Nat.zero_lt_of_lt hTurns)
    rw [heard_bytes hRoom hRead, if_neg hData] at hAnswers hTurns ⊢
    have hFirst : env.read driver.asked = .bytes data := hAnswers 0 _ rfl
    rw [Nat.zero_add, SessionDriver.readPcmFrame, if_pos hRoom, ask_bind, hFirst]
    simp only [List.take_of_length_le (self.bytes_le hRead), if_neg hData]
    rw [ih _ turns (by rw [List.length_cons] at hTurns; omega)]
    · rw [List.length_cons, Nat.add_assoc, Nat.add_comm 1]
    · intro k answer hAnswer
      rw [Nat.add_assoc, Nat.add_comm 1]
      exact hAnswers (k + 1) answer hAnswer
  | case4 filled s hRoom s' hRead ih =>
    obtain ⟨turns, rfl⟩ := Nat.exists_eq_add_of_lt (Nat.zero_lt_of_lt hTurns)
    rw [heard_interrupted hRoom hRead] at hAnswers hTurns ⊢
    have hFirst : env.read driver.asked = .interrupted := hAnswers 0 _ rfl
    rw [Nat.zero_add, SessionDriver.readPcmFrame, if_pos hRoom, ask_bind, hFirst]
    dsimp only
    rw [ih _ turns (by rw [List.length_cons] at hTurns; omega)]
    · rw [List.length_cons, Nat.add_assoc, Nat.add_comm 1]
    · intro k answer hAnswer
      rw [Nat.add_assoc, Nat.add_comm 1]
      exact hAnswers (k + 1) answer hAnswer
  | case5 filled s hRoom s' hRead =>
    obtain ⟨turns, rfl⟩ := Nat.exists_eq_add_of_lt (Nat.zero_lt_of_lt hTurns)
    rw [heard_failed hRoom hRead] at hAnswers ⊢
    rw [Nat.zero_add, SessionDriver.readPcmFrame, if_pos hRoom, ask_bind,
      show env.read driver.asked = .failed from hAnswers 0 _ rfl]
    rfl
  | case6 filled s hFull =>
    obtain ⟨turns, rfl⟩ := Nat.exists_eq_add_of_lt (Nat.zero_lt_of_lt hTurns)
    rw [heard_full hFull, Nat.zero_add, SessionDriver.readPcmFrame, if_neg hFull, filledFrame]
    split <;> rfl

end Driver

end Reader

structure Pcm20msFramer where
  pending : Bytes
  deriving DecidableEq, Repr

namespace Pcm20msFramer

def default : Pcm20msFramer := ⟨[]⟩

/-- The loop of `push`, with the frames that are complete so far. -/
def drain (frames : List Bytes) (pending : Bytes) : List Bytes × Pcm20msFramer :=
  if pcmFrameBytes ≤ pending.length then
    drain (frames ++ [pending.take pcmFrameBytes]) (pending.drop pcmFrameBytes)
  else (frames, ⟨pending⟩)
termination_by pending.length
decreasing_by
  rw [List.length_drop, pcmFrameBytes] at *
  omega

def push (self : Pcm20msFramer) (pcm : Bytes) : List Bytes × Pcm20msFramer :=
  drain [] (self.pending ++ pcm)

def finishPadded (self : Pcm20msFramer) : Option Bytes × Pcm20msFramer :=
  if self.pending.isEmpty then (none, self)
  else (some (self.pending ++ List.replicate (pcmFrameBytes - self.pending.length) 0), ⟨[]⟩)

def pendingBytes (self : Pcm20msFramer) : Nat := self.pending.length

theorem drain_eq (frames : List Bytes) (pending : Bytes) :
    drain frames pending = (frames ++ Framing.frames pcmFrameBytes pending,
      ⟨Framing.rest pcmFrameBytes pending⟩) := by
  have hPos : 0 < pcmFrameBytes := by decide
  fun_induction drain frames pending with
  | case1 frames pending hLong ih =>
    rw [ih, Framing.frames_cons hPos hLong, Framing.rest_drop hPos hLong, List.append_assoc,
      List.singleton_append]
  | case2 frames pending hShort =>
    rw [Framing.frames_short (Nat.lt_of_not_le hShort), Framing.rest_short (Nat.lt_of_not_le hShort),
      List.append_nil]

end Pcm20msFramer

inductive FramerCall
  | push (pcm : Bytes)
  | finishPadded
  deriving DecidableEq, Repr

/-- Any calls of a framer, with the frames they return. -/
def framerMachine : Transition.Machine Pcm20msFramer FramerCall (List Bytes) where
  start := .default
  step self
    | .push pcm => self.push pcm
    | .finishPadded => (self.finishPadded.1.toList, self.finishPadded.2)

def framesOf (calls : List FramerCall) : List Bytes :=
  (framerMachine.log calls).flatMap Prod.snd

theorem framesOf_snoc (calls : List FramerCall) (call : FramerCall) :
    framesOf (calls ++ [call]) =
      framesOf calls ++ (framerMachine.step (framerMachine.state calls) call).1 := by
  rw [framesOf, Transition.Machine.log_snoc, List.flatMap_append]
  exact congrArg _ (List.append_nil _)

/-- Less than a frame is pending between calls. -/
theorem pendingBytes_lt (calls : List FramerCall) :
    (framerMachine.state calls).pendingBytes < pcmFrameBytes := by
  refine framerMachine.invariant (P := fun _ framer => framer.pendingBytes < pcmFrameBytes)
    (by decide) ?_ calls
  intro log framer call hPending
  cases call with
  | push pcm =>
    change (framer.push pcm).2.pendingBytes < _
    rw [Pcm20msFramer.push, Pcm20msFramer.drain_eq]
    exact Framing.length_rest_lt (by decide) _
  | finishPadded =>
    change framer.finishPadded.2.pendingBytes < _
    rw [Pcm20msFramer.finishPadded]
    split
    · exact hPending
    · exact (by decide : 0 < pcmFrameBytes)

theorem pushes_frames (chunks : List Bytes) :
    framesOf (chunks.map .push) = Framing.frames pcmFrameBytes chunks.flatten ∧
      framerMachine.state (chunks.map .push) = ⟨Framing.rest pcmFrameBytes chunks.flatten⟩ := by
  have hPos : 0 < pcmFrameBytes := by decide
  induction chunks using List.reverseRecOn with
  | nil =>
    rw [List.flatten_nil, Framing.frames_short hPos, Framing.rest_short hPos]
    exact ⟨rfl, rfl⟩
  | append_singleton chunks chunk ih =>
    obtain ⟨hFrames, hRest⟩ := Framing.frames_append hPos chunks.flatten chunk
    have hStep : framerMachine.step ⟨Framing.rest pcmFrameBytes chunks.flatten⟩ (.push chunk) =
        (Framing.frames pcmFrameBytes (Framing.rest pcmFrameBytes chunks.flatten ++ chunk),
          ⟨Framing.rest pcmFrameBytes (Framing.rest pcmFrameBytes chunks.flatten ++ chunk)⟩) :=
      Pcm20msFramer.drain_eq [] _
    rw [List.map_append, List.map_singleton, framesOf_snoc, Transition.Machine.state_snoc, ih.1,
      ih.2, hStep, List.flatten_append, List.flatten_singleton, hFrames, hRest]
    exact ⟨rfl, rfl⟩

/-- Pushing all of the chunks and finishing gives the padded frames of all that was pushed. -/
theorem pushes_padded (chunks : List Bytes) :
    framesOf (chunks.map .push ++ [.finishPadded]) =
      Framing.padded pcmFrameBytes 0 chunks.flatten := by
  obtain ⟨hFrames, hState⟩ := pushes_frames chunks
  rw [framesOf_snoc, hFrames, hState, Framing.padded]
  change _ ++ (Pcm20msFramer.finishPadded _).1.toList = _
  rw [Pcm20msFramer.finishPadded]
  dsimp only
  split <;> rfl

section Agreement

variable {σ : Type}

/-- Pulled or pushed, a recording of whole samples is cut into the same frames. -/
theorem framers_agree (reader : Reader σ) (hHealthy : ∀ n t, (reader.read n t).1 ≠ .failed)
    (p : Bytes) (hEven : p.length % 2 = 0) (s : σ) (hReader : reader.remaining s = p)
    (chunks : List Bytes) (hChunks : chunks.flatten = p) :
    ∃ frames, reader.readFrames s = .ok frames ∧
      framesOf (chunks.map .push ++ [.finishPadded]) = frames ∧
      frames.length = (p.length + 639) / 640 ∧ (∀ frame ∈ frames, frame.length = 640) ∧
      (∃ k < 640, frames.flatten = p ++ List.replicate k 0) ∧
      ∀ calls, (framerMachine.state calls).pendingBytes < 640 := by
  have hPos : 0 < pcmFrameBytes := by decide
  refine ⟨Framing.padded pcmFrameBytes 0 p, ?_, ?_, Framing.length_padded hPos p,
    fun _ => Framing.length_of_mem_padded hPos, Framing.flatten_padded hPos p, pendingBytes_lt⟩
  · rw [reader.readFrames_padded hHealthy s (hReader ▸ hEven), hReader]
  · rw [pushes_padded, hChunks]

inductive Answering
  | interrupted
  | upTo (more : Nat)
  deriving DecidableEq, Repr

/-- The reader that answers in a given way, then with all that is asked for. -/
def Reader.scheduled : Reader (Bytes × List Answering) where
  read n
    | (bytes, []) => (.bytes (bytes.take n), (bytes.drop n, []))
    | (bytes, .interrupted :: rest) => (.interrupted, (bytes, rest))
    | (bytes, .upTo more :: rest) =>
      (.bytes (bytes.take (min n (more + 1))), (bytes.drop (min n (more + 1)), rest))
  remaining := Prod.fst
  interruptions s := s.2.length
  bytes_eq := by
    rintro n ⟨bytes, _ | ⟨_ | more, rest⟩⟩ s' data h <;> cases h <;>
      exact (List.take_append_drop _ _).symm
  bytes_le := by
    rintro n ⟨bytes, _ | ⟨_ | more, rest⟩⟩ s' data h <;> cases h <;> rw [List.length_take] <;> omega
  bytes_end := by
    rintro n ⟨bytes, _ | ⟨_ | more, rest⟩⟩ s' hn h
    · have hNone := congrArg Prod.fst h
      injection hNone with hNone
      exact (List.take_eq_nil_iff.mp hNone).resolve_left (by omega)
    · cases h
    · have hNone := congrArg Prod.fst h
      injection hNone with hNone
      exact (List.take_eq_nil_iff.mp hNone).resolve_left (by omega)
  interrupted_eq := by
    rintro n ⟨bytes, _ | ⟨_ | more, rest⟩⟩ s' h <;> cases h
    rfl
  interrupted_lt := by
    rintro n ⟨bytes, _ | ⟨_ | more, rest⟩⟩ s' h <;> cases h
    exact Nat.lt_succ_self _

theorem scheduled_healthy (n : Nat) (t : Bytes × List Answering) :
    (Reader.scheduled.read n t).1 ≠ .failed := by
  obtain ⟨bytes, _ | ⟨_ | more, rest⟩⟩ := t <;> exact nofun

/-- Two frames and a part of a third. -/
def longRecording : Bytes := List.replicate 1300 7

theorem framers_agree_scheduled :
    ∃ frames, Reader.scheduled.readFrames
        (longRecording, [.upTo 0, .interrupted, .interrupted, .upTo 700]) = .ok frames ∧
      framesOf ([.push (longRecording.take 641), .push (longRecording.drop 641), .finishPadded]) =
        frames ∧ frames.length = 3 := by
  obtain ⟨frames, hPulled, hPushed, hLength, -⟩ :=
    framers_agree .scheduled scheduled_healthy longRecording (by decide +kernel)
      (longRecording, [.upTo 0, .interrupted, .interrupted, .upTo 700]) rfl
      [longRecording.take 641, longRecording.drop 641] (by simp)
  refine ⟨frames, hPulled, hPushed, ?_⟩
  rw [hLength, longRecording, List.length_replicate]

end Agreement

end VoxType.Doubao
