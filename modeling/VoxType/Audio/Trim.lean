import VoxType.Audio.VadEvents

/-!
# The trimmed recording

The window that the batch analysis selects, and what is left of the file.
-/

namespace VoxType.Vad

set_option autoImplicit false

section Levels

theorem chunks_levels (frames : List (List UInt8)) (levels : List Nat) (peak : Nat) :
    (frames.foldl (fun (levels, peak) frame =>
      let (rms, framePeak) := frameLevel frame
      if 2 ≤ frame.length then (levels ++ [rms], max peak framePeak) else (levels, peak))
      (levels, peak)).1 =
      levels ++ (frames.filter (2 ≤ ·.length)).map fun frame => (frameLevel frame).1 := by
  induction frames generalizing levels peak with
  | nil => exact (List.append_nil _).symm
  | cons frame frames ih =>
    rw [List.foldl_cons]
    dsimp only
    split
    case isTrue hLong =>
      rw [ih, List.filter_cons_of_pos (by simpa using hLong), List.map_cons, List.append_assoc,
        List.singleton_append]
    case isFalse hShort => rw [ih, List.filter_cons_of_neg (by simpa using hShort)]

theorem frameLevels_levels (pcm : List UInt8) :
    (frameLevels pcm).1 =
      ((chunks pcm).filter (2 ≤ ·.length)).map fun frame => (frameLevel frame).1 := by
  rw [frameLevels, chunks_levels, List.nil_append]

/-- Complete frames, and one more for a rest of at least one sample. -/
theorem length_frameLevels (pcm : List UInt8) :
    (frameLevels pcm).1.length =
      pcm.length / bytesPerFrame + if 2 ≤ pcm.length % bytesPerFrame then 1 else 0 := by
  have hPos : 0 < bytesPerFrame := by decide
  have hFrames : (Framing.frames bytesPerFrame pcm).filter (2 ≤ ·.length) =
      Framing.frames bytesPerFrame pcm := by
    refine List.filter_eq_self.mpr fun frame hMem => ?_
    rw [Framing.length_of_mem_frames hPos hMem]
    rfl
  rw [frameLevels_levels, List.length_map, chunks, List.filter_append, List.length_append, hFrames,
    Framing.length_frames hPos, ← Framing.length_rest hPos]
  refine congrArg _ ?_
  cases Framing.rest bytesPerFrame pcm with
  | nil => rfl
  | cons byte rest =>
    dsimp only
    by_cases hLong : 2 ≤ (byte :: rest).length
    · rw [List.filter_cons_of_pos (by simpa using hLong), if_pos hLong]
      rfl
    · rw [List.filter_cons_of_neg (by simpa using hLong), if_neg hLong]
      rfl

end Levels

theorem frame_bytes {pcm : List UInt8} {frame : Nat} (h : frame < (frameLevels pcm).1.length) :
    bytesPerFrame * frame < pcm.length := by
  rw [length_frameLevels, bytesPerFrame] at h
  rw [bytesPerFrame]
  split at h <;> omega

/-- The levels of a recording, as the detector heard them. -/
def offlineLog (pcm : List UInt8) (config : VadConfig) : VadLog :=
  (vadMachine config (some (lowPercentile (frameLevels pcm).1))).log (frameLevels pcm).1

def offlineVad (pcm : List UInt8) (config : VadConfig) : StreamingVad :=
  (vadMachine config (some (lowPercentile (frameLevels pcm).1))).state (frameLevels pcm).1

theorem foldl_runFrom (config : VadConfig) (noiseFloor : Option Nat) (vad : StreamingVad)
    (levels : List Nat) :
    levels.foldl (fun vad level => (vad.processLevel level).2) vad =
      ((vadMachine config noiseFloor).runFrom vad levels).2 := by
  induction levels generalizing vad with
  | nil => rfl
  | cons level levels ih => exact ih _

theorem analyzePcm_finish (pcm : List UInt8) (config : VadConfig)
    (hSome : (frameLevels pcm).1 ≠ []) :
    analyzePcm pcm config =
      { offlineVad pcm config with peak := (frameLevels pcm).2 }.finish := by
  rw [analyzePcm]
  dsimp only
  rw [if_neg (by rwa [List.isEmpty_iff]),
    foldl_runFrom config (some (lowPercentile (frameLevels pcm).1))]
  rfl

/-- The frame at which a start is emitted is one of the voiced frames of speech. -/
theorem started_voiced {config : VadConfig} {noiseFloor : Option Nat} {levels : List Nat} {i s : Nat}
    (h : (i, VadEvent.speechStarted s) ∈ emitted ((vadMachine config noiseFloor).log levels)) :
    i ∈ voicedSpeech ((vadMachine config noiseFloor).log levels) := by
  have hStarts : ∀ entry ∈ (vadMachine config noiseFloor).log levels, ∀ s,
      entry.2.analysis.event = some (.speechStarted s) →
        entry.2.analysis.voiced = true ∧ entry.2.analysis.speechActive = true := by
    refine (vadMachine config noiseFloor).invariant (P := fun log _ => ∀ entry ∈ log, ∀ s,
      entry.2.analysis.event = some (.speechStarted s) →
        entry.2.analysis.voiced = true ∧ entry.2.analysis.speechActive = true) nofun ?_ levels
    intro log vad rms hOld entry hMem s hEvent
    rcases List.mem_append.mp hMem with hMem | hMem
    · exact hOld entry hMem s hEvent
    · rw [List.mem_singleton.mp hMem] at hEvent ⊢
      exact vad.started_active hEvent
  rw [emitted, List.mem_filterMap] at h
  obtain ⟨⟨entry, k⟩, hAt, hEvent⟩ := h
  obtain ⟨event, hSome, hEq⟩ := Option.map_eq_some_iff.mp hEvent
  cases hEq
  rw [voicedSpeech, List.mem_filterMap]
  exact ⟨(entry, k), hAt, if_pos (hStarts entry (List.fst_mem_of_mem_zipIdx hAt) s hSome)⟩

theorem voicedSpeech_le {log : VadLog} {last : Nat}
    (hLast : (voicedSpeech log).getLast? = some last) : ∀ frame ∈ voicedSpeech log, frame ≤ last := by
  induction log using List.reverseRecOn with
  | nil => cases hLast
  | append_singleton log entry ih =>
    rw [voicedSpeech_snoc] at hLast ⊢
    by_cases hVoiced : entry.2.analysis.voiced = true ∧ entry.2.analysis.speechActive = true
    · rw [if_pos hVoiced] at hLast ⊢
      rw [List.getLast?_concat] at hLast
      cases hLast
      intro frame hMem
      rcases List.mem_append.mp hMem with hMem | hMem
      · exact (voicedSpeech_lt hMem).le
      · exact (List.mem_singleton.mp hMem).le
    · rw [if_neg hVoiced, List.append_nil] at hLast ⊢
      exact ih hLast

/-- From the first start to the last voiced frame, with what is before and after them, every frame of
the window is a frame of the recording that is kept. -/
structure Window (pcm : List UInt8) (config : VadConfig) (result : VadResult)
    (first start stop last : Nat) : Prop where
  trimStart : result.trimStartFrame = some first
  speechStart : result.speechStartFrame = some start
  speechEnd : result.speechEndFrame = some stop
  trimEnd : result.trimEndFrame = some last
  ordered : first ≤ start ∧ start < stop ∧ stop ≤ last ∧ last ≤ result.totalFrames
  total : result.totalFrames = (frameLevels pcm).1.length
  firstStart : (starts (offlineLog pcm config)).head? = some start
  lastVoiced : (voicedSpeech (offlineLog pcm config)).getLast? = some (stop - 1)
  speech : ∀ frame ∈ voicedSpeech (offlineLog pcm config), first ≤ frame ∧ frame < last
  attack : ∀ i, (i, VadEvent.speechStarted start) ∈ emitted (offlineLog pcm config) →
    ∀ frame, start ≤ frame → frame ≤ i → first ≤ frame ∧ frame < last
  preRoll : ∀ frame, start - 8 ≤ frame → frame < start → first ≤ frame ∧ frame < last
  postRoll : ∀ frame, stop ≤ frame → frame < stop + 15 → frame < result.totalFrames →
    first ≤ frame ∧ frame < last

/-- What is left of the file: the frames of the window. -/
def kept (pcm : List UInt8) (first last : Nat) : List UInt8 :=
  (pcm.take (min (bytesPerFrame * last) pcm.length)).drop (bytesPerFrame * first)

inductive TrimOutcome (pcm : List UInt8) (config : VadConfig) (path : String) (tree : Files.Tree)
    (result : VadResult) (o : Effects.Outcome Files.Disk String Empty Nat) : Prop
  | speech (first start stop last : Nat) (hDetected : result.speechDetected = true)
      (hWindow : Window pcm config result first start stop last)
      (hFile : o.state.tree = Function.update tree path (some (kept pcm first last)))
      (hCount : o.result = .ok (kept pcm first last).length)
      (hPos : 0 < (kept pcm first last).length)
  | silence (hDetected : result.speechDetected = false) (hFile : o.state.tree = tree)
      (hCount : o.result = .ok pcm.length)

theorem length_kept {pcm : List UInt8} {first last : Nat} :
    (kept pcm first last).length =
      min (bytesPerFrame * last) pcm.length - bytesPerFrame * first := by
  rw [kept, List.length_drop, List.length_take, Nat.min_assoc, Nat.min_self]

section Trimming

variable {pcm : List UInt8} {config : VadConfig} {path : String} {tree : Files.Tree}
  (hFile : tree path = some pcm)

include hFile

theorem trimFile_size {result : VadResult}
    (hNone : result.trimStartFrame = none ∨ result.trimEndFrame = none) :
    ((trimFile path result).run ⟨tree, []⟩).state.tree = tree ∧
      ((trimFile path result).run ⟨tree, []⟩).result = .ok pcm.length := by
  have hSize : trimFile path result = Files.size path := by
    rw [trimFile]
    rcases hNone with hNone | hNone <;> rw [hNone]
    cases result.trimStartFrame <;> rfl
  rw [hSize, Files.size_run hFile]
  exact ⟨rfl, rfl⟩

theorem trimFile_kept {result : VadResult} {first last : Nat}
    (hFirst : result.trimStartFrame = some first) (hLast : result.trimEndFrame = some last)
    (hRange : last < 2 ^ 32) (hOrder : first < last) (hBytes : bytesPerFrame * first < pcm.length) :
    ((trimFile path result).run ⟨tree, []⟩).state.tree =
        Function.update tree path (some (kept pcm first last)) ∧
      ((trimFile path result).run ⟨tree, []⟩).result = .ok (kept pcm first last).length := by
  have hStart : min (satMul u64Max first bytesPerFrame) pcm.length = bytesPerFrame * first := by
    rw [satMul, bytesPerFrame, u64Max]
    rw [bytesPerFrame] at hBytes
    omega
  have hStop : min (satMul u64Max last bytesPerFrame) pcm.length =
      min (bytesPerFrame * last) pcm.length := by
    rw [satMul, bytesPerFrame, u64Max]
    omega
  have hWider : bytesPerFrame * first < min (bytesPerFrame * last) pcm.length := by
    rw [bytesPerFrame] at hBytes ⊢
    omega
  rw [trimFile, hFirst, hLast]
  dsimp only
  rw [Effects.Call.bind_ok (Files.read_run hFile), hStart, hStop, if_neg (Nat.not_le_of_lt hWider),
    Effects.Call.bind_ok (Files.write_run _), length_kept]
  exact ⟨rfl, rfl⟩

end Trimming

/-- The window of a recording in which speech was heard. -/
theorem speech_window {pcm : List UInt8} {config : VadConfig}
    (hFrames : (frameLevels pcm).1.length < 2 ^ 32) {start : Nat} {rest : List Nat}
    (hStarts : starts (offlineLog pcm config) = start :: rest) :
    ∃ first stop last, (analyzePcm pcm config).speechDetected = true ∧
      Window pcm config (analyzePcm pcm config) first start stop last := by
  obtain ⟨hTracking, hRecounted, hLastVoiced, hBegun⟩ :=
    followed config (some (lowPercentile (frameLevels pcm).1)) (frameLevels pcm).1 hFrames
  change Tracking config (offlineLog pcm config) (offlineVad pcm config) at hTracking
  change Recounted config (offlineLog pcm config) (offlineVad pcm config) at hRecounted
  change (offlineVad pcm config).speechEndFrame =
    (voicedSpeech (offlineLog pcm config)).getLast?.map (· + 1) at hLastVoiced
  change Begun (offlineLog pcm config) (offlineVad pcm config) at hBegun
  obtain ⟨i, hEmitted⟩ := mem_starts (hStarts ▸ List.mem_cons_self)
  have hEmittedVoiced := started_voiced hEmitted
  change i ∈ voicedSpeech (offlineLog pcm config) at hEmittedVoiced
  obtain ⟨last, hLast⟩ : ∃ last, (voicedSpeech (offlineLog pcm config)).getLast? = some last :=
    Option.isSome_iff_exists.mp
      (List.getLast?_isSome.mpr (List.ne_nil_of_mem hEmittedVoiced))
  have hLength : (offlineLog pcm config).length = (frameLevels pcm).1.length :=
    Transition.Machine.length_log _ _
  have hLate := voicedSpeech_le hLast i hEmittedVoiced
  have hInside := voicedSpeech_lt (List.mem_of_getLast? hLast)
  obtain ⟨hFirst, -⟩ := hRecounted.started i start hEmitted
  have hSome : (frameLevels pcm).1 ≠ [] := by
    rintro hNone
    rw [hNone] at hLength
    rw [hLength] at hInside
    exact Nat.not_lt_zero _ hInside
  have hStartFrame : (offlineVad pcm config).speechStartFrame = some start := by
    rw [hRecounted.firstStart, hStarts]
    rfl
  have hEndFrame : (offlineVad pcm config).speechEndFrame = some (last + 1) := by
    rw [hLastVoiced, hLast]
    rfl
  have hTotal : (offlineVad pcm config).totalFrames = (frameLevels pcm).1.length :=
    hTracking.total.trans hLength
  have hNonzero : (offlineVad pcm config).totalFrames ≠ 0 := by omega
  have hStop : min (satAdd u32Max (last + 1) postRollFrames) (frameLevels pcm).1.length =
      min (last + 16) (frameLevels pcm).1.length := by
    rw [satAdd, u32Max, postRollFrames]
    omega
  rw [analyzePcm_finish pcm config hSome, StreamingVad.finish, if_neg hNonzero]
  refine ⟨start - 8, last + 1, min (last + 16) (frameLevels pcm).1.length, ?_, ?_⟩
  · simp [hStartFrame, hEndFrame]
  · constructor
    case trimStart => simp [hStartFrame, preRollFrames]
    case speechStart => exact hStartFrame
    case speechEnd => exact hEndFrame
    case trimEnd => simp only [hEndFrame, Option.map_some, hTotal, hStop]
    case ordered =>
      simp only [hTotal]
      omega
    case total => exact hTotal
    case firstStart => rw [hStarts, List.head?_cons]
    case lastVoiced => exact hLast
    case speech =>
      intro frame hMem
      have hBefore := voicedSpeech_le hLast frame hMem
      have hAfter := (hBegun.first start hStartFrame).2 frame hMem
      omega
    case attack =>
      intro k hStarted frame hFrom hTo
      have hBefore := voicedSpeech_le hLast k (started_voiced hStarted)
      omega
    case preRoll =>
      intro frame hFrom hTo
      omega
    case postRoll =>
      intro frame hFrom hTo hRange
      simp only [hTotal] at hRange
      omega

theorem silence_result {pcm : List UInt8} {config : VadConfig}
    (hFrames : (frameLevels pcm).1.length < 2 ^ 32) (hStarts : starts (offlineLog pcm config) = []) :
    (analyzePcm pcm config).speechDetected = false ∧
      (analyzePcm pcm config).trimStartFrame = none := by
  by_cases hSome : (frameLevels pcm).1 = []
  · rw [analyzePcm]
    dsimp only
    rw [if_pos (List.isEmpty_iff.mpr hSome)]
    exact ⟨rfl, rfl⟩
  · have hRecounted := (followed config (some (lowPercentile (frameLevels pcm).1))
      (frameLevels pcm).1 hFrames).recounted
    have hStart : (offlineVad pcm config).speechStartFrame = none := by
      have hFirst := hRecounted.firstStart
      change _ = (starts (offlineLog pcm config)).head? at hFirst
      rw [hStarts] at hFirst
      exact hFirst
    rw [analyzePcm_finish pcm config hSome, StreamingVad.finish]
    split
    · exact ⟨rfl, rfl⟩
    · simp [hStart]

/-- Trimming keeps the window of a recording with speech, and leaves any other one alone. -/
theorem trimmed (pcm : List UInt8) (config : VadConfig) (path : String) (tree : Files.Tree)
    (hFrames : (frameLevels pcm).1.length < 2 ^ 32) (hFile : tree path = some pcm) :
    TrimOutcome pcm config path tree (analyzePcm pcm config)
      ((trimFile path (analyzePcm pcm config)).run ⟨tree, []⟩) := by
  cases hStarts : starts (offlineLog pcm config) with
  | nil =>
    obtain ⟨hDetected, hNone⟩ := silence_result hFrames hStarts
    obtain ⟨hTree, hCount⟩ := trimFile_size hFile (.inl hNone)
    exact .silence hDetected hTree hCount
  | cons start rest =>
    obtain ⟨first, stop, last, hDetected, hWindow⟩ := speech_window hFrames hStarts
    obtain ⟨hOpen, hLonger, hClose, hRange⟩ := hWindow.ordered
    rw [hWindow.total] at hRange
    have hBytes : bytesPerFrame * first < pcm.length := frame_bytes (by omega)
    obtain ⟨hTree, hCount⟩ := trimFile_kept hFile hWindow.trimStart hWindow.trimEnd (by omega)
      (by omega) hBytes
    refine .speech first start stop last hDetected hWindow hTree hCount ?_
    rw [length_kept]
    rw [bytesPerFrame] at hBytes ⊢
    omega

theorem length_frameLevels_le (pcm : List UInt8) : (frameLevels pcm).1.length ≤ pcm.length := by
  rw [length_frameLevels, bytesPerFrame]
  split <;> omega

/-- A silent frame, and a loud one of a single sample. -/
def shortRecording : List UInt8 := List.replicate 640 0 ++ [0xE8, 0x03]

theorem trimmed_shortRecording :
    TrimOutcome shortRecording ⟨300, 1⟩ "recording.pcm"
      (Function.update (fun _ => none) "recording.pcm" (some shortRecording))
      (analyzePcm shortRecording ⟨300, 1⟩)
      ((trimFile "recording.pcm" (analyzePcm shortRecording ⟨300, 1⟩)).run
        ⟨Function.update (fun _ => none) "recording.pcm" (some shortRecording), []⟩) := by
  refine trimmed shortRecording ⟨300, 1⟩ "recording.pcm" _ ?_ (Function.update_self _ _ _)
  exact Nat.lt_of_le_of_lt (length_frameLevels_le _) (by decide +kernel)

end VoxType.Vad
