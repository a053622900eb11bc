import VoxType.Audio.Recording
import VoxType.Core.Provider
import VoxType.Daemon.Validation
import VoxType.Library.Lines
import VoxType.Library.Riff

/-!
# Staging a recording for an upload

The batch providers write the recording into a wave file beside it, name that
file to the transport and remove it afterwards. A write that fails ends the
staging at once, and nobody looks at what becomes of the removal.
-/

namespace VoxType

set_option autoImplicit false

/-- `Path::with_extension`, for a path without a slash at its end. -/
def withExtension (path extension : String) : String :=
  let reversed := path.toList.reverse
  let name := reversed.takeWhile (· != '/')
  let stem := (name.dropWhile (· != '.')).drop 1
  if name = [] ∨ name = ['.', '.'] then path
  else
    String.ofList ((if stem = [] then name else stem) ++ reversed.dropWhile (· != '/')).reverse ++
      "." ++ extension

/-- A character of a name between its slash and its dots. -/
def Inner (c : Char) : Prop := c ≠ '/' ∧ c ≠ '.'

theorem withExtension_eq {parent stem old : List Char} (hStem : ∀ c ∈ stem, Inner c)
    (hSome : stem ≠ []) (hOld : ∀ c ∈ old, Inner c) (extension : String) :
    withExtension (String.ofList (parent ++ '/' :: (stem ++ '.' :: old))) extension =
      String.ofList (parent ++ '/' :: stem) ++ "." ++ extension := by
  have hReversed : (String.ofList (parent ++ '/' :: (stem ++ '.' :: old))).toList.reverse =
      (old.reverse ++ '.' :: stem.reverse) ++ '/' :: parent.reverse := by
    rw [String.toList_ofList]
    simp
  have hName : ∀ c ∈ old.reverse ++ '.' :: stem.reverse, (c != '/') = true := by
    intro c hMem
    rw [bne_iff_ne]
    rcases List.mem_append.mp hMem with hMem | hMem
    · exact (hOld c (List.mem_reverse.mp hMem)).1
    · rcases List.mem_cons.mp hMem with rfl | hMem
      · decide
      · exact (hStem c (List.mem_reverse.mp hMem)).1
  have hDot : ∀ c ∈ old.reverse, (c != '.') = true := by
    intro c hMem
    rw [bne_iff_ne]
    exact (hOld c (List.mem_reverse.mp hMem)).2
  have hSplit : (old.reverse ++ '.' :: stem.reverse).dropWhile (· != '.') =
      '.' :: stem.reverse := by
    rw [List.dropWhile_append_of_pos hDot, List.dropWhile_cons_of_neg (by decide)]
  have hNotParent : old.reverse ++ '.' :: stem.reverse ≠ ['.', '.'] := by
    intro h
    have hCount := congrArg (List.count '.') h
    have hNone : ∀ {text : List Char}, (∀ c ∈ text, Inner c) → text.reverse.count '.' = 0 := by
      intro text hText
      rw [List.count_eq_zero]
      exact fun hMem => (hText _ (List.mem_reverse.mp hMem)).2 rfl
    rw [List.count_append, List.count_cons_self, hNone hOld, hNone hStem] at hCount
    cases hCount
  rw [withExtension, hReversed, List.takeWhile_append_of_pos hName,
    List.dropWhile_append_of_pos hName, List.takeWhile_cons_of_neg (by decide),
    List.dropWhile_cons_of_neg (by decide), List.append_nil, hSplit]
  rw [if_neg (by simp [hNotParent]), if_neg (by simp [hSome])]
  congr 3
  simp

namespace Staging

open Files (Program)
open Files.Program (perform)

/-- What `pcm_to_wav` writes, one write after the other. -/
def wavChunks (pcm : List UInt8) : List (List UInt8) :=
  [RustText.asciiBytes "RIFF".toList, Riff.leBytes 4 (pcm.length + 36),
    RustText.asciiBytes "WAVEfmt ".toList, Riff.leBytes 4 16, Riff.leBytes 2 1, Riff.leBytes 2 1,
    Riff.leBytes 4 16000, Riff.leBytes 4 32000, Riff.leBytes 2 2, Riff.leBytes 2 16,
    RustText.asciiBytes "data".toList, Riff.leBytes 4 pcm.length, pcm]

def writeAll (path : String) : List (List UInt8) → Program PUnit
  | [] => pure ⟨⟩
  | bytes :: rest => do
    let _ ← perform (.write path bytes)
    writeAll path rest

def pcmToWav (pcmPath extension : String) : Program String := do
  let pcm ← perform (.read pcmPath)
  if 2 ^ 32 ≤ pcm.length then .done (.error "recording is too large")
  else if 2 ^ 32 ≤ pcm.length + 36 then .done (.error "WAV size overflow")
  else do
    let wavPath := withExtension pcmPath extension
    let _ ← perform (.create wavPath)
    writeAll wavPath (wavChunks pcm)
    pure wavPath

/-- The providers that upload a whole file. -/
inductive Provider
  | rest
  | deepgram
  deriving DecidableEq, Repr

def Provider.extension : Provider → String
  | rest => "wav"
  | deepgram => "deepgram.wav"

/-- What `validate_endpoint` says of an endpoint that is refused. -/
def Provider.insecureMessage : Provider → String
  | rest => "provider endpoint must use HTTPS or loopback HTTP"
  | deepgram => "Deepgram endpoint must use HTTPS or loopback HTTP"

def Provider.ioCode : Provider → String
  | rest => "provider.io_failed"
  | deepgram => "provider.deepgram.io_failed"

/-- `io_error` -/
def Provider.ioError (self : Provider) (message : String) : ProviderAttemptFailure :=
  .beforeTransport (VoxError.new .internal self.ioCode message)

variable {α : Type}

/-- `request`; the transport reads the file it is given the name of. -/
def request (exchange : Except String (List UInt8) → α) (wavPath : String) : Program α := do
  let body ← (perform (.read wavPath)).attempt
  pure (exchange body)

def transcribePcmWithEvidence (provider : Provider) (endpoint pcmPath : String)
    (exchange : Except String (List UInt8) → Except ProviderAttemptFailure α) :
    Program (Except ProviderAttemptFailure α) :=
  match validateEndpoint endpoint provider.insecureMessage with
  | .error error => pure (.error (.beforeTransport error))
  | .ok () => do
    match ← (pcmToWav pcmPath provider.extension).attempt with
    | .error message => pure (.error (provider.ioError message))
    | .ok wavPath => do
      let result ← request exchange wavPath
      let _ ← (perform (.remove wavPath)).attempt
      pure result

section Names

open Capture (recordingPath recordingStem recordingPath_toList mem_recordingStem)

theorem staged_toList (directory : String) (processId timestamp : Nat) (provider : Provider) :
    (withExtension (recordingPath directory processId timestamp) provider.extension).toList =
      directory.toList ++ '/' ::
        (recordingStem processId timestamp ++ '.' :: provider.extension.toList) := by
  have hSome : recordingStem processId timestamp ≠ [] := by
    unfold recordingStem
    simp
  have hPath : recordingPath directory processId timestamp =
      String.ofList (directory.toList ++ '/' :: (recordingStem processId timestamp ++
        '.' :: "pcm".toList)) := by
    rw [← String.ofList_toList (s := recordingPath directory processId timestamp),
      recordingPath_toList]
    rfl
  have hDot : ".".toList = ['.'] := rfl
  have hOld : ∀ c ∈ "pcm".toList, Inner c := by
    intro c hMem
    have hName : ("pcm".toList.all fun c => c != '/' && c != '.') = true := by decide
    simpa [Inner] using List.all_eq_true.mp hName c hMem
  rw [hPath, withExtension_eq (fun c hMem => mem_recordingStem hMem) hSome hOld]
  simp only [String.toList_append, String.toList_ofList, hDot, List.append_assoc, List.cons_append,
    List.nil_append]

theorem slash_free {processId timestamp : Nat} (text : List Char) (hText : '/' ∉ text) :
    '/' ∉ recordingStem processId timestamp ++ '.' :: text := by
  intro hMem
  rcases List.mem_append.mp hMem with hMem | hMem
  · exact (mem_recordingStem hMem).1 rfl
  · rcases List.mem_cons.mp hMem with hEq | hMem
    · exact absurd hEq (by decide)
    · exact hText hMem

theorem extension_slash_free (provider : Provider) : '/' ∉ provider.extension.toList := by
  cases provider <;> decide

/-- The parts of a name in a runtime directory are read off it. -/
theorem name_parts {directory directory' : List Char}
    {processId processId' timestamp timestamp' : Nat} {text text' : List Char} (hText : '/' ∉ text)
    (hText' : '/' ∉ text')
    (h : directory ++ '/' :: (recordingStem processId timestamp ++ '.' :: text) =
      directory' ++ '/' :: (recordingStem processId' timestamp' ++ '.' :: text')) :
    directory = directory' ∧ processId = processId' ∧ timestamp = timestamp' ∧ text = text' := by
  have hDash : ∀ {n : Nat}, '-' ∉ Nat.toDigits 10 n := fun hMem =>
    absurd (RustText.isDigit_toDigits _ hMem) (by decide)
  obtain ⟨hDirectory, hName⟩ := RustText.last_part (slash_free text hText)
    (slash_free text' hText') h
  obtain ⟨hStem, hExtension⟩ := RustText.first_part
    (fun hMem => (mem_recordingStem hMem).2 rfl) (fun hMem => (mem_recordingStem hMem).2 rfl) hName
  unfold recordingStem at hStem
  obtain ⟨hProcess, hTime⟩ := RustText.first_part hDash hDash (List.append_cancel_left hStem)
  exact ⟨hDirectory, RustText.toDigits_injective hProcess, RustText.toDigits_injective hTime,
    hExtension⟩

theorem extension_injective {provider provider' : Provider}
    (h : provider.extension = provider'.extension) : provider = provider' := by
  cases provider <;> cases provider' <;> first | rfl | exact absurd h (by decide)

/-- Recordings and what is staged from them never share a file. -/
theorem files_distinct (directory directory' : String)
    (processId processId' timestamp timestamp' : Nat) :
    (∀ provider provider' : Provider,
      withExtension (recordingPath directory processId timestamp) provider.extension =
          withExtension (recordingPath directory' processId' timestamp') provider'.extension ↔
        recordingPath directory processId timestamp =
            recordingPath directory' processId' timestamp' ∧ provider = provider') ∧
      ∀ provider : Provider,
        withExtension (recordingPath directory processId timestamp) provider.extension ≠
          recordingPath directory' processId' timestamp' := by
  constructor
  · intro provider provider'
    constructor
    · intro h
      have hChars := congrArg String.toList h
      rw [staged_toList, staged_toList] at hChars
      obtain ⟨hDirectory, rfl, rfl, hExtension⟩ :=
        name_parts (extension_slash_free provider) (extension_slash_free provider') hChars
      rw [String.toList_injective hDirectory]
      exact ⟨rfl, extension_injective (String.toList_injective hExtension)⟩
    · rintro ⟨hPath, rfl⟩
      rw [hPath]
  · intro provider h
    have hChars := congrArg String.toList h
    rw [staged_toList, recordingPath_toList] at hChars
    have hPcm : '/' ∉ "pcm".toList := by decide
    have hExtension := (name_parts (extension_slash_free provider) hPcm hChars).2.2.2
    cases provider <;> exact absurd (String.toList_injective hExtension) (by decide)

end Names

section Rules

open Files.Program (Touches Ends Releases)

variable {path : String} {held : Bool}

theorem writeAll_touches (path : String) (chunks : List (List UInt8)) :
    Touches path (writeAll path chunks) fun _ => True := by
  induction chunks with
  | nil => trivial
  | cons bytes rest ih =>
    refine Touches.bind ⟨by rintro target ⟨⟩; rfl, ?_⟩
    intro answer
    cases answer with
    | ok value => exact ih
    | error error => trivial

theorem writeAll_ends (path : String) (chunks : List (List UInt8)) :
    Ends path true (writeAll path chunks) fun held result => held = true ∧ result = .ok ⟨⟩ := by
  induction chunks with
  | nil => exact ⟨rfl, rfl⟩
  | cons bytes rest ih => exact Ends.bind ⟨⟨rfl, rfl⟩, ih⟩

theorem pcmToWav_touches (pcmPath extension : String) :
    Touches (withExtension pcmPath extension) (pcmToWav pcmPath extension) fun result =>
      ∀ wavPath, result = .ok wavPath → wavPath = withExtension pcmPath extension := by
  have failed : ∀ {error wavPath : String}, Except.error error = .ok wavPath →
      wavPath = withExtension pcmPath extension := fun h => by cases h
  refine Touches.bind ⟨by rintro target ⟨⟩, ?_⟩
  intro answer
  cases answer with
  | error error => exact fun _ => failed
  | ok pcm =>
    change Touches _ (if _ then _ else _) _
    split
    · exact fun _ => failed
    · split
      · exact fun _ => failed
      · refine Touches.bind ⟨by rintro target ⟨⟩; rfl, ?_⟩
        intro created
        cases created with
        | error error => exact fun _ => failed
        | ok _ =>
          refine Touches.bind ((writeAll_touches _ _).mono ?_)
          intro result _
          cases result with
          | error error => exact fun _ => failed
          | ok _ =>
            intro wavPath h
            cases h
            rfl

theorem pcmToWav_ends (pcmPath extension : String) :
    Ends (withExtension pcmPath extension) false (pcmToWav pcmPath extension) fun held result =>
      (∃ error, held = false ∧ result = .error error) ∨
        result = .ok (withExtension pcmPath extension) := by
  refine Ends.bind ?_
  intro answer
  cases answer with
  | error error => exact .inl ⟨error, rfl, rfl⟩
  | ok pcm =>
    change Ends _ _ (if _ then _ else _) _
    split
    · exact .inl ⟨_, rfl, rfl⟩
    · split
      · exact .inl ⟨_, rfl, rfl⟩
      · refine Ends.bind ⟨rfl, ?_, fun error => .inl ⟨error, rfl, rfl⟩⟩
        refine Ends.bind ((writeAll_ends _ _).mono ?_)
        rintro held result ⟨_, rfl⟩
        exact .inr rfl

theorem request_touches (exchange : Except String (List UInt8) → α) (wavPath : String) :
    Touches path (request exchange wavPath) fun result => ∃ value, result = .ok value :=
  Touches.bind (Touches.attempt ⟨by rintro target ⟨⟩, fun _ => ⟨_, rfl⟩⟩)

theorem request_ends (exchange : Except String (List UInt8) → α) (wavPath : String) :
    Ends path held (request exchange wavPath) fun _ result => ∃ value, result = .ok value :=
  Ends.bind (Ends.attempt fun _ => ⟨_, rfl⟩)

variable (provider : Provider) (endpoint pcmPath : String)
  (exchange : Except String (List UInt8) → Except ProviderAttemptFailure α)

/-- A staging touches no file but its own. -/
theorem transcribe_touches :
    Touches (withExtension pcmPath provider.extension)
      (transcribePcmWithEvidence provider endpoint pcmPath exchange) fun _ => True := by
  rw [transcribePcmWithEvidence]
  split
  · trivial
  · refine Touches.bind (Touches.attempt ((pcmToWav_touches _ _).mono ?_))
    intro staged hStaged
    cases staged with
    | error message => trivial
    | ok wavPath =>
      obtain rfl := hStaged wavPath rfl
      refine Touches.bind ((request_touches exchange _).mono ?_)
      rintro _ ⟨result, rfl⟩
      exact Touches.bind (Touches.attempt ⟨by rintro target ⟨⟩; rfl, fun _ => trivial⟩)

/-- A staging whose writes and whose removal succeed leaves no file at its end. -/
theorem transcribe_releases :
    Releases (withExtension pcmPath provider.extension) false
      (transcribePcmWithEvidence provider endpoint pcmPath exchange) := by
  rw [transcribePcmWithEvidence]
  split
  · exact rfl
  · refine Ends.bind (Ends.attempt ((pcmToWav_ends _ _).mono ?_))
    rintro held result (⟨message, rfl, rfl⟩ | rfl)
    · exact rfl
    · refine Ends.bind ((request_ends exchange _).mono ?_)
      rintro held _ ⟨result, rfl⟩
      exact Ends.bind (Ends.attempt ⟨rfl, fun _ => rfl⟩)

end Rules

section Whole

open Effects (Call)
open Files (Disk)
open Files.Program (run_bind_ok run_bind_error run_attempt)

/-- The recording is read, fits into a wave file, and the file is made. -/
def Opened (disk : Disk) (pcmPath : String) : Prop :=
  disk.fault 0 = .none ∧ disk.fault 1 = .none ∧
    ∃ pcm, disk.tree pcmPath = some pcm ∧ pcm.length + 36 < 2 ^ 32

/-- One of the writes into the wave file fails. -/
def WriteFails (disk : Disk) : Prop := ∃ i < 13, disk.fault (i + 2) ≠ .none

/-- The wave file cannot be removed, after two steps to make it, the writes and the upload. -/
def RemovalFails (disk : Disk) : Prop := disk.fault 16 ≠ .none

/-- The file a recording is staged as. -/
def wavFile (pcm : List UInt8) : List UInt8 := (wavChunks pcm).flatten

def sampleFormat : Riff.WaveFormat where
  tag := 1
  channels := 1
  sampleRate := 16000
  byteRate := 32000
  blockAlign := 2
  bitsPerSample := 16

def formatChunk : Riff.Chunk where
  id := RustText.asciiBytes "fmt ".toList
  body := Riff.leBytes 2 1 ++ Riff.leBytes 2 1 ++ Riff.leBytes 4 16000 ++ Riff.leBytes 4 32000 ++
    Riff.leBytes 2 2 ++ Riff.leBytes 2 16

def dataChunk (pcm : List UInt8) : Riff.Chunk where
  id := RustText.asciiBytes "data".toList
  body := pcm

theorem wavFile_eq (pcm : List UInt8) :
    wavFile pcm = [0x52, 0x49, 0x46, 0x46] ++
      (Riff.leBytes 4 (RustText.asciiBytes "WAVE".toList ++
          (formatChunk.bytes ++ (dataChunk pcm).bytes)).length ++
        (RustText.asciiBytes "WAVE".toList ++ (formatChunk.bytes ++ (dataChunk pcm).bytes))) := by
  have hLength : (RustText.asciiBytes "WAVE".toList ++
      (formatChunk.bytes ++ (dataChunk pcm).bytes)).length = pcm.length + 36 := by
    rw [List.length_append, List.length_append, Riff.Chunk.length_bytes, Riff.Chunk.length_bytes]
    change 4 + (4 + 4 + 16 + (4 + 4 + pcm.length)) = _
    omega
  rw [hLength]
  simp only [wavFile, wavChunks, List.flatten_cons, List.flatten_nil, List.append_nil]
  rfl

/-- The samples of the staged file are those of the recording. -/
theorem readWave_wavFile {pcm : List UInt8} (hFits : pcm.length + 36 < 2 ^ 32) :
    Riff.readWave (wavFile pcm) = some (sampleFormat, pcm) := by
  have hLength : (RustText.asciiBytes "WAVE".toList ++
      (formatChunk.bytes ++ (dataChunk pcm).bytes)).length < 2 ^ 32 := by
    rw [List.length_append, List.length_append, Riff.Chunk.length_bytes, Riff.Chunk.length_bytes]
    change 4 + (4 + 4 + 16 + (4 + 4 + pcm.length)) < _
    omega
  have hForm := Riff.readForm_eq (by decide) hLength
  have hFormat : Riff.readChunk (formatChunk.bytes ++ (dataChunk pcm).bytes) =
      some (formatChunk, (dataChunk pcm).bytes) :=
    Riff.readChunk_bytes rfl (by decide) (by decide) _
  have hData : Riff.readChunk (dataChunk pcm).bytes = some (dataChunk pcm, []) :=
    Riff.readChunk_last rfl (Nat.lt_of_le_of_lt (Nat.le_add_right _ _) hFits)
  rw [Riff.readWave, wavFile_eq, hForm, Option.bind_eq_bind, Option.bind_some]
  dsimp only
  rw [hFormat, Option.bind_eq_bind, Option.bind_some]
  dsimp only
  rw [hData]
  rfl

variable {disk : Disk} {path pcmPath extension : String} {pcm contents : List UInt8}

theorem writeAll_run {chunks : List (List UInt8)}
    (hFaults : ∀ i < chunks.length, disk.fault i = .none) (hThere : disk.tree path = some contents) :
    (writeAll path chunks).run.run disk =
      ⟨.ok ⟨⟩, ⟨Function.update disk.tree path (some (contents ++ chunks.flatten)),
        disk.faults.drop chunks.length⟩, []⟩ := by
  induction chunks generalizing disk contents with
  | nil =>
    rw [List.flatten_nil, List.append_nil, ← hThere, Function.update_eq_self]
    rfl
  | cons bytes rest ih =>
    have hNext : ∀ i < rest.length,
        (Disk.mk (Files.appended disk.tree path bytes) disk.faults.tail).fault i = .none := by
      intro i hi
      rw [Disk.fault_tail]
      exact hFaults (i + 1) (Nat.succ_lt_succ hi)
    have hAppended : Files.appended disk.tree path bytes =
        Function.update disk.tree path (some (contents ++ bytes)) := by
      rw [Files.appended, hThere, Option.map_some]
    have hRest := ih hNext ((congrFun hAppended path).trans (Function.update_self _ _ _))
    rw [writeAll, run_bind_ok _ _ (Files.Program.run_write_ok (hFaults 0 (Nat.succ_pos _))),
      Effects.Call.after_nil, hRest, hAppended, Function.update_idem, List.flatten_cons,
      List.append_assoc, List.length_cons, List.drop_tail]

/-- Whatever is written of it, the file stays. -/
theorem appended_there (tree : Files.Tree) (hThere : tree path = some contents) (bytes : List UInt8) :
    Files.appended tree path bytes path = some (contents ++ bytes) := by
  rw [Files.appended, Function.update_self, hThere, Option.map_some]

theorem writeAll_run_error {chunks : List (List UInt8)}
    (hFault : ∃ i < chunks.length, disk.fault i ≠ .none) (hThere : disk.tree path = some contents) :
    ∃ message disk', (writeAll path chunks).run.run disk = ⟨.error message, disk', []⟩ ∧
      disk'.tree path ≠ none := by
  induction chunks generalizing disk contents with
  | nil =>
    obtain ⟨i, hi, _⟩ := hFault
    exact absurd hi (Nat.not_lt_zero i)
  | cons bytes rest ih =>
    by_cases hFirst : disk.fault 0 = .none
    · obtain ⟨i, hi, hFails⟩ := hFault
      cases i with
      | zero => exact absurd hFirst hFails
      | succ i =>
        rw [← Disk.fault_tail (Files.appended disk.tree path bytes)] at hFails
        obtain ⟨message, disk', hRun, hLeft⟩ := ih ⟨i, Nat.lt_of_succ_lt_succ hi, hFails⟩
          (appended_there disk.tree hThere bytes)
        refine ⟨message, disk', ?_, hLeft⟩
        rw [writeAll, run_bind_ok _ _ (Files.Program.run_write_ok hFirst), hRun]
        rfl
    · obtain ⟨message, part, hRun⟩ :=
        Files.Program.run_write_error path bytes hFirst
      refine ⟨message, _, run_bind_error _ _ hRun, ?_⟩
      exact Option.ne_none_iff_exists'.mpr ⟨_, appended_there disk.tree hThere part⟩

/-- What `pcm_to_wav` does once the file is made. -/
theorem pcmToWav_opened (hFaults : disk.fault 0 = .none ∧ disk.fault 1 = .none)
    (hThere : disk.tree pcmPath = some pcm) (hFits : pcm.length + 36 < 2 ^ 32) :
    (pcmToWav pcmPath extension).run.run disk =
      (do
        writeAll (withExtension pcmPath extension) (wavChunks pcm)
        pure (withExtension pcmPath extension) : Files.Program String).run.run
        ⟨Function.update disk.tree (withExtension pcmPath extension) (some []),
          disk.faults.tail.tail⟩ := by
  have hSecond : (Disk.mk disk.tree disk.faults.tail).fault 0 = .none := by
    rw [Disk.fault_tail]
    exact hFaults.2
  rw [pcmToWav, run_bind_ok _ _ (Files.Program.run_read_ok hFaults.1 hThere),
    if_neg (by omega), if_neg (by omega), Effects.Call.after_nil]
  dsimp only
  rw [run_bind_ok _ _ (Files.Program.run_create_ok hSecond), Effects.Call.after_nil]

theorem fault_tail_tail (tree : Files.Tree) (i : Nat) :
    (Disk.mk tree disk.faults.tail.tail).fault i = disk.fault (i + 2) := by
  rw [Disk.fault_tail tree ⟨disk.tree, disk.faults.tail⟩, Disk.fault_tail]

theorem pcmToWav_staged (extension : String)
    (hFaults : disk.fault 0 = .none ∧ disk.fault 1 = .none)
    (hThere : disk.tree pcmPath = some pcm) (hFits : pcm.length + 36 < 2 ^ 32)
    (hWrites : ¬ WriteFails disk) :
    (pcmToWav pcmPath extension).run.run disk =
      ⟨.ok (withExtension pcmPath extension),
        ⟨Function.update disk.tree (withExtension pcmPath extension) (some (wavFile pcm)),
          disk.faults.drop 15⟩, []⟩ := by
  have hNone : ∀ i < (wavChunks pcm).length, (Disk.mk
      (Function.update disk.tree (withExtension pcmPath extension) (some []))
      disk.faults.tail.tail).fault i = .none := by
    intro i hi
    rw [fault_tail_tail]
    exact not_not.mp fun hFails => hWrites ⟨i, hi, hFails⟩
  have hDrop : disk.faults.tail.tail.drop (wavChunks pcm).length = disk.faults.drop 15 := by
    rw [List.drop_tail, List.drop_tail]
    rfl
  have hRun := writeAll_run hNone (Function.update_self (withExtension pcmPath extension) _ _)
  rw [hDrop, Function.update_idem, List.nil_append] at hRun
  rw [pcmToWav_opened hFaults hThere hFits, run_bind_ok _ _ hRun]
  rfl

theorem pcmToWav_cut (extension : String)
    (hFaults : disk.fault 0 = .none ∧ disk.fault 1 = .none)
    (hThere : disk.tree pcmPath = some pcm) (hFits : pcm.length + 36 < 2 ^ 32)
    (hWrites : WriteFails disk) :
    ∃ message disk', (pcmToWav pcmPath extension).run.run disk = ⟨.error message, disk', []⟩ ∧
      disk'.tree (withExtension pcmPath extension) ≠ none := by
  obtain ⟨i, hi, hFails⟩ := hWrites
  have hi' : i < (wavChunks pcm).length := hi
  rw [← fault_tail_tail (Function.update disk.tree (withExtension pcmPath extension) (some []))]
    at hFails
  obtain ⟨message, disk', hRun, hLeft⟩ := writeAll_run_error ⟨i, hi', hFails⟩
    (Function.update_self (withExtension pcmPath extension) _ _)
  refine ⟨message, disk', ?_, hLeft⟩
  rw [pcmToWav_opened hFaults hThere hFits, run_bind_error _ _ hRun]

theorem pcmToWav_refused (extension : String) (hOpened : ¬ Opened disk pcmPath) :
    ∃ message disk', (pcmToWav pcmPath extension).run.run disk = ⟨.error message, disk', []⟩ ∧
      disk'.tree = disk.tree := by
  by_cases hRead : disk.fault 0 = .none ∧ disk.tree pcmPath ≠ none
  · obtain ⟨pcm, hThere⟩ := Option.ne_none_iff_exists'.mp hRead.2
    rw [pcmToWav, run_bind_ok _ _ (Files.Program.run_read_ok hRead.1 hThere),
      Effects.Call.after_nil]
    split
    · exact ⟨_, _, rfl, rfl⟩
    · split
      · exact ⟨_, _, rfl, rfl⟩
      · rename_i hFits
        have hSecond : (Disk.mk disk.tree disk.faults.tail).fault 0 ≠ .none := by
          rw [Disk.fault_tail]
          exact fun hNone => hOpened ⟨hRead.1, hNone, pcm, hThere, Nat.lt_of_not_le hFits⟩
        obtain ⟨message, hRun⟩ :=
          Files.Program.run_create_error (withExtension pcmPath extension) hSecond
        exact ⟨message, _, run_bind_error _ _ hRun, rfl⟩
  · have hFailed : disk.fault 0 ≠ .none ∨ disk.tree pcmPath = none := by tauto
    obtain ⟨message, hRun⟩ := Files.Program.run_read_error hFailed
    exact ⟨message, _, run_bind_error _ _ hRun, rfl⟩

variable (provider : Provider) (endpoint : String)
  (exchange : Except String (List UInt8) → Except ProviderAttemptFailure α)

theorem request_run (wavPath : String) (disk : Disk) :
    ∃ result, (request exchange wavPath).run.run disk =
      ⟨.ok result, ⟨disk.tree, disk.faults.tail⟩, []⟩ ∧
      (disk.fault 0 = .none → ∀ file, disk.tree wavPath = some file →
        result = exchange (.ok file)) := by
  have hAttempt := run_attempt disk (Files.Program.perform (.read wavPath))
  by_cases hRead : disk.fault 0 = .none ∧ disk.tree wavPath ≠ none
  · obtain ⟨file, hThere⟩ := Option.ne_none_iff_exists'.mp hRead.2
    rw [Files.Program.run_read_ok hRead.1 hThere] at hAttempt
    refine ⟨exchange (.ok file), ?_, ?_⟩
    · rw [request, run_bind_ok _ _ hAttempt]
      rfl
    · intro _ other hOther
      rw [hThere] at hOther
      cases hOther
      rfl
  · have hFailed : disk.fault 0 ≠ .none ∨ disk.tree wavPath = none := by tauto
    obtain ⟨message, hRun⟩ := Files.Program.run_read_error hFailed
    rw [hRun] at hAttempt
    refine ⟨exchange (.error message), ?_, ?_⟩
    · rw [request, run_bind_ok _ _ hAttempt]
      rfl
    · intro hNone other hOther
      refine absurd ⟨hNone, ?_⟩ hRead
      rw [hOther]
      exact Option.some_ne_none _

/-- What follows a staging that succeeds. -/
theorem upload_run (wavPath : String) (disk : Disk) :
    ∃ result tree, (do
        let result ← request exchange wavPath
        let _ ← (perform (.remove wavPath)).attempt
        pure result : Program (Except ProviderAttemptFailure α)).run.run disk =
      ⟨.ok result, ⟨tree, disk.faults.tail.tail⟩, []⟩ ∧
      (disk.fault 0 = .none → ∀ file, disk.tree wavPath = some file →
        result = exchange (.ok file)) ∧
      (disk.fault 1 = .none → tree = Function.update disk.tree wavPath none) ∧
      (disk.fault 1 ≠ .none → tree = disk.tree) := by
  obtain ⟨result, hRequest, hFile⟩ := request_run exchange wavPath disk
  obtain ⟨answer, tree, hRemove, hGone, hKept⟩ :=
    Files.Program.run_remove wavPath ⟨disk.tree, disk.faults.tail⟩
  rw [Disk.fault_tail] at hGone hKept
  have hAttempt := run_attempt ⟨disk.tree, disk.faults.tail⟩ (perform (.remove wavPath))
  rw [hRemove] at hAttempt
  refine ⟨result, tree, ?_, hFile, hGone, hKept⟩
  rw [run_bind_ok _ _ hRequest, run_bind_ok _ _ hAttempt]
  rfl

theorem fault_drop (tree : Files.Tree) (n i : Nat) :
    (Disk.mk tree (disk.faults.drop n)).fault i = disk.fault (n + i) := by
  rw [Disk.fault, Disk.fault, List.getD_eq_getElem?_getD, List.getD_eq_getElem?_getD,
    List.getElem?_drop]

/-- A file is left behind exactly when one of the writes into it or its removal fails. -/
theorem wav_left_iff (hNew : disk.tree (withExtension pcmPath provider.extension) = none) :
    ((transcribePcmWithEvidence provider endpoint pcmPath exchange).run.run disk).state.tree
        (withExtension pcmPath provider.extension) ≠ none ↔
      validateEndpoint endpoint provider.insecureMessage = .ok () ∧ Opened disk pcmPath ∧
        (WriteFails disk ∨ RemovalFails disk) := by
  rw [transcribePcmWithEvidence]
  cases hEndpoint : validateEndpoint endpoint provider.insecureMessage with
  | error error =>
    refine iff_of_false (fun h => h hNew) ?_
    rintro ⟨hOk, _⟩
    cases hOk
  | ok _ =>
    dsimp only
    have hAttempt := run_attempt disk (pcmToWav pcmPath provider.extension)
    by_cases hOpened : Opened disk pcmPath
    · obtain ⟨hRead, hCreate, pcm, hThere, hFits⟩ := hOpened
      by_cases hWrites : WriteFails disk
      · obtain ⟨message, disk', hRun, hLeft⟩ := pcmToWav_cut provider.extension
          ⟨hRead, hCreate⟩ hThere hFits hWrites
        rw [hRun] at hAttempt
        rw [run_bind_ok _ _ hAttempt]
        exact iff_of_true hLeft ⟨rfl, ⟨hRead, hCreate, pcm, hThere, hFits⟩, .inl hWrites⟩
      · rw [pcmToWav_staged _ ⟨hRead, hCreate⟩ hThere hFits hWrites] at hAttempt
        obtain ⟨result, tree, hUpload, _, hGone, hKept⟩ :=
          upload_run exchange (withExtension pcmPath provider.extension) _
        rw [fault_drop] at hGone hKept
        rw [run_bind_ok _ _ hAttempt, Effects.Call.after_nil]
        dsimp only
        rw [hUpload]
        by_cases hRemoval : RemovalFails disk
        · refine iff_of_true ?_ ⟨rfl, ⟨hRead, hCreate, pcm, hThere, hFits⟩, .inr hRemoval⟩
          change tree _ ≠ none
          rw [hKept hRemoval]
          exact Option.ne_none_iff_exists'.mpr ⟨wavFile pcm, Function.update_self _ _ _⟩
        · refine iff_of_false (fun h => h ?_) fun h => h.2.2.elim hWrites hRemoval
          change tree _ = none
          rw [hGone (not_not.mp hRemoval), Function.update_self]
    · obtain ⟨message, disk', hRun, hSame⟩ :=
        pcmToWav_refused provider.extension hOpened
      rw [hRun] at hAttempt
      rw [run_bind_ok _ _ hAttempt]
      refine iff_of_false (fun h => h ?_) fun h => hOpened h.2.1
      change disk'.tree _ = none
      rw [hSame]
      exact hNew

def finishedRecording : String := "/run/voxtype/recording-7-1.pcm"

def finishedTree : Files.Tree := Function.update (fun _ => none) finishedRecording (some [0, 1])

theorem finished_there : finishedTree finishedRecording = some [0, 1] := Function.update_self _ _ _

theorem finished_new : finishedTree (withExtension finishedRecording Provider.rest.extension) =
    none := Function.update_of_ne (by decide) _ _

/-- The disk is full once the file is made. -/
theorem wav_left_iff_full :
    ((transcribePcmWithEvidence .rest "https://asr" finishedRecording
      (fun _ => (.ok () : Except ProviderAttemptFailure Unit))).run.run
        ⟨finishedTree, [.none, .none, .fails 2 "No space left on device"]⟩).state.tree
      (withExtension finishedRecording Provider.rest.extension) ≠ none :=
  (wav_left_iff .rest "https://asr" _ finished_new).mpr
    ⟨rfl, ⟨rfl, rfl, [0, 1], finished_there, by decide⟩, .inl ⟨0, by decide, by decide⟩⟩

/-- Without a fault, what is uploaded reads back as the recording, and the disk is as before. -/
theorem transcribe_uploads {tree : Files.Tree}
    (hEndpoint : validateEndpoint endpoint provider.insecureMessage = .ok ())
    (hThere : tree pcmPath = some pcm) (hFits : pcm.length + 36 < 2 ^ 32)
    (hNew : tree (withExtension pcmPath provider.extension) = none) :
    ∃ file, Riff.readWave file = some (sampleFormat, pcm) ∧
      (transcribePcmWithEvidence provider endpoint pcmPath exchange).run.run ⟨tree, []⟩ =
        ⟨.ok (exchange (.ok file)), ⟨tree, []⟩, []⟩ := by
  refine ⟨wavFile pcm, readWave_wavFile hFits, ?_⟩
  have hWrites : ¬ WriteFails ⟨tree, []⟩ := by
    rintro ⟨i, _, hFails⟩
    exact hFails rfl
  have hStaged := pcmToWav_staged provider.extension ⟨rfl, rfl⟩ hThere hFits hWrites
  have hAttempt := run_attempt ⟨tree, []⟩ (pcmToWav pcmPath provider.extension)
  rw [hStaged] at hAttempt
  obtain ⟨result, left, hUpload, hFile, hGone, _⟩ := upload_run exchange
    (withExtension pcmPath provider.extension)
    ⟨Function.update tree (withExtension pcmPath provider.extension) (some (wavFile pcm)), []⟩
  rw [hFile rfl _ (Function.update_self _ _ _), hGone rfl, Function.update_idem] at hUpload
  rw [transcribePcmWithEvidence, hEndpoint]
  dsimp only
  rw [run_bind_ok _ _ hAttempt, Effects.Call.after_nil]
  dsimp only
  refine hUpload.trans ?_
  rw [← hNew, Function.update_eq_self]
  rfl

theorem transcribe_uploads_finished : ∃ file, Riff.readWave file = some (sampleFormat, [0, 1]) ∧
    (transcribePcmWithEvidence .rest "https://asr" finishedRecording
      (fun body => (.ok body.toOption : Except ProviderAttemptFailure _))).run.run
        ⟨finishedTree, []⟩ = ⟨.ok (.ok (some file)), ⟨finishedTree, []⟩, []⟩ :=
  transcribe_uploads .rest "https://asr" _ rfl finished_there (by decide) finished_new

end Whole

end Staging

end VoxType
