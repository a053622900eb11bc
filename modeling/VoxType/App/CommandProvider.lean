import VoxType.App.RouteSafety
import VoxType.Curl.Attempt
import VoxType.Daemon.ConfiguredRuns
import VoxType.Library.Words

/-!
# The command provider

The recording goes to a child process of the user's choice. The provider looks
after it pass by pass until it has exited, is late or is cancelled, and takes
its bounded output for the transcript.
-/

namespace VoxType

namespace CommandProvider

set_option autoImplicit false

open Curl (ExitStatus BoundedRead)

def cancelledError : VoxError :=
  VoxError.new .cancelled "provider.cancelled" "recognition was cancelled"

def ensureNotCancelled (cancelled : Bool) : Except ProviderAttemptFailure Unit :=
  if cancelled then .error (.beforeTransport cancelledError) else .ok ()

/-- What the calls of `terminate_process_group` answer; two of them wait, and may not return. -/
structure Termination where
  killGroup : Option (Except String ExitStatus)
  kill : Except String Unit
  wait : Option (Except String ExitStatus)

/-- Whatever they answer is ignored. -/
def Termination.returns (self : Termination) : Bool := self.killGroup.isSome && self.wait.isSome

/-- What one pass of `wait_for_command` sees, and what it is answered if it kills the child. -/
structure Pass where
  tryWait : Except String (Option ExitStatus)
  now : Nat
  cancelled : Bool
  termination : Termination

/-- How a pass goes. -/
inductive PassOutcome
  | goesOn
  | hangs
  | ends (result : Except ProviderAttemptFailure ExitStatus)

def waitFailed (error : String) : ProviderAttemptFailure :=
  .afterTransport (VoxError.new .unavailable "provider.command_wait" error) .possiblyAccepted

def timedOut : ProviderAttemptFailure :=
  .afterTransport
    ((VoxError.new .timeout "provider.command_timeout" "command provider timed out").withRetryable
      true)
    .possiblyAccepted

def Pass.kills (pass : Pass) (failure : ProviderAttemptFailure) : PassOutcome :=
  if pass.termination.returns then .ends (.error failure) else .hangs

/-- The body of the loop, up to its sleep. -/
def Pass.outcome (deadline : Nat) (pass : Pass) : PassOutcome :=
  match pass.tryWait with
  | .error error => .ends (.error (waitFailed error))
  | .ok (some status) => .ends (.ok status)
  | .ok none =>
    if deadline ≤ pass.now then pass.kills timedOut
    else if pass.cancelled then pass.kills (.afterTransport cancelledError .possiblyAccepted)
    else .goesOn

/-- The wait over the passes there are; it has not ended where all of them go on, or one hangs. -/
def waitForCommand (deadline : Nat) :
    List Pass → Option (Except ProviderAttemptFailure ExitStatus)
  | [] => none
  | pass :: rest =>
    match pass.outcome deadline with
    | .goesOn => waitForCommand deadline rest
    | .hangs => none
    | .ends result => some result

/-- The loop of `read_command_output` over the reads there are; a read of no bytes is the end. -/
def readCommandOutputFrom (limit : Nat) (acc : BoundedRead) :
    List (Except String (List UInt8)) → Option (Except String BoundedRead)
  | [] => none
  | .error error :: _ => some (.error error)
  | .ok chunk :: rest =>
    if chunk.isEmpty then some (.ok acc)
    else
      let retained := min (limit - acc.bytes.length) chunk.length
      readCommandOutputFrom limit
        { bytes := acc.bytes ++ chunk.take retained,
          overflowed := acc.overflowed || decide (retained < chunk.length) } rest

def readCommandOutput (reads : List (Except String (List UInt8))) (limit : Nat) :
    Option (Except String BoundedRead) :=
  readCommandOutputFrom limit { bytes := [], overflowed := false } reads

structure CommandAdapter where
  program : String
  args : List String
  timeoutSeconds : Nat

/-- What a child process is started with. -/
structure Invocation where
  program : String
  args : List String
  environment : List (String × String)

def CommandAdapter.invocation (self : CommandAdapter) (input : RecognitionInput) : Invocation where
  program := self.program
  args := self.args
  environment := [("VOXTYPE_AUDIO_PATH", input.pcmPath), ("VOXTYPE_LANGUAGE", input.language)]

/-- The child process, its output and the clock, as one call meets them. -/
structure Child where
  cancelled : Bool
  spawn : Invocation → Except String Unit
  now : Nat
  passes : List Pass
  reads : List (Except String (List UInt8))
  renderStatus : ExitStatus → String
  renderUtf8Error : List UInt8 → String

def fromUtf8 (bytes : List UInt8) : Option String := String.fromUTF8? ⟨bytes.toArray⟩

def finishCommandOutput (child : Child) (status : ExitStatus) (output : BoundedRead) :
    Except ProviderAttemptFailure String :=
  if output.overflowed then
    .error (.afterTransport
      (VoxError.new .protocol "provider.command_output_too_large"
        "command provider output exceeded 1048576 bytes") .accepted)
  else if !status.success then
    .error (.afterTransport
      ((VoxError.new .unavailable "provider.command_exit"
        s!"command exited with {child.renderStatus status}").withRetryable true) .accepted)
  else
    match fromUtf8 output.bytes with
    | none =>
      .error (.afterTransport
        (VoxError.new .protocol "provider.command_output" (child.renderUtf8Error output.bytes))
        .accepted)
    | some text =>
      if (RustText.trim text).isEmpty then
        .error (.afterTransport
          (VoxError.new .protocol "provider.command_empty"
            "command provider returned empty output") .accepted)
      else .ok (RustText.trim text)

def spawnFailed (error : String) : ProviderAttemptFailure :=
  .beforeTransport
    ((VoxError.new .unavailable "provider.command_failed" error).withRetryable true)

def outputLimit : Nat := 1024 * 1024

/-- What follows the wait and the reader. -/
def collect (child : Child) (waited : Except ProviderAttemptFailure ExitStatus)
    (read : Except String BoundedRead) : Except ProviderAttemptFailure String :=
  match waited with
  | .error failure => .error failure
  | .ok status =>
    match read with
    | .error error =>
      .error (.afterTransport (VoxError.new .unavailable "provider.command_output" error)
        .accepted)
    | .ok output => finishCommandOutput child status output

def Child.deadline (child : Child) (timeoutSeconds : Nat) : Nat :=
  child.now + timeoutSeconds * 10 ^ 9

/-- The reader is joined however the wait ends. The child's stdout is piped and its reader does not
panic, so neither error is made. -/
def transcribeCommandWithEvidence (adapter : CommandAdapter) (input : RecognitionInput)
    (child : Child) : Option (Except ProviderAttemptFailure String) :=
  match ensureNotCancelled child.cancelled with
  | .error failure => some (.error failure)
  | .ok _ =>
    match child.spawn (adapter.invocation input) with
    | .error error => some (.error (spawnFailed error))
    | .ok _ =>
      (waitForCommand (child.deadline adapter.timeoutSeconds) child.passes).bind fun waited =>
        (readCommandOutput child.reads outputLimit).map (collect child waited)

def successAfterAudio (text : String) (usage : ProviderUsage) : ProviderSuccess :=
  { transcript := { text, usage }, transportStarted := true, audioAcceptance := .accepted }

def CommandAdapter.recognize (self : CommandAdapter) (input : RecognitionInput) (child : Child) :
    Option (Except ProviderAttemptFailure ProviderSuccess) :=
  (transcribeCommandWithEvidence self input child).map fun answer =>
    answer.map fun text => successAfterAudio text ⟨none, none, none⟩

section Output

/-- The output up to its end, without a bound. -/
def heard : List (Except String (List UInt8)) → Option (Except String (List UInt8))
  | [] => none
  | .error error :: _ => some (.error error)
  | .ok chunk :: rest =>
    if chunk.isEmpty then some (.ok [])
    else (heard rest).map fun answer => answer.map (chunk ++ ·)

/-- What is kept of an output. -/
def bounded (limit : Nat) (stream : List UInt8) : BoundedRead :=
  ⟨stream.take limit, decide (limit < stream.length)⟩

theorem bounded_append (limit : Nat) (read chunk : List UInt8) :
    (⟨(bounded limit read).bytes ++
        chunk.take (min (limit - (bounded limit read).bytes.length) chunk.length),
      (bounded limit read).overflowed ||
        decide (min (limit - (bounded limit read).bytes.length) chunk.length < chunk.length)⟩ :
      BoundedRead) = bounded limit (read ++ chunk) := by
  have hTake : chunk.take (min (limit - (read.take limit).length) chunk.length) =
      chunk.take (limit - read.length) := by
    rw [List.take_eq_take_iff, List.length_take]
    omega
  unfold bounded
  rw [BoundedRead.mk.injEq]
  constructor
  · rw [hTake, List.take_append]
  · rw [← Bool.decide_or, decide_eq_decide, List.length_take, List.length_append]
    omega

theorem readCommandOutputFrom_heard (limit : Nat) (reads : List (Except String (List UInt8)))
    (read : List UInt8) : readCommandOutputFrom limit (bounded limit read) reads =
      (heard reads).map fun answer => answer.map fun stream => bounded limit (read ++ stream) := by
  induction reads generalizing read with
  | nil => rfl
  | cons answer rest ih =>
    cases answer with
    | error error => rfl
    | ok chunk =>
      rw [readCommandOutputFrom, heard]
      split
      · rw [Option.map_some, Except.map, List.append_nil]
      · simp only [bounded_append, ih, Option.map_map]
        congr 1
        funext answer
        cases answer with
        | error error => rfl
        | ok stream => simp [Except.map]

/-- How the output comes in chunks makes no difference. -/
theorem readCommandOutput_heard (reads : List (Except String (List UInt8))) (limit : Nat) :
    readCommandOutput reads limit =
      (heard reads).map fun answer => answer.map (bounded limit) := by
  have hStart : (⟨[], false⟩ : BoundedRead) = bounded limit [] := by simp [bounded]
  rw [readCommandOutput, hStart, readCommandOutputFrom_heard]
  rfl

/-- The end of the output is seen, or cannot be read. -/
def OutputEnds (reads : List (Except String (List UInt8))) : Prop :=
  ∃ read ∈ reads, read = .ok [] ∨ ∃ error, read = .error error

theorem heard_isSome (reads : List (Except String (List UInt8))) :
    (heard reads).isSome = true ↔ OutputEnds reads := by
  unfold OutputEnds
  induction reads with
  | nil => simp [heard]
  | cons answer rest ih =>
    cases answer with
    | error error => simp [heard]
    | ok chunk =>
      rw [heard]
      split
      · rename_i hEmpty
        simp [List.isEmpty_iff.mp hEmpty]
      · rename_i hChunk
        rw [Option.isSome_map, ih]
        simp [List.isEmpty_iff] at hChunk
        simp [hChunk]

end Output

section Wait

variable {deadline : Nat}

/-- A pass that finds nothing to end the wait. -/
def Pass.Running (deadline : Nat) (pass : Pass) : Prop :=
  pass.tryWait = .ok none ∧ pass.now < deadline ∧ pass.cancelled = false

/-- A pass that kills the child, which is late or cancelled. -/
def Pass.Kills (deadline : Nat) (pass : Pass) : Prop :=
  pass.tryWait = .ok none ∧ (deadline ≤ pass.now ∨ pass.cancelled = true)

/-- What there is for a pass to find. -/
theorem Pass.outcome_cases (deadline : Nat) (pass : Pass) :
    (pass.outcome deadline = .goesOn ∧ pass.Running deadline) ∨
      (∃ error, pass.tryWait = .error error ∧
        pass.outcome deadline = .ends (.error (waitFailed error))) ∨
      (∃ status, pass.tryWait = .ok (some status) ∧ pass.outcome deadline = .ends (.ok status)) ∨
      pass.Kills deadline ∧ ∃ failure, pass.outcome deadline = pass.kills failure ∧
        (failure = timedOut ∨
          failure = .afterTransport cancelledError .possiblyAccepted ∧ pass.cancelled = true) := by
  unfold outcome Running Kills
  cases pass.tryWait with
  | error error => exact .inr (.inl ⟨error, rfl, rfl⟩)
  | ok answer =>
    cases answer with
    | some status => exact .inr (.inr (.inl ⟨status, rfl, rfl⟩))
    | none =>
      dsimp only
      split
      · rename_i hLate
        exact .inr (.inr (.inr ⟨⟨rfl, .inl hLate⟩, timedOut, rfl, .inl rfl⟩))
      · rename_i hEarly
        split
        · rename_i hCancelled
          exact .inr (.inr (.inr ⟨⟨rfl, .inr hCancelled⟩, _, rfl, .inr ⟨rfl, hCancelled⟩⟩))
        · rename_i hWanted
          exact .inl ⟨rfl, rfl, Nat.lt_of_not_le hEarly, Bool.eq_false_iff.mpr hWanted⟩

theorem Pass.Kills.not_running {pass : Pass} (h : pass.Kills deadline) :
    ¬ pass.Running deadline := by
  rintro ⟨_, hEarly, hWanted⟩
  rcases h.2 with hLate | hCancelled
  · exact absurd hLate (Nat.not_le.mpr hEarly)
  · rw [hWanted] at hCancelled
    cases hCancelled

theorem Pass.goesOn_iff {pass : Pass} :
    pass.outcome deadline = .goesOn ↔ pass.Running deadline := by
  rcases pass.outcome_cases deadline with ⟨hGoes, hRunning⟩ | ⟨error, hError, hEnds⟩ |
    ⟨status, hExit, hEnds⟩ | ⟨hKills, failure, hEnds, _⟩
  · exact iff_of_true hGoes hRunning
  · refine iff_of_false (by rw [hEnds]; rintro ⟨⟩) ?_
    rintro ⟨hRunning, _⟩
    rw [hError] at hRunning
    cases hRunning
  · refine iff_of_false (by rw [hEnds]; rintro ⟨⟩) ?_
    rintro ⟨hRunning, _⟩
    rw [hExit] at hRunning
    cases hRunning
  · refine iff_of_false ?_ hKills.not_running
    rw [hEnds, Pass.kills]
    split <;> rintro ⟨⟩

/-- The first pass that does not go on. -/
def Decides (deadline : Nat) (passes : List Pass) (pass : Pass) : Prop :=
  ∃ before after, passes = before ++ pass :: after ∧ (∀ p ∈ before, p.Running deadline) ∧
    ¬ pass.Running deadline

theorem decides_running {first pass : Pass} {rest : List Pass} (h : first.Running deadline) :
    Decides deadline (first :: rest) pass ↔ Decides deadline rest pass := by
  constructor
  · rintro ⟨before, after, hPasses, hBefore, hStops⟩
    cases before with
    | nil =>
      cases hPasses
      exact absurd h hStops
    | cons head before =>
      cases hPasses
      exact ⟨before, after, rfl, (List.forall_mem_cons.mp hBefore).2, hStops⟩
  · rintro ⟨before, after, rfl, hBefore, hStops⟩
    exact ⟨first :: before, after, rfl, List.forall_mem_cons.mpr ⟨h, hBefore⟩, hStops⟩

theorem decides_first {first pass : Pass} {rest : List Pass} (h : ¬ first.Running deadline) :
    Decides deadline (first :: rest) pass ↔ pass = first := by
  constructor
  · rintro ⟨before, after, hPasses, hBefore, _⟩
    cases before with
    | nil =>
      cases hPasses
      rfl
    | cons head before =>
      cases hPasses
      exact absurd (hBefore _ List.mem_cons_self) h
  · rintro rfl
    exact ⟨[], rest, rfl, List.forall_mem_nil _, h⟩

/-- The wait ends as its first pass does that does not go on. -/
theorem waitForCommand_some {passes : List Pass}
    {result : Except ProviderAttemptFailure ExitStatus} :
    waitForCommand deadline passes = some result ↔
      ∃ pass, Decides deadline passes pass ∧ pass.outcome deadline = .ends result := by
  induction passes with
  | nil =>
    refine iff_of_false (by rintro ⟨⟩) ?_
    rintro ⟨pass, ⟨before, after, hPasses, _⟩, _⟩
    exact absurd hPasses.symm (List.append_ne_nil_of_right_ne_nil _ (List.cons_ne_nil _ _))
  | cons first rest ih =>
    rw [waitForCommand]
    cases hFirst : first.outcome deadline with
    | goesOn =>
      dsimp only
      simp only [ih, decides_running (Pass.goesOn_iff.mp hFirst)]
    | hangs =>
      have hStops : ¬ first.Running deadline := by
        rw [← Pass.goesOn_iff, hFirst]
        rintro ⟨⟩
      simp [decides_first hStops, hFirst]
    | ends found =>
      have hStops : ¬ first.Running deadline := by
        rw [← Pass.goesOn_iff, hFirst]
        rintro ⟨⟩
      simp [decides_first hStops, hFirst]

/-- The child is seen to have exited before anything else ends the wait. -/
def Exits (deadline : Nat) (passes : List Pass) (status : ExitStatus) : Prop :=
  ∃ before pass after, passes = before ++ pass :: after ∧ pass.tryWait = .ok (some status) ∧
    ∀ p ∈ before, p.Running deadline

theorem Pass.outcome_exit {pass : Pass} {status : ExitStatus} :
    pass.outcome deadline = .ends (.ok status) ↔ pass.tryWait = .ok (some status) := by
  rcases pass.outcome_cases deadline with ⟨hGoes, hRunning⟩ | ⟨error, hError, hEnds⟩ |
    ⟨found, hExit, hEnds⟩ | ⟨hKills, failure, hEnds, _⟩
  · rw [hGoes, hRunning.1]
    simp
  · rw [hEnds, hError]
    simp
  · rw [hEnds, hExit]
    simp
  · rw [hEnds, hKills.1, Pass.kills]
    split <;> simp

theorem waitForCommand_exit {passes : List Pass} {status : ExitStatus} :
    waitForCommand deadline passes = some (.ok status) ↔ Exits deadline passes status := by
  rw [waitForCommand_some, Exits]
  simp only [Pass.outcome_exit, Decides]
  constructor
  · rintro ⟨pass, ⟨before, after, hPasses, hBefore, _⟩, hExit⟩
    exact ⟨before, pass, after, hPasses, hExit, hBefore⟩
  · rintro ⟨before, pass, after, hPasses, hExit, hBefore⟩
    refine ⟨pass, ⟨before, after, hPasses, hBefore, ?_⟩, hExit⟩
    rintro ⟨hRunning, _⟩
    rw [hExit] at hRunning
    cases hRunning

/-- Without an exit the wait ends in one of three ways. -/
theorem Pass.outcome_failure {pass : Pass} {failure : ProviderAttemptFailure}
    (h : pass.outcome deadline = .ends (.error failure)) :
    (∃ error, failure = waitFailed error) ∨ failure = timedOut ∨
      failure = .afterTransport cancelledError .possiblyAccepted ∧ pass.cancelled = true := by
  rcases pass.outcome_cases deadline with ⟨hGoes, _⟩ | ⟨error, _, hEnds⟩ | ⟨status, _, hEnds⟩ |
    ⟨_, killed, hEnds, hKilled⟩
  · rw [hGoes] at h
    cases h
  · rw [hEnds] at h
    cases h
    exact .inl ⟨error, rfl⟩
  · rw [hEnds] at h
    cases h
  · rw [hEnds, Pass.kills] at h
    split at h
    · cases h
      exact .inr hKilled
    · cases h

/-- The wait ends once a pass does not go on, where the child can be killed if that is called for. -/
theorem waitForCommand_ends (passes : List Pass) :
    (∃ result, waitForCommand deadline passes = some result) ↔
      ∃ pass, Decides deadline passes pass ∧
        (pass.Kills deadline → pass.termination.returns = true) := by
  simp only [waitForCommand_some]
  rw [exists_comm]
  refine exists_congr fun pass => ?_
  rw [exists_and_left]
  refine and_congr_right fun hDecides => ?_
  obtain ⟨_, _, _, _, hStops⟩ := hDecides
  rcases pass.outcome_cases deadline with ⟨_, hRunning⟩ | ⟨error, hError, hEnds⟩ |
    ⟨status, hExit, hEnds⟩ | ⟨hKills, failure, hEnds, _⟩
  · exact absurd hRunning hStops
  · refine iff_of_true ⟨_, hEnds⟩ ?_
    rintro ⟨hWaits, _⟩
    rw [hError] at hWaits
    cases hWaits
  · refine iff_of_true ⟨_, hEnds⟩ ?_
    rintro ⟨hWaits, _⟩
    rw [hExit] at hWaits
    cases hWaits
  · rw [hEnds, Pass.kills]
    cases pass.termination.returns with
    | true => simp
    | false => simp [hKills]

end Wait

section Results

theorem adapterCode_mem {code : String} (h : code ∈ adapterCodes) : isAdapterCode code = true := by
  rw [isAdapterCode, List.contains_iff_mem.mpr h, Bool.or_true]

variable {child : Child} {status : ExitStatus} {adapter : CommandAdapter}
  {input : RecognitionInput}

theorem finishCommandOutput_ok {stream : List UInt8} {text : String} :
    finishCommandOutput child status (bounded outputLimit stream) = .ok text ↔
      stream.length ≤ outputLimit ∧ status.success = true ∧ ∃ decoded,
        fromUtf8 stream = some decoded ∧ RustText.isBlank decoded = false ∧
          text = RustText.trim decoded := by
  unfold finishCommandOutput bounded
  dsimp only
  by_cases hLong : outputLimit < stream.length
  · rw [if_pos (decide_eq_true hLong)]
    simp
    omega
  · have hFits : stream.length ≤ outputLimit := Nat.le_of_not_lt hLong
    rw [if_neg (by simpa using hLong), List.take_of_length_le hFits]
    cases status.success with
    | false => simp
    | true =>
      rw [if_neg (by decide)]
      cases fromUtf8 stream with
      | none => simp
      | some decoded =>
        dsimp only
        split
        · rename_i hBlank
          constructor
          · rintro ⟨⟩
          · rintro ⟨-, -, found, hFound, hSolid, -⟩
            cases hFound
            rw [RustText.isBlank, hBlank] at hSolid
            cases hSolid
        · rename_i hSolid
          constructor
          · intro hText
            exact ⟨hFits, rfl, decoded, rfl, Bool.eq_false_iff.mpr hSolid,
              (Except.ok.inj hText).symm⟩
          · rintro ⟨-, -, found, hFound, -, rfl⟩
            cases hFound
            rfl

theorem collect_ok {read : Except String (List UInt8)} {text : String} :
    collect child (.ok status) (read.map (bounded outputLimit)) = .ok text ↔ ∃ stream,
      read = .ok stream ∧
        finishCommandOutput child status (bounded outputLimit stream) = .ok text := by
  unfold collect
  cases read with
  | error error => simp [Except.map]
  | ok stream => simp [Except.map]

/-- The child process has been started. -/
def Child.Spawned (child : Child) (invocation : Invocation) : Prop :=
  child.cancelled = false ∧ child.spawn invocation = .ok ()

theorem transcribe_spawned (h : child.Spawned (adapter.invocation input))
    {answer : Except ProviderAttemptFailure String} :
    transcribeCommandWithEvidence adapter input child = some answer ↔ ∃ waited read,
      waitForCommand (child.deadline adapter.timeoutSeconds) child.passes = some waited ∧
        heard child.reads = some read ∧
        collect child waited (read.map (bounded outputLimit)) = answer := by
  obtain ⟨hCancelled, hSpawn⟩ := h
  rw [transcribeCommandWithEvidence, ensureNotCancelled, hCancelled, hSpawn]
  change (waitForCommand _ _).bind _ = _ ↔ _
  simp only [readCommandOutput_heard, Option.bind_eq_some_iff, Option.map_map,
    Option.map_eq_some_iff, Function.comp_apply, exists_and_left]

theorem transcribe_unspawned (h : ¬ child.Spawned (adapter.invocation input)) :
    (child.cancelled = true ∧ transcribeCommandWithEvidence adapter input child =
        some (.error (.beforeTransport cancelledError))) ∨
      ∃ error, transcribeCommandWithEvidence adapter input child =
        some (.error (spawnFailed error)) := by
  rw [transcribeCommandWithEvidence, ensureNotCancelled]
  cases hCancelled : child.cancelled with
  | true => exact .inl ⟨rfl, rfl⟩
  | false =>
    cases hSpawn : child.spawn (adapter.invocation input) with
    | error error => exact .inr ⟨error, rfl⟩
    | ok value => exact absurd ⟨hCancelled, hSpawn⟩ h

/-- What lies behind a transcript. -/
structure Heard (adapter : CommandAdapter) (input : RecognitionInput) (child : Child)
    (text : String) : Prop where
  spawned : child.Spawned (adapter.invocation input)
  output : ∃ status stream decoded,
    Exits (child.deadline adapter.timeoutSeconds) child.passes status ∧ status.success = true ∧
      heard child.reads = some (.ok stream) ∧ stream.length ≤ outputLimit ∧
      fromUtf8 stream = some decoded ∧ RustText.isBlank decoded = false ∧
      text = RustText.trim decoded

theorem transcribe_ok {text : String}
    (h : transcribeCommandWithEvidence adapter input child = some (.ok text)) :
    Heard adapter input child text := by
  by_cases hSpawned : child.Spawned (adapter.invocation input)
  · refine ⟨hSpawned, ?_⟩
    obtain ⟨waited, read, hWait, hHeard, hCollect⟩ := (transcribe_spawned hSpawned).mp h
    cases waited with
    | error failure => cases hCollect
    | ok status =>
      obtain ⟨stream, rfl, hFinish⟩ := collect_ok.mp hCollect
      obtain ⟨hFits, hSuccess, decoded, hRest⟩ := finishCommandOutput_ok.mp hFinish
      exact ⟨status, stream, decoded, waitForCommand_exit.mp hWait, hSuccess, hHeard, hFits, hRest⟩
  · rcases transcribe_unspawned hSpawned with ⟨_, hFailed⟩ | ⟨error, hFailed⟩ <;>
    · rw [hFailed] at h
      cases h

theorem Heard.transcribed {text : String} (h : Heard adapter input child text) :
    transcribeCommandWithEvidence adapter input child = some (.ok text) := by
  obtain ⟨hSpawned, status, stream, decoded, hExits, hSuccess, hHeard, hFits, hRest⟩ := h
  apply (transcribe_spawned hSpawned).mpr
  refine ⟨.ok status, .ok stream, waitForCommand_exit.mpr hExits, hHeard, ?_⟩
  apply collect_ok.mpr
  exact ⟨stream, rfl, finishCommandOutput_ok.mpr ⟨hFits, hSuccess, decoded, hRest⟩⟩

/-- A transcript is the trimmed output, all of it, of a child that was seen to succeed in time. -/
theorem transcribe_ok_iff (adapter : CommandAdapter) (input : RecognitionInput) (child : Child)
    (text : String) :
    transcribeCommandWithEvidence adapter input child = some (.ok text) ↔
      Heard adapter input child text :=
  ⟨transcribe_ok, Heard.transcribed⟩

/-- A failure after the child has exited. -/
def AfterExit (failure : ProviderAttemptFailure) : Prop :=
  failure.transportStarted = true ∧ failure.audioAcceptance = .accepted ∧
    isAdapterCode failure.error.code = true ∧ failure.error.category ≠ .cancelled

theorem afterExit_failed (error : VoxError) (hCode : isAdapterCode error.code = true)
    (hCategory : error.category ≠ .cancelled) :
    AfterExit (.afterTransport error .accepted) := ⟨rfl, rfl, hCode, hCategory⟩

theorem finishCommandOutput_error {output : BoundedRead} {failure : ProviderAttemptFailure}
    (h : finishCommandOutput child status output = .error failure) : AfterExit failure := by
  unfold finishCommandOutput at h
  split at h
  · cases h
    apply afterExit_failed
    · decide
    · rintro ⟨⟩
  · split at h
    · cases h
      apply afterExit_failed
      · exact adapterCode_mem (by decide : "provider.command_exit" ∈ adapterCodes)
      · rintro ⟨⟩
    · split at h
      · cases h
        apply afterExit_failed
        · exact adapterCode_mem (by decide : "provider.command_output" ∈ adapterCodes)
        · rintro ⟨⟩
      · split at h
        · cases h
          apply afterExit_failed
          · decide
          · rintro ⟨⟩
        · cases h

theorem collect_error {read : Except String BoundedRead} {failure : ProviderAttemptFailure}
    (h : collect child (.ok status) read = .error failure) : AfterExit failure := by
  cases read with
  | error error =>
    cases h
    apply afterExit_failed
    · exact adapterCode_mem (by decide : "provider.command_output" ∈ adapterCodes)
    · rintro ⟨⟩
  | ok output => exact finishCommandOutput_error h

/-- What a failed call says of the recording. -/
structure Evidence (adapter : CommandAdapter) (input : RecognitionInput) (child : Child)
    (failure : ProviderAttemptFailure) : Prop where
  code : isAdapterCode failure.error.code = true
  transport : failure.transportStarted = true ↔ child.Spawned (adapter.invocation input)
  left : failure.audioAcceptance = .notAccepted ↔ ¬ child.Spawned (adapter.invocation input)
  accepted : failure.audioAcceptance = .accepted ↔
    child.Spawned (adapter.invocation input) ∧
      ∃ status, Exits (child.deadline adapter.timeoutSeconds) child.passes status
  cancelled : failure.error.category = .cancelled →
    child.cancelled = true ∨ ∃ pass ∈ child.passes, pass.cancelled = true

theorem evidence_unspawned (hSpawned : ¬ child.Spawned (adapter.invocation input))
    {failure : ProviderAttemptFailure}
    (hTransport : failure.transportStarted = false)
    (hAudio : failure.audioAcceptance = .notAccepted)
    (hCode : isAdapterCode failure.error.code = true)
    (hCancelled : failure.error.category = .cancelled → child.cancelled = true) :
    Evidence adapter input child failure where
  code := hCode
  transport := by simp [hTransport, hSpawned]
  left := by simp [hAudio, hSpawned]
  accepted := by simp [hAudio, hSpawned]
  cancelled h := .inl (hCancelled h)

theorem evidence_exited (hSpawned : child.Spawned (adapter.invocation input))
    {failure : ProviderAttemptFailure}
    (hExits : Exits (child.deadline adapter.timeoutSeconds) child.passes status)
    (h : AfterExit failure) : Evidence adapter input child failure := by
  obtain ⟨hTransport, hAudio, hCode, hCategory⟩ := h
  constructor
  case code => exact hCode
  case transport => simp [hTransport, hSpawned]
  case left => simp [hAudio, hSpawned]
  case accepted =>
    rw [hAudio]
    simp only [true_iff]
    exact ⟨hSpawned, status, hExits⟩
  case cancelled => exact fun hSame => absurd hSame hCategory

theorem evidence_waited (hSpawned : child.Spawned (adapter.invocation input))
    {failure : ProviderAttemptFailure}
    (hWait : waitForCommand (child.deadline adapter.timeoutSeconds) child.passes =
      some (.error failure)) : Evidence adapter input child failure := by
  have hNoExit : ¬ ∃ status, Exits (child.deadline adapter.timeoutSeconds) child.passes status := by
    rintro ⟨status, hExits⟩
    have hExit := waitForCommand_exit.mpr hExits
    rw [hWait] at hExit
    cases hExit
  obtain ⟨pass, ⟨before, after, hPasses, _⟩, hOutcome⟩ := waitForCommand_some.mp hWait
  have hMem : pass ∈ child.passes := by simp [hPasses]
  have hAfter : failure.transportStarted = true ∧ failure.audioAcceptance = .possiblyAccepted ∧
      isAdapterCode failure.error.code = true ∧
        (failure.error.category = .cancelled → pass.cancelled = true) := by
    rcases Pass.outcome_failure hOutcome with ⟨error, rfl⟩ | rfl | ⟨rfl, hCancelled⟩
    · refine ⟨rfl, rfl, adapterCode_mem (by decide : "provider.command_wait" ∈ adapterCodes), ?_⟩
      rintro ⟨⟩
    · refine ⟨rfl, rfl, by decide, ?_⟩
      rintro ⟨⟩
    · exact ⟨rfl, rfl, by decide, fun _ => hCancelled⟩
  obtain ⟨hTransport, hAudio, hCode, hCancelled⟩ := hAfter
  constructor
  case code => exact hCode
  case transport => simp [hTransport, hSpawned]
  case left => simp [hAudio, hSpawned]
  case accepted => simp [hAudio, hNoExit]
  case cancelled => exact fun hSame => .inr ⟨pass, hMem, hCancelled hSame⟩

/-- The evidence of every failure agrees with what has become of the recording. -/
theorem transcribe_evidence {failure : ProviderAttemptFailure}
    (h : transcribeCommandWithEvidence adapter input child = some (.error failure)) :
    Evidence adapter input child failure := by
  by_cases hSpawned : child.Spawned (adapter.invocation input)
  · obtain ⟨waited, read, hWait, _, hCollect⟩ := (transcribe_spawned hSpawned).mp h
    cases waited with
    | error other =>
      cases hCollect
      exact evidence_waited hSpawned hWait
    | ok status =>
      exact evidence_exited hSpawned (waitForCommand_exit.mp hWait) (collect_error hCollect)
  · rcases transcribe_unspawned hSpawned with ⟨hCancelled, hFailed⟩ | ⟨error, hFailed⟩
    · rw [hFailed] at h
      cases h
      exact evidence_unspawned hSpawned rfl rfl (by decide) fun _ => hCancelled
    · rw [hFailed] at h
      cases h
      apply evidence_unspawned hSpawned rfl rfl
      · exact adapterCode_mem (by decide : "provider.command_failed" ∈ adapterCodes)
      · rintro ⟨⟩

/-- A pass at or after the deadline is the end of the wait, if none before it is. -/
theorem late_decides {deadline : Nat} {passes : List Pass} {late : Pass} (hMem : late ∈ passes)
    (hLate : deadline ≤ late.now) : ∃ pass, Decides deadline passes pass := by
  induction passes with
  | nil => cases hMem
  | cons first rest ih =>
    by_cases hRunning : first.Running deadline
    · rcases List.mem_cons.mp hMem with rfl | hMem
      · exact absurd hLate (Nat.not_le.mpr hRunning.2.1)
      · obtain ⟨pass, hDecides⟩ := ih hMem
        exact ⟨pass, (decides_running hRunning).mpr hDecides⟩
    · exact ⟨first, (decides_first hRunning).mpr rfl⟩

/-- What a call waits for once its child is started: a pass that decides, the calls that kill the
child where that pass makes them, and the end of the output. -/
theorem transcribe_returns_iff (hSpawned : child.Spawned (adapter.invocation input)) :
    ((∃ answer, transcribeCommandWithEvidence adapter input child = some answer) ↔
      (∃ pass, Decides (child.deadline adapter.timeoutSeconds) child.passes pass ∧
        (pass.Kills (child.deadline adapter.timeoutSeconds) → pass.termination.returns = true)) ∧
      OutputEnds child.reads) ∧
      ((∃ late ∈ child.passes, child.deadline adapter.timeoutSeconds ≤ late.now) →
        ∃ pass, Decides (child.deadline adapter.timeoutSeconds) child.passes pass) := by
  constructor
  · rw [← waitForCommand_ends, ← heard_isSome, Option.isSome_iff_exists]
    simp only [transcribe_spawned hSpawned]
    constructor
    · rintro ⟨answer, waited, read, hWait, hHeard, _⟩
      exact ⟨⟨waited, hWait⟩, read, hHeard⟩
    · rintro ⟨⟨waited, hWait⟩, read, hHeard⟩
      exact ⟨_, waited, read, hWait, hHeard, rfl⟩
  · rintro ⟨late, hMem, hLate⟩
    exact late_decides hMem hLate

theorem recognize_left (hSpawned : child.Spawned (adapter.invocation input))
    {answer : Except ProviderAttemptFailure ProviderSuccess}
    (hAnswer : adapter.recognize input child = some answer) {attempt : RouteAttempt}
    (hRecords : attempt.Records answer) : attempt.audioAcceptance ≠ .notAccepted := by
  obtain ⟨transcribed, hTranscribed, rfl⟩ := Option.map_eq_some_iff.mp hAnswer
  cases transcribed with
  | ok text =>
    obtain ⟨_, hAudio⟩ := hRecords
    rw [hAudio]
    rintro ⟨⟩
  | error failure =>
    obtain ⟨_, hAudio, _⟩ := hRecords
    rw [hAudio]
    intro hNone
    exact (transcribe_evidence hTranscribed).left.mp hNone hSpawned

/-- What the adapter answers is true of the recording: a failure tells whether the child got it, and
a success is the text of a child that had it. -/
theorem recognize_evidence {answer : Except ProviderAttemptFailure ProviderSuccess}
    (hAnswer : adapter.recognize input child = some answer) :
    (∀ failure, answer = .error failure → Evidence adapter input child failure) ∧
      ∀ success, answer = .ok success →
        Heard adapter input child success.transcript.text ∧ success.transportStarted = true ∧
          success.audioAcceptance = .accepted ∧
          RustText.isBlank success.transcript.text = false := by
  obtain ⟨transcribed, hTranscribed, rfl⟩ := Option.map_eq_some_iff.mp hAnswer
  cases transcribed with
  | error failure =>
    constructor
    · rintro _ ⟨⟩
      exact transcribe_evidence hTranscribed
    · rintro _ ⟨⟩
  | ok text =>
    constructor
    · rintro _ ⟨⟩
    · rintro _ ⟨⟩
      have hHeard := transcribe_ok hTranscribed
      refine ⟨hHeard, rfl, rfl, ?_⟩
      obtain ⟨_, _, _, decoded, _, _, _, _, _, hSolid, rfl⟩ := hHeard
      exact RustText.isBlank_trim hSolid

/-- Where buffered audio may not be replayed, nothing follows a command that was started. -/
theorem command_ends_route (registry : ProviderRegistry) (route : RoutePlan)
    (input : RecognitionInput) (env : RouteEnvironment)
    (hReplay : route.replay ≠ .bufferedWithConsent) {position : Nat} {provider : ProviderId}
    (hInvoked : .invoked position provider ∈ (routeRun registry route input env).events)
    (hSpawned : child.Spawned (adapter.invocation input))
    (hAnswer : adapter.recognize input child = some (env.recognize position provider input)) :
    ∀ later other, .invoked later other ∈ (routeRun registry route input env).events →
      later ≤ position := by
  have hConsent := (routeRun_shape registry route input env).consents
  obtain ⟨attempt, hAttempt, _, hRecords⟩ := hConsent.invoked_attempt position provider hInvoked
  intro later other hLater
  exact hConsent.consent position later other attempt hAttempt
    (recognize_left hSpawned hAnswer hRecords) hReplay hLater

end Results

def script : CommandAdapter := ⟨"transcribe", [], 30⟩

def spoken : RecognitionInput := ⟨"capture.pcm", "en"⟩

def killed : Termination := ⟨some (.ok ⟨some 0⟩), .ok (), some (.ok ⟨none⟩)⟩

/-- A child that does not exit before it is killed. -/
def stuck : Child where
  cancelled := false
  spawn _ := .ok ()
  now := 0
  passes := [⟨.ok none, 0, false, killed⟩, ⟨.ok none, 30 * 10 ^ 9, false, killed⟩]
  reads := [.ok []]
  renderStatus _ := ""
  renderUtf8Error _ := ""

theorem recognize_evidence_stuck : Evidence script spoken stuck timedOut :=
  (recognize_evidence
    (show script.recognize spoken stuck = some (.error timedOut) from rfl)).1 timedOut rfl

theorem transcribe_returns_iff_stuck :
    ∃ answer, transcribeCommandWithEvidence script spoken stuck = some answer := by
  have hSpawned : stuck.Spawned (script.invocation spoken) := ⟨rfl, rfl⟩
  obtain ⟨hReturns, hLate⟩ := transcribe_returns_iff hSpawned
  obtain ⟨pass, hDecides⟩ :=
    hLate ⟨⟨.ok none, 30 * 10 ^ 9, false, killed⟩, by simp [stuck], by decide⟩
  refine hReturns.mpr ⟨⟨pass, hDecides, fun _ => ?_⟩, .ok [], List.mem_cons_self, .inl rfl⟩
  obtain ⟨before, after, hPasses, _⟩ := hDecides
  have hMem : pass ∈ stuck.passes := by simp [hPasses]
  simp only [stuck, List.mem_cons, List.not_mem_nil, or_false] at hMem
  rcases hMem with rfl | rfl <;> rfl

def stuckRoute : RouteRun :=
  routeRun ⟨[cloud]⟩ ⟨[cloud], .never⟩ spoken ⟨fun _ => false, fun _ _ _ => .error timedOut⟩

theorem command_ends_route_stuck : .invoked 0 cloud ∈ stuckRoute.events ∧
    ∀ later other, .invoked later other ∈ stuckRoute.events → later ≤ 0 := by
  have hInvoked : .invoked 0 cloud ∈ stuckRoute.events := by decide
  exact ⟨hInvoked, command_ends_route ⟨[cloud]⟩ ⟨[cloud], .never⟩ spoken
    ⟨fun _ => false, fun _ _ _ => .error timedOut⟩ (by decide) hInvoked
    (show stuck.Spawned (script.invocation spoken) from ⟨rfl, rfl⟩) rfl⟩

end CommandProvider

end VoxType
