import VoxType.Audio.Offline
import VoxType.Audio.VadSteps

/-!
# Bracketing of speech

What the events of a run say about the levels that were read: where speech
starts and ends, and which frames the detector heard in between.
-/

namespace VoxType.Vad

set_option autoImplicit false

/-- A frame of a run, with the entry threshold that was in force at it. -/
structure HeardFrame where
  entryThreshold : Nat
  analysis : VadFrameAnalysis
  deriving DecidableEq, Repr

def vadMachine (config : VadConfig) (noiseFloor : Option Nat) :
    Transition.Machine StreamingVad Nat HeardFrame where
  start := .withOptionalNoiseFloor config noiseFloor
  step vad rms := (⟨vad.adaptiveThreshold, (vad.processLevel rms).1⟩, (vad.processLevel rms).2)

abbrev VadLog : Type := List (Nat × HeardFrame)

/-- The events of a run with the frames at which they were emitted. -/
def emitted (log : VadLog) : List (Nat × VadEvent) :=
  log.zipIdx.filterMap fun entry => entry.1.2.analysis.event.map (entry.2, ·)

def starts (log : VadLog) : List Nat :=
  (emitted log).filterMap fun
    | (_, .speechStarted frame) => some frame
    | _ => none

def ends (log : VadLog) : List Nat :=
  (emitted log).filterMap fun
    | (_, .speechEnded frame) => some frame
    | _ => none

/-- The frames that were voiced and left speech active. -/
def voicedSpeech (log : VadLog) : List Nat :=
  log.zipIdx.filterMap fun entry =>
    if entry.1.2.analysis.voiced ∧ entry.1.2.analysis.speechActive then some entry.2 else none

/-- The frame was read, and `p` holds of its level and of what was heard. -/
def HeardAt (log : VadLog) (frame : Nat) (p : Nat → HeardFrame → Prop) : Prop :=
  ∃ rms heard, log[frame]? = some (rms, heard) ∧ p rms heard

def AtEntry (log : VadLog) (frame : Nat) : Prop :=
  HeardAt log frame fun rms heard => heard.entryThreshold ≤ rms

def BelowExit (log : VadLog) (frame : Nat) : Prop :=
  HeardAt log frame fun rms heard => rms < exitThreshold heard.entryThreshold

def Voiced (log : VadLog) (frame : Nat) : Prop :=
  HeardAt log frame fun _ heard => heard.analysis.voiced = true

/-- Starts and ends take turns; the flags tell whether speech is active before and after. -/
def Turns : Bool → List VadEvent → Bool → Prop
  | active, [], active' => active = active'
  | false, .speechStarted _ :: rest, active' => Turns true rest active'
  | true, .speechEnded _ :: rest, active' => Turns false rest active'
  | _, _, _ => False

section Snoc

variable (log : VadLog) (entry : Nat × HeardFrame)

theorem emitted_snoc :
    emitted (log ++ [entry]) =
      emitted log ++ (entry.2.analysis.event.map (log.length, ·)).toList := by
  rw [emitted, List.zipIdx_append, List.filterMap_append, emitted, Nat.zero_add]
  cases hEvent : entry.2.analysis.event with
  | none => simp [hEvent]
  | some event => simp [hEvent]

theorem voicedSpeech_snoc :
    voicedSpeech (log ++ [entry]) = voicedSpeech log ++
      if entry.2.analysis.voiced ∧ entry.2.analysis.speechActive then [log.length] else [] := by
  rw [voicedSpeech, List.zipIdx_append, List.filterMap_append, voicedSpeech, Nat.zero_add]
  refine congrArg _ ?_
  split
  case isTrue hVoiced => simp [hVoiced]
  case isFalse hSilent => simp [hSilent]

variable {log entry}

theorem mem_emitted_snoc {i : Nat} {event : VadEvent} :
    (i, event) ∈ emitted (log ++ [entry]) ↔
      (i, event) ∈ emitted log ∨ i = log.length ∧ entry.2.analysis.event = some event := by
  rw [emitted_snoc, List.mem_append, Option.mem_toList, Option.map_eq_some_iff]
  refine or_congr_right ⟨?_, ?_⟩
  · rintro ⟨_, hEvent, hEq⟩
    cases hEq
    exact ⟨rfl, hEvent⟩
  · rintro ⟨rfl, hEvent⟩
    exact ⟨event, hEvent, rfl⟩

theorem emitted_lt {i : Nat} {event : VadEvent} (h : (i, event) ∈ emitted log) :
    i < log.length := by
  rw [emitted, List.mem_filterMap] at h
  obtain ⟨⟨found, k⟩, hMem, hEvent⟩ := h
  obtain ⟨_, _, hEq⟩ := Option.map_eq_some_iff.mp hEvent
  cases hEq
  exact List.snd_lt_of_mem_zipIdx hMem

theorem voicedSpeech_lt {frame : Nat} (h : frame ∈ voicedSpeech log) : frame < log.length := by
  rw [voicedSpeech, List.mem_filterMap] at h
  obtain ⟨⟨found, k⟩, hMem, hVoiced⟩ := h
  split at hVoiced
  · cases hVoiced
    exact List.snd_lt_of_mem_zipIdx hMem
  · cases hVoiced

theorem mem_starts {frame : Nat} (h : frame ∈ starts log) :
    ∃ i, (i, VadEvent.speechStarted frame) ∈ emitted log := by
  rw [starts, List.mem_filterMap] at h
  obtain ⟨⟨i, event⟩, hMem, hEvent⟩ := h
  cases event with
  | speechStarted s =>
    cases hEvent
    exact ⟨i, hMem⟩
  | speechEnded e => cases hEvent

theorem HeardAt.snoc {frame : Nat} {p : Nat → HeardFrame → Prop} (h : HeardAt log frame p) :
    HeardAt (log ++ [entry]) frame p := by
  obtain ⟨rms, heard, hAt, hHeard⟩ := h
  refine ⟨rms, heard, ?_, hHeard⟩
  rw [List.getElem?_append_left (List.getElem?_eq_some_iff.mp hAt).1, hAt]

theorem HeardAt.last {rms : Nat} {heard : HeardFrame} {p : Nat → HeardFrame → Prop}
    (h : p rms heard) : HeardAt (log ++ [(rms, heard)]) log.length p :=
  ⟨rms, heard, List.getElem?_concat_length, h⟩

/-- Frames that all meet `p` up to the end, with the next one. -/
theorem HeardAt.extend {rms first : Nat} {heard : HeardFrame} {p : Nat → HeardFrame → Prop}
    (hOld : ∀ j, first ≤ j → j < log.length → HeardAt log j p) (hNew : p rms heard) :
    ∀ j, first ≤ j → j < log.length + 1 → HeardAt (log ++ [(rms, heard)]) j p := by
  intro j hFirst hBound
  rcases Nat.lt_or_eq_of_le (Nat.le_of_lt_succ hBound) with hLt | rfl
  · exact (hOld j hFirst hLt).snoc
  · exact .last hNew

end Snoc

/-- How the counters relate to the levels read so far. -/
structure Tracking (config : VadConfig) (log : VadLog) (vad : StreamingVad) : Prop where
  configured : vad.config = config
  total : vad.totalFrames = log.length
  attack : vad.attackFrames ≤ log.length ∧ vad.attackFrames < max config.minimumVoicedFrames 1
  attackStart : 0 < vad.attackFrames →
    vad.attackStartFrame = some (log.length - vad.attackFrames)
  attacking : ∀ j, log.length - vad.attackFrames ≤ j → j < log.length → AtEntry log j
  fresh : ∀ i e, (i, VadEvent.speechEnded e) ∈ emitted log → i < log.length - vad.attackFrames
  resting : vad.speechActive = false → vad.releaseFrames = 0
  speaking : vad.speechActive = true → vad.attackFrames = 0 ∧
    vad.releaseFrames < endSilenceFrames ∧
    ∃ e, vad.speechEndFrame = some e ∧ 0 < e ∧ e + vad.releaseFrames = log.length ∧
      Voiced log (e - 1) ∧ ∀ j, e ≤ j → j < log.length → BelowExit log j

namespace Tracking

variable {config : VadConfig} {log : VadLog} {vad : StreamingVad}

/-- Outside an attack only the release matters. -/
theorem of_calm (hConfig : vad.config = config) (hTotal : vad.totalFrames = log.length)
    (hAttack : vad.attackFrames = 0) (hResting : vad.speechActive = false → vad.releaseFrames = 0)
    (hSpeaking : vad.speechActive = true → vad.releaseFrames < endSilenceFrames ∧
      ∃ e, vad.speechEndFrame = some e ∧ 0 < e ∧ e + vad.releaseFrames = log.length ∧
        Voiced log (e - 1) ∧ ∀ j, e ≤ j → j < log.length → BelowExit log j) :
    Tracking config log vad where
  configured := hConfig
  total := hTotal
  attack := by omega
  attackStart := by omega
  attacking := by omega
  fresh := by
    intro i e hMem
    rw [hAttack]
    exact emitted_lt hMem
  resting := hResting
  speaking := fun hActive => ⟨hAttack, hSpeaking hActive⟩

theorem start (config : VadConfig) (noiseFloor : Option Nat) :
    Tracking config [] (.withOptionalNoiseFloor config noiseFloor) :=
  of_calm rfl rfl rfl (fun _ => rfl) nofun

theorem attackStart_eq (h : Tracking config log vad) :
    vad.attackStart = some (log.length - vad.attackFrames) := by
  rw [StreamingVad.attackStart]
  split
  case isTrue hZero => rw [hZero, h.total, Nat.sub_zero]
  case isFalse hSome => exact h.attackStart (Nat.pos_of_ne_zero hSome)

/-- A voiced frame of speech is the last one; nothing has been released since. -/
theorem voicedLast {vad' : StreamingVad} {rms : Nat} {heard : HeardFrame}
    (hRoom : log.length < u32Max) (hTotal : vad.totalFrames = log.length)
    (hRelease : vad'.releaseFrames = 0)
    (hEnd : vad'.speechEndFrame = some (satAdd u32Max vad.totalFrames 1))
    (hVoiced : heard.analysis.voiced = true) :
    vad'.releaseFrames < endSilenceFrames ∧
      ∃ e, vad'.speechEndFrame = some e ∧ 0 < e ∧
        e + vad'.releaseFrames = (log ++ [(rms, heard)]).length ∧
        Voiced (log ++ [(rms, heard)]) (e - 1) ∧
        ∀ j, e ≤ j → j < (log ++ [(rms, heard)]).length → BelowExit (log ++ [(rms, heard)]) j := by
  have hLength : (log ++ [(rms, heard)]).length = log.length + 1 := List.length_append
  rw [hRelease, hLength]
  refine ⟨by decide, log.length + 1, ?_, Nat.succ_pos _, rfl, .last hVoiced, by omega⟩
  rw [hEnd, hTotal]
  exact congrArg some (satAdd_eq hRoom)

theorem step (h : Tracking config log vad) (hRoom : log.length < u32Max) (rms : Nat) :
    Tracking config (log ++ [(rms, ⟨vad.adaptiveThreshold, (vad.processLevel rms).1⟩)])
      (vad.processLevel rms).2 := by
  have hOutcome := vad.processLevel_outcome rms
  obtain ⟨hConfig, hTotal⟩ := vad.processLevel_kept rms
  generalize vad.processLevel rms = o at *
  obtain ⟨a, vad'⟩ := o
  dsimp only at *
  rw [h.configured] at hConfig
  rw [h.total, satAdd_eq hRoom] at hTotal
  generalize hBracket : vad'.bracket = bracket at hOutcome
  generalize hVoiced : a.voiced = voiced at hOutcome
  generalize hEvent : a.event = event at hOutcome
  obtain ⟨hActive', hAttack', hStart', hRelease', -, hEnd'⟩ := StreamingVad.bracket_fields hBracket
  have hLength : ∀ entry : Nat × HeardFrame, (log ++ [entry]).length = log.length + 1 :=
    fun entry => List.length_append
  have hTotal' := hTotal.trans (hLength (rms, ⟨vad.adaptiveThreshold, a⟩)).symm
  cases hOutcome with
  | sustained hActive hLoud =>
    obtain ⟨hAttack, _⟩ := h.speaking hActive
    have hRelease : vad'.releaseFrames = 0 := hRelease'
    exact of_calm hConfig hTotal' (hAttack'.trans hAttack) (fun _ => hRelease)
      fun _ => voicedLast hRoom h.total hRelease hEnd' hVoiced
  | lapsing hActive hQuiet hShort =>
    obtain ⟨hAttack, hRelease, e, hEnd, hPos, hSum, hVoicedAt, hBelow⟩ := h.speaking hActive
    have hNext : satAdd u32Max vad.releaseFrames 1 = vad.releaseFrames + 1 :=
      satAdd_eq (by omega)
    rw [hNext] at hShort hRelease'
    refine of_calm hConfig hTotal' (hAttack'.trans hAttack)
      (fun hInactive => absurd (hActive.symm.trans (hActive'.symm.trans hInactive)) nofun)
      fun _ => ?_
    refine ⟨hRelease' ▸ hShort, e, hEnd'.trans hEnd, hPos, ?_, hVoicedAt.snoc, ?_⟩
    · rw [hRelease', hLength]
      dsimp only
      omega
    · rw [hLength]
      exact HeardAt.extend hBelow hQuiet
  | ended hActive hQuiet hLong =>
    obtain ⟨hAttack, _⟩ := h.speaking hActive
    exact of_calm hConfig hTotal' (hAttack'.trans hAttack) (fun _ => hRelease')
      fun hStill => absurd (hActive'.symm.trans hStill) nofun
  | attacking hInactive hLoud hShort =>
    have hNext : satAdd u32Max vad.attackFrames 1 = vad.attackFrames + 1 :=
      satAdd_eq (by have := h.attack.1; omega)
    have hGrown : vad'.attackFrames = vad.attackFrames + 1 := hAttack'.trans hNext
    have hRange := h.attack
    rw [hNext, h.configured] at hShort
    constructor
    case configured => exact hConfig
    case total => exact hTotal'
    case attack =>
      rw [hGrown, hLength]
      exact ⟨by omega, hShort⟩
    case attackStart =>
      intro _
      rw [hStart', hGrown, hLength, Nat.add_sub_add_right]
      exact h.attackStart_eq
    case attacking =>
      rw [hGrown, hLength, Nat.add_sub_add_right]
      exact HeardAt.extend h.attacking hLoud
    case fresh =>
      intro i e hMem
      rw [emitted_snoc, hEvent, Option.map_none, Option.toList_none, List.append_nil] at hMem
      rw [hGrown, hLength, Nat.add_sub_add_right]
      exact h.fresh i e hMem
    case resting => exact fun _ => hRelease'.trans (h.resting hInactive)
    case speaking =>
      exact fun hStill => absurd (hInactive.symm.trans (hActive'.symm.trans hStill)) nofun
  | started hInactive hLoud hLong =>
    refine of_calm hConfig hTotal' hAttack'
      (fun hStill => absurd (hActive'.symm.trans hStill) nofun) fun _ => ?_
    exact voicedLast hRoom h.total (hRelease'.trans (h.resting hInactive)) hEnd' hVoiced
  | quiet hInactive hQuiet =>
    refine of_calm hConfig hTotal' hAttack' (fun _ => hRelease'.trans (h.resting hInactive))
      fun hStill => absurd (hInactive.symm.trans (hActive'.symm.trans hStill)) nofun

/-- The event of a level, with the frames it speaks of. -/
inductive EventOutcome (config : VadConfig) (log : VadLog) (vad : StreamingVad) (rms : Nat)
    (vad' : StreamingVad) : Option VadEvent → Prop
  | silent (hSame : vad'.speechActive = vad.speechActive)
      (hStart : vad'.speechStartFrame = vad.speechStartFrame) :
      EventOutcome config log vad rms vad' none
  | started (s : Nat) (hActive : vad.speechActive = false) (hActive' : vad'.speechActive = true)
      (hFirst : s = log.length - vad.attackFrames)
      (hFrame : log.length = s + max config.minimumVoicedFrames 1 - 1)
      (hLoud : vad.adaptiveThreshold ≤ rms)
      (hStart : vad'.speechStartFrame = some (vad.speechStartFrame.getD s)) :
      EventOutcome config log vad rms vad' (some (.speechStarted s))
  | ended (e : Nat) (hActive : vad.speechActive = true) (hActive' : vad'.speechActive = false)
      (hFrame : log.length = e + 14) (hQuiet : rms < exitThreshold vad.adaptiveThreshold)
      (hPos : 0 < e) (hVoiced : Voiced log (e - 1))
      (hBelow : ∀ j, e ≤ j → j < log.length → BelowExit log j)
      (hStart : vad'.speechStartFrame = vad.speechStartFrame) :
      EventOutcome config log vad rms vad' (some (.speechEnded e))

theorem event_outcome (h : Tracking config log vad) (hRoom : log.length < u32Max) (rms : Nat) :
    EventOutcome config log vad rms (vad.processLevel rms).2 (vad.processLevel rms).1.event := by
  have hOutcome := vad.processLevel_outcome rms
  generalize vad.processLevel rms = o at *
  obtain ⟨a, vad'⟩ := o
  dsimp only at *
  generalize hBracket : vad'.bracket = bracket at hOutcome
  generalize a.voiced = voiced at hOutcome
  generalize a.event = event at hOutcome ⊢
  obtain ⟨hActive', -, -, -, hStart', -⟩ := StreamingVad.bracket_fields hBracket
  cases hOutcome with
  | sustained | lapsing | attacking | quiet => exact .silent hActive' hStart'
  | ended hActive hQuiet hLong =>
    obtain ⟨-, hRelease, e, hEnd, hPos, hSum, hVoiced, hBelow⟩ := h.speaking hActive
    have hLast : vad.releaseFrames = 14 := by
      rw [satAdd_eq (by omega)] at hLong
      change vad.releaseFrames < 15 at hRelease
      change 15 ≤ vad.releaseFrames + 1 at hLong
      omega
    rw [hEnd]
    exact .ended e hActive hActive' (by omega) hQuiet hPos hVoiced hBelow hStart'
  | started hInactive hLoud hLong =>
    have hRange := h.attack
    rw [satAdd_eq (by omega), h.configured] at hLong
    rw [h.attackStart_eq, Option.getD_some] at hStart' ⊢
    exact .started _ hInactive hActive' rfl (by omega) hLoud hStart'

end Tracking

theorem Turns.snoc {first last active : Bool} {events : List VadEvent} {event : VadEvent}
    (h : Turns first events active) (hEvent : Turns active [event] last) :
    Turns first (events ++ [event]) last := by
  induction events generalizing first with
  | nil =>
    cases h
    exact hEvent
  | cons head events ih =>
    cases first <;> cases head
    case false.speechStarted => exact ih h
    case true.speechEnded => exact ih h
    case false.speechEnded => exact h
    case true.speechStarted => exact h

/-- What the events of a run mean, and the first start as the detector keeps it. -/
structure Recounted (config : VadConfig) (log : VadLog) (vad : StreamingVad) : Prop where
  alternates : Turns false ((emitted log).map Prod.snd) vad.speechActive
  started : ∀ i s, (i, VadEvent.speechStarted s) ∈ emitted log →
    i = s + max config.minimumVoicedFrames 1 - 1 ∧ ∀ j, s ≤ j → j ≤ i → AtEntry log j
  ended : ∀ i e, (i, VadEvent.speechEnded e) ∈ emitted log →
    i = e + 14 ∧ (∀ j, e ≤ j → j ≤ i → BelowExit log j) ∧ 0 < e ∧ Voiced log (e - 1)
  later : ∀ i e k s, (i, VadEvent.speechEnded e) ∈ emitted log →
    (k, VadEvent.speechStarted s) ∈ emitted log → i < k → i < s
  firstStart : vad.speechStartFrame = (starts log).head?

/-- What a run has emitted, and what is reported of it. -/
structure Bracketed (config : VadConfig) (log : VadLog) (vad : StreamingVad) : Prop
    extends Recounted config log vad where
  active : vad.speechActive = true ↔ (ends log).length < (starts log).length
  reportedStart : vad.finish.speechStartFrame = (starts log).head?
  reportedEnd : vad.finish.speechEndFrame = (voicedSpeech log).getLast?.map (· + 1)

namespace Recounted

variable {config : VadConfig} {log : VadLog} {vad : StreamingVad}

theorem start (config : VadConfig) (noiseFloor : Option Nat) :
    Recounted config [] (.withOptionalNoiseFloor config noiseFloor) where
  alternates := rfl
  started := fun _ _ h => absurd h List.not_mem_nil
  ended := fun _ _ h => absurd h List.not_mem_nil
  later := fun _ _ _ _ h => absurd h List.not_mem_nil
  firstStart := rfl

variable {rms : Nat} {a : VadFrameAnalysis} {vad' : StreamingVad}

theorem alternates_snoc (h : Recounted config log vad)
    (hOutcome : Tracking.EventOutcome config log vad rms vad' a.event) :
    Turns false ((emitted (log ++ [(rms, ⟨vad.adaptiveThreshold, a⟩)])).map Prod.snd)
      vad'.speechActive := by
  rw [emitted_snoc, List.map_append]
  generalize hEvent : a.event = event at hOutcome
  cases hOutcome with
  | silent hSame =>
    rw [hSame, Option.map_none, Option.toList_none, List.map_nil, List.append_nil]
    exact h.alternates
  | started s hActive hActive' =>
    rw [hActive']
    exact (hActive ▸ h.alternates).snoc rfl
  | ended e hActive hActive' =>
    rw [hActive']
    exact (hActive ▸ h.alternates).snoc rfl

theorem started_snoc (h : Recounted config log vad) (hTracking : Tracking config log vad)
    (hOutcome : Tracking.EventOutcome config log vad rms vad' a.event) (i s : Nat)
    (hMem : (i, VadEvent.speechStarted s) ∈
      emitted (log ++ [(rms, ⟨vad.adaptiveThreshold, a⟩)])) :
    i = s + max config.minimumVoicedFrames 1 - 1 ∧
      ∀ j, s ≤ j → j ≤ i → AtEntry (log ++ [(rms, ⟨vad.adaptiveThreshold, a⟩)]) j := by
  rcases mem_emitted_snoc.mp hMem with hOld | ⟨rfl, hNew⟩
  · obtain ⟨hFrame, hLoud⟩ := h.started i s hOld
    exact ⟨hFrame, fun j hFirst hLast => (hLoud j hFirst hLast).snoc⟩
  · rw [show a.event = some (.speechStarted s) from hNew] at hOutcome
    cases hOutcome with
    | started _ _ _ hFirst hFrame hLoud =>
      refine ⟨hFrame, fun j hFrom hTo => ?_⟩
      exact HeardAt.extend (hFirst ▸ hTracking.attacking) hLoud j hFrom (Nat.lt_succ_of_le hTo)

theorem ended_snoc (h : Recounted config log vad)
    (hOutcome : Tracking.EventOutcome config log vad rms vad' a.event) (i e : Nat)
    (hMem : (i, VadEvent.speechEnded e) ∈
      emitted (log ++ [(rms, ⟨vad.adaptiveThreshold, a⟩)])) :
    i = e + 14 ∧
      (∀ j, e ≤ j → j ≤ i → BelowExit (log ++ [(rms, ⟨vad.adaptiveThreshold, a⟩)]) j) ∧
      0 < e ∧ Voiced (log ++ [(rms, ⟨vad.adaptiveThreshold, a⟩)]) (e - 1) := by
  rcases mem_emitted_snoc.mp hMem with hOld | ⟨rfl, hNew⟩
  · obtain ⟨hFrame, hQuiet, hPos, hVoiced⟩ := h.ended i e hOld
    exact ⟨hFrame, fun j hFirst hLast => (hQuiet j hFirst hLast).snoc, hPos, hVoiced.snoc⟩
  · rw [show a.event = some (.speechEnded e) from hNew] at hOutcome
    cases hOutcome with
    | ended _ _ _ hFrame hQuiet hPos hVoiced hBelow =>
      refine ⟨hFrame, fun j hFrom hTo => ?_, hPos, hVoiced.snoc⟩
      exact HeardAt.extend hBelow hQuiet j hFrom (Nat.lt_succ_of_le hTo)

theorem later_snoc (h : Recounted config log vad) (hTracking : Tracking config log vad)
    (hOutcome : Tracking.EventOutcome config log vad rms vad' a.event) (i e k s : Nat)
    (hEnd : (i, VadEvent.speechEnded e) ∈ emitted (log ++ [(rms, ⟨vad.adaptiveThreshold, a⟩)]))
    (hStart : (k, VadEvent.speechStarted s) ∈
      emitted (log ++ [(rms, ⟨vad.adaptiveThreshold, a⟩)])) (hBefore : i < k) : i < s := by
  rcases mem_emitted_snoc.mp hStart with hStart | ⟨rfl, hNew⟩
  · rcases mem_emitted_snoc.mp hEnd with hEnd | ⟨rfl, _⟩
    · exact h.later i e k s hEnd hStart hBefore
    · exact absurd (emitted_lt hStart) (by omega)
  · rcases mem_emitted_snoc.mp hEnd with hEnd | ⟨rfl, _⟩
    · rw [show a.event = some (.speechStarted s) from hNew] at hOutcome
      cases hOutcome with
      | started _ _ _ hFirst => exact hFirst ▸ hTracking.fresh i e hEnd
    · exact absurd hBefore (Nat.lt_irrefl _)

theorem firstStart_snoc (h : Recounted config log vad)
    (hOutcome : Tracking.EventOutcome config log vad rms vad' a.event) :
    vad'.speechStartFrame =
      (starts (log ++ [(rms, ⟨vad.adaptiveThreshold, a⟩)])).head? := by
  rw [starts, emitted_snoc, List.filterMap_append, List.head?_append]
  change _ = (starts log).head?.or _
  rw [← h.firstStart]
  generalize a.event = event at hOutcome
  cases hOutcome with
  | silent _ hStart => exact hStart.trans (Option.or_none).symm
  | ended _ _ _ _ _ _ _ _ hStart => exact hStart.trans (Option.or_none).symm
  | started s _ _ _ _ _ hStart =>
    rw [hStart]
    cases vad.speechStartFrame <;> rfl

theorem step (h : Recounted config log vad) (hTracking : Tracking config log vad)
    (hRoom : log.length < u32Max) (rms : Nat) :
    Recounted config (log ++ [(rms, ⟨vad.adaptiveThreshold, (vad.processLevel rms).1⟩)])
      (vad.processLevel rms).2 := by
  have hOutcome := hTracking.event_outcome hRoom rms
  exact ⟨h.alternates_snoc hOutcome, h.started_snoc hTracking hOutcome, h.ended_snoc hOutcome,
    h.later_snoc hTracking hOutcome, h.firstStart_snoc hOutcome⟩

end Recounted

/-- The end that the detector keeps is one past the last voiced frame of speech. -/
theorem lastVoiced_snoc {log : VadLog} {vad : StreamingVad} (hTotal : vad.totalFrames = log.length)
    (hRoom : log.length < u32Max)
    (hLast : vad.speechEndFrame = (voicedSpeech log).getLast?.map (· + 1)) (rms : Nat) :
    (vad.processLevel rms).2.speechEndFrame =
      (voicedSpeech (log ++ [(rms, ⟨vad.adaptiveThreshold, (vad.processLevel rms).1⟩)])).getLast?.map
        (· + 1) := by
  have hOutcome := vad.processLevel_outcome rms
  have hSame : (vad.processLevel rms).1.speechActive = (vad.processLevel rms).2.speechActive := rfl
  generalize vad.processLevel rms = o at *
  obtain ⟨a, vad'⟩ := o
  dsimp only at *
  rw [voicedSpeech_snoc]
  dsimp only
  generalize hBracket : vad'.bracket = bracket at hOutcome
  generalize a.voiced = voiced at hOutcome ⊢
  generalize a.event = event at hOutcome
  obtain ⟨hActive', -, -, -, -, hEnd'⟩ := StreamingVad.bracket_fields hBracket
  have hNext : satAdd u32Max vad.totalFrames 1 = log.length + 1 := by
    rw [hTotal, satAdd_eq hRoom]
  rw [hSame, hActive', hEnd']
  cases hOutcome with
  | sustained hActive =>
    rw [if_pos ⟨rfl, hActive⟩, List.getLast?_concat, hNext]
    rfl
  | started =>
    rw [if_pos ⟨rfl, rfl⟩, List.getLast?_concat, hNext]
    rfl
  | lapsing | ended | quiet =>
    rw [if_neg (fun h => Bool.false_ne_true h.1), List.append_nil]
    exact hLast
  | attacking hInactive =>
    rw [if_neg (fun h => Bool.false_ne_true (hInactive.symm.trans h.2)), List.append_nil]
    exact hLast

/-- No frame of speech comes before the first start. -/
structure Begun (log : VadLog) (vad : StreamingVad) : Prop where
  active : vad.speechActive = true → vad.speechStartFrame ≠ none
  first : ∀ s, vad.speechStartFrame = some s →
    s ≤ log.length ∧ ∀ frame ∈ voicedSpeech log, s ≤ frame
  before : vad.speechStartFrame = none → voicedSpeech log = []

theorem Begun.kept {log : VadLog} {vad vad' : StreamingVad} {entry : Nat × HeardFrame}
    (h : Begun log vad) (hActive : vad'.speechActive = true → vad.speechActive = true)
    (hStart : vad'.speechStartFrame = vad.speechStartFrame)
    (hSpeech : voicedSpeech (log ++ [entry]) = voicedSpeech log) : Begun (log ++ [entry]) vad' where
  active := fun hNow => hStart ▸ h.active (hActive hNow)
  first := by
    intro s hSome
    obtain ⟨hBound, hFrames⟩ := h.first s (hStart ▸ hSome)
    rw [hSpeech, List.length_append]
    exact ⟨hBound.trans (Nat.le_add_right _ _), hFrames⟩
  before := fun hNone => hSpeech.trans (h.before (hStart ▸ hNone))

/-- A voiced frame of speech at the end, after a first start. -/
theorem Begun.grown {log : VadLog} {vad vad' : StreamingVad} {entry : Nat × HeardFrame} {s : Nat}
    (h : Begun log vad) (hStart : vad'.speechStartFrame = some (vad.speechStartFrame.getD s))
    (hBound : s ≤ log.length)
    (hSpeech : voicedSpeech (log ++ [entry]) = voicedSpeech log ++ [log.length]) :
    Begun (log ++ [entry]) vad' where
  active := fun _ hNone => nomatch hStart.symm.trans hNone
  first := by
    intro s' hSome
    cases hStart.symm.trans hSome
    rw [hSpeech, List.length_append]
    cases hFirst : vad.speechStartFrame with
    | none =>
      rw [h.before hFirst, Option.getD_none]
      refine ⟨hBound.trans (Nat.le_add_right _ _), fun frame hMem => ?_⟩
      rwa [List.mem_singleton.mp hMem]
    | some first =>
      obtain ⟨hEarly, hFrames⟩ := h.first first hFirst
      rw [Option.getD_some]
      refine ⟨hEarly.trans (Nat.le_add_right _ _), fun frame hMem => ?_⟩
      rcases List.mem_append.mp hMem with hMem | hMem
      · exact hFrames frame hMem
      · rwa [List.mem_singleton.mp hMem]
  before := fun hNone => nomatch hStart.symm.trans hNone

theorem Begun.step {config : VadConfig} {log : VadLog} {vad : StreamingVad} (h : Begun log vad)
    (hTracking : Tracking config log vad) (rms : Nat) :
    Begun (log ++ [(rms, ⟨vad.adaptiveThreshold, (vad.processLevel rms).1⟩)])
      (vad.processLevel rms).2 := by
  have hOutcome := vad.processLevel_outcome rms
  have hSame : (vad.processLevel rms).1.speechActive = (vad.processLevel rms).2.speechActive := rfl
  generalize vad.processLevel rms = o at *
  obtain ⟨a, vad'⟩ := o
  dsimp only at *
  have hSpeech := voicedSpeech_snoc log (rms, ⟨vad.adaptiveThreshold, a⟩)
  dsimp only at hSpeech
  generalize hBracket : vad'.bracket = bracket at hOutcome
  generalize a.voiced = voiced at hOutcome hSpeech
  generalize a.event = event at hOutcome
  obtain ⟨hActive', -, -, -, hStart', -⟩ := StreamingVad.bracket_fields hBracket
  rw [hSame] at hSpeech
  cases hOutcome with
  | sustained hActive =>
    rw [hActive', if_pos ⟨rfl, hActive⟩] at hSpeech
    obtain ⟨s, hSome⟩ := Option.ne_none_iff_exists'.mp (h.active hActive)
    refine h.grown (hStart'.trans ?_) (h.first s hSome).1 hSpeech
    change vad.speechStartFrame = _
    rw [hSome]
    rfl
  | started hInactive hLoud hLong =>
    rw [hActive', if_pos ⟨rfl, rfl⟩] at hSpeech
    rw [hTracking.attackStart_eq, Option.getD_some] at hStart'
    exact h.grown hStart' (Nat.sub_le _ _) hSpeech
  | lapsing hActive =>
    rw [if_neg (fun hBoth => Bool.false_ne_true hBoth.1), List.append_nil] at hSpeech
    exact h.kept (fun _ => hActive) hStart' hSpeech
  | ended hActive =>
    rw [if_neg (fun hBoth => Bool.false_ne_true hBoth.1), List.append_nil] at hSpeech
    exact h.kept (fun _ => hActive) hStart' hSpeech
  | quiet hInactive =>
    rw [if_neg (fun hBoth => Bool.false_ne_true hBoth.1), List.append_nil] at hSpeech
    exact h.kept (fun hNow => hActive'.symm.trans hNow) hStart' hSpeech
  | attacking hInactive =>
    have hStill : vad'.speechActive = false := hActive'.trans hInactive
    rw [if_neg (fun hBoth => Bool.false_ne_true (hStill.symm.trans hBoth.2)),
      List.append_nil] at hSpeech
    exact h.kept (fun hNow => hActive'.symm.trans hNow) hStart' hSpeech

theorem Turns.count {first last : Bool} {events : List (Nat × VadEvent)}
    (h : Turns first (events.map Prod.snd) last) :
    (events.filterMap fun
        | (_, .speechStarted frame) => some frame
        | _ => none).length + first.toNat =
      (events.filterMap fun
        | (_, .speechEnded frame) => some frame
        | _ => none).length + last.toNat := by
  induction events generalizing first with
  | nil =>
    cases h
    rfl
  | cons head events ih =>
    obtain ⟨i, event⟩ := head
    cases first <;> cases event
    case false.speechStarted s =>
      have hRest := @ih true h
      change _ + 1 + 0 = _
      exact hRest
    case true.speechEnded e =>
      have hRest := @ih false h
      change _ + 1 = _ + 1 + _
      rw [Nat.add_right_comm]
      exact congrArg (· + 1) hRest
    case false.speechEnded => exact h.elim
    case true.speechStarted => exact h.elim

section Runs

variable (config : VadConfig) (noiseFloor : Option Nat)

/-- All that the run lemma carries, while the frames still have numbers. -/
structure Followed (log : VadLog) (vad : StreamingVad) : Prop where
  tracking : Tracking config log vad
  recounted : Recounted config log vad
  lastVoiced : vad.speechEndFrame = (voicedSpeech log).getLast?.map (· + 1)
  begun : Begun log vad

theorem followed (levels : List Nat) (hFrames : levels.length < 2 ^ 32) :
    Followed config ((vadMachine config noiseFloor).log levels)
      ((vadMachine config noiseFloor).state levels) := by
  have hLength := (vadMachine config noiseFloor).length_log levels
  refine (vadMachine config noiseFloor).invariant
    (P := fun log vad => log.length < 2 ^ 32 → Followed config log vad) ?_ ?_ levels
    (hLength ▸ hFrames)
  · exact fun _ => ⟨.start config noiseFloor, .start config noiseFloor, rfl, nofun, nofun,
      fun _ => rfl⟩
  · intro log vad rms h hBound
    rw [List.length_append, List.length_singleton] at hBound
    have hRoom : log.length < u32Max := by
      rw [u32Max]
      omega
    obtain ⟨hTracking, hRecounted, hLast, hBegun⟩ := h (by omega)
    exact ⟨hTracking.step hRoom rms, hRecounted.step hTracking hRoom rms,
      lastVoiced_snoc hTracking.total hRoom hLast rms, hBegun.step hTracking rms⟩

/-- The events of every run are bracketed, exact, and what the result is made of. -/
theorem bracketed (levels : List Nat) (hFrames : levels.length < 2 ^ 32) :
    Bracketed config ((vadMachine config noiseFloor).log levels)
      ((vadMachine config noiseFloor).state levels) := by
  obtain ⟨hTracking, hRecounted, hLast, -⟩ := followed config noiseFloor levels hFrames
  generalize (vadMachine config noiseFloor).log levels = log at *
  generalize (vadMachine config noiseFloor).state levels = vad at *
  constructor
  case toRecounted => exact hRecounted
  case active =>
    have hCount := hRecounted.alternates.count
    change (starts log).length + 0 = (ends log).length + _ at hCount
    rw [Nat.add_zero] at hCount
    rw [hCount]
    cases vad.speechActive <;> simp
  case reportedStart =>
    rw [StreamingVad.finish]
    split
    case isTrue hNone =>
      have hEmpty : log = [] := List.eq_nil_of_length_eq_zero (hTracking.total ▸ hNone)
      rw [hEmpty]
      rfl
    case isFalse => exact hRecounted.firstStart
  case reportedEnd =>
    rw [StreamingVad.finish]
    split
    case isTrue hNone =>
      have hEmpty : log = [] := List.eq_nil_of_length_eq_zero (hTracking.total ▸ hNone)
      rw [hEmpty]
      rfl
    case isFalse => exact hLast

end Runs

/-- A quiet frame, two loud ones, and silence until speech ends. -/
def utterance : List Nat := [100, 1000, 1000] ++ List.replicate 15 100

theorem bracketed_utterance :
    starts ((vadMachine ⟨300, 2⟩ none).log utterance) = [1] ∧
      ends ((vadMachine ⟨300, 2⟩ none).log utterance) = [3] ∧
      Bracketed ⟨300, 2⟩ ((vadMachine ⟨300, 2⟩ none).log utterance)
        ((vadMachine ⟨300, 2⟩ none).state utterance) :=
  ⟨by decide, by decide, bracketed ⟨300, 2⟩ none utterance (by decide)⟩

end VoxType.Vad
