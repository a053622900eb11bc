import VoxType.Core.SessionHistory

/-!
# Safety of the session machine under arbitrary commands

The commands may name any session: stale, duplicated, late or never issued.
-/

namespace VoxType

set_option autoImplicit false

/-- What holds of every sequence of commands from the default machine. -/
structure SessionSafety (commands : List Command) : Prop where
  ids_distinct : (begun (sessionMachine.log commands)).Nodup
  foreign_rejected : ∀ before c after s, commands = before ++ c :: after →
    c.session = some s → (sessionMachine.state before).state.session ≠ some s →
    ∃ error, (sessionMachine.state before).apply c = (.error error, sessionMachine.state before)
  insert_once : (inserted (sessionMachine.log commands)).Nodup
  insert_ordered : ∀ pre c s text post,
    sessionMachine.log commands = pre ++ (c, .ok (.insertText s text)) :: post →
    ∃ request stop e, (stop = .stop s ∨ stop = .captureStopped s) ∧
      [(.start request, .ok (.beginCapture s request)), (.captureReady s, .ok .none),
        (stop, .ok e)].Sublist pre
  insert_not_late : ∀ pre c s text post,
    sessionMachine.log commands = pre ++ (c, .ok (.insertText s text)) :: post →
    (∀ d, (d, .ok (.cancelWork s)) ∉ pre) ∧ (.insertionComplete s, .ok .none) ∉ pre ∧
      (.noSpeech s, .ok .none) ∉ pre
  begin_after_end : ∀ before c after s request previous, commands = before ++ c :: after →
    ((sessionMachine.state before).apply c).1 = .ok (.beginCapture s request) →
    (begun (sessionMachine.log before)).getLast? = some previous →
    previous ∈ ended (sessionMachine.log before) ∧
      ((sessionMachine.state before).state = .completed previous ∨
        (sessionMachine.state before).state = .cancelled previous ∨
        (∃ error, (sessionMachine.state before).state = .failed previous error) ∨
        (sessionMachine.state before).state = .idle ∧ ∃ earlier later,
          sessionMachine.log before = earlier ++ (.reset, .ok .none) :: later ∧
            begun later = [])

theorem begun_prefix {before after : List Command} :
    (begun (sessionMachine.log before)).length ≤
      (begun (sessionMachine.log (before ++ after))).length := by
  rw [Transition.Machine.log_append, begun_append, List.length_append]
  omega

theorem foreign_rejected (m : SessionMachine) {c : Command} {s : SessionId}
    (hNamed : c.session = some s) (hOther : m.state.session ≠ some s) :
    ∃ error, m.apply c = (.error error, m) := by
  rcases m.apply_cases c with ⟨e, m', hAccepts, _⟩ | hRejected
  · exact absurd (hAccepts.session_eq hNamed) hOther
  · exact hRejected

/-- An `InsertText` was answered by a machine that was finalizing its session. -/
theorem insert_site {commands : List Command} {pre post : List SessionEntry} {c : Command}
    {s : SessionId} {text : String}
    (h : sessionMachine.log commands = pre ++ (c, .ok (.insertText s text)) :: post) :
    ∃ before i after, commands = before ++ i :: after ∧ sessionMachine.log before = pre ∧
      (sessionMachine.state before).state = .finalizing s := by
  obtain ⟨before, i, after, hCommands, hPre, hEntry⟩ := sessionMachine.log_split h
  refine ⟨before, i, after, hCommands, hPre, ?_⟩
  obtain ⟨m', hAccepts⟩ := SessionMachine.answer_ok (Prod.mk.inj hEntry).2.symm
  cases hAccepts with
  | transcriptReady hState _ => exact hState

theorem mem_ended {log : List SessionEntry} {c : Command} {e : CommandEffect} {s : SessionId}
    (hEnds : c.ends = some s) (h : (c, .ok e) ∈ log) : s ∈ ended log :=
  List.mem_filterMap.mpr ⟨(c, .ok e), h, hEnds⟩

/-- Only an accepted `Cancel` or `Fail` of the session cancels its work. -/
theorem cancelWork_ends {commands : List Command} {c : Command} {s : SessionId}
    (h : (c, .ok (.cancelWork s)) ∈ sessionMachine.log commands) : c.ends = some s := by
  obtain ⟨pre, post, hLog⟩ := List.mem_iff_append.mp h
  obtain ⟨before, i, after, _, _, hEntry⟩ := sessionMachine.log_split hLog
  obtain ⟨hc, hResult⟩ := Prod.mk.inj hEntry
  subst hc
  obtain ⟨m', hAccepts⟩ := SessionMachine.answer_ok hResult.symm
  cases hAccepts with
  | cancel => rfl
  | fail => rfl

theorem session_safety (commands : List Command)
    (hStarts : (begun (sessionMachine.log commands)).length ≤ u64Max) :
    SessionSafety commands := by
  have history := session_history commands hStarts
  have historyBefore : ∀ {before after : List Command}, commands = before ++ after →
      SessionHistory (sessionMachine.log before) (sessionMachine.state before) := by
    intro before after h
    subst h
    exact session_history before (Nat.le_trans begun_prefix hStarts)
  constructor
  case ids_distinct => exact history.begun_nodup
  case foreign_rejected =>
    intro before c after s _ hNamed hOther
    exact foreign_rejected _ hNamed hOther
  case insert_once => exact history.inserted_nodup
  case insert_ordered =>
    intro pre c s text post hLog
    obtain ⟨before, i, after, hCommands, hPre, hState⟩ := insert_site hLog
    have hStage := (historyBefore hCommands).stage
    rwa [hState, hPre] at hStage
  case insert_not_late =>
    intro pre c s text post hLog
    obtain ⟨before, i, after, hCommands, hPre, hState⟩ := insert_site hLog
    have hOpen := (historyBefore hCommands).open_active s (by rw [hState]; rfl) (by rw [hState]; rfl)
    rw [← hPre]
    exact ⟨fun d h => hOpen (mem_ended (cancelWork_ends h) h), fun h => hOpen (mem_ended rfl h),
      fun h => hOpen (mem_ended rfl h)⟩
  case begin_after_end =>
    intro before c after s request previous hCommands hBegin hPrevious
    have hBefore := historyBefore hCommands
    have hInactive : (sessionMachine.state before).state.isActive = false := by
      obtain ⟨m', hAccepts⟩ := SessionMachine.answer_ok hBegin
      cases hAccepts with
      | start _ hState => exact hState
    have hMem : previous ∈ begun (sessionMachine.log before) := List.mem_of_getLast? hPrevious
    have hCurrent : ∀ t, (sessionMachine.state before).state.session = some t → t = previous := by
      intro t ht
      rw [hBefore.current t ht] at hPrevious
      exact Option.some.inj hPrevious
    constructor
    · by_cases hSession : (sessionMachine.state before).state.session = some previous
      · rcases SessionState.active_or_terminal hSession with ⟨hActive, _⟩ | ⟨_, hTerminal⟩
        · rw [hInactive] at hActive; cases hActive
        · exact hBefore.ended_terminal previous hSession hTerminal
      · exact hBefore.ended_earlier previous hMem hSession
    · cases hState : (sessionMachine.state before).state with
      | idle =>
        refine .inr (.inr (.inr ⟨rfl, (hBefore.idle hState).resolve_left ?_⟩))
        exact List.ne_nil_of_mem hMem
      | completed t => rw [hCurrent t (by rw [hState]; rfl)]; exact .inl rfl
      | cancelled t => rw [hCurrent t (by rw [hState]; rfl)]; exact .inr (.inl rfl)
      | failed t error =>
        rw [hCurrent t (by rw [hState]; rfl)]
        exact .inr (.inr (.inl ⟨error, rfl⟩))
      | _ => rw [hState] at hInactive; cases hInactive

/-- A session that is dictated, completed and cancelled late, and a second one. -/
def twoSessions : List Command :=
  [.start ⟨.toggle, none⟩, .captureReady ⟨"session-1"⟩, .stop ⟨"session-1"⟩,
    .transcriptReady ⟨"session-1"⟩ "text", .insertionComplete ⟨"session-1"⟩,
    .cancel ⟨"session-1"⟩, .start ⟨.toggle, none⟩, .transcriptReady ⟨"session-1"⟩ "stale"]

theorem session_safety_twoSessions : SessionSafety twoSessions :=
  session_safety twoSessions (by decide)

end VoxType
