import VoxType.Core.SessionTransitions

/-!
# The history of a session machine

The invariant ties the machine to the log of its calls: which sessions were
begun, how far the current one has come, and which are over.
-/

namespace VoxType

set_option autoImplicit false

abbrev SessionEntry : Type := Command × Except VoxError CommandEffect

/-- The session a command brings to an end when it is accepted. -/
def Command.ends : Command → Option SessionId
  | .cancel s | .noSpeech s | .insertionComplete s | .fail s _ => some s
  | _ => none

namespace SessionEntry

def begun : SessionEntry → Option SessionId
  | (_, .ok (.beginCapture s _)) => some s
  | _ => none

def inserted : SessionEntry → Option SessionId
  | (_, .ok (.insertText s _)) => some s
  | _ => none

def ended : SessionEntry → Option SessionId
  | (c, .ok _) => c.ends
  | (_, .error _) => none

end SessionEntry

/-- Sessions of the accepted `Start`s, in order. -/
def begun (log : List SessionEntry) : List SessionId := log.filterMap SessionEntry.begun

/-- Sessions of the `InsertText` effects, in order. -/
def inserted (log : List SessionEntry) : List SessionId := log.filterMap SessionEntry.inserted

/-- Sessions a command has completed, cancelled or failed. -/
def ended (log : List SessionEntry) : List SessionId := log.filterMap SessionEntry.ended

@[simp] theorem begun_append (left right : List SessionEntry) :
    begun (left ++ right) = begun left ++ begun right := List.filterMap_append

@[simp] theorem inserted_append (left right : List SessionEntry) :
    inserted (left ++ right) = inserted left ++ inserted right := List.filterMap_append

@[simp] theorem ended_append (left right : List SessionEntry) :
    ended (left ++ right) = ended left ++ ended right := List.filterMap_append

/-- The accepted steps of `s` towards its insertion, as far as the state has come. -/
def Stage (log : List SessionEntry) : SessionState → Prop
  | .preparing s _ => ∃ request, [(.start request, .ok (.beginCapture s request))].Sublist log
  | .listening s _ => ∃ request, [(.start request, .ok (.beginCapture s request)),
      (.captureReady s, .ok .none)].Sublist log
  | .finalizing s => ∃ request c e, (c = .stop s ∨ c = .captureStopped s) ∧
      [(.start request, .ok (.beginCapture s request)), (.captureReady s, .ok .none),
        (c, .ok e)].Sublist log
  | _ => True

structure SessionHistory (log : List SessionEntry) (m : SessionMachine) : Prop where
  ids : begun log = (List.range (begun log).length).map (fun k => .fromCounter (k + 1))
  next : m.nextId = min ((begun log).length + 1) u64Max
  current : ∀ s, m.state.session = some s → (begun log).getLast? = some s
  idle : m.state = .idle → begun log = [] ∨
    ∃ earlier later, log = earlier ++ (.reset, .ok .none) :: later ∧ begun later = []
  inserted_begun : ∀ s ∈ inserted log, s ∈ begun log
  ended_begun : ∀ s ∈ ended log, s ∈ begun log
  ended_earlier : ∀ s ∈ begun log, m.state.session ≠ some s → s ∈ ended log
  ended_terminal : ∀ s, m.state.session = some s → m.state.isTerminal = true → s ∈ ended log
  open_active : ∀ s, m.state.session = some s → m.state.isActive = true → s ∉ ended log
  open_inserted : ∀ s, m.state.session = some s → s ∈ inserted log →
    m.state.isTerminal = true ∨ ∃ text, m.state = .inserting s text
  inserted_nodup : (inserted log).Nodup
  stage : Stage log m.state

theorem Stage.mono {log : List SessionEntry} {state : SessionState} (entry : SessionEntry)
    (h : Stage log state) : Stage (log ++ [entry]) state := by
  have grow : ∀ {l : List SessionEntry}, l.Sublist log → l.Sublist (log ++ [entry]) :=
    fun h => h.trans (List.sublist_append_left _ _)
  cases state with
  | preparing s mode => obtain ⟨request, h⟩ := h; exact ⟨request, grow h⟩
  | listening s mode => obtain ⟨request, h⟩ := h; exact ⟨request, grow h⟩
  | finalizing s => obtain ⟨request, c, e, hc, h⟩ := h; exact ⟨request, c, e, hc, grow h⟩
  | _ => trivial

theorem initial_history : SessionHistory [] SessionMachine.initial where
  ids := rfl
  next := by decide
  current := by simp [SessionMachine.initial, SessionState.session]
  idle := fun _ => .inl rfl
  inserted_begun := by simp [inserted]
  ended_begun := by simp [ended]
  ended_earlier := by simp [begun]
  ended_terminal := by simp [SessionMachine.initial, SessionState.session]
  open_active := by simp [SessionMachine.initial, SessionState.session]
  open_inserted := by simp [SessionMachine.initial, SessionState.session]
  inserted_nodup := by simp [inserted]
  stage := trivial

namespace SessionHistory

variable {log : List SessionEntry} {m m' : SessionMachine}

theorem rejected (h : SessionHistory log m) (c : Command) (error : VoxError) :
    SessionHistory (log ++ [(c, .error error)]) m := by
  have hBegun : begun (log ++ [(c, .error error)]) = begun log := by simp [begun, SessionEntry.begun]
  have hInserted : inserted (log ++ [(c, .error error)]) = inserted log := by
    simp [inserted, SessionEntry.inserted]
  have hEnded : ended (log ++ [(c, .error error)]) = ended log := by simp [ended, SessionEntry.ended]
  constructor
  case idle =>
    intro hIdle
    rw [hBegun]
    refine (h.idle hIdle).imp_right ?_
    rintro ⟨earlier, later, hLog, hLater⟩
    refine ⟨earlier, later ++ [(c, .error error)], by simp [hLog], ?_⟩
    rw [begun_append, hLater]
    rfl
  case stage => exact h.stage.mono _
  all_goals simp only [hBegun, hInserted, hEnded]
  exacts [h.ids, h.next, h.current, h.inserted_begun, h.ended_begun, h.ended_earlier,
    h.ended_terminal, h.open_active, h.open_inserted, h.inserted_nodup]

theorem fresh (h : SessionHistory log m) (hBound : (begun log).length < u64Max) :
    SessionId.fromCounter m.nextId ∉ begun log := by
  intro hMem
  rw [h.ids] at hMem
  obtain ⟨k, hk, hId⟩ := List.mem_map.mp hMem
  have hEq := SessionId.fromCounter_injective hId
  rw [h.next] at hEq
  have := List.mem_range.mp hk
  omega

theorem begun_nodup (h : SessionHistory log m) : (begun log).Nodup := by
  rw [h.ids]
  refine List.Nodup.map ?_ List.nodup_range
  intro a b hId
  exact Nat.succ_injective (SessionId.fromCounter_injective hId)

theorem session_begun (h : SessionHistory log m) {s : SessionId} (hs : m.state.session = some s) :
    s ∈ begun log := List.mem_of_getLast? (h.current s hs)

/-- An accepted command on the current session, which stays current: only the end, the
insertion and the stage of that session are left to show. -/
theorem own (h : SessionHistory log m) {s : SessionId} {c : Command} {e : CommandEffect}
    {state : SessionState} (hs : m.state.session = some s) (hs' : state.session = some s)
    (hBegun : SessionEntry.begun (c, .ok e) = none)
    (hEnds : (c.ends = none ∧ m.state.isActive = true ∧ state.isActive = true) ∨
      (c.ends = some s ∧ state.isTerminal = true))
    (hInserted : SessionEntry.inserted (c, .ok e) = none ∨
      (SessionEntry.inserted (c, .ok e) = some s ∧ s ∉ inserted log))
    (hOpen : s ∈ inserted (log ++ [(c, .ok e)]) →
      state.isTerminal = true ∨ ∃ text, state = .inserting s text)
    (hStage : Stage (log ++ [(c, .ok e)]) state) :
    SessionHistory (log ++ [(c, .ok e)]) { m with state := state } := by
  have hBegunLog : begun (log ++ [(c, .ok e)]) = begun log := by simp [begun, hBegun]
  have hEndedLog : ended (log ++ [(c, .ok e)]) = ended log ++ c.ends.toList := by
    cases hCase : c.ends <;> simp [ended, SessionEntry.ended, hCase]
  have hSame : ∀ t, state.session = some t → t = s := by
    intro t ht
    rw [hs'] at ht
    exact (Option.some.inj ht).symm
  constructor
  case ids => rw [hBegunLog]; exact h.ids
  case next => rw [hBegunLog]; exact h.next
  case current =>
    intro t ht
    rw [hBegunLog, hSame t ht]
    exact h.current s hs
  case idle =>
    intro hIdle
    change state = .idle at hIdle
    rw [hIdle] at hs'
    cases hs'
  case inserted_begun =>
    intro t ht
    rw [hBegunLog]
    rw [inserted_append, List.mem_append] at ht
    rcases ht with ht | ht
    · exact h.inserted_begun t ht
    · rcases hInserted with hNone | ⟨hSome, _⟩
      · simp [inserted, hNone] at ht
      · simp only [inserted, List.filterMap_cons, hSome, List.filterMap_nil,
          List.mem_singleton] at ht
        exact ht ▸ h.session_begun hs
  case ended_begun =>
    intro t ht
    rw [hBegunLog]
    rw [hEndedLog, List.mem_append, Option.mem_toList] at ht
    rcases ht with ht | ht
    · exact h.ended_begun t ht
    · rcases hEnds with ⟨hNone, _⟩ | ⟨hSome, _⟩
      · rw [hNone] at ht; cases ht
      · rw [hSome] at ht; cases ht; exact h.session_begun hs
  case ended_earlier =>
    intro t ht hOther
    rw [hBegunLog] at ht
    rw [hEndedLog]
    refine List.mem_append_left _ (h.ended_earlier t ht ?_)
    rw [hs]
    rwa [hs'] at hOther
  case ended_terminal =>
    intro t ht hTerminal
    rw [hEndedLog, hSame t ht, List.mem_append, Option.mem_toList]
    rcases hEnds with ⟨_, _, hActive⟩ | ⟨hSome, _⟩
    · rcases SessionState.active_or_terminal hs' with ⟨_, hNot⟩ | ⟨hNot, _⟩
      · rw [hNot] at hTerminal; cases hTerminal
      · rw [hNot] at hActive; cases hActive
    · exact .inr hSome
  case open_active =>
    intro t ht hActive
    rw [hEndedLog, hSame t ht, List.mem_append, Option.mem_toList]
    rcases hEnds with ⟨hNone, hBefore, _⟩ | ⟨_, hTerminal⟩
    · rintro (hMem | hMem)
      · exact h.open_active s hs hBefore hMem
      · rw [hNone] at hMem; cases hMem
    · rcases SessionState.active_or_terminal hs' with ⟨_, hNot⟩ | ⟨hNot, _⟩
      · rw [hNot] at hTerminal; cases hTerminal
      · rw [hNot] at hActive; cases hActive
  case open_inserted =>
    intro t ht hMem
    rw [hSame t ht] at hMem ⊢
    exact hOpen hMem
  case inserted_nodup =>
    rw [inserted_append]
    rcases hInserted with hNone | ⟨hSome, hFresh⟩
    · simpa [inserted, hNone] using h.inserted_nodup
    · have hOne : inserted [(c, .ok e)] = [s] := by simp [inserted, hSome]
      rw [hOne]
      exact List.nodup_append_comm.mp (List.nodup_cons.mpr ⟨hFresh, h.inserted_nodup⟩)
  case stage => exact hStage

/-- Before a session reaches `Inserting` or its end, no text of it was handed over. -/
theorem not_inserted (h : SessionHistory log m) {s : SessionId} (hs : m.state.session = some s)
    (hTerminal : m.state.isTerminal = false) (hInserting : ∀ text, m.state ≠ .inserting s text) :
    s ∉ inserted log := by
  intro hMem
  rcases h.open_inserted s hs hMem with hEnd | ⟨text, hText⟩
  · rw [hEnd] at hTerminal; cases hTerminal
  · exact hInserting text hText

/-- A command that moves the current session on, short of its insertion. -/
theorem advance (h : SessionHistory log m) {s : SessionId} {c : Command} {e : CommandEffect}
    {state : SessionState} (hs : m.state.session = some s) (hBefore : m.state.isActive = true)
    (hInserting : ∀ text, m.state ≠ .inserting s text) (hs' : state.session = some s)
    (hAfter : state.isActive = true)
    (hEntry : SessionEntry.begun (c, .ok e) = none ∧ SessionEntry.inserted (c, .ok e) = none ∧
      c.ends = none)
    (hStage : Stage (log ++ [(c, .ok e)]) state) :
    SessionHistory (log ++ [(c, .ok e)]) { m with state := state } := by
  obtain ⟨hBegun, hInserted, hEnds⟩ := hEntry
  refine h.own hs hs' hBegun (.inl ⟨hEnds, hBefore, hAfter⟩) (.inl hInserted) ?_ hStage
  intro hMem
  have hTerminal : m.state.isTerminal = false := by
    rcases SessionState.active_or_terminal hs with ⟨_, h⟩ | ⟨hNot, _⟩
    · exact h
    · rw [hNot] at hBefore; cases hBefore
  rw [inserted_append, List.mem_append] at hMem
  rcases hMem with hMem | hMem
  · exact absurd hMem (h.not_inserted hs hTerminal hInserting)
  · simp [inserted, hInserted] at hMem

theorem started (h : SessionHistory log m) (request : StartRequest)
    (hState : m.state.isActive = false) (hBound : (begun log).length < u64Max) :
    SessionHistory (log ++ [(.start request, .ok (.beginCapture (.fromCounter m.nextId) request))])
      ⟨.preparing (.fromCounter m.nextId) request.mode, min (m.nextId + 1) u64Max⟩ := by
  have hFresh := h.fresh hBound
  have hNext : m.nextId = (begun log).length + 1 := by
    rw [h.next]
    omega
  generalize hId : SessionId.fromCounter m.nextId = id at hFresh ⊢
  generalize hEntry : ((.start request, .ok (.beginCapture id request)) : SessionEntry) = entry
  have hBegun : begun (log ++ [entry]) = begun log ++ [id] := by
    subst hEntry
    simp [begun, SessionEntry.begun]
  have hInserted : inserted (log ++ [entry]) = inserted log := by
    subst hEntry
    simp [inserted, SessionEntry.inserted]
  have hEnded : ended (log ++ [entry]) = ended log := by
    subst hEntry
    simp [ended, SessionEntry.ended, Command.ends]
  have hSame : ∀ t, (SessionState.preparing id request.mode).session = some t → t = id :=
    fun t ht => (Option.some.inj ht).symm
  constructor
  case ids =>
    rw [hBegun, List.length_append, List.length_singleton, List.range_succ, List.map_append,
      ← h.ids, List.map_singleton, ← hNext, hId]
  case next =>
    rw [hBegun, List.length_append, List.length_singleton, hNext]
  case current =>
    intro t ht
    rw [hBegun, hSame t ht, List.getLast?_concat]
  case idle => intro hIdle; cases hIdle
  case inserted_begun =>
    intro t ht
    rw [hInserted] at ht
    rw [hBegun]
    exact List.mem_append_left _ (h.inserted_begun t ht)
  case ended_begun =>
    intro t ht
    rw [hEnded] at ht
    rw [hBegun]
    exact List.mem_append_left _ (h.ended_begun t ht)
  case ended_earlier =>
    intro t ht hOther
    rw [hBegun, List.mem_append, List.mem_singleton] at ht
    rw [hEnded]
    rcases ht with ht | rfl
    · by_cases hCurrent : m.state.session = some t
      · rcases SessionState.active_or_terminal hCurrent with ⟨hActive, _⟩ | ⟨_, hTerminal⟩
        · rw [hState] at hActive; cases hActive
        · exact h.ended_terminal t hCurrent hTerminal
      · exact h.ended_earlier t ht hCurrent
    · exact absurd rfl hOther
  case ended_terminal => intro t _ hTerminal; cases hTerminal
  case open_active =>
    intro t ht _ hMem
    rw [hEnded, hSame t ht] at hMem
    exact hFresh (h.ended_begun id hMem)
  case open_inserted =>
    intro t ht hMem
    rw [hInserted, hSame t ht] at hMem
    exact absurd (h.inserted_begun id hMem) hFresh
  case inserted_nodup => rw [hInserted]; exact h.inserted_nodup
  case stage =>
    subst hEntry
    exact ⟨request, List.sublist_append_right _ _⟩

theorem wasReset (h : SessionHistory log m) (hState : m.state.isActive = false) :
    SessionHistory (log ++ [(.reset, .ok .none)]) { m with state := .idle } := by
  have hBegun : begun (log ++ [(.reset, .ok .none)]) = begun log := by
    simp [begun, SessionEntry.begun]
  have hInserted : inserted (log ++ [(.reset, .ok .none)]) = inserted log := by
    simp [inserted, SessionEntry.inserted]
  have hEnded : ended (log ++ [(.reset, .ok .none)]) = ended log := by
    simp [ended, SessionEntry.ended, Command.ends]
  constructor
  case idle => exact fun _ => .inr ⟨log, [], rfl, rfl⟩
  case stage => trivial
  case ended_earlier =>
    intro t ht _
    rw [hBegun] at ht
    rw [hEnded]
    by_cases hCurrent : m.state.session = some t
    · rcases SessionState.active_or_terminal hCurrent with ⟨hActive, _⟩ | ⟨_, hTerminal⟩
      · rw [hState] at hActive; cases hActive
      · exact h.ended_terminal t hCurrent hTerminal
    · exact h.ended_earlier t ht hCurrent
  case current | ended_terminal | open_active | open_inserted => intro t ht; cases ht
  all_goals simp only [hBegun, hInserted, hEnded]
  exacts [h.ids, h.next, h.inserted_begun, h.ended_begun, h.inserted_nodup]

theorem accepted (h : SessionHistory log m) {c : Command} {e : CommandEffect}
    (hAccepts : m.Accepts c e m') (hBound : (begun (log ++ [(c, .ok e)])).length ≤ u64Max) :
    SessionHistory (log ++ [(c, .ok e)]) m' := by
  cases hAccepts with
  | start request hState =>
    refine h.started request hState ?_
    rw [begun_append, List.length_append] at hBound
    exact hBound
  | reset hState => exact h.wasReset hState
  | cancel hState =>
    exact h.own hState rfl rfl (.inr ⟨rfl, rfl⟩) (.inl rfl) (fun _ => .inl rfl) trivial
  | fail error hState =>
    exact h.own hState rfl rfl (.inr ⟨rfl, rfl⟩) (.inl rfl) (fun _ => .inl rfl) trivial
  | noSpeech hState =>
    exact h.own (by rw [hState]; rfl) rfl rfl (.inr ⟨rfl, rfl⟩) (.inl rfl) (fun _ => .inl rfl)
      trivial
  | insertionComplete hState =>
    exact h.own (by rw [hState]; rfl) rfl rfl (.inr ⟨rfl, rfl⟩) (.inl rfl) (fun _ => .inl rfl)
      trivial
  | @transcriptReady s text hState hText =>
    have hNot : s ∉ inserted log := h.not_inserted (by rw [hState]; rfl) (by rw [hState]; rfl)
      (by simp [hState])
    exact h.own (by rw [hState]; rfl) rfl rfl (.inl ⟨rfl, by rw [hState]; rfl, rfl⟩)
      (.inr ⟨rfl, hNot⟩) (fun _ => .inr ⟨text, rfl⟩) trivial
  | captureReady hState =>
    have hStage := h.stage
    rw [hState] at hStage
    obtain ⟨request, hBegan⟩ := hStage
    exact h.advance (by rw [hState]; rfl) (by rw [hState]; rfl) (by simp [hState]) rfl rfl
      ⟨rfl, rfl, rfl⟩ ⟨request, hBegan.append (List.Sublist.refl _)⟩
  | stop hState =>
    have hStage := h.stage
    rw [hState] at hStage
    obtain ⟨request, hReady⟩ := hStage
    exact h.advance (by rw [hState]; rfl) (by rw [hState]; rfl) (by simp [hState]) rfl rfl
      ⟨rfl, rfl, rfl⟩ ⟨request, _, _, .inl rfl, hReady.append (List.Sublist.refl _)⟩
  | captureStopped hState =>
    have hStage := h.stage
    rw [hState] at hStage
    obtain ⟨request, hReady⟩ := hStage
    exact h.advance (by rw [hState]; rfl) (by rw [hState]; rfl) (by simp [hState]) rfl rfl
      ⟨rfl, rfl, rfl⟩ ⟨request, _, _, .inr rfl, hReady.append (List.Sublist.refl _)⟩

theorem step (h : SessionHistory log m) (c : Command)
    (hBound : (begun (log ++ [(c, (m.apply c).1)])).length ≤ u64Max) :
    SessionHistory (log ++ [(c, (m.apply c).1)]) (m.apply c).2 := by
  rcases m.apply_cases c with ⟨e, m', hAccepts, hApply⟩ | ⟨error, hApply⟩
  · rw [hApply] at hBound ⊢
    exact h.accepted hAccepts hBound
  · rw [hApply]
    exact h.rejected c error

end SessionHistory

/-- Every run of fewer than `2^64` sessions has the history invariant. -/
theorem session_history (commands : List Command)
    (hBound : (begun (sessionMachine.log commands)).length ≤ u64Max) :
    SessionHistory (sessionMachine.log commands) (sessionMachine.state commands) := by
  refine sessionMachine.invariant
    (P := fun log m => (begun log).length ≤ u64Max → SessionHistory log m)
    (fun _ => initial_history) ?_ commands hBound
  intro log m c ih hBound
  refine (ih ?_).step c hBound
  rw [begun_append, List.length_append] at hBound
  omega

end VoxType
