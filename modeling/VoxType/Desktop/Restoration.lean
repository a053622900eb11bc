import VoxType.Desktop.Clipboard

/-!
# What an insertion leaves on the clipboard

The steps that only look at the clipboard do not change it. The ways through
`insert` are told apart by the first step that does not go well.
-/

namespace VoxType.Desktop

open Effects.Call (Composes Within)
open Fcitx (Bytes utf8)

set_option autoImplicit false

def Unchanged (before : Clipboard) (_ : List DesktopEffect) (after : Clipboard) : Prop :=
  after = before

theorem unchanged_composes : Composes Unchanged where
  refl _ := rfl
  trans hFirst hSecond := hSecond.trans hFirst

variable {env : Environment} {prior : Clipboard}

theorem wlPaste_unchanged (awaited : Awaited) (arguments : List String)
    (printed : Clipboard → Option Bytes) : Within Unchanged (wlPaste awaited arguments printed) :=
  fun _ => rfl

theorem readClipboard_unchanged (awaited : Awaited) : Within Unchanged (readClipboard awaited) := by
  refine Within.bind unchanged_composes (wlPaste_unchanged awaited _ _).attempt fun read => ?_
  cases read <;> exact Within.pure unchanged_composes _

theorem clipboardMatches_unchanged (awaited : Awaited) (expected : Bytes) :
    Within Unchanged (clipboardMatches awaited expected) :=
  Within.bind unchanged_composes (readClipboard_unchanged awaited) fun _ =>
    Within.pure unchanged_composes _

theorem readClipboardSnapshot_unchanged (env : Environment) :
    Within Unchanged (readClipboardSnapshot env) := by
  refine Within.bind unchanged_composes (wlPaste_unchanged _ _ _) fun text => ?_
  split
  · exact Within.pure unchanged_composes _
  · refine Within.bind unchanged_composes (wlPaste_unchanged _ _ _) fun types => ?_
    split <;> exact Within.pure unchanged_composes _

theorem previous_unchanged (inserter : ClipboardInserter) (env : Environment) :
    Within Unchanged (inserter.previous env) := by
  rw [ClipboardInserter.previous]
  split
  · refine Within.bind unchanged_composes (readClipboardSnapshot_unchanged env) fun snapshot => ?_
    split
    · exact Within.throw unchanged_composes _
    · exact Within.pure unchanged_composes _
  · exact Within.pure unchanged_composes _

theorem Clipboard.listed_eq_none {clipboard : Clipboard} :
    clipboard.listed = none ↔ clipboard = .empty := by
  obtain ⟨text, others⟩ := clipboard
  cases text <;> simp [Clipboard.listed, Clipboard.types, Clipboard.empty]

theorem Clipboard.listed_ne_nil (clipboard : Clipboard) : clipboard.listed ≠ some [] := by
  rw [Clipboard.listed]
  split
  · exact Option.some_ne_none _ ∘ Eq.symm
  · rename_i hTypes
    obtain ⟨name, hName⟩ := List.exists_mem_of_ne_nil _ hTypes
    rw [ne_eq, Option.some.injEq, List.flatMap_eq_nil_iff]
    exact fun hNil => List.append_ne_nil_of_right_ne_nil _ (List.cons_ne_nil _ _) (hNil name hName)

/-- What a snapshot says of the clipboard it was taken of. -/
inductive Reported (env : Environment) (prior : Clipboard) : ClipboardSnapshot → Prop
  | text {contents : Bytes} (hWorks : env.paste = .works) (hText : prior.text = some contents) :
      Reported env prior (.text contents)
  | unsupported (hNoText : env.paste = .works → prior.text = none)
      (hTypes : env.listTypes = .works) (hPrior : prior ≠ .empty) :
      Reported env prior .unsupported
  | empty (hNoText : env.paste = .works → prior.text = none)
      (hTypes : env.listTypes = .works → prior = .empty) : Reported env prior .empty

theorem wlPaste_success {awaited : Awaited} {arguments : List String}
    {printed : Clipboard → Option Bytes} {output : Output}
    (h : ((wlPaste awaited arguments printed).run prior).result = .ok output) :
    (awaited = .works ∧ output.success = true ∧ printed prior = some output.stdout) ∨
      (output.success = false ∧ (awaited = .works → printed prior = none)) := by
  rw [wlPaste] at h
  cases awaited with
  | notSpawned error => cases h
  | exits status => cases h; exact .inr ⟨rfl, nofun⟩
  | works =>
    cases hPrinted : printed prior with
    | none =>
      simp only [hPrinted] at h
      cases h
      exact .inr ⟨rfl, fun _ => rfl⟩
    | some stdout =>
      simp only [hPrinted] at h
      cases h
      exact .inl ⟨rfl, rfl, rfl⟩

theorem readClipboardSnapshot_reported {snapshot : ClipboardSnapshot}
    (h : ((readClipboardSnapshot env).run prior).result = .ok snapshot) :
    Reported env prior snapshot := by
  obtain ⟨text, hText, h⟩ := Effects.Call.ok_of_bind h
  rcases wlPaste_success hText with ⟨hWorks, hSuccess, hPrinted⟩ | ⟨hSuccess, hNoText⟩
  · rw [if_pos hSuccess] at h
    cases h
    exact .text hWorks hPrinted
  · rw [if_neg (Bool.eq_false_iff.mp hSuccess)] at h
    obtain ⟨types, hTypes, h⟩ := Effects.Call.ok_of_bind h
    rcases wlPaste_success hTypes with ⟨hWorks, hSuccess, hPrinted⟩ | ⟨hSuccess, hNone⟩
    · change prior.listed = some types.stdout at hPrinted
      have hListed : types.stdout ≠ [] := by
        intro hNil
        rw [hNil] at hPrinted
        exact Clipboard.listed_ne_nil prior hPrinted
      rw [hSuccess, List.isEmpty_eq_false_iff.mpr hListed] at h
      cases h
      refine .unsupported hNoText hWorks fun hEmpty => ?_
      rw [Clipboard.listed_eq_none.mpr hEmpty] at hPrinted
      cases hPrinted
    · rw [hSuccess] at h
      cases h
      exact .empty hNoText fun hWorks => Clipboard.listed_eq_none.mp (hNone hWorks)

/-- The clipboard that is brought back from a snapshot. -/
def ClipboardSnapshot.restoring : ClipboardSnapshot → Clipboard
  | .text contents => .ofText contents
  | .empty | .unsupported => .empty

/-- The snapshot misses nothing: nothing is offered but text, and a text has been read. -/
def Environment.Faithful (env : Environment) (prior : Clipboard) : Prop :=
  prior.others = [] ∧ (prior.text = none ∨ env.paste = .works)

theorem Reported.restoring_eq {snapshot : ClipboardSnapshot} (h : Reported env prior snapshot)
    (hSupported : snapshot ≠ .unsupported) : snapshot.restoring = prior ↔ env.Faithful prior := by
  obtain ⟨text, others⟩ := prior
  cases h with
  | @text contents hWorks hText =>
    cases hText
    constructor
    · intro hPrior
      cases hPrior
      exact ⟨rfl, .inr hWorks⟩
    · rintro ⟨rfl, _⟩
      rfl
  | unsupported => exact absurd rfl hSupported
  | empty hNoText hTypes =>
    constructor
    · intro hPrior
      cases hPrior
      exact ⟨rfl, .inl rfl⟩
    · rintro ⟨rfl, rfl | hWorks⟩
      · rfl
      · cases hNoText hWorks
        rfl

section Check

variable {awaited : Awaited} {expected : Bytes}

theorem clipboardMatches_result (awaited : Awaited) (expected : Bytes) :
    ((clipboardMatches awaited expected).run prior).result =
      .ok (decide (awaited = .works ∧ prior.text = some expected)) := by
  cases awaited with
  | notSpawned error => rfl
  | exits status => rfl
  | works =>
    obtain ⟨text, others⟩ := prior
    cases text with
    | none => rfl
    | some contents =>
      change Except.ok (contents == expected) = _
      simp only [beq_eq_decide, Option.some.injEq, true_and]

end Check

section Insert

variable {inserter : ClipboardInserter} {text : String} {snapshot : ClipboardSnapshot}

/-- Nobody else writes the clipboard, and the write that brings it back works. -/
structure Environment.Undisturbed (env : Environment) : Prop where
  copied : env.copied = none
  restore : env.restore = .works
  clear : env.clear = .works

/-- The steps between the snapshot and the write that brings it back. -/
structure Environment.Finishes (env : Environment) : Prop where
  write : env.write = .works
  chord : env.chord = .works
  check : env.check = .works

theorem Environment.finishes_iff :
    env.Finishes ↔ env.write = .works ∧ env.chord = .works ∧ env.check = .works :=
  ⟨fun h => ⟨h.write, h.chord, h.check⟩, fun h => ⟨h.1, h.2.1, h.2.2⟩⟩

instance : Decidable env.Finishes := decidable_of_iff' _ Environment.finishes_iff

theorem WlCopy.result_ok {copy : WlCopy} : copy.result = .ok () ↔ copy = .works := by
  cases copy <;> simp [WlCopy.result]

theorem previous_result (hRestore : inserter.restoreClipboard = true)
    (hSnapshot : ((readClipboardSnapshot env).run prior).result = .ok snapshot)
    (hSupported : snapshot ≠ .unsupported) :
    ((inserter.previous env).run prior).result = .ok (some snapshot) := by
  have hState := readClipboardSnapshot_unchanged env prior
  rw [ClipboardInserter.previous, if_pos hRestore]
  cases hRun : (readClipboardSnapshot env).run prior with
  | mk result after trace =>
    rw [hRun] at hSnapshot
    cases hSnapshot
    rw [Effects.Call.bind_ok hRun, if_neg hSupported]
    rfl

/-- The write that brings the clipboard back. -/
theorem restorePrevious_state (h : env.Undisturbed) (hSupported : snapshot ≠ .unsupported)
    (clipboard : Clipboard) :
    ((ClipboardInserter.restorePrevious env (some snapshot)).run clipboard).state =
      snapshot.restoring := by
  cases snapshot with
  | empty =>
    change (if env.clear = .works then Clipboard.empty else clipboard) = Clipboard.empty
    rw [if_pos h.clear]
  | text contents =>
    rw [ClipboardInserter.restorePrevious, h.restore]
    rfl
  | unsupported => exact absurd rfl hSupported

theorem restored_state (h : env.Undisturbed) (hRestore : inserter.restoreClipboard = true)
    (hSupported : snapshot ≠ .unsupported) (contents : Bytes) :
    ((inserter.restored env contents (some snapshot)).run (.ofText contents)).state =
      if env.check = .works then snapshot.restoring else .ofText contents := by
  rw [ClipboardInserter.restored, if_pos hRestore,
    Effects.Call.state_bind_ok (clipboardMatches_result env.check contents),
    clipboardMatches_unchanged env.check contents]
  by_cases hCheck : env.check = .works
  · rw [if_pos hCheck, if_pos (decide_eq_true ⟨hCheck, rfl⟩)]
    exact restorePrevious_state h hSupported _
  · rw [if_neg hCheck, if_neg fun hDecide => hCheck (of_decide_eq_true hDecide).1]
    rfl

theorem insert_eq_write (hRestore : inserter.restoreClipboard = true) (hText : text ≠ "")
    (hSnapshot : ((readClipboardSnapshot env).run prior).result = .ok snapshot)
    (hSupported : snapshot ≠ .unsupported) :
    ((inserter.insert env text).run prior).state =
      ((do
        writeClipboard env.write (utf8 text)
        sendPasteChord env.chord
        sleep inserter.restoreDelay env.copied
        let clipboardRestored ← inserter.restored env (utf8 text) (some snapshot)
        pure ⟨clipboardRestored, "wl-copy+ydotool"⟩ :
          DesktopCall InsertionResult).run prior).state := by
  rw [ClipboardInserter.insert, if_neg hText,
    Effects.Call.state_bind_ok (previous_result hRestore hSnapshot hSupported),
    previous_unchanged inserter env prior]

theorem sendPasteChord_result (awaited : Awaited) :
    ((sendPasteChord awaited).run prior).result = .ok () ↔ awaited = .works := by
  cases awaited <;> simp [sendPasteChord]

theorem leaves_of_works {copy : WlCopy} (hWorks : copy = .works) (contents : Bytes) :
    copy.leaves contents prior = .ofText contents := by
  rw [hWorks]
  rfl

theorem insert_state (h : env.Undisturbed) (hRestore : inserter.restoreClipboard = true)
    (hText : text ≠ "")
    (hSnapshot : ((readClipboardSnapshot env).run prior).result = .ok snapshot)
    (hSupported : snapshot ≠ .unsupported) :
    ((inserter.insert env text).run prior).state =
      if env.Finishes then snapshot.restoring else env.write.leaves (utf8 text) prior := by
  rw [insert_eq_write hRestore hText hSnapshot hSupported]
  cases hWrite : env.write.result with
  | error error =>
    have hFinishes : ¬ env.Finishes := fun hFinishes => by
      rw [WlCopy.result_ok.mpr hFinishes.write] at hWrite
      cases hWrite
    rw [if_neg hFinishes]
    exact Effects.Call.state_bind_error hWrite _
  | ok =>
    have hWorks := WlCopy.result_ok.mp hWrite
    have hLeft : ((writeClipboard env.write (utf8 text)).run prior).state = .ofText (utf8 text) :=
      leaves_of_works hWorks _
    rw [Effects.Call.state_bind_ok (x := writeClipboard env.write (utf8 text)) hWrite, hLeft,
      leaves_of_works hWorks]
    cases hChord : ((sendPasteChord env.chord).run (.ofText (utf8 text))).result with
    | error error =>
      have hFinishes : ¬ env.Finishes := fun hFinishes => by
        rw [(sendPasteChord_result _).mpr hFinishes.chord] at hChord
        cases hChord
      rw [if_neg hFinishes]
      exact Effects.Call.state_bind_error hChord _
    | ok =>
      have hSent := (sendPasteChord_result _).mp hChord
      have hFinishes : env.Finishes ↔ env.check = .works := by
        rw [Environment.finishes_iff, and_iff_right hWorks, and_iff_right hSent]
      rw [Effects.Call.state_bind_ok hChord]
      change ((sleep inserter.restoreDelay env.copied >>= _).run (.ofText (utf8 text))).state = _
      rw [h.copied]
      change ((inserter.restored env (utf8 text) (some snapshot) >>= _).run
        (.ofText (utf8 text))).state = _
      rw [Effects.Call.state_bind_pure, restored_state h hRestore hSupported]
      simp only [hFinishes]

/-- When the clipboard holds at the end what it held before. -/
def Environment.Restores (env : Environment) (text : String) (prior : Clipboard) : Prop :=
  text = "" ∨ (env.Finishes ∧ env.Faithful prior) ∨
    (¬ env.Finishes ∧ ∀ put, env.write.put (utf8 text) = some put → prior = .ofText put)

theorem WlCopy.leaves_eq {copy : WlCopy} {contents : Bytes} :
    copy.leaves contents prior = prior ↔
      ∀ put, copy.put contents = some put → prior = .ofText put := by
  rw [WlCopy.leaves]
  cases copy.put contents with
  | none => exact ⟨fun _ _ => nofun, fun _ => rfl⟩
  | some put =>
    constructor
    · rintro hLeaves _ ⟨⟩
      exact hLeaves.symm
    · exact fun hPut => (hPut put rfl).symm

theorem insert_restores (h : env.Undisturbed) (hRestore : inserter.restoreClipboard = true)
    (hSnapshot : ((readClipboardSnapshot env).run prior).result = .ok snapshot)
    (hSupported : snapshot ≠ .unsupported) :
    ((inserter.insert env text).run prior).state = prior ↔ env.Restores text prior := by
  rw [Environment.Restores]
  by_cases hText : text = ""
  · rw [ClipboardInserter.insert, if_pos hText]
    exact ⟨fun _ => .inl hText, fun _ => rfl⟩
  rw [or_iff_right hText, insert_state h hRestore hText hSnapshot hSupported]
  by_cases hFinishes : env.Finishes
  · rw [if_pos hFinishes, (readClipboardSnapshot_reported hSnapshot).restoring_eq hSupported]
    exact ⟨fun hFaithful => .inl ⟨hFinishes, hFaithful⟩,
      fun h => h.elim And.right fun hNot => absurd hFinishes hNot.1⟩
  · rw [if_neg hFinishes, WlCopy.leaves_eq]
    exact ⟨fun hPut => .inr ⟨hFinishes, hPut⟩,
      fun h => h.elim (fun hDone => absurd hDone.1 hFinishes) And.right⟩

theorem insert_restores_text :
    ((ClipboardInserter.default.insert
      ⟨.works, .works, .works, .works, none, .works, .works, .works⟩ "new").run
        (.ofText (utf8 "old"))).state = .ofText (utf8 "old") := by
  have hSnapshot : ((readClipboardSnapshot
      ⟨.works, .works, .works, .works, none, .works, .works, .works⟩).run
        (.ofText (utf8 "old"))).result = .ok (.text (utf8 "old")) := rfl
  exact (insert_restores ⟨rfl, rfl, rfl⟩ rfl hSnapshot nofun).mpr
    (.inr (.inl ⟨⟨rfl, rfl, rfl⟩, rfl, .inr rfl⟩))

/-- Only the paste chord fails, and the dictated text stays on the clipboard. -/
theorem insert_chord_exits :
    ∃ env : Environment, env.Undisturbed ∧
      ((readClipboardSnapshot env).run (.ofText (utf8 "old"))).result =
        .ok (.text (utf8 "old")) ∧
      ((ClipboardInserter.default.insert env "new").run (.ofText (utf8 "old"))).result =
        .error ⟨.other, "ydotool failed with exit status: 1"⟩ ∧
      ((ClipboardInserter.default.insert env "new").run (.ofText (utf8 "old"))).state =
        .ofText (utf8 "new") ∧
      Clipboard.ofText (utf8 "new") ≠ .ofText (utf8 "old") :=
  ⟨⟨.works, .works, .works, .exits "exit status: 1", none, .works, .works, .works⟩,
    ⟨rfl, rfl, rfl⟩, rfl, rfl, rfl, by decide⟩

end Insert

section Kept

variable {inserter : ClipboardInserter} {text : String} {result : InsertionResult}

/-- What has gone well where `insert` succeeds, and the one step that is left then. -/
theorem insert_ok (hOk : ((inserter.insert env text).run prior).result = .ok result) :
    ∃ previous, ((inserter.previous env).run prior).result = .ok previous ∧
      ((inserter.restored env (utf8 text) previous).run
        (env.copied.getD (.ofText (utf8 text)))).result = .ok result.clipboardRestored ∧
      ((inserter.insert env text).run prior).state =
        ((inserter.restored env (utf8 text) previous).run
          (env.copied.getD (.ofText (utf8 text)))).state := by
  rw [ClipboardInserter.insert] at hOk ⊢
  split at hOk
  · cases hOk
  rename_i hText
  rw [if_neg hText]
  obtain ⟨previous, hPrevious, hOk⟩ := Effects.Call.ok_of_bind hOk
  rw [Effects.Call.state_bind_ok hPrevious]
  obtain ⟨_, hWrite, hOk⟩ := Effects.Call.ok_of_bind hOk
  rw [Effects.Call.state_bind_ok hWrite]
  obtain ⟨_, hChord, hOk⟩ := Effects.Call.ok_of_bind hOk
  rw [Effects.Call.state_bind_ok hChord]
  have hLeft : ((writeClipboard env.write (utf8 text)).run
      ((inserter.previous env).run prior).state).state = .ofText (utf8 text) :=
    leaves_of_works (WlCopy.result_ok.mp hWrite) _
  obtain ⟨_, hSleep, hOk⟩ := Effects.Call.ok_of_bind hOk
  rw [Effects.Call.state_bind_ok hSleep]
  change ((inserter.restored env (utf8 text) previous >>= _).run
    (env.copied.getD ((writeClipboard env.write (utf8 text)).run
      ((inserter.previous env).run prior).state).state)).result = _ at hOk
  rw [hLeft] at hOk
  obtain ⟨clipboardRestored, hRestored, hOk⟩ := Effects.Call.ok_of_bind hOk
  cases hOk
  refine ⟨previous, hPrevious, hRestored, ?_⟩
  rw [Effects.Call.state_bind_pure]
  change ((inserter.restored env (utf8 text) previous).run
    (env.copied.getD ((writeClipboard env.write (utf8 text)).run
      ((inserter.previous env).run prior).state).state)).state = _
  rw [hLeft]

theorem restored_kept {contents : Bytes} {previous : Option ClipboardSnapshot}
    {clipboard : Clipboard} (hOther : clipboard.text ≠ some contents) :
    ((inserter.restored env contents previous).run clipboard).state = clipboard := by
  rw [ClipboardInserter.restored]
  split
  · rw [Effects.Call.state_bind_ok (clipboardMatches_result env.check contents),
      clipboardMatches_unchanged env.check contents clipboard,
      if_neg fun hDecide => hOther (of_decide_eq_true hDecide).2]
    rfl
  · rfl

theorem restorePrevious_true {previous : Option ClipboardSnapshot} {clipboard : Clipboard}
    (h : ((ClipboardInserter.restorePrevious env previous).run clipboard).result = .ok true) :
    ∃ snapshot, previous = some snapshot ∧
      ((ClipboardInserter.restorePrevious env previous).run clipboard).state =
        snapshot.restoring := by
  rcases previous with _ | _ | contents | _
  · cases h
  · refine ⟨.empty, rfl, ?_⟩
    change Except.ok (env.clear == .works) = Except.ok true at h
    change (if env.clear = .works then Clipboard.empty else clipboard) = Clipboard.empty
    rw [if_pos (eq_of_beq (Except.ok.inj h))]
  · refine ⟨.text contents, rfl, ?_⟩
    rw [ClipboardInserter.restorePrevious, Effects.Call.attempt_bind] at h ⊢
    cases hRestore : env.restore.result with
    | error error =>
      simp only [writeClipboard, hRestore] at h
      cases h
    | ok =>
      simp only [writeClipboard, hRestore]
      exact leaves_of_works (WlCopy.result_ok.mp hRestore) _
  · cases h

/-- Something that was copied meanwhile is never overwritten. -/
theorem copied_kept {copied : Clipboard} (hCopied : env.copied = some copied)
    (hOther : copied.text ≠ some (utf8 text))
    (hOk : ((inserter.insert env text).run prior).result = .ok result) :
    ((inserter.insert env text).run prior).state = copied := by
  obtain ⟨previous, _, _, hState⟩ := insert_ok hOk
  rw [hState, hCopied]
  exact restored_kept hOther

/-- Where the result says so, the clipboard has been brought back from the snapshot. -/
theorem clipboardRestored_brought_back
    (hOk : ((inserter.insert env text).run prior).result = .ok result)
    (hFlag : result.clipboardRestored = true) :
    ∃ snapshot, Reported env prior snapshot ∧
      ((inserter.insert env text).run prior).state = snapshot.restoring := by
  obtain ⟨previous, hPrevious, hRestored, hState⟩ := insert_ok hOk
  rw [hState]
  rw [hFlag, ClipboardInserter.restored] at hRestored
  split at hRestored
  case isFalse => cases hRestored
  rename_i hRestore
  rw [ClipboardInserter.previous, if_pos hRestore] at hPrevious
  obtain ⟨snapshot, hSnapshot, hPrevious⟩ := Effects.Call.ok_of_bind hPrevious
  split at hPrevious
  · cases hPrevious
  cases hPrevious
  refine ⟨snapshot, readClipboardSnapshot_reported hSnapshot, ?_⟩
  rw [ClipboardInserter.restored, if_pos hRestore]
  obtain ⟨matched, hMatched, hRestored⟩ := Effects.Call.ok_of_bind hRestored
  rw [Effects.Call.state_bind_ok hMatched]
  split at hRestored
  · rename_i hTrue
    rw [if_pos hTrue]
    obtain ⟨_, hSame, hBack⟩ := restorePrevious_true hRestored
    cases hSame
    exact hBack
  · cases hRestored

/-- What cannot be brought back is not touched. -/
theorem insert_unsupported (hRestore : inserter.restoreClipboard = true) (hText : text ≠ "")
    (hSnapshot : ((readClipboardSnapshot env).run prior).result = .ok .unsupported) :
    ((inserter.insert env text).run prior).result =
        .error ⟨.unsupported,
          "clipboard contains non-text data that VoxType cannot restore safely"⟩ ∧
      ((inserter.insert env text).run prior).state = prior := by
  have hState := readClipboardSnapshot_unchanged env prior
  rw [ClipboardInserter.insert, if_neg hText, ClipboardInserter.previous, if_pos hRestore]
  cases hRun : (readClipboardSnapshot env).run prior with
  | mk seen after trace =>
    rw [hRun] at hSnapshot hState
    cases hSnapshot
    have hAfter : after = prior := hState
    rw [hAfter] at hRun
    have hPrevious : ((do
        let snapshot ← readClipboardSnapshot env
        if snapshot = .unsupported then
          .throw ⟨.unsupported,
            "clipboard contains non-text data that VoxType cannot restore safely"⟩
        else pure (some snapshot) : DesktopCall (Option ClipboardSnapshot)).run prior) =
        ⟨.error ⟨.unsupported,
          "clipboard contains non-text data that VoxType cannot restore safely"⟩, prior,
          trace ++ []⟩ := by
      rw [Effects.Call.bind_ok hRun]
      rfl
    rw [Effects.Call.bind_error hPrevious]
    exact ⟨rfl, rfl⟩

theorem copy_ok (hOk : ((inserter.copy env text).run prior).result = .ok result) :
    ((inserter.copy env text).run prior).state = .ofText (utf8 text) ∧
      result.clipboardRestored = false := by
  rw [ClipboardInserter.copy] at hOk ⊢
  split at hOk
  · cases hOk
  rename_i hText
  obtain ⟨_, hWrite, hOk⟩ := Effects.Call.ok_of_bind hOk
  cases hOk
  rw [if_neg hText, Effects.Call.state_bind_ok hWrite]
  exact ⟨leaves_of_works (WlCopy.result_ok.mp hWrite) _, rfl⟩

end Kept

end VoxType.Desktop
