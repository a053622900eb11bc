import VoxType.Grammar.Report
import VoxType.Grammar.EffectiveCandidates

/-!
# Reports are well formed

The edits of a report follow each other, match the text, and can be applied in
any selection. A report without edits is one that suggests the text itself.
-/

namespace VoxType.Grammar

set_option autoImplicit false

open ByteText

/-- What holds between a text and the report made of it. -/
structure GrammarReport.WellFormed (text : Text) (report : GrammarReport) : Prop where
  ordered : Ordered report.edits
  matching : ∀ edit ∈ report.edits, edit.Matches text
  applicable : ∀ edits, edits.Sublist report.edits → (applyEdits text edits).isSome = true
  complete : applyEdits text report.edits = some report.suggested
  applied : applyReport text report = some report.suggested
  clean_iff : report.clean = true ↔ report.edits = []
  unchanged_iff : report.edits = [] ↔ report.suggested = text

section Selection

variable {text : Text}

/-- A candidate that can be selected by itself. -/
def Candidate.Proper (text : Text) (candidate : Candidate) : Prop :=
  candidate.start < candidate.end ∧ isBoundary text candidate.start = true ∧
    isBoundary text candidate.end = true

def Apart (a b : Candidate) : Prop := a.end ≤ b.start ∨ b.end ≤ a.start

theorem Apart.symm {a b : Candidate} (h : Apart a b) : Apart b a := Or.symm h

theorem isSelectable_iff {selected : List Candidate} {candidate : Candidate} :
    isSelectable text selected candidate = true ↔
      candidate.Proper text ∧ ∀ edit ∈ selected, Apart edit candidate := by
  simp only [isSelectable, rangesOverlap, Candidate.Proper, Apart, Bool.not_eq_true',
    Bool.or_eq_false_iff, decide_eq_false_iff_not, Nat.not_le, Bool.not_eq_false',
    List.any_eq_false, Bool.and_eq_true, decide_eq_true_iff, not_and, Nat.not_lt]
  constructor
  · rintro ⟨⟨⟨hNonempty, hStart⟩, hEnd⟩, hApart⟩
    refine ⟨⟨hNonempty, hStart, hEnd⟩, fun edit hEdit => ?_⟩
    have h := hApart edit hEdit
    omega
  · rintro ⟨⟨hNonempty, hStart, hEnd⟩, hApart⟩
    refine ⟨⟨⟨hNonempty, hStart⟩, hEnd⟩, fun edit hEdit => ?_⟩
    have h := hApart edit hEdit
    omega

theorem select_forall {P : Candidate → Prop} {rest selected : List Candidate}
    (hSelected : ∀ candidate ∈ selected, P candidate)
    (hRest : ∀ candidate ∈ rest, candidate.Proper text → P candidate) :
    ∀ candidate ∈ select text selected rest, P candidate := by
  induction rest generalizing selected with
  | nil => exact hSelected
  | cons first rest ih =>
    rw [List.forall_mem_cons] at hRest
    rw [select]
    split
    case isTrue hSelectable =>
      refine ih (fun candidate hCandidate => ?_) hRest.2
      rcases List.mem_append.mp hCandidate with hBefore | hFirst
      · exact hSelected candidate hBefore
      · rw [List.mem_singleton] at hFirst
        exact hFirst ▸ hRest.1 (isSelectable_iff.mp hSelectable).1
    case isFalse => exact ih hSelected hRest.2

theorem select_apart {rest selected : List Candidate} (h : selected.Pairwise Apart) :
    (select text selected rest).Pairwise Apart := by
  induction rest generalizing selected with
  | nil => exact h
  | cons first rest ih =>
    rw [select]
    split
    case isTrue hSelectable =>
      refine ih (List.pairwise_append.mpr ⟨h, List.pairwise_singleton _ _, ?_⟩)
      intro edit hEdit candidate hCandidate
      rw [List.mem_singleton] at hCandidate
      exact hCandidate ▸ (isSelectable_iff.mp hSelectable).2 edit hEdit
    case isFalse => exact ih h

variable {isAlphanumeric : Char → Bool}

instance : Std.Total startLe := ⟨fun _ _ => Nat.le_total _ _⟩

instance : IsTrans Candidate startLe := ⟨fun _ _ _ => Nat.le_trans⟩

theorem selection_forall {candidate : Candidate} (h : candidate ∈ selection isAlphanumeric text) :
    candidate ∈ candidates isAlphanumeric text ∧ candidate.Proper text := by
  rw [selection, List.mem_insertionSort] at h
  refine select_forall (P := fun candidate =>
    candidate ∈ candidates isAlphanumeric text ∧ candidate.Proper text) ?_ ?_ candidate h
  · intro candidate hCandidate
    cases hCandidate
  · intro candidate hCandidate hProper
    rw [List.mem_insertionSort] at hCandidate
    exact ⟨hCandidate, hProper⟩

/-- The selection in the order of the text: each ends before the next starts. -/
theorem selection_pairwise :
    (selection isAlphanumeric text).Pairwise fun first second => first.end ≤ second.start := by
  have hApart : (selection isAlphanumeric text).Pairwise Apart :=
    ((List.perm_insertionSort startLe _).pairwise_iff Apart.symm).mpr
      (select_apart List.Pairwise.nil)
  have hSorted : (selection isAlphanumeric text).Pairwise startLe :=
    List.pairwise_insertionSort startLe _
  refine (hApart.and hSorted).imp_of_mem ?_
  rintro first second hFirst hSecond ⟨hBefore | hAfter, hLe⟩
  · exact hBefore
  · have hNonempty := (selection_forall hSecond).2.1
    rw [startLe] at hLe
    omega

end Selection

section Edits

theorem Candidate.Proper.matches {text : Text} {candidate : Candidate} (h : candidate.Proper text) :
    (cleanupEdit text candidate).Matches text where
  nonempty := h.1
  start_boundary := h.2.1
  end_boundary := h.2.2
  original := if_pos ⟨h.1.le, h.2.1, h.2.2⟩

variable (isAlphanumeric : Char → Bool) (text : Text)

theorem check_edits :
    (check isAlphanumeric text).edits = (selection isAlphanumeric text).map (cleanupEdit text) := by
  simp only [check]

theorem check_clean :
    (check isAlphanumeric text).clean = (check isAlphanumeric text).edits.isEmpty := by
  simp only [check]

/-- A report is about its own text. -/
theorem applyReport_check : applyReport text (check isAlphanumeric text) =
    applyEdits text (check isAlphanumeric text).edits := by
  simp only [applyReport, check, ne_eq, not_true_eq_false, or_self, if_false]

theorem check_ordered : Ordered (check isAlphanumeric text).edits := by
  rw [check_edits]
  exact List.pairwise_map.mpr selection_pairwise

variable {isAlphanumeric text}

theorem check_matches {edit : CleanupEdit} (h : edit ∈ (check isAlphanumeric text).edits) :
    edit.Matches text := by
  rw [check_edits] at h
  obtain ⟨candidate, hCandidate, rfl⟩ := List.mem_map.mp h
  exact (selection_forall hCandidate).2.matches

theorem check_effective {edit : CleanupEdit} (h : edit ∈ (check isAlphanumeric text).edits) :
    ByteText.Effective edit.original edit.replacement := by
  rw [check_edits] at h
  obtain ⟨candidate, hCandidate, rfl⟩ := List.mem_map.mp h
  obtain ⟨hGenerated, hNonempty, hStart, hEnd⟩ := selection_forall hCandidate
  exact candidates_effective hGenerated hNonempty hStart hEnd

end Edits

theorem check_applyEdits (isAlphanumeric : Char → Bool) (text : Text) :
    applyEdits text (check isAlphanumeric text).edits =
      some (editedFrom text 0 (check isAlphanumeric text).edits) :=
  applyEdits_of_matches (fun _ => check_matches) (check_ordered isAlphanumeric text)

theorem check_suggested (isAlphanumeric : Char → Bool) (text : Text) :
    (check isAlphanumeric text).suggested =
      editedFrom text 0 (check isAlphanumeric text).edits := by
  have hSuggested : (check isAlphanumeric text).suggested =
      (applyEdits text (check isAlphanumeric text).edits).getD text := by
    simp only [check]
  rw [hSuggested, check_applyEdits, Option.getD_some]

theorem check_wellFormed (isAlphanumeric : Char → Bool) (text : Text) :
    (check isAlphanumeric text).WellFormed text := by
  have hOrdered := check_ordered isAlphanumeric text
  have hComplete : applyEdits text (check isAlphanumeric text).edits =
      some (check isAlphanumeric text).suggested := by
    rw [check_applyEdits, check_suggested]
  constructor
  case ordered => exact hOrdered
  case matching => exact fun _ => check_matches
  case applicable =>
    intro edits hSublist
    rw [applyEdits_of_matches (fun edit hEdit => check_matches (hSublist.subset hEdit))
      (hOrdered.sublist hSublist)]
    rfl
  case complete => exact hComplete
  case applied =>
    rw [applyReport_check]
    exact hComplete
  case clean_iff => rw [check_clean, List.isEmpty_iff]
  case unchanged_iff =>
    rw [check_suggested]
    constructor
    · intro hNone
      rw [hNone]
      exact drop_zero text
    · exact edits_eq_nil_of_unchanged (fun _ => check_matches) hOrdered fun _ => check_effective

end VoxType.Grammar
