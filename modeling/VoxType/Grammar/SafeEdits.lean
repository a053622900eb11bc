import VoxType.Grammar.Spans
import VoxType.Grammar.WellFormed

/-!
# Safe edits

An edit marked as safe removes horizontal whitespace, where that separates no
words: at the ends of a text, or before a punctuation character.
-/

namespace VoxType.Grammar

set_option autoImplicit false

open ByteText

/-- The characters other than horizontal whitespace. -/
def visible (text : Text) : Text := text.filter fun c => !isHorizontalWhitespace c

structure CleanupEdit.OnlyRemoves (text : Text) (edit : CleanupEdit) : Prop where
  blank : ∀ c ∈ edit.original, isHorizontalWhitespace c = true
  replacement : edit.replacement = []
  place : edit.startByte = 0 ∨ edit.endByte = size text ∨
    ∃ c, (edit.endByte, c) ∈ charIndices text ∧ isSentencePunctuation c = true

section Generators

variable {isAlphanumeric : Char → Bool} {text : Text} {candidate : Candidate}

theorem repeatedWord_rated {previous current : Span}
    (h : repeatedWord isAlphanumeric text previous current = some candidate) :
    candidate.Rated .review 1 := by
  unfold repeatedWord at h
  split at h
  · split at h
    · cases h
      exact ⟨rfl, rfl⟩
    · cases h
  · cases h

theorem repeatedWords_rated (h : candidate ∈ repeatedWords isAlphanumeric text) :
    candidate.Rated .review 1 := by
  obtain ⟨pair, -, hPair⟩ := List.mem_filterMap.mp h
  exact repeatedWord_rated hPair

theorem sentenceCase_capitalizes (h : candidate ∈ sentenceCase text) :
    ∃ index c, (index, c) ∈ charIndices text ∧
      candidate.Capitalizes (protectedTokenSpans text) index c :=
  mem_sentenceCaseFrom h

/-- Two generators make safe candidates, and these remove whitespace. -/
theorem removes_of_safe (h : candidate ∈ candidates isAlphanumeric text)
    (hSafe : candidate.safety = .safe) : ∃ span, candidate.Removes text span := by
  have hNotReview : ∀ {priority}, ¬candidate.Rated .review priority := by
    rintro priority ⟨hReview, -⟩
    cases hSafe.symm.trans hReview
  simp only [candidates, List.mem_append] at h
  rcases h with ((((hOuter | hWords) | hSpacing) | hPunctuation) | hWhitespace) | hSentence
  · exact (outerHorizontalWhitespace_removes hOuter).2
  · exact absurd (repeatedWords_rated hWords) hNotReview
  · exact (punctuationSpacing_removes hSpacing).2
  · exact absurd (repeatedPunctuation_part hPunctuation).1 hNotReview
  · exact absurd (repeatedHorizontalWhitespace_part hWhitespace).2.1 hNotReview
  · obtain ⟨index, c, -, hCapitalizes⟩ := sentenceCase_capitalizes hSentence
    exact absurd hCapitalizes.rated hNotReview

theorem onlyRemoves_of_safe {edit : CleanupEdit} (h : edit ∈ (check isAlphanumeric text).edits)
    (hSafe : edit.safety = .safe) : edit.OnlyRemoves text := by
  rw [check_edits] at h
  obtain ⟨candidate, hCandidate, rfl⟩ := List.mem_map.mp h
  obtain ⟨span, hRemoves⟩ := removes_of_safe (selection_forall hCandidate).1 hSafe
  refine ⟨fun c hMem => ?_, hRemoves.replacement, hRemoves.place⟩
  refine hRemoves.blank c ?_
  rw [← hRemoves.part.slice_eq]
  exact hMem

end Generators

section Applying

variable {text : Text} {edits : List CleanupEdit}

/-- Edits that keep the characters in question keep those of the whole text. -/
theorem filter_editedFrom {p : Char → Bool} (hMatches : ∀ edit ∈ edits, edit.Matches text)
    (hOrdered : Ordered edits)
    (hKept : ∀ edit ∈ edits, edit.replacement.filter p = edit.original.filter p) :
    (editedFrom text 0 edits).filter p = text.filter p := by
  have hSource := drop_eq_source hMatches hOrdered (isBoundary_zero text) fun _ _ => Nat.zero_le _
  rw [drop_zero] at hSource
  rw [editedFrom_eq_target]
  refine (filter_target ?_ _).trans (congrArg _ hSource.symm)
  intro patch hPatch
  obtain ⟨edit, hEdit, hOriginal, hReplacement⟩ := mem_patchesFrom hPatch
  rw [hOriginal, hReplacement]
  exact hKept edit hEdit

end Applying

theorem check_safe (isAlphanumeric : Char → Bool) (text : Text) :
    (∀ edits, edits.Sublist
        ((check isAlphanumeric text).edits.filter fun edit => edit.safety == .safe) →
      ∃ result, applyEdits text edits = some result ∧ visible result = visible text) ∧
    ∀ edit ∈ (check isAlphanumeric text).edits, edit.safety = .safe → edit.OnlyRemoves text := by
  refine ⟨fun edits hSublist => ?_, fun _ => onlyRemoves_of_safe⟩
  have hSafe : ∀ edit ∈ edits,
      edit ∈ (check isAlphanumeric text).edits ∧ edit.safety = .safe := by
    intro edit hEdit
    obtain ⟨hChecked, hLabel⟩ := List.mem_filter.mp (hSublist.subset hEdit)
    exact ⟨hChecked, eq_of_beq hLabel⟩
  have hMatches : ∀ edit ∈ edits, edit.Matches text := fun edit hEdit =>
    check_matches (hSafe edit hEdit).1
  have hOrdered : Ordered edits :=
    (check_ordered isAlphanumeric text).sublist (hSublist.trans List.filter_sublist)
  refine ⟨_, applyEdits_of_matches hMatches hOrdered,
    filter_editedFrom hMatches hOrdered fun edit hEdit => ?_⟩
  obtain ⟨hChecked, hLabel⟩ := hSafe edit hEdit
  have hRemoves := onlyRemoves_of_safe hChecked hLabel
  rw [hRemoves.replacement, List.filter_nil, eq_comm, List.filter_eq_nil_iff]
  intro c hMem
  rw [hRemoves.blank c hMem]
  exact Bool.false_ne_true

end VoxType.Grammar
