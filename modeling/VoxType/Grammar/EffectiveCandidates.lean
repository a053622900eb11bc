import VoxType.Grammar.Candidates

/-!
# Candidates change the text

Five generators shorten the span they replace. The sixth puts one ASCII letter
for another. Nothing is assumed of the characters that count as alphanumeric.
-/

namespace VoxType.Grammar

set_option autoImplicit false

open ByteText

def Candidate.Effective (text : Text) (candidate : Candidate) : Prop :=
  candidate.start < candidate.end → isBoundary text candidate.start = true →
    isBoundary text candidate.end = true →
      ByteText.Effective (slice text candidate.start candidate.end) candidate.replacement

/-- The safety and the priority that a generator gives to its candidates. -/
def Candidate.Rated (candidate : Candidate) (safety : EditSafety) (priority : Nat) : Prop :=
  candidate.safety = safety ∧ candidate.priority = priority

section Shorter

variable {text : Text}

theorem effective_of_size_lt {candidate : Candidate}
    (h : candidate.start < candidate.end →
      size candidate.replacement < candidate.end - candidate.start) : candidate.Effective text := by
  intro hNonempty hStart hEnd
  left
  rw [size_slice hStart hEnd hNonempty.le]
  exact h hNonempty

theorem effective_of_empty {candidate : Candidate} (h : candidate.replacement = []) :
    candidate.Effective text := by
  refine effective_of_size_lt fun hNonempty => ?_
  rw [h, size_nil]
  omega

theorem outerHorizontalWhitespace_effective {candidate : Candidate}
    (h : candidate ∈ outerHorizontalWhitespace text) : candidate.Effective text := by
  refine effective_of_empty ?_
  unfold outerHorizontalWhitespace at h
  rcases List.mem_append.mp h with hLeading | hTrailing
  · split at hLeading
    · exact List.mem_singleton.mp hLeading ▸ rfl
    · cases hLeading
  · split at hTrailing
    · exact List.mem_singleton.mp hTrailing ▸ rfl
    · cases hTrailing

theorem repeatedWord_replacement {isAlphanumeric : Char → Bool} {previous current : Span}
    {candidate : Candidate} (h : repeatedWord isAlphanumeric text previous current = some candidate) :
    candidate.replacement = [] := by
  unfold repeatedWord at h
  split at h
  · split at h
    · cases h
      rfl
    · cases h
  · cases h

theorem repeatedWords_effective {isAlphanumeric : Char → Bool} {candidate : Candidate}
    (h : candidate ∈ repeatedWords isAlphanumeric text) : candidate.Effective text := by
  obtain ⟨pair, -, hPair⟩ := List.mem_filterMap.mp h
  exact effective_of_empty (repeatedWord_replacement hPair)

theorem punctuationSpacing_effective {candidate : Candidate}
    (h : candidate ∈ punctuationSpacing text) : candidate.Effective text := by
  refine effective_of_empty ?_
  obtain ⟨entry, -, hEntry⟩ := List.mem_flatMap.mp h
  dsimp only at hEntry
  split at hEntry
  · cases hEntry
  · split at hEntry
    · exact List.mem_singleton.mp hEntry ▸ rfl
    · cases hEntry

end Shorter

section Runs

/-- Characters one after the other, the first at a position. -/
def Consecutive : Nat → List (Nat × Char) → Prop
  | _, [] => True
  | position, (index, c) :: rest => index = position ∧ Consecutive (position + c.utf8Size) rest

theorem consecutive_charIndicesFrom (text : Text) (sentinel : Char) (position : Nat) :
    Consecutive position (charIndicesFrom position text ++ [(position + size text, sentinel)]) := by
  induction text generalizing position with
  | nil => exact ⟨rfl, trivial⟩
  | cons c rest ih =>
    refine ⟨rfl, ?_⟩
    rw [size_cons, ← Nat.add_assoc]
    exact ih (position + c.utf8Size)

theorem consecutive_withSentinel (text : Text) (sentinel : Char) :
    Consecutive 0 (withSentinel text sentinel) := by
  have h := consecutive_charIndicesFrom text sentinel 0
  rw [Nat.zero_add] at h
  exact h

/-- The run ends at the position. -/
def RunEnds (position : Nat) : Option (Nat × Char × Nat) → Prop
  | none => True
  | some (start, previous, count) => position = start + count * previous.utf8Size

theorem size_punctuationReplacement_le (c : Char) : size (punctuationReplacement c) ≤ c.utf8Size := by
  rw [punctuationReplacement]
  split
  · exact Nat.le_refl _
  · exact Nat.zero_le _

theorem repeatedPunctuationFrom_shorter {entries : List (Nat × Char)} {position : Nat}
    {run : Option (Nat × Char × Nat)} {candidate : Candidate}
    (hConsecutive : Consecutive position entries) (hRun : RunEnds position run)
    (h : candidate ∈ repeatedPunctuationFrom run entries) :
    size candidate.replacement < candidate.end - candidate.start := by
  induction entries generalizing position run with
  | nil => rcases run with _ | ⟨start, previous, count⟩ <;> cases h
  | cons entry rest ih =>
    obtain ⟨index, c⟩ := entry
    obtain ⟨rfl, hRest⟩ := hConsecutive
    have hFresh : RunEnds (index + c.utf8Size) (some (index, c, 1)) := by
      rw [RunEnds, Nat.one_mul]
    rcases run with _ | ⟨start, previous, count⟩
    · exact ih hRest hFresh h
    · rw [RunEnds] at hRun
      rw [repeatedPunctuationFrom] at h
      split at h
      case isTrue hSame =>
        subst hSame
        refine ih hRest ?_ h
        rw [RunEnds, Nat.add_mul, Nat.one_mul, ← Nat.add_assoc, ← hRun]
      case isFalse =>
        rcases List.mem_append.mp h with hHere | hLater
        · split at hHere
          case isTrue hCollapses =>
            rw [List.mem_singleton] at hHere
            subst hHere
            rw [Bool.and_eq_true, decide_eq_true_iff] at hCollapses
            have hReplacement := size_punctuationReplacement_le previous
            have hPositive := previous.utf8Size_pos
            have hTwice := Nat.mul_le_mul_right previous.utf8Size hCollapses.1
            change size (punctuationReplacement previous) < index - start
            omega
          case isFalse => cases hHere
        · exact ih hRest hFresh hLater

theorem repeatedPunctuation_effective {text : Text} {candidate : Candidate}
    (h : candidate ∈ repeatedPunctuation text) : candidate.Effective text :=
  effective_of_size_lt fun _ =>
    repeatedPunctuationFrom_shorter (consecutive_withSentinel text '\x00')
      (show RunEnds 0 none from trivial) h

theorem repeatedHorizontalWhitespaceFrom_shorter {text : Text} {entries : List (Nat × Char)}
    {runStart : Option Nat} {candidate : Candidate}
    (h : candidate ∈ repeatedHorizontalWhitespaceFrom text runStart entries) :
    candidate.replacement = [' '] ∧ 1 < (slice text candidate.start candidate.end).length := by
  induction entries generalizing runStart with
  | nil => cases h
  | cons entry rest ih =>
    unfold repeatedHorizontalWhitespaceFrom at h
    split at h
    case isTrue => exact ih h
    case isFalse =>
      rcases runStart with _ | start
      · exact ih h
      · rcases List.mem_append.mp h with hHere | hLater
        · split at hHere
          case isTrue hCollapses =>
            rw [List.mem_singleton] at hHere
            subst hHere
            exact ⟨rfl, hCollapses.1⟩
          case isFalse => cases hHere
        · exact ih hLater

theorem repeatedHorizontalWhitespace_effective {text : Text} {candidate : Candidate}
    (h : candidate ∈ repeatedHorizontalWhitespace text) : candidate.Effective text := by
  obtain ⟨hReplacement, hLength⟩ := repeatedHorizontalWhitespaceFrom_shorter h
  intro _ _ _
  left
  rw [hReplacement]
  exact hLength.trans_le (length_le_size _)

end Runs

section SentenceCase

theorem forall_lowercase {P : Char → Prop} (hAll : ∀ n : Fin 26, P (Char.ofNat (97 + n))) {c : Char}
    (h : isAsciiLowercase c = true) : P c := by
  rw [isAsciiLowercase, Bool.and_eq_true, decide_eq_true_iff, decide_eq_true_iff] at h
  have hChar := hAll ⟨c.toNat - 97, by omega⟩
  rw [show 97 + (c.toNat - 97) = c.toNat by omega, Char.ofNat_toNat] at hChar
  exact hChar

theorem toUpper_of_lowercase {c : Char} (h : isAsciiLowercase c = true) :
    c.toUpper ≠ c ∧ c.toUpper.utf8Size = c.utf8Size :=
  forall_lowercase (P := fun c => c.toUpper ≠ c ∧ c.toUpper.utf8Size = c.utf8Size) (by decide) h

/-- The candidate is about one lowercase letter outside the protected spans. -/
structure Candidate.Capitalizes (protectedSpans : List Span) (index : Nat) (c : Char)
    (candidate : Candidate) : Prop where
  lowercase : isAsciiLowercase c = true
  start : candidate.start = index
  «end» : candidate.end = index + c.utf8Size
  replacement : candidate.replacement = uppercaseAscii c
  rated : candidate.Rated .review 5
  unprotected : ∀ span ∈ protectedSpans, span.start ≤ index → span.end ≤ index

theorem mem_sentenceCaseFrom {protectedSpans : List Span} {sentenceStart : Bool}
    {entries : List (Nat × Char)} {candidate : Candidate}
    (h : candidate ∈ sentenceCaseFrom protectedSpans sentenceStart entries) :
    ∃ index c, (index, c) ∈ entries ∧ candidate.Capitalizes protectedSpans index c := by
  induction entries generalizing sentenceStart with
  | nil => cases h
  | cons entry rest ih =>
    have hLater : ∀ {sentenceStart : Bool},
        candidate ∈ sentenceCaseFrom protectedSpans sentenceStart rest → ∃ index c,
          (index, c) ∈ entry :: rest ∧ candidate.Capitalizes protectedSpans index c := by
      intro sentenceStart hRest
      obtain ⟨index, c, hEntry, hCandidate⟩ := ih hRest
      exact ⟨index, c, List.mem_cons_of_mem _ hEntry, hCandidate⟩
    rw [sentenceCaseFrom] at h
    split at h
    case isTrue => exact hLater h
    case isFalse hProtected =>
      split at h
      · split at h
        case isTrue hLowercase =>
          rcases List.mem_cons.mp h with rfl | hRest
          · refine ⟨entry.1, entry.2, List.mem_cons_self, hLowercase, rfl, rfl, rfl, ⟨rfl, rfl⟩, ?_⟩
            simpa using hProtected
          · exact hLater hRest
        case isFalse => exact hLater h
      · exact hLater h

theorem sentenceCase_effective {text : Text} {candidate : Candidate}
    (h : candidate ∈ sentenceCase text) : candidate.Effective text := by
  obtain ⟨index, c, hEntry, hCandidate⟩ := mem_sentenceCaseFrom h
  obtain ⟨hDiffer, hSame⟩ := toUpper_of_lowercase hCandidate.lowercase
  intro _ _ _
  right
  refine ⟨c, c.toUpper, ?_, ?_, hDiffer.symm, hSame⟩
  · rw [hCandidate.start, hCandidate.end, slice_charIndices hEntry]
  · rw [hCandidate.replacement, uppercaseAscii, if_pos hCandidate.lowercase]

end SentenceCase

theorem candidates_effective {isAlphanumeric : Char → Bool} {text : Text} {candidate : Candidate}
    (h : candidate ∈ candidates isAlphanumeric text) : candidate.Effective text := by
  simp only [candidates, List.mem_append] at h
  rcases h with ((((hOuter | hWords) | hSpacing) | hPunctuation) | hWhitespace) | hSentence
  · exact outerHorizontalWhitespace_effective hOuter
  · exact repeatedWords_effective hWords
  · exact punctuationSpacing_effective hSpacing
  · exact repeatedPunctuation_effective hPunctuation
  · exact repeatedHorizontalWhitespace_effective hWhitespace
  · exact sentenceCase_effective hSentence

end VoxType.Grammar
