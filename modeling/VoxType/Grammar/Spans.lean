import VoxType.Library.TextParts
import VoxType.Grammar.EffectiveCandidates

/-!
# The spans of candidates

Which characters stand where a candidate of each generator would replace them.
-/

namespace VoxType.Grammar

set_option autoImplicit false

open ByteText

theorem charIndicesFrom_append (left right : Text) (position : Nat) :
    charIndicesFrom position (left ++ right) =
      charIndicesFrom position left ++ charIndicesFrom (position + size left) right := by
  induction left generalizing position with
  | nil => rfl
  | cons c left ih =>
    rw [List.cons_append, charIndicesFrom, ih, charIndicesFrom, List.cons_append, size_cons,
      Nat.add_assoc]

section Edges

theorem leadingEnd_from (text : Text) (position : Nat) :
    ((((charIndicesFrom position text).takeWhile fun entry => isHorizontalWhitespace entry.2).map
      fun entry => entry.1 + entry.2.utf8Size).getLast?).getD position =
        position + size (text.takeWhile isHorizontalWhitespace) := by
  induction text generalizing position with
  | nil => rfl
  | cons c rest ih =>
    rw [charIndicesFrom, List.takeWhile_cons, List.takeWhile_cons]
    dsimp only
    split
    case isTrue =>
      rw [List.map_cons, List.getLast?_cons, Option.getD_some, ih, size_cons, Nat.add_assoc]
    case isFalse => rfl

theorem trailingStart_snoc (text : Text) (c : Char) :
    trailingStart (text ++ [c]) =
      if isHorizontalWhitespace c then trailingStart text else size (text ++ [c]) := by
  rw [trailingStart, charIndices, charIndicesFrom_append, charIndicesFrom, charIndicesFrom,
    List.reverse_append, List.reverse_singleton, List.singleton_append, List.takeWhile_cons]
  dsimp only
  split
  case isTrue =>
    rw [List.map_cons, List.getLast?_cons, Option.getD_some, Nat.zero_add]
    rfl
  case isFalse => rfl

/-- What stands behind `trailing_start` is horizontal whitespace. -/
theorem trailingStart_split (text : Text) :
    ∃ left right, text = left ++ right ∧ trailingStart text = size left ∧
      ∀ c ∈ right, isHorizontalWhitespace c = true := by
  induction text using List.reverseRecOn with
  | nil => exact ⟨[], [], rfl, rfl, nofun⟩
  | append_singleton text c ih =>
    rw [trailingStart_snoc]
    split
    case isTrue hSpace =>
      obtain ⟨left, right, rfl, hStart, hRight⟩ := ih
      refine ⟨left, right ++ [c], List.append_assoc _ _ _, hStart, fun d hMem => ?_⟩
      rcases List.mem_append.mp hMem with hBefore | hLast
      · exact hRight d hBefore
      · exact List.mem_singleton.mp hLast ▸ hSpace
    case isFalse => exact ⟨text ++ [c], [], (List.append_nil _).symm, rfl, nofun⟩

end Edges

section Removals

variable {text : Text} {candidate : Candidate}

/-- Horizontal whitespace at an end of the text, or before a punctuation character. -/
structure Candidate.Removes (text : Text) (candidate : Candidate) (span : Text) : Prop where
  part : IsPart text candidate.start candidate.end span
  blank : ∀ c ∈ span, isHorizontalWhitespace c = true
  replacement : candidate.replacement = []
  place : candidate.start = 0 ∨ candidate.end = size text ∨
    ∃ c, (candidate.end, c) ∈ charIndices text ∧ isSentencePunctuation c = true

theorem outerHorizontalWhitespace_removes (h : candidate ∈ outerHorizontalWhitespace text) :
    (candidate.Rated .safe 0 ∧ (candidate.start = 0 ∨ candidate.end = size text)) ∧
      ∃ span, candidate.Removes text span := by
  have hLeading := leadingEnd_from text 0
  rw [Nat.zero_add] at hLeading
  unfold outerHorizontalWhitespace charIndices at h
  dsimp only at h
  rw [hLeading] at h
  rcases List.mem_append.mp h with hFirst | hLast
  · split at hFirst
    · rw [List.mem_singleton] at hFirst
      subst hFirst
      refine ⟨⟨⟨rfl, rfl⟩, .inl rfl⟩, text.takeWhile isHorizontalWhitespace,
        ⟨[], text.dropWhile isHorizontalWhitespace, List.takeWhile_append_dropWhile.symm, rfl,
          Nat.zero_add _⟩, fun c hc => ?_, rfl, .inl rfl⟩
      exact List.mem_takeWhile_imp hc
    · cases hFirst
  · split at hLast
    · rw [List.mem_singleton] at hLast
      subst hLast
      obtain ⟨left, right, rfl, hStart, hRight⟩ := trailingStart_split text
      exact ⟨⟨⟨rfl, rfl⟩, .inr rfl⟩, right,
        ⟨left, [], by rw [List.append_nil], hStart.symm, (size_append _ _).symm⟩, hRight, rfl,
        .inr (.inl rfl)⟩
    · cases hLast

theorem mem_charIndices_of_split (left right : Text) (c : Char) :
    (size left, c) ∈ charIndices (left ++ c :: right) := by
  rw [charIndices, charIndicesFrom_append, Nat.zero_add, charIndicesFrom]
  exact List.mem_append_right _ List.mem_cons_self

theorem punctuationSpacing_removes (h : candidate ∈ punctuationSpacing text) :
    candidate.Rated .safe 2 ∧ ∃ span, candidate.Removes text span := by
  obtain ⟨⟨index, c⟩, hEntry, hCandidate⟩ := List.mem_flatMap.mp h
  obtain ⟨before, after, rfl, rfl⟩ := mem_charIndicesFrom hEntry
  dsimp only at hCandidate
  rw [Nat.zero_add, take_size] at hCandidate
  split at hCandidate
  case isTrue => cases hCandidate
  case isFalse hPunctuation =>
    rw [Bool.not_eq_true', Bool.not_eq_false] at hPunctuation
    split at hCandidate
    · rw [List.mem_singleton] at hCandidate
      subst hCandidate
      obtain ⟨left, right, rfl, hStart, hRight⟩ := trailingStart_split before
      refine ⟨⟨rfl, rfl⟩, right, ⟨left, c :: after, List.append_assoc _ _ _, hStart.symm,
        (size_append _ _).symm⟩, hRight, rfl, .inr (.inr ⟨c, ?_, hPunctuation⟩)⟩
      exact mem_charIndices_of_split (left ++ right) after c
    · cases hCandidate

end Removals

section Runs

variable {text : Text} {candidate : Candidate}

/-- The candidate replaces horizontal whitespace by a space. -/
def Candidate.Shortens (text : Text) (candidate : Candidate) : Prop :=
  candidate.replacement = [' '] ∧ candidate.Rated .review 4 ∧
    ∃ span, IsPart text candidate.start candidate.end span ∧
      ∀ c ∈ span, isHorizontalWhitespace c = true

/-- The candidate replaces a run of one punctuation character by the character. -/
def Candidate.Collapses (text : Text) (candidate : Candidate) : Prop :=
  candidate.Rated .review 3 ∧ ∃ c n, IsPart text candidate.start candidate.end (List.replicate n c) ∧
    1 < n ∧ isCollapsiblePunctuation c = true ∧ candidate.replacement = [c]

/-- The whitespace read since a run started at `size left`. -/
def BlankRun (left run : Text) : Option Nat → Prop
  | none => run = []
  | some start => start = size left ∧ ∀ c ∈ run, isHorizontalWhitespace c = true

theorem repeatedHorizontalWhitespaceFrom_part {left run rest : Text} {runStart : Option Nat}
    (hText : text = left ++ (run ++ rest)) (hRun : BlankRun left run runStart)
    (h : candidate ∈ repeatedHorizontalWhitespaceFrom text runStart
      (charIndicesFrom (size left + size run) rest ++ [(size text, '\x00')])) :
    candidate.Shortens text := by
  induction rest generalizing left run runStart with
  | nil =>
    rw [charIndicesFrom, List.nil_append] at h
    unfold repeatedHorizontalWhitespaceFrom at h
    rw [if_neg (by decide)] at h
    cases runStart with
    | none => cases h
    | some start =>
      dsimp only at h
      rw [if_neg (by omega)] at h
      cases h
  | cons c rest ih =>
    rw [charIndicesFrom, List.cons_append] at h
    unfold repeatedHorizontalWhitespaceFrom at h
    split at h
    case isTrue hSpace =>
      cases runStart with
      | none =>
        have hEmpty : run = [] := hRun
        subst hEmpty
        refine @ih left [c] (some _) hText ⟨rfl, fun d hMem => ?_⟩ ?_
        · exact List.mem_singleton.mp hMem ▸ hSpace
        · rw [size_cons, size_nil, Nat.add_zero]
          exact h
      | some start =>
        refine @ih left (run ++ [c]) (some start) ?_ ⟨hRun.1, fun d hMem => ?_⟩ ?_
        · rw [hText, List.append_assoc, List.singleton_append]
        · rcases List.mem_append.mp hMem with hBefore | hLast
          · exact hRun.2 d hBefore
          · exact List.mem_singleton.mp hLast ▸ hSpace
        · rw [size_append, size_cons, size_nil, Nat.add_zero, ← Nat.add_assoc]
          exact h
    case isFalse =>
      have hLater : candidate ∈ repeatedHorizontalWhitespaceFrom text none
          (charIndicesFrom (size left + size run + c.utf8Size) rest ++ [(size text, '\x00')]) →
            candidate.Shortens text := by
        intro hRest
        refine @ih (left ++ (run ++ [c])) [] none ?_ rfl ?_
        · rw [hText, List.append_assoc, List.append_assoc, List.singleton_append, List.nil_append]
        · rw [size_append, size_append, size_cons, size_nil, Nat.add_zero, Nat.add_zero,
            ← Nat.add_assoc]
          exact hRest
      cases runStart with
      | none => exact hLater h
      | some start =>
        rcases List.mem_append.mp h with hHere | hRest
        · split at hHere
          · rw [List.mem_singleton] at hHere
            subst hHere
            exact ⟨rfl, ⟨rfl, rfl⟩, run, ⟨left, c :: rest, hText, hRun.1.symm, rfl⟩, hRun.2⟩
          · cases hHere
        · exact hLater hRest

theorem repeatedHorizontalWhitespace_part (h : candidate ∈ repeatedHorizontalWhitespace text) :
    candidate.Shortens text := by
  refine @repeatedHorizontalWhitespaceFrom_part text candidate [] [] text none rfl rfl ?_
  rw [size_nil]
  exact h

/-- The run ends here: its candidate is about its own characters. -/
theorem repeatedPunctuation_run {left rest : Text} {previous : Char} {count : Nat}
    (hText : text = left ++ (List.replicate count previous ++ rest))
    (h : candidate ∈ if 1 < count && isCollapsiblePunctuation previous then
        [{ start := size left, «end» := size left + size (List.replicate count previous),
           replacement := punctuationReplacement previous,
           ruleId := "cleanup.repeated-punctuation", message := "Collapse repeated punctuation",
           safety := .review, confidence := .medium, priority := 3 : Candidate }]
      else []) :
    candidate.Collapses text := by
  split at h
  case isTrue hCollapses =>
    rw [List.mem_singleton] at h
    subst h
    rw [Bool.and_eq_true, decide_eq_true_iff] at hCollapses
    refine ⟨⟨rfl, rfl⟩, previous, count, ⟨left, rest, hText, rfl, rfl⟩, hCollapses.1,
      hCollapses.2, ?_⟩
    exact if_pos hCollapses.2
  case isFalse => cases h

theorem repeatedPunctuationFrom_part {left rest : Text} {previous : Char} {count : Nat}
    (hText : text = left ++ (List.replicate count previous ++ rest))
    (h : candidate ∈ repeatedPunctuationFrom (some (size left, previous, count))
      (charIndicesFrom (size left + size (List.replicate count previous)) rest ++
        [(size text, '\x00')])) :
    candidate.Collapses text := by
  induction rest generalizing left previous count with
  | nil =>
    rw [charIndicesFrom, List.nil_append, repeatedPunctuationFrom] at h
    split at h
    · cases h
    · have hSize : size text = size left + size (List.replicate count previous) := by
        rw [hText, List.append_nil, size_append]
      rw [repeatedPunctuationFrom, List.append_nil, hSize] at h
      exact repeatedPunctuation_run hText h
  | cons c rest ih =>
    rw [charIndicesFrom, List.cons_append, repeatedPunctuationFrom] at h
    split at h
    case isTrue hSame =>
      subst hSame
      refine @ih left c (count + 1) ?_ ?_
      · rw [hText, List.replicate_succ', List.append_assoc, List.singleton_append]
      · rw [List.replicate_succ', size_append, size_cons, size_nil, Nat.add_zero, ← Nat.add_assoc]
        exact h
    case isFalse =>
      rcases List.mem_append.mp h with hHere | hRest
      · exact repeatedPunctuation_run hText hHere
      · refine @ih (left ++ List.replicate count previous) c 1 ?_ ?_
        · rw [hText, List.append_assoc]
          rfl
        · rw [List.replicate_one, size_append, size_cons, size_nil, Nat.add_zero]
          exact hRest

theorem repeatedPunctuation_part (h : candidate ∈ repeatedPunctuation text) :
    candidate.Collapses text := by
  rw [repeatedPunctuation, withSentinel, charIndices] at h
  cases text with
  | nil =>
    rw [charIndicesFrom, List.nil_append, repeatedPunctuationFrom, repeatedPunctuationFrom] at h
    cases h
  | cons c rest =>
    rw [charIndicesFrom, List.cons_append, repeatedPunctuationFrom] at h
    refine @repeatedPunctuationFrom_part (c :: rest) candidate [] rest c 1 rfl ?_
    rw [List.replicate_one, size_nil, size_cons, size_nil, Nat.add_zero]
    exact h

end Runs

end VoxType.Grammar
