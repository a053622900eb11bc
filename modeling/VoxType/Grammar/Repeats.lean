import VoxType.Grammar.Tokens

/-!
# Repeated words and repeated punctuation

When the two generators suggest something: two tokens that follow each other
with the same word, and two equal punctuation characters.
-/

namespace VoxType.Grammar

set_option autoImplicit false

open ByteText

section Words

variable {isAlphanumeric : Char → Bool} {text : Text}

theorem findFrom_split {needle haystack : Text} {index found : Nat}
    (h : findFrom needle index haystack = some found) :
    ∃ before after, haystack = before ++ (needle ++ after) ∧ found = index + size before := by
  induction haystack generalizing index with
  | nil =>
    rw [findFrom] at h
    split at h
    case isTrue hEmpty =>
      cases h
      exact ⟨[], [], by rw [List.isEmpty_iff.mp hEmpty]; rfl, rfl⟩
    case isFalse => cases h
  | cons c rest ih =>
    rw [findFrom] at h
    split at h
    case isTrue hHere =>
      cases h
      obtain ⟨after, hAfter⟩ := List.isPrefixOf_iff_prefix.mp hHere
      exact ⟨[], after, hAfter.symm, rfl⟩
    case isFalse =>
      obtain ⟨before, after, rfl, rfl⟩ := ih h
      exact ⟨c :: before, after, rfl, by rw [size_cons, Nat.add_assoc]⟩

/-- The word of a token stands inside the token. -/
theorem normalizedWord_inside {span : Span} {word : Word}
    (h : normalizedWord isAlphanumeric text span = some word) :
    word.value ≠ [] ∧ word.end = word.start + size word.value ∧ ∃ before after,
      slice text span.start span.end = before ++ (word.value ++ after) ∧
        word.start = span.start + size before := by
  unfold normalizedWord at h
  dsimp only at h
  split at h
  case isTrue => cases h
  case isFalse hWord =>
    obtain ⟨found, hFound, rfl⟩ := Option.map_eq_some_iff.mp h
    obtain ⟨before, after, hSplit, hIndex⟩ := findFrom_split hFound
    rw [Nat.zero_add] at hIndex
    refine ⟨fun hEmpty => hWord ?_, rfl, before, after, hSplit, by dsimp only; rw [hIndex]⟩
    dsimp only at hEmpty
    rw [hEmpty]
    rfl

/-- Two tokens with the same word, the second of which starts with it, on one line. -/
def Repeats (isAlphanumeric : Char → Bool) (text : Text) (previous current : Span) : Prop :=
  ∃ previousWord currentWord, normalizedWord isAlphanumeric text previous = some previousWord ∧
    normalizedWord isAlphanumeric text current = some currentWord ∧
    eqIgnoreAsciiCase previousWord.value currentWord.value = true ∧
    '\n' ∉ slice text previous.end current.start ∧ currentWord.start = current.start

/-- The tokens that follow each other. -/
def adjacentTokens (text : Text) : List (Span × Span) := (tokenSpans text).zip (tokenSpans text).tail

theorem repeatedWord_of_repeats {previous current : Span}
    (h : Repeats isAlphanumeric text previous current) :
    ∃ candidate word, repeatedWord isAlphanumeric text previous current = some candidate ∧
      normalizedWord isAlphanumeric text current = some word ∧ word.start = current.start ∧
      candidate.start = previous.end ∧ candidate.end = word.end := by
  obtain ⟨previousWord, currentWord, hPrevious, hCurrent, hSame, hLine, hStart⟩ := h
  rw [repeatedWord, hPrevious, hCurrent]
  dsimp only
  rw [if_pos (by simp [hSame, hLine, hStart])]
  exact ⟨_, currentWord, rfl, rfl, hStart, rfl, rfl⟩

theorem repeats_of_repeatedWord {previous current : Span} {candidate : Candidate}
    (h : repeatedWord isAlphanumeric text previous current = some candidate) :
    Repeats isAlphanumeric text previous current := by
  unfold repeatedWord at h
  split at h
  case h_1 previousWord currentWord hPrevious hCurrent =>
    split at h
    case isTrue hRepeats =>
      simp only [Bool.and_eq_true, Bool.not_eq_true', beq_iff_eq, List.contains_eq_mem,
        decide_eq_false_iff_not] at hRepeats
      exact ⟨previousWord, currentWord, hPrevious, hCurrent, hRepeats.1.1, hRepeats.1.2, hRepeats.2⟩
    case isFalse => cases h
  case h_2 => cases h

theorem adjacent_order {spans : List Span} (hOrder : spans.Pairwise fun a b => a.end ≤ b.start)
    {previous current : Span} (hPair : (previous, current) ∈ spans.zip spans.tail) :
    previous ∈ spans ∧ current ∈ spans ∧ previous.end ≤ current.start ∧
      ((∀ span ∈ spans, span.start < span.end) →
        ∀ span ∈ spans, span.end ≤ previous.end ∨ current.start ≤ span.start) := by
  induction spans with
  | nil => cases hPair
  | cons first rest ih =>
    obtain ⟨hFirst, hRest⟩ := List.pairwise_cons.mp hOrder
    cases rest with
    | nil => cases hPair
    | cons second rest =>
      rcases List.mem_cons.mp hPair with hHere | hLater
      · cases hHere
        refine ⟨List.mem_cons_self, List.mem_cons_of_mem _ List.mem_cons_self,
          hFirst current List.mem_cons_self, fun hNonempty span hSpan => ?_⟩
        rcases List.mem_cons.mp hSpan with rfl | hAfter
        · exact .inl le_rfl
        · rcases List.mem_cons.mp hAfter with rfl | hBeyond
          · exact .inr le_rfl
          · have hSecond := hNonempty current (by simp)
            have hBehind := (List.pairwise_cons.mp hRest).1 span hBeyond
            exact .inr (by omega)
      · obtain ⟨hPrevious, hCurrent, hBefore, hOthers⟩ := ih hRest hLater
        refine ⟨List.mem_cons_of_mem _ hPrevious, List.mem_cons_of_mem _ hCurrent, hBefore,
          fun hNonempty span hSpan => ?_⟩
        rcases List.mem_cons.mp hSpan with rfl | hAfter
        · have hStart := hFirst previous hPrevious
          have hEnd := hNonempty previous (List.mem_cons_of_mem _ hPrevious)
          exact .inl (by omega)
        · exact hOthers (fun other hOther => hNonempty other (List.mem_cons_of_mem _ hOther)) span
            hAfter

theorem tokenSpans_lt {span : Span} (h : span ∈ tokenSpans text) : span.start < span.end := by
  obtain ⟨token, hToken⟩ := mem_tokenSpans_iff.mp h
  exact hToken.lt

/-- Tokens that share a position are the same. -/
theorem tokenSpans_eq {first second : Span} (hFirst : first ∈ tokenSpans text)
    (hSecond : second ∈ tokenSpans text) (hLeft : first.start < second.end)
    (hRight : second.start < first.end) : first = second := by
  obtain ⟨token, hToken⟩ := mem_tokenSpans_iff.mp hFirst
  obtain ⟨token', hToken'⟩ := mem_tokenSpans_iff.mp hSecond
  rcases hToken.apart_or_same hToken' with hApart | ⟨hStarts, hEnds⟩
  · omega
  · cases first
    cases second
    rw [Span.mk.injEq]
    exact ⟨hStarts, hEnds⟩

/-- What `token_spans` says about two tokens that follow each other. -/
theorem adjacentTokens_order {previous current : Span}
    (hPair : (previous, current) ∈ adjacentTokens text) :
    previous ∈ tokenSpans text ∧ current ∈ tokenSpans text ∧ previous.end ≤ current.start ∧
      ∀ span ∈ tokenSpans text, span.end ≤ previous.end ∨ current.start ≤ span.start := by
  obtain ⟨hPrevious, hCurrent, hBefore, hOthers⟩ :=
    adjacent_order (tokenSpans_tokens text).pairwise hPair
  exact ⟨hPrevious, hCurrent, hBefore, hOthers fun _ hSpan => tokenSpans_lt hSpan⟩

/-- A repeated word: from the end of one token to the end of the next one's word. -/
structure Candidate.RepeatsWord (isAlphanumeric : Char → Bool) (text : Text)
    (candidate : Candidate) (previous current : Span) (word : Word) : Prop where
  adjacent : (previous, current) ∈ adjacentTokens text
  made : repeatedWord isAlphanumeric text previous current = some candidate
  found : normalizedWord isAlphanumeric text current = some word
  aligned : word.start = current.start
  start : candidate.start = previous.end
  «end» : candidate.end = word.end

theorem repeatedWords_repeat {candidate : Candidate}
    (h : candidate ∈ repeatedWords isAlphanumeric text) :
    ∃ previous current word,
      candidate.RepeatsWord isAlphanumeric text previous current word := by
  obtain ⟨⟨previous, current⟩, hPair, hMade⟩ := List.mem_filterMap.mp h
  obtain ⟨other, word, hOther, hWord, hAligned, hStart, hEnd⟩ :=
    repeatedWord_of_repeats (repeats_of_repeatedWord hMade)
  cases hMade.symm.trans hOther
  exact ⟨previous, current, word, hPair, hMade, hWord, hAligned, hStart, hEnd⟩

section RepeatsWord

variable {candidate : Candidate} {previous current : Span} {word : Word}
  (h : candidate.RepeatsWord isAlphanumeric text previous current word)

include h

/-- The word is at the beginning of its token. -/
theorem Candidate.RepeatsWord.word_part : ∃ after,
    IsTextToken text current (word.value ++ after) ∧
      IsPart text current.start word.end word.value ∧ word.value ≠ [] := by
  obtain ⟨hNonempty, hEnd, before, after, hSlice, hStart⟩ := normalizedWord_inside h.found
  have hBefore : before = [] := by
    have hAligned := h.aligned
    by_contra hSome
    have hPositive := size_pos hSome
    omega
  subst hBefore
  obtain ⟨token, hToken⟩ := mem_tokenSpans_iff.mp (adjacentTokens_order h.adjacent).2.1
  rw [hToken.isPart.slice_eq, List.nil_append] at hSlice
  subst hSlice
  refine ⟨after, hToken, ?_, hNonempty⟩
  obtain ⟨left, right, hText, hLeft, -⟩ := hToken.isPart
  refine ⟨left, after ++ right, by rw [hText, List.append_assoc], hLeft, ?_⟩
  rw [hLeft, hEnd, h.aligned]

theorem Candidate.RepeatsWord.bounds :
    previous.end ≤ current.start ∧ current.start < candidate.end ∧
      candidate.end ≤ current.end := by
  obtain ⟨after, hToken, hPart, hNonempty⟩ := h.word_part
  have hPositive := size_pos hNonempty
  have hWordEnd := hPart.end_eq
  have hTokenEnd := hToken.isPart.end_eq
  rw [size_append] at hTokenEnd
  rw [h.end]
  exact ⟨(adjacentTokens_order h.adjacent).2.2.1, by omega, by omega⟩

/-- What the candidate removes: the gap before the word, and the word. -/
theorem Candidate.RepeatsWord.part : ∃ span, IsPart text candidate.start candidate.end span ∧
    '\n' ∉ span := by
  obtain ⟨after, hToken, hWord, -⟩ := h.word_part
  obtain ⟨previousToken, hPreviousToken⟩ :=
    mem_tokenSpans_iff.mp (adjacentTokens_order h.adjacent).1
  have hGap := isPart_slice hPreviousToken.isPart.boundaries.2 hToken.isPart.boundaries.1 h.bounds.1
  obtain ⟨-, -, -, -, -, hLine, -⟩ := repeats_of_repeatedWord h.made
  rw [h.start, h.end]
  refine ⟨_, hGap.append hWord, ?_⟩
  rw [List.mem_append]
  rintro (hInGap | hInWord)
  · exact hLine hInGap
  · have hWhitespace := hToken.2.1 '\n' (List.mem_append_left _ hInWord)
    exact absurd hWhitespace (by decide)

end RepeatsWord

end Words

section Punctuation

/-- A run of a collapsible character that has been read twice is collapsed. -/
theorem repeatedPunctuationFrom_collapses {rest : Text} {c : Char} {start count position : Nat}
    (hTwice : 1 < count) (hCollapsible : isCollapsiblePunctuation c = true) :
    ∃ candidate ∈ repeatedPunctuationFrom (some (start, c, count))
        (charIndicesFrom position rest ++ [(position + size rest, '\x00')]),
      candidate.start = start ∧ position ≤ candidate.end := by
  have hCollapses : ∀ {n}, 1 < n → (1 < n && isCollapsiblePunctuation c) = true := by
    intro n hMany
    rw [hCollapsible, decide_eq_true hMany]
    rfl
  induction rest generalizing count position with
  | nil =>
    have hOther : ¬ '\x00' = c := by
      rintro rfl
      revert hCollapsible
      decide
    rw [charIndicesFrom, List.nil_append, repeatedPunctuationFrom, if_neg hOther,
      if_pos (hCollapses hTwice)]
    exact ⟨_, List.mem_append_left _ (List.mem_singleton_self _), rfl, Nat.le_add_right _ _⟩
  | cons d rest ih =>
    rw [charIndicesFrom, List.cons_append, repeatedPunctuationFrom, size_cons, ← Nat.add_assoc]
    by_cases hSame : d = c
    case pos =>
      rw [if_pos hSame]
      obtain ⟨candidate, hMem, hStart, hEnd⟩ := @ih (count + 1) (position + d.utf8Size)
        (hTwice.trans (Nat.lt_succ_self _))
      exact ⟨candidate, hMem, hStart, (Nat.le_add_right _ _).trans hEnd⟩
    case neg =>
      rw [if_neg hSame, if_pos (hCollapses hTwice)]
      exact ⟨_, List.mem_append_left _ (List.mem_singleton_self _), rfl, le_rfl⟩

/-- The run that a character belongs to once it has been read. -/
theorem repeatedPunctuationFrom_reads {run : Option (Nat × Char × Nat)} {position : Nat} {c : Char}
    {rest : List (Nat × Char)} (hRun : RunEnds position run) :
    ∃ start count, 0 < count ∧ start ≤ position ∧
      RunEnds (position + c.utf8Size) (some (start, c, count)) ∧
      ∀ candidate ∈ repeatedPunctuationFrom (some (start, c, count)) rest,
        candidate ∈ repeatedPunctuationFrom run ((position, c) :: rest) := by
  have hFresh : RunEnds (position + c.utf8Size) (some (position, c, 1)) := by
    rw [RunEnds, Nat.one_mul]
  rcases run with _ | ⟨start, previous, count⟩
  · exact ⟨position, 1, Nat.one_pos, le_rfl, hFresh, fun _ hMem => hMem⟩
  · rw [RunEnds] at hRun
    rw [repeatedPunctuationFrom]
    split
    case isTrue hSame =>
      subst hSame
      refine ⟨start, count + 1, Nat.succ_pos _, by omega, ?_, fun _ hMem => hMem⟩
      rw [RunEnds, Nat.add_mul, Nat.one_mul, ← Nat.add_assoc, ← hRun]
    case isFalse =>
      exact ⟨position, 1, Nat.one_pos, le_rfl, hFresh, fun _ hMem => List.mem_append_right _ hMem⟩

theorem repeatedPunctuationFrom_covers {before after : Text} {c : Char}
    {run : Option (Nat × Char × Nat)} {position : Nat} (hRun : RunEnds position run)
    (hCollapsible : isCollapsiblePunctuation c = true) :
    ∃ candidate ∈ repeatedPunctuationFrom run
        (charIndicesFrom position (before ++ c :: c :: after) ++
          [(position + size (before ++ c :: c :: after), '\x00')]),
      candidate.start ≤ position + size before ∧ position + size before < candidate.end := by
  induction before generalizing run position with
  | nil =>
    rw [List.nil_append, charIndicesFrom, List.cons_append, charIndicesFrom, List.cons_append]
    obtain ⟨start, count, hRead, hStart, -, hReads⟩ := repeatedPunctuationFrom_reads hRun
    obtain ⟨candidate, hMem, hFrom, hTo⟩ := @repeatedPunctuationFrom_collapses after c start
      (count + 1) (position + c.utf8Size + c.utf8Size) (Nat.succ_lt_succ hRead) hCollapsible
    refine ⟨candidate, hReads candidate ?_, ?_, ?_⟩
    · rw [repeatedPunctuationFrom, if_pos rfl, size_cons, size_cons, ← Nat.add_assoc,
        ← Nat.add_assoc]
      exact hMem
    · rw [hFrom, size_nil]
      exact hStart
    · have hPositive := c.utf8Size_pos
      rw [size_nil]
      omega
  | cons d before ih =>
    rw [List.cons_append, charIndicesFrom, List.cons_append, size_cons, size_cons, ← Nat.add_assoc,
      ← Nat.add_assoc]
    obtain ⟨start, count, -, -, hNext, hReads⟩ := repeatedPunctuationFrom_reads hRun
    obtain ⟨candidate, hMem, hCovers⟩ := ih hNext
    exact ⟨candidate, hReads candidate hMem, hCovers⟩

/-- Two equal collapsible characters lie in a suggestion. -/
theorem repeatedPunctuation_covers (before after : Text) {c : Char}
    (hCollapsible : isCollapsiblePunctuation c = true) :
    ∃ candidate ∈ repeatedPunctuation (before ++ c :: c :: after),
      candidate.start ≤ size before ∧ size before < candidate.end := by
  have h := @repeatedPunctuationFrom_covers before after c none 0 trivial hCollapsible
  rw [Nat.zero_add, Nat.zero_add] at h
  exact h

end Punctuation

end VoxType.Grammar
