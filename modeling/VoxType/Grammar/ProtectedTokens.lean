import VoxType.Grammar.Repeats
import VoxType.Grammar.SafeEdits

/-!
# Protected tokens

Only the capitalization of sentences looks at protected tokens. The others are
left alone unless a token repeats the word before it, or has a punctuation
character twice in a row.
-/

namespace VoxType.Grammar

set_option autoImplicit false

open ByteText

def IsProtectedToken (token : Text) : Prop :=
  "://".toList <:+: token ∨ '@' ∈ token ∨ "www.".toList <+: token

def protectedTokens (text : Text) : List Text :=
  (protectedTokenSpans text).map fun span => slice text span.start span.end

/-- The report leaves newlines and protected tokens alone. -/
structure GrammarReport.Preserves (text : Text) (report : GrammarReport) : Prop where
  newlines : ∀ edit ∈ report.edits,
    '\n' ∉ slice text edit.startByte edit.endByte ∧ '\n' ∉ edit.replacement
  spans : ∀ edit ∈ report.edits, ∀ span token, IsTextToken text span token →
    IsProtectedToken token → edit.endByte ≤ span.start ∨ span.end ≤ edit.startByte
  kept : InOrder (protectedTokens text) report.suggested

/-- No protected token repeats the word before it or a punctuation character. -/
structure Undisturbed (isAlphanumeric : Char → Bool) (text : Text) : Prop where
  fresh : ∀ previous current, (previous, current) ∈ adjacentTokens text →
    IsProtectedToken (slice text current.start current.end) →
      ¬Repeats isAlphanumeric text previous current
  single : ∀ span token, IsTextToken text span token → IsProtectedToken token →
    ∀ c, isCollapsiblePunctuation c = true → ¬[c, c] <:+: token

theorem isProtected_iff {text : Text} {span : Span} :
    isProtected text span = true ↔ IsProtectedToken (slice text span.start span.end) := by
  simp only [isProtected, IsProtectedToken, Bool.or_eq_true, decide_eq_true_iff,
    List.contains_eq_mem, List.isPrefixOf_iff_prefix, or_assoc]

theorem mem_protectedTokenSpans_iff {text : Text} {span : Span} :
    span ∈ protectedTokenSpans text ↔ ∃ token, IsTextToken text span token ∧
      IsProtectedToken token := by
  rw [protectedTokenSpans, List.mem_filter, mem_tokenSpans_iff, isProtected_iff]
  constructor
  · rintro ⟨⟨token, hToken⟩, hProtected⟩
    rw [hToken.isPart.slice_eq] at hProtected
    exact ⟨token, hToken, hProtected⟩
  · rintro ⟨token, hToken, hProtected⟩
    rw [hToken.isPart.slice_eq]
    exact ⟨⟨token, hToken⟩, hProtected⟩

section Greedy

variable {text : Text}

instance : Std.Total keyLe := ⟨fun a b => by
  rw [keyLe, keyLe]
  omega⟩

instance : IsTrans Candidate keyLe := ⟨fun a b c hFirst hSecond => by
  rw [keyLe] at hFirst hSecond ⊢
  omega⟩

theorem keyLe_refl (candidate : Candidate) : keyLe candidate candidate :=
  .inr ⟨rfl, .inr ⟨rfl, le_rfl⟩⟩

theorem subset_select (selected rest : List Candidate) : selected ⊆ select text selected rest := by
  induction rest generalizing selected with
  | nil => exact List.Subset.refl selected
  | cons first rest ih =>
    rw [select]
    split
    · exact List.Subset.trans (List.subset_append_left selected [first]) (ih _)
    · exact ih selected

/-- A candidate that is not selected overlaps one with a key that is not larger. -/
theorem exists_select {selected rest : List Candidate} (hSorted : rest.Pairwise keyLe)
    (hBefore : ∀ edit ∈ selected, ∀ candidate ∈ rest, keyLe edit candidate)
    {candidate : Candidate} (hMem : candidate ∈ rest) (hProper : candidate.Proper text) :
    ∃ edit ∈ select text selected rest, keyLe edit candidate ∧ ¬Apart edit candidate := by
  induction rest generalizing selected with
  | nil => cases hMem
  | cons first rest ih =>
    rw [List.pairwise_cons] at hSorted
    rcases List.mem_cons.mp hMem with rfl | hLater
    · by_cases hSelectable : isSelectable text selected candidate = true
      · rw [select, if_pos hSelectable]
        refine ⟨candidate, subset_select _ rest (by simp), keyLe_refl candidate, ?_⟩
        have hNonempty := hProper.1
        rw [Apart]
        omega
      · rw [isSelectable_iff, not_and] at hSelectable
        obtain ⟨edit, hEdit, hOverlap⟩ : ∃ edit ∈ selected, ¬Apart edit candidate := by
          have hSome := hSelectable hProper
          push Not at hSome
          exact hSome
        exact ⟨edit, subset_select _ _ hEdit, hBefore edit hEdit candidate List.mem_cons_self,
          hOverlap⟩
    · rw [select]
      split
      · refine ih hSorted.2 (fun edit hEdit other hOther => ?_) hLater
        rcases List.mem_append.mp hEdit with hOld | hNew
        · exact hBefore edit hOld other (List.mem_cons_of_mem _ hOther)
        · exact List.mem_singleton.mp hNew ▸ hSorted.1 other hOther
      · exact ih hSorted.2 (fun edit hEdit other hOther =>
          hBefore edit hEdit other (List.mem_cons_of_mem _ hOther)) hLater

theorem exists_selection {isAlphanumeric : Char → Bool} {candidate : Candidate}
    (hMem : candidate ∈ candidates isAlphanumeric text) (hProper : candidate.Proper text) :
    ∃ edit ∈ selection isAlphanumeric text, keyLe edit candidate ∧ ¬Apart edit candidate := by
  obtain ⟨edit, hEdit, hFound⟩ := exists_select (List.pairwise_insertionSort keyLe _)
    (nofun : ∀ edit ∈ [], _) (List.mem_insertionSort _ |>.mpr hMem) hProper
  exact ⟨edit, (List.mem_insertionSort _).mpr hEdit, hFound⟩

end Greedy

section Kept

variable {text : Text}

/-- Parts apart from the edits stay, in their order. -/
theorem inOrder_editedFrom {edits : List CleanupEdit} {spans : List Span} {cursor : Nat}
    (hMatches : ∀ edit ∈ edits, edit.Matches text) (hOrdered : Ordered edits)
    (hAfter : ∀ edit ∈ edits, cursor ≤ edit.startByte) (hCursor : isBoundary text cursor = true)
    (hSpans : TokensFrom text cursor spans)
    (hApart : ∀ edit ∈ edits, ∀ span ∈ spans,
      edit.endByte ≤ span.start ∨ span.end ≤ edit.startByte) :
    InOrder (spans.map fun span => slice text span.start span.end)
      (editedFrom text cursor edits) := by
  induction edits generalizing cursor spans with
  | nil =>
    induction spans generalizing cursor with
    | nil => trivial
    | cons span spans ih =>
      obtain ⟨hBefore, ⟨token, hToken⟩, hRest⟩ := hSpans
      obtain ⟨hStart, hEnd⟩ := hToken.isPart.boundaries
      exact ⟨_, _, drop_span hCursor hStart hEnd hBefore hToken.lt.le
        (if_pos ⟨hToken.lt.le, hStart, hEnd⟩), ih nofun hEnd hRest nofun⟩
  | cons edit edits ihEdits =>
    have hOthers := List.forall_mem_cons.mp hMatches
    have hLater := List.pairwise_cons.mp hOrdered
    induction spans generalizing cursor with
    | nil => trivial
    | cons span spans ih =>
      obtain ⟨hBefore, ⟨token, hToken⟩, hRest⟩ := hSpans
      obtain ⟨hStart, hEnd⟩ := hToken.isPart.boundaries
      have hEdit := hOthers.1
      rcases hApart edit List.mem_cons_self span List.mem_cons_self with hPast | hAhead
      · -- the edit comes first
        refine (InOrder.prepend ?_ _).prepend _
        refine ihEdits hOthers.2 hLater.2 hLater.1 hEdit.end_boundary
          ⟨hPast, ⟨token, hToken⟩, hRest⟩ fun other hOther => ?_
        exact hApart other (List.mem_cons_of_mem _ hOther)
      · refine ⟨slice text cursor span.start, editedFrom text span.end (edit :: edits), ?_, ?_⟩
        · have hWhole := (isPart_slice hCursor hStart hBefore).append
            ((isPart_slice hStart hEnd hToken.lt.le).append
              (isPart_slice hEnd hEdit.start_boundary hAhead))
          rw [editedFrom, editedFrom, hWhole.slice_eq]
          simp only [List.append_assoc]
        · refine ih ?_ hEnd hRest fun other hOther later hMem =>
            hApart other hOther later (List.mem_cons_of_mem _ hMem)
          intro other hOther
          rcases List.mem_cons.mp hOther with rfl | hNext
          · exact hAhead
          · have hGap := hLater.1 other hNext
            have hNonempty := hEdit.nonempty
            omega

end Kept

section Apart

variable {isAlphanumeric : Char → Bool} {text : Text} {candidate : Candidate}

theorem isWhitespace_of_horizontal {c : Char} (h : isHorizontalWhitespace c = true) :
    RustText.isWhitespace c = true := by
  simp only [isHorizontalWhitespace, List.contains_eq_mem, decide_eq_true_iff, List.mem_cons,
    List.not_mem_nil, or_false] at h
  rcases h with rfl | rfl | rfl | rfl <;> decide

theorem not_isWhitespace_of_collapsible {c : Char} (h : isCollapsiblePunctuation c = true) :
    RustText.isWhitespace c = false := by
  simp only [isCollapsiblePunctuation, List.contains_eq_mem, decide_eq_true_iff, List.mem_cons,
    List.not_mem_nil, or_false] at h
  rcases h with rfl | rfl | rfl | rfl | rfl | rfl | rfl | rfl | rfl | rfl <;> decide

theorem not_isWhitespace_of_lowercase {c : Char} (h : isAsciiLowercase c = true) :
    RustText.isWhitespace c = false :=
  forall_lowercase (P := fun c => RustText.isWhitespace c = false) (by decide) h

/-- Whitespace is apart from every token. -/
theorem blank_apart {part token : Text} {start «end» : Nat} {span : Span}
    (hPart : IsPart text start «end» part) (hBlank : ∀ c ∈ part, isHorizontalWhitespace c = true)
    (hNonempty : start < «end») (hToken : IsTextToken text span token) :
    «end» ≤ span.start ∨ span.end ≤ start :=
  hPart.apart_of_disjoint hToken.isPart (hPart.ne_nil hNonempty) hToken.1
    (fun c hMem => isWhitespace_of_horizontal (hBlank c hMem)) hToken.2.1

theorem collapses_apart {token : Text} {span : Span} (h : candidate.Collapses text)
    (hToken : IsTextToken text span token)
    (hSingle : ∀ c, isCollapsiblePunctuation c = true → ¬[c, c] <:+: token) :
    candidate.end ≤ span.start ∨ span.end ≤ candidate.start := by
  obtain ⟨-, c, n, hPart, hMany, hCollapsible, -⟩ := h
  obtain ⟨n, rfl⟩ : ∃ k, n = k + 2 := ⟨n - 2, by omega⟩
  refine (hPart.apart_or_inside (by simp) (fun d hMem => ?_) hToken).resolve_right ?_
  · rw [List.eq_of_mem_replicate hMem]
    exact not_isWhitespace_of_collapsible hCollapsible
  · rintro ⟨before, after, rfl, -⟩
    refine hSingle c hCollapsible ⟨before, List.replicate n c ++ after, ?_⟩
    simp [List.replicate_succ]

theorem capitalizes_apart {token : Text} {span : Span} {index : Nat} {c : Char}
    (hEntry : (index, c) ∈ charIndices text)
    (h : candidate.Capitalizes (protectedTokenSpans text) index c)
    (hToken : IsTextToken text span token) (hProtected : IsProtectedToken token) :
    candidate.end ≤ span.start ∨ span.end ≤ candidate.start := by
  obtain ⟨left, right, hText, hIndex⟩ := mem_charIndicesFrom hEntry
  rw [Nat.zero_add] at hIndex
  have hPart : IsPart text candidate.start candidate.end [c] := by
    refine ⟨left, right, hText, by rw [h.start, hIndex], ?_⟩
    rw [h.end, hIndex, size_cons, size_nil, Nat.add_zero]
  refine (hPart.apart_or_inside (List.cons_ne_nil _ _) (fun d hMem => ?_) hToken).resolve_right ?_
  · rw [List.mem_singleton.mp hMem]
    exact not_isWhitespace_of_lowercase h.lowercase
  · rintro ⟨before, after, rfl, hStart⟩
    have hOutside := h.unprotected span
      (mem_protectedTokenSpans_iff.mpr ⟨_, hToken, hProtected⟩)
    have hEnd := hToken.isPart.end_eq
    have hIndexed := h.start
    have hPositive := c.utf8Size_pos
    simp only [size_append, size_cons, size_nil] at hEnd
    have := hOutside (by omega)
    omega

/-- A token that shares a position with a repeated word is the one that repeats. -/
theorem repeatsWord_token {previous current span : Span} {word : Word}
    (h : candidate.RepeatsWord isAlphanumeric text previous current word)
    (hSpan : span ∈ tokenSpans text) :
    (candidate.end ≤ span.start ∨ span.end ≤ candidate.start) ∨ span = current := by
  obtain ⟨-, hCurrent, -, hOthers⟩ := adjacentTokens_order h.adjacent
  have hBounds := h.bounds
  rw [h.start]
  rcases hOthers span hSpan with hBefore | hFrom
  · exact .inl (.inr hBefore)
  · by_cases hInside : span.start < candidate.end
    · have hNonempty := tokenSpans_lt hSpan
      exact .inr (tokenSpans_eq hSpan hCurrent (by omega) (by omega))
    · exact .inl (.inl (Nat.le_of_not_lt hInside))

end Apart

section Newlines

variable {isAlphanumeric : Char → Bool} {text : Text} {candidate : Candidate}

theorem newline_of_blank {part : Text} (h : ∀ c ∈ part, isHorizontalWhitespace c = true) :
    '\n' ∉ part := fun hMem => absurd (h _ hMem) (by decide)

/-- No generator touches a newline. -/
theorem candidates_newline (h : candidate ∈ candidates isAlphanumeric text) :
    '\n' ∉ slice text candidate.start candidate.end ∧ '\n' ∉ candidate.replacement := by
  have hRemoves : ∀ {span}, candidate.Removes text span →
      '\n' ∉ slice text candidate.start candidate.end ∧ '\n' ∉ candidate.replacement := by
    intro span hRemoves
    rw [hRemoves.part.slice_eq, hRemoves.replacement]
    exact ⟨newline_of_blank hRemoves.blank, List.not_mem_nil⟩
  simp only [candidates, List.mem_append] at h
  rcases h with ((((hOuter | hWords) | hSpacing) | hPunctuation) | hWhitespace) | hSentence
  · obtain ⟨-, span, hSpan⟩ := outerHorizontalWhitespace_removes hOuter
    exact hRemoves hSpan
  · obtain ⟨previous, current, word, hRepeats⟩ := repeatedWords_repeat hWords
    obtain ⟨span, hPart, hNewline⟩ := hRepeats.part
    rw [hPart.slice_eq, repeatedWord_replacement hRepeats.made]
    exact ⟨hNewline, List.not_mem_nil⟩
  · obtain ⟨-, span, hSpan⟩ := punctuationSpacing_removes hSpacing
    exact hRemoves hSpan
  · obtain ⟨-, c, n, hPart, -, hCollapsible, hReplacement⟩ := repeatedPunctuation_part hPunctuation
    have hOther : '\n' ≠ c := by
      rintro rfl
      revert hCollapsible
      decide
    rw [hPart.slice_eq, hReplacement]
    exact ⟨fun hMem => hOther (List.eq_of_mem_replicate hMem),
      fun hMem => hOther (List.mem_singleton.mp hMem)⟩
  · obtain ⟨hReplacement, -, span, hPart, hBlank⟩ := repeatedHorizontalWhitespace_part hWhitespace
    rw [hPart.slice_eq, hReplacement]
    exact ⟨newline_of_blank hBlank, by decide⟩
  · obtain ⟨index, c, hEntry, hCapitalizes⟩ := sentenceCase_capitalizes hSentence
    have hLowercase := hCapitalizes.lowercase
    rw [hCapitalizes.start, hCapitalizes.end, slice_charIndices hEntry, hCapitalizes.replacement,
      uppercaseAscii, if_pos hLowercase, List.mem_singleton, List.mem_singleton]
    exact forall_lowercase (P := fun c => ¬ '\n' = c ∧ ¬ '\n' = c.toUpper) (by decide) hLowercase

end Newlines

section Check

variable {isAlphanumeric : Char → Bool} {text : Text}

/-- No edit of the report overlaps a protected token. -/
def SpansProtected (isAlphanumeric : Char → Bool) (text : Text) : Prop :=
  ∀ candidate ∈ selection isAlphanumeric text, ∀ span token, IsTextToken text span token →
    IsProtectedToken token → candidate.end ≤ span.start ∨ span.end ≤ candidate.start

theorem spansProtected_of_undisturbed (h : Undisturbed isAlphanumeric text) :
    SpansProtected isAlphanumeric text := by
  intro candidate hSelected span token hToken hProtected
  obtain ⟨hMem, hProper⟩ := selection_forall hSelected
  simp only [candidates, List.mem_append] at hMem
  rcases hMem with ((((hOuter | hWords) | hSpacing) | hPunctuation) | hWhitespace) | hSentence
  · obtain ⟨-, removed, hRemoves⟩ := outerHorizontalWhitespace_removes hOuter
    exact blank_apart hRemoves.part hRemoves.blank hProper.1 hToken
  · obtain ⟨previous, current, word, hRepeats⟩ := repeatedWords_repeat hWords
    refine (repeatsWord_token hRepeats (mem_tokenSpans_iff.mpr ⟨token, hToken⟩)).resolve_right ?_
    rintro rfl
    refine h.fresh previous span hRepeats.adjacent ?_ (repeats_of_repeatedWord hRepeats.made)
    rw [hToken.isPart.slice_eq]
    exact hProtected
  · obtain ⟨-, removed, hRemoves⟩ := punctuationSpacing_removes hSpacing
    exact blank_apart hRemoves.part hRemoves.blank hProper.1 hToken
  · exact collapses_apart (repeatedPunctuation_part hPunctuation) hToken
      (h.single span token hToken hProtected)
  · obtain ⟨-, -, part, hPart, hBlank⟩ := repeatedHorizontalWhitespace_part hWhitespace
    exact blank_apart hPart hBlank hProper.1 hToken
  · obtain ⟨index, c, hEntry, hCapitalizes⟩ := sentenceCase_capitalizes hSentence
    exact capitalizes_apart hEntry hCapitalizes hToken hProtected

theorem single_of_spansProtected (h : SpansProtected isAlphanumeric text) {span : Span}
    {token : Text} (hToken : IsTextToken text span token) (hProtected : IsProtectedToken token)
    {c : Char} (hCollapsible : isCollapsiblePunctuation c = true) : ¬[c, c] <:+: token := by
  rintro ⟨before, after, hInfix⟩
  obtain ⟨left, right, hText, hLeft, hEnd⟩ := hToken.isPart
  obtain ⟨candidate, hMem, hFrom, hTo⟩ :=
    repeatedPunctuation_covers (left ++ before) (after ++ right) hCollapsible
  have hWhole : left ++ before ++ c :: c :: (after ++ right) = text := by
    rw [hText, ← hInfix]
    simp
  rw [hWhole] at hMem
  rw [size_append, hLeft] at hFrom hTo
  have hSize : size before < size token := by
    have hPositive := c.utf8Size_pos
    rw [← hInfix, size_append, size_append, size_cons]
    omega
  have hTokenEnd := hToken.isPart.end_eq
  have hCollapses := repeatedPunctuation_part hMem
  obtain ⟨-, d, n, hPart, hMany, hOther, -⟩ := hCollapses
  have hGenerated : candidate ∈ candidates isAlphanumeric text := by
    simp only [candidates, List.mem_append]
    exact .inl (.inl (.inr hMem))
  obtain ⟨edit, hEdit, -, hOverlap⟩ := exists_selection hGenerated
    ⟨by omega, hPart.boundaries.1, hPart.boundaries.2⟩
  -- the run is inside the token, so what overlaps it overlaps the token
  obtain ⟨prior, later, hInside, hStart⟩ :=
    (hPart.apart_or_inside (by rw [ne_eq, List.replicate_eq_nil_iff]; omega) (fun x hMem => by
      rw [List.eq_of_mem_replicate hMem]
      exact not_isWhitespace_of_collapsible hOther) hToken).resolve_left (by omega)
  have hPartEnd := hPart.end_eq
  have hSizes := congrArg size hInside
  rw [size_append, size_append] at hSizes
  have hApart := h edit hEdit span token hToken hProtected
  rw [Apart] at hOverlap
  omega

/-- An edit made before or with a repeated word that overlaps it is the repeated word. -/
theorem repeatedWords_selected {edit candidate : Candidate} {previous current : Span} {word : Word}
    (hEdit : edit ∈ selection isAlphanumeric text)
    (h : candidate.RepeatsWord isAlphanumeric text previous current word)
    (hKey : keyLe edit candidate) (hOverlap : ¬Apart edit candidate) : edit = candidate := by
  obtain ⟨hMem, hProper⟩ := selection_forall hEdit
  have hPriority : edit.priority ≤ 1 := by
    have hRated := (repeatedWord_rated h.made).2
    rw [keyLe] at hKey
    omega
  have hBounds := h.bounds
  obtain ⟨hPrevious, hCurrent, -, hOthers⟩ := adjacentTokens_order h.adjacent
  rw [Apart, h.start] at hOverlap
  simp only [candidates, List.mem_append] at hMem
  rcases hMem with ((((hOuter | hWords) | hSpacing) | hPunctuation) | hWhitespace) | hSentence
  · obtain ⟨⟨-, hEdge⟩, removed, hRemoves⟩ := outerHorizontalWhitespace_removes hOuter
    obtain ⟨token, hToken⟩ := mem_tokenSpans_iff.mp hCurrent
    obtain ⟨token', hToken'⟩ := mem_tokenSpans_iff.mp hPrevious
    have hFirst := blank_apart hRemoves.part hRemoves.blank hProper.1 hToken'
    have hSecond := blank_apart hRemoves.part hRemoves.blank hProper.1 hToken
    have hLt := tokenSpans_lt hCurrent
    have hLt' := tokenSpans_lt hPrevious
    have hInside := boundary_le_size hToken.isPart.boundaries.2
    omega
  · obtain ⟨previous', current', word', h'⟩ := repeatedWords_repeat hWords
    have hBounds' := h'.bounds
    obtain ⟨hPrevious', hCurrent', -, hOthers'⟩ := adjacentTokens_order h'.adjacent
    rw [h'.start] at hOverlap
    have hFirst := hOthers current' hCurrent'
    have hSecond := hOthers' current hCurrent
    have hLt := tokenSpans_lt hCurrent
    have hLt' := tokenSpans_lt hCurrent'
    have hSameCurrent : current' = current :=
      tokenSpans_eq hCurrent' hCurrent (by omega) (by omega)
    subst hSameCurrent
    have hThird := hOthers previous' hPrevious'
    have hFourth := hOthers' previous hPrevious
    have hPreviousLt := tokenSpans_lt hPrevious
    have hPreviousLt' := tokenSpans_lt hPrevious'
    have hSamePrevious : previous' = previous :=
      tokenSpans_eq hPrevious' hPrevious (by omega) (by omega)
    subst hSamePrevious
    exact Option.some.inj (h'.made.symm.trans h.made)
  · have hRated := (punctuationSpacing_removes hSpacing).1.2
    omega
  · have hRated := (repeatedPunctuation_part hPunctuation).1.2
    omega
  · have hRated := (repeatedHorizontalWhitespace_part hWhitespace).2.1.2
    omega
  · obtain ⟨index, c, -, hCapitalizes⟩ := sentenceCase_capitalizes hSentence
    have hRated := hCapitalizes.rated.2
    omega

theorem fresh_of_spansProtected (h : SpansProtected isAlphanumeric text) {previous current : Span}
    (hAdjacent : (previous, current) ∈ adjacentTokens text)
    (hProtected : IsProtectedToken (slice text current.start current.end)) :
    ¬Repeats isAlphanumeric text previous current := by
  intro hRepeats
  obtain ⟨candidate, word, hMade, hFound, hAligned, hStart, hEnd⟩ := repeatedWord_of_repeats hRepeats
  have hCandidate : candidate.RepeatsWord isAlphanumeric text previous current word :=
    ⟨hAdjacent, hMade, hFound, hAligned, hStart, hEnd⟩
  have hBounds := hCandidate.bounds
  obtain ⟨part, hPart, -⟩ := hCandidate.part
  have hGenerated : candidate ∈ candidates isAlphanumeric text := by
    simp only [candidates, List.mem_append]
    exact .inl (.inl (.inl (.inl (.inr (List.mem_filterMap.mpr ⟨_, hAdjacent, hMade⟩)))))
  obtain ⟨edit, hEdit, hKey, hOverlap⟩ := exists_selection hGenerated
    ⟨by omega, hPart.boundaries.1, hPart.boundaries.2⟩
  rw [repeatedWords_selected hEdit hCandidate hKey hOverlap] at hEdit
  obtain ⟨token, hToken⟩ := mem_tokenSpans_iff.mp (adjacentTokens_order hAdjacent).2.1
  rw [hToken.isPart.slice_eq] at hProtected
  have hApart := h candidate hEdit current token hToken hProtected
  omega

theorem inOrder_suggested (h : SpansProtected isAlphanumeric text) :
    InOrder (protectedTokens text) (check isAlphanumeric text).suggested := by
  rw [check_suggested]
  refine inOrder_editedFrom (fun _ => check_matches) (check_ordered isAlphanumeric text)
    (fun _ _ => Nat.zero_le _) (isBoundary_zero text) ?_ ?_
  · exact (tokenSpans_tokens text).sublist List.filter_sublist
  · intro edit hEdit span hSpan
    rw [check_edits] at hEdit
    obtain ⟨candidate, hCandidate, rfl⟩ := List.mem_map.mp hEdit
    obtain ⟨token, hToken, hProtected⟩ := mem_protectedTokenSpans_iff.mp hSpan
    exact h candidate hCandidate span token hToken hProtected

end Check

theorem preserves_iff (isAlphanumeric : Char → Bool) (text : Text) :
    (check isAlphanumeric text).Preserves text ↔ Undisturbed isAlphanumeric text := by
  have hEdits : ∀ {edit}, edit ∈ (check isAlphanumeric text).edits ↔
      ∃ candidate ∈ selection isAlphanumeric text, cleanupEdit text candidate = edit := by
    intro edit
    rw [check_edits, List.mem_map]
  constructor
  · intro h
    have hSpans : SpansProtected isAlphanumeric text := fun candidate hCandidate =>
      h.spans _ (hEdits.mpr ⟨candidate, hCandidate, rfl⟩)
    exact ⟨fun _ _ => fresh_of_spansProtected hSpans,
      fun _ _ hToken hProtected _ => single_of_spansProtected hSpans hToken hProtected⟩
  · intro h
    have hSpans := spansProtected_of_undisturbed h
    constructor
    case newlines =>
      intro edit hEdit
      obtain ⟨candidate, hCandidate, rfl⟩ := hEdits.mp hEdit
      exact candidates_newline (selection_forall hCandidate).1
    case spans =>
      intro edit hEdit
      obtain ⟨candidate, hCandidate, rfl⟩ := hEdits.mp hEdit
      exact hSpans candidate hCandidate
    case kept => exact inOrder_suggested hSpans

/-- The two question marks at the end of an address become one. -/
theorem address_shortened :
    (check Char.isAlphanum "http://a/??".toList).suggested = "http://a/?".toList ∧
      ¬(check Char.isAlphanum "http://a/??".toList).Preserves "http://a/??".toList := by
  have hSuggested : (check Char.isAlphanum "http://a/??".toList).suggested = "http://a/?".toList := by
    decide
  refine ⟨hSuggested, fun h => ?_⟩
  have hTokens : protectedTokens "http://a/??".toList = ["http://a/??".toList] := by decide
  have hKept := h.kept
  rw [hTokens, hSuggested] at hKept
  obtain ⟨left, right, hSplit, -⟩ := hKept
  have hLength := congrArg List.length hSplit
  rw [List.length_append, List.length_append] at hLength
  have hShort : "http://a/?".toList.length = 10 := rfl
  have hLong : "http://a/??".toList.length = 11 := rfl
  omega

end VoxType.Grammar
