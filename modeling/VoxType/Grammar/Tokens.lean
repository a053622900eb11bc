import VoxType.Grammar.Spans

/-!
# Tokens of a text

`token_spans` finds the longest parts without whitespace, all of them, in the
order of the text.
-/

namespace VoxType.Grammar

set_option autoImplicit false

open ByteText

/-- A longest part of the text without whitespace. -/
abbrev IsTextToken (text : Text) (span : Span) (token : Text) : Prop :=
  IsToken RustText.isWhitespace text span.start span.end token

/-- Tokens from a position on, one after the other. -/
def TokensFrom (text : Text) : Nat → List Span → Prop
  | _, [] => True
  | position, span :: rest =>
    position ≤ span.start ∧ (∃ token, IsTextToken text span token) ∧ TokensFrom text span.end rest

theorem TokensFrom.mono {text : Text} {spans : List Span} {first second : Nat}
    (h : TokensFrom text second spans) (hLe : first ≤ second) : TokensFrom text first spans := by
  cases spans with
  | nil => trivial
  | cons span rest => exact ⟨hLe.trans h.1, h.2⟩

theorem TokensFrom.token {text : Text} {spans : List Span} {position : Nat}
    (h : TokensFrom text position spans) {span : Span} (hMem : span ∈ spans) :
    position ≤ span.start ∧ ∃ token, IsTextToken text span token := by
  induction spans generalizing position with
  | nil => cases hMem
  | cons first rest ih =>
    obtain ⟨hPosition, ⟨token, hToken⟩, hRest⟩ := h
    rcases List.mem_cons.mp hMem with rfl | hLater
    · exact ⟨hPosition, token, hToken⟩
    · obtain ⟨hAfter, hSpan⟩ := ih hRest hLater
      have hNonempty := hToken.lt
      exact ⟨by omega, hSpan⟩

theorem TokensFrom.pairwise {text : Text} {spans : List Span} {position : Nat}
    (h : TokensFrom text position spans) :
    spans.Pairwise fun first second => first.end ≤ second.start := by
  induction spans generalizing position with
  | nil => exact List.Pairwise.nil
  | cons first rest ih =>
    obtain ⟨-, -, hRest⟩ := h
    exact List.pairwise_cons.mpr ⟨fun span hMem => (hRest.token hMem).1, ih hRest⟩

theorem TokensFrom.sublist {text : Text} {spans kept : List Span} {position : Nat}
    (h : TokensFrom text position spans) (hKept : kept.Sublist spans) :
    TokensFrom text position kept := by
  induction hKept generalizing position with
  | slnil => trivial
  | cons span _ ih =>
    obtain ⟨hPosition, ⟨token, hToken⟩, hRest⟩ := h
    exact (ih hRest).mono (hPosition.trans hToken.lt.le)
  | cons_cons span _ ih => exact ⟨h.1, h.2.1, ih h.2.2⟩

section Spans

variable {text : Text}

/-- The characters read since a token started at `size left`. -/
def TokenRun (left run : Text) : Option Nat → Prop
  | none => run = []
  | some start => start = size left ∧ run ≠ [] ∧ ∀ c ∈ run, RustText.isWhitespace c = false

theorem isWhitespace_space : RustText.isWhitespace ' ' = true := by decide

theorem tokenSpansFrom_space {state : Option Nat} {index : Nat} {c : Char} {rest : List (Nat × Char)}
    (h : RustText.isWhitespace c = true) :
    tokenSpansFrom state ((index, c) :: rest) =
      (state.map fun start => ⟨start, index⟩).toList ++ tokenSpansFrom none rest := by
  conv_lhs => unfold tokenSpansFrom
  rw [if_pos h]
  cases state <;> rfl

theorem tokenSpansFrom_token {state : Option Nat} {index : Nat} {c : Char} {rest : List (Nat × Char)}
    (h : ¬RustText.isWhitespace c = true) :
    tokenSpansFrom state ((index, c) :: rest) = tokenSpansFrom (some (state.getD index)) rest := by
  conv_lhs => unfold tokenSpansFrom
  rw [if_neg h]

/-- A run that goes on with one more character. -/
theorem TokenRun.extend {left run : Text} {state : Option Nat} (h : TokenRun left run state) {c : Char}
    (hToken : RustText.isWhitespace c = false) :
    TokenRun left (run ++ [c]) (some (state.getD (size left + size run))) := by
  cases state with
  | none =>
    have hEmpty : run = [] := h
    subst hEmpty
    exact ⟨rfl, List.cons_ne_nil _ _, fun d hMem => List.mem_singleton.mp hMem ▸ hToken⟩
  | some start =>
    refine ⟨h.1, List.append_ne_nil_of_right_ne_nil _ (List.cons_ne_nil _ _), fun d hMem => ?_⟩
    rcases List.mem_append.mp hMem with hBefore | hLast
    · exact h.2.2 d hBefore
    · exact List.mem_singleton.mp hLast ▸ hToken

theorem tokenSpansFrom_tokens {left run rest : Text} {state : Option Nat}
    (hText : text = left ++ (run ++ rest)) (hRun : TokenRun left run state)
    (hLeft : ∀ c ∈ left.getLast?, RustText.isWhitespace c = true) :
    TokensFrom text (size left)
      (tokenSpansFrom state (charIndicesFrom (size left + size run) rest ++ [(size text, ' ')])) := by
  induction rest generalizing left run state with
  | nil =>
    rw [charIndicesFrom, List.nil_append, tokenSpansFrom_space isWhitespace_space]
    cases state with
    | none => trivial
    | some start =>
      obtain ⟨rfl, hNonempty, hNone⟩ := hRun
      refine ⟨le_rfl, ⟨run, hNonempty, hNone, left, [], hText, rfl, ?_, hLeft, ?_⟩, trivial⟩
      · rw [hText, List.append_nil, size_append]
      · intro _ h
        cases h
  | cons c rest ih =>
    rw [charIndicesFrom, List.cons_append]
    by_cases hSpace : RustText.isWhitespace c = true
    case pos =>
      rw [tokenSpansFrom_space hSpace]
      have hRest : TokensFrom text (size left + size run) (tokenSpansFrom none
          (charIndicesFrom (size left + size run + c.utf8Size) rest ++ [(size text, ' ')])) := by
        have hAfter := @ih (left ++ (run ++ [c])) [] none
          (by rw [hText, List.append_assoc, List.append_assoc]; rfl) rfl (by simp [hSpace])
        rw [size_append, size_append, size_cons, size_nil, Nat.add_zero, Nat.add_zero,
          ← Nat.add_assoc] at hAfter
        exact hAfter.mono (Nat.le_add_right _ _)
      cases state with
      | none => exact hRest.mono (Nat.le_add_right _ _)
      | some start =>
        obtain ⟨rfl, hNonempty, hNone⟩ := hRun
        refine ⟨le_rfl, ⟨run, hNonempty, hNone, left, c :: rest, hText, rfl, rfl, hLeft, ?_⟩, hRest⟩
        rintro d ⟨⟩
        exact hSpace
    case neg =>
      rw [tokenSpansFrom_token hSpace]
      have hToken' := Bool.eq_false_iff.mpr hSpace
      have hNext := @ih left (run ++ [c]) _ (by rw [hText, List.append_assoc]; rfl)
        (hRun.extend hToken') hLeft
      rw [size_append, size_cons, size_nil, Nat.add_zero, ← Nat.add_assoc] at hNext
      exact hNext

theorem tokenSpans_tokens (text : Text) : TokensFrom text 0 (tokenSpans text) :=
  @tokenSpansFrom_tokens text [] [] text none rfl rfl nofun

/-- Every character that is not whitespace is in a token. -/
theorem tokenSpansFrom_covers {left run rest before after : Text} {c : Char} {state : Option Nat}
    (hText : text = left ++ (run ++ rest)) (hRun : TokenRun left run state)
    (hSplit : run ++ rest = before ++ c :: after) (hToken : RustText.isWhitespace c = false) :
    ∃ span ∈ tokenSpansFrom state
        (charIndicesFrom (size left + size run) rest ++ [(size text, ' ')]),
      span.start ≤ size left + size before ∧ size left + size before < span.end := by
  have hInside : ∀ {k}, run = before ++ c :: k → size before < size run := by
    rintro k rfl
    have hPositive := c.utf8Size_pos
    rw [size_append, size_cons]
    omega
  induction rest generalizing left run state before with
  | nil =>
    rw [List.append_nil] at hSplit
    rw [charIndicesFrom, List.nil_append, tokenSpansFrom_space isWhitespace_space]
    cases state with
    | none =>
      have hEmpty : run = [] := hRun
      rw [hEmpty] at hSplit
      simp at hSplit
    | some start =>
      refine ⟨_, List.mem_cons_self, by dsimp only; rw [hRun.1]; omega, ?_⟩
      have hBefore := hInside hSplit
      dsimp only
      rw [hText, List.append_nil, size_append]
      omega
  | cons d rest ih =>
    rw [charIndicesFrom, List.cons_append]
    by_cases hSpace : RustText.isWhitespace d = true
    case pos =>
      rw [tokenSpansFrom_space hSpace]
      have hLater : ∀ {k}, before = run ++ d :: k → rest = k ++ c :: after →
          ∃ span ∈ tokenSpansFrom none
            (charIndicesFrom (size left + size run + d.utf8Size) rest ++ [(size text, ' ')]),
          span.start ≤ size left + size before ∧ size left + size before < span.end := by
        rintro k rfl hRest
        have hAfter := @ih (left ++ (run ++ [d])) [] k none
          (by rw [hText, List.append_assoc, List.append_assoc]; rfl) rfl hRest (by simp)
        simp only [size_append, size_cons, size_nil, Nat.add_zero, ← Nat.add_assoc] at hAfter ⊢
        exact hAfter
      rcases List.append_eq_append_iff.mp hSplit with ⟨k, rfl, hTail⟩ | ⟨k, hHere, hTail⟩
      · cases k with
        | nil =>
          have hSame : d = c := (List.cons.inj hTail).1
          rw [← hSame, hSpace] at hToken
          cases hToken
        | cons x k =>
          obtain ⟨rfl, hRest⟩ := List.cons.inj hTail
          obtain ⟨span, hMem, hCovers⟩ := hLater rfl hRest
          cases state with
          | none => exact ⟨span, hMem, hCovers⟩
          | some start => exact ⟨span, List.mem_cons_of_mem _ hMem, hCovers⟩
      · cases k with
        | nil =>
          have hSame : c = d := (List.cons.inj hTail).1
          rw [hSame, hSpace] at hToken
          cases hToken
        | cons x k =>
          obtain ⟨rfl, -⟩ := List.cons.inj hTail
          have hBefore := hInside hHere
          cases state with
          | none =>
            have hEmpty : run = [] := hRun
            rw [hEmpty] at hHere
            simp at hHere
          | some start =>
            refine ⟨_, List.mem_cons_self, by dsimp only; rw [hRun.1]; omega, ?_⟩
            dsimp only
            omega
    case neg =>
      rw [tokenSpansFrom_token hSpace]
      have hNext := @ih left (run ++ [d]) before _ (by rw [hText, List.append_assoc]; rfl)
        (hRun.extend (Bool.eq_false_iff.mpr hSpace)) (by rw [← hSplit, List.append_assoc]; rfl) ?_
      · rw [size_append, size_cons, size_nil, Nat.add_zero, ← Nat.add_assoc] at hNext
        exact hNext
      · rintro k hHere
        have hPositive := c.utf8Size_pos
        rw [hHere, size_append, size_cons]
        omega

theorem mem_tokenSpans_iff {span : Span} :
    span ∈ tokenSpans text ↔ ∃ token, IsTextToken text span token := by
  refine ⟨fun hMem => ((tokenSpans_tokens text).token hMem).2, ?_⟩
  rintro ⟨token, hToken⟩
  have hLt := hToken.lt
  obtain ⟨left, right, hText, hStart, -⟩ := hToken.isPart
  obtain ⟨c, rest, rfl⟩ := List.exists_cons_of_ne_nil hToken.1
  obtain ⟨found, hFound, hFrom, hTo⟩ := @tokenSpansFrom_covers text [] [] text left
    (rest ++ right) c none rfl rfl hText (hToken.2.1 c List.mem_cons_self)
  rw [size_nil, Nat.zero_add, hStart] at hFrom hTo
  obtain ⟨-, other, hOther⟩ := (tokenSpans_tokens text).token hFound
  have hSame : found = span := by
    rcases hToken.apart_or_same hOther with hApart | ⟨hStarts, hEnds⟩
    · omega
    · cases found
      cases span
      rw [Span.mk.injEq]
      exact ⟨hStarts.symm, hEnds.symm⟩
  exact hSame ▸ hFound

end Spans

end VoxType.Grammar
