import VoxType.Library.ByteText

/-!
# Parts of a text

A part stands between two positions of a text. Tokens are the longest parts
without separators. Two parts overlap only where they share characters.
-/

namespace ByteText

set_option autoImplicit false

/-- The part of the text between two positions. -/
def IsPart (text : Text) (start «end» : Nat) (part : Text) : Prop :=
  ∃ left right, text = left ++ (part ++ right) ∧ size left = start ∧ size left + size part = «end»

/-- A longest part without separators. -/
def IsToken (isSeparator : Char → Bool) (text : Text) (start «end» : Nat) (token : Text) : Prop :=
  token ≠ [] ∧ (∀ c ∈ token, isSeparator c = false) ∧ ∃ left right,
    text = left ++ (token ++ right) ∧ size left = start ∧ size left + size token = «end» ∧
      (∀ c ∈ left.getLast?, isSeparator c = true) ∧ (∀ c ∈ right.head?, isSeparator c = true)

/-- Parts of a text, one after the other. -/
def InOrder : List Text → Text → Prop
  | [], _ => True
  | part :: rest, text => ∃ left right, text = left ++ (part ++ right) ∧ InOrder rest right

section Parts

variable {text part part' : Text} {start «end» start' end' : Nat}

theorem IsPart.slice_eq (h : IsPart text start «end» part) : slice text start «end» = part := by
  obtain ⟨left, right, rfl, rfl, rfl⟩ := h
  exact slice_size left part right

theorem IsPart.boundaries (h : IsPart text start «end» part) :
    isBoundary text start = true ∧ isBoundary text «end» = true := by
  obtain ⟨left, right, rfl, rfl, rfl⟩ := h
  exact ⟨isBoundary_iff.mpr ⟨left, _, rfl, rfl⟩,
    isBoundary_iff.mpr ⟨left ++ part, right, (List.append_assoc _ _ _).symm, size_append _ _⟩⟩

theorem IsPart.end_eq (h : IsPart text start «end» part) : «end» = start + size part := by
  obtain ⟨left, right, rfl, rfl, rfl⟩ := h
  rfl

theorem isPart_slice (hStart : isBoundary text start = true) (hEnd : isBoundary text «end» = true)
    (h : start ≤ «end») : IsPart text start «end» (slice text start «end») := by
  obtain ⟨left, part, right, rfl, rfl, rfl⟩ := exists_span hStart hEnd h
  rw [slice_size]
  exact ⟨left, right, rfl, rfl, rfl⟩

theorem size_pos (h : part ≠ []) : 0 < size part :=
  (List.length_pos_iff.mpr h).trans_le (length_le_size part)

/-- Two parts, the second of which starts where the first ends. -/
theorem IsPart.append {middle : Nat} (h : IsPart text start middle part)
    (h' : IsPart text middle «end» part') : IsPart text start «end» (part ++ part') := by
  obtain ⟨left, right, hText, hStart, hMiddle⟩ := h
  obtain ⟨left', right', hText', hMiddle', hEnd⟩ := h'
  have hRight : right = part' ++ right' := by
    have hDrop : drop middle text = right := by
      rw [hText, ← hMiddle, ← List.append_assoc, ← size_append, drop_size]
    rw [← hDrop, hText', ← hMiddle', drop_size]
  refine ⟨left, right', ?_, hStart, ?_⟩
  · rw [hText, hRight, List.append_assoc]
  · rw [size_append, ← Nat.add_assoc, hMiddle, ← hMiddle', hEnd]

theorem IsPart.ne_nil (h : IsPart text start «end» part) (hNonempty : start < «end») : part ≠ [] := by
  rintro rfl
  have hEnd := h.end_eq
  rw [size_nil] at hEnd
  omega

/-- Two parts overlap, or one ends before the other starts. -/
theorem IsPart.apart_or_common (h : IsPart text start «end» part)
    (h' : IsPart text start' end' part') (hNonempty : part ≠ []) (hNonempty' : part' ≠ []) :
    («end» ≤ start' ∨ end' ≤ start) ∨ ∃ c, c ∈ part ∧ c ∈ part' := by
  -- both cases compare the part that starts later with the end of the other
  have hLater : ∀ {rest rest' first second middle : Text}, second ≠ [] →
      first ++ rest = middle ++ (second ++ rest') →
        size first ≤ size middle ∨ ∃ c, c ∈ first ∧ c ∈ second := by
    intro rest rest' first second middle hSecond hSplit
    rcases List.append_eq_append_iff.mp hSplit with ⟨k, rfl, -⟩ | ⟨k, rfl, hRest⟩
    · rw [size_append]
      exact .inl (Nat.le_add_right _ _)
    · cases k with
      | nil => exact .inl (by rw [List.append_nil])
      | cons c k =>
        cases second with
        | nil => exact absurd rfl hSecond
        | cons d second =>
          have hSame : c = d := (List.cons.inj hRest).1.symm
          exact .inr ⟨c, by simp, by simp [hSame]⟩
  obtain ⟨left, right, rfl, rfl, rfl⟩ := h
  obtain ⟨left', right', hText, rfl, rfl⟩ := h'
  rcases List.append_eq_append_iff.mp hText with ⟨middle, rfl, hRest⟩ | ⟨middle, rfl, hRest⟩
  · rcases hLater hNonempty' hRest with hBefore | hCommon
    · rw [size_append]
      exact .inl (.inl (by omega))
    · exact .inr hCommon
  · rcases hLater hNonempty hRest with hBefore | ⟨c, hFirst, hSecond⟩
    · rw [size_append]
      exact .inl (.inr (by omega))
    · exact .inr ⟨c, hSecond, hFirst⟩

/-- A part with separators only and a token do not overlap. -/
theorem IsPart.apart_of_disjoint {p : Char → Bool} (h : IsPart text start «end» part)
    (h' : IsPart text start' end' part') (hNonempty : part ≠ []) (hNonempty' : part' ≠ [])
    (hIn : ∀ c ∈ part, p c = true) (hOut : ∀ c ∈ part', p c = false) :
    «end» ≤ start' ∨ end' ≤ start := by
  refine (h.apart_or_common h' hNonempty hNonempty').resolve_right ?_
  rintro ⟨c, hFirst, hSecond⟩
  exact Bool.false_ne_true ((hOut c hSecond).symm.trans (hIn c hFirst))

end Parts

section Tokens

variable {isSeparator : Char → Bool} {text part token : Text} {start «end» start' end' : Nat}

theorem IsToken.isPart (h : IsToken isSeparator text start «end» token) :
    IsPart text start «end» token := by
  obtain ⟨-, -, left, right, hText, hStart, hEnd, -⟩ := h
  exact ⟨left, right, hText, hStart, hEnd⟩

theorem IsToken.lt (h : IsToken isSeparator text start «end» token) : start < «end» := by
  have hPositive := size_pos h.1
  have hEnd := h.isPart.end_eq
  omega

/-- Where separators stand on the left of `k`, and none in it, `k` is empty. -/
theorem eq_nil_of_head {k right : Text} (hBoundary : ∀ c ∈ (k ++ right).head?, isSeparator c = true)
    (hNone : ∀ c ∈ k, isSeparator c = false) : k = [] := by
  cases k with
  | nil => rfl
  | cons c k =>
    have hSeparator := hBoundary c rfl
    rw [hNone c List.mem_cons_self] at hSeparator
    cases hSeparator

theorem eq_nil_of_getLast {k left : Text}
    (hBoundary : ∀ c ∈ (left ++ k).getLast?, isSeparator c = true)
    (hNone : ∀ c ∈ k, isSeparator c = false) : k = [] := by
  rcases List.eq_nil_or_concat k with rfl | ⟨k, c, rfl⟩
  · rfl
  · have hSeparator := hBoundary c (by simp)
    rw [hNone c (by simp)] at hSeparator
    cases hSeparator

/-- A part without separators is inside a token or apart from it. -/
theorem IsPart.apart_or_inside (h : IsPart text start «end» part) (hNonempty : part ≠ [])
    (hNone : ∀ c ∈ part, isSeparator c = false) (hToken : IsToken isSeparator text start' end' token) :
    («end» ≤ start' ∨ end' ≤ start) ∨
      ∃ before after, token = before ++ (part ++ after) ∧ start = start' + size before := by
  obtain ⟨left, right, rfl, rfl, rfl⟩ := h
  obtain ⟨-, hTokenNone, left', right', hText, rfl, rfl, hBefore, hAfter⟩ := hToken
  rcases List.append_eq_append_iff.mp hText with ⟨middle, rfl, hRest⟩ | ⟨middle, rfl, hRest⟩
  · rcases List.append_eq_append_iff.mp hRest with ⟨k, rfl, -⟩ | ⟨k, rfl, hTail⟩
    · rw [size_append, size_append]
      exact .inl (.inl (by omega))
    · -- the token starts inside the part, so at its start
      have hMiddle : middle = [] := eq_nil_of_getLast hBefore fun c hc =>
        hNone c (List.mem_append_left k hc)
      subst hMiddle
      rcases List.append_eq_append_iff.mp hTail with ⟨j, rfl, hEnd⟩ | ⟨j, rfl, hEnd⟩
      · have hBoundary : ∀ c ∈ (j ++ right).head?, isSeparator c = true := hEnd ▸ hAfter
        have hEmpty : j = [] := eq_nil_of_head hBoundary fun c hc => hNone c (by simp [hc])
        subst hEmpty
        exact .inr ⟨[], [], by simp, by simp⟩
      · exact .inr ⟨[], j, by simp, by simp⟩
  · rcases List.append_eq_append_iff.mp hRest with ⟨k, rfl, -⟩ | ⟨k, rfl, hTail⟩
    · rw [size_append, size_append]
      exact .inl (.inr (by omega))
    · rcases List.append_eq_append_iff.mp hTail with ⟨j, rfl, hEnd⟩ | ⟨j, rfl, hEnd⟩
      · exact .inr ⟨middle, j, rfl, size_append _ _⟩
      · have hBoundary : ∀ c ∈ (j ++ right).head?, isSeparator c = true := hEnd ▸ hAfter
        have hEmpty : j = [] := eq_nil_of_head hBoundary fun c hc => hNone c (by simp [hc])
        subst hEmpty
        exact .inr ⟨middle, [], by simp, size_append _ _⟩

/-- Tokens do not overlap. -/
theorem IsToken.apart_or_same {token' : Text} (h : IsToken isSeparator text start «end» token)
    (h' : IsToken isSeparator text start' end' token') :
    («end» ≤ start' ∨ end' ≤ start) ∨ start = start' ∧ «end» = end' := by
  have hEnd := h.isPart.end_eq
  have hEnd' := h'.isPart.end_eq
  rcases h.isPart.apart_or_inside h.1 h.2.1 h' with hApart | ⟨before, after, hToken', hStart⟩
  · exact .inl hApart
  rcases h'.isPart.apart_or_inside h'.1 h'.2.1 h with hApart | ⟨before', after', hToken, hStart'⟩
  · exact .inl hApart.symm
  have hSize := congrArg size hToken
  have hSize' := congrArg size hToken'
  rw [size_append, size_append] at hSize hSize'
  exact .inr ⟨by omega, by omega⟩

end Tokens

section Order

theorem InOrder.prepend {parts : List Text} {text : Text} (h : InOrder parts text) (before : Text) :
    InOrder parts (before ++ text) := by
  cases parts with
  | nil => trivial
  | cons part rest =>
    obtain ⟨left, right, rfl, hRest⟩ := h
    exact ⟨before ++ left, right, by rw [List.append_assoc], hRest⟩

end Order

end ByteText
