import Mathlib

/-!
# Text addressed by bytes

A text is a list of characters; its positions count the bytes of its UTF-8
form. A patch replaces parts of a text, and keeps what stands between them.
-/

namespace ByteText

set_option autoImplicit false

abbrev Text : Type := List Char

/-- `str::len` -/
def size (text : Text) : Nat := (text.map Char.utf8Size).sum

@[simp] theorem size_nil : size [] = 0 := rfl

@[simp] theorem size_cons (c : Char) (text : Text) : size (c :: text) = c.utf8Size + size text := by
  rw [size, List.map_cons, List.sum_cons, size]

@[simp] theorem size_append (left right : Text) : size (left ++ right) = size left + size right := by
  rw [size, List.map_append, List.sum_append, size, size]

theorem length_le_size (text : Text) : text.length ≤ size text := by
  induction text with
  | nil => exact Nat.le_refl 0
  | cons c text ih =>
    have hPositive := c.utf8Size_pos
    rw [List.length_cons, size_cons]
    omega

/-- `str::is_char_boundary` -/
def isBoundary : Text → Nat → Bool
  | _, 0 => true
  | [], _ + 1 => false
  | c :: rest, n + 1 => decide (c.utf8Size ≤ n + 1) && isBoundary rest (n + 1 - c.utf8Size)

/-- `&text[n..]` -/
def drop : Nat → Text → Text
  | 0, text => text
  | _ + 1, [] => []
  | n + 1, c :: rest => drop (n + 1 - c.utf8Size) rest

/-- `&text[..n]` -/
def take : Nat → Text → Text
  | 0, _ => []
  | _ + 1, [] => []
  | n + 1, c :: rest => c :: take (n + 1 - c.utf8Size) rest

/-- `&text[start..end]` -/
def slice (text : Text) (start «end» : Nat) : Text := take («end» - start) (drop start text)

/-- `text.get(start..end)` -/
def get? (text : Text) (start «end» : Nat) : Option Text :=
  if start ≤ «end» ∧ isBoundary text start = true ∧ isBoundary text «end» = true then
    some (slice text start «end»)
  else none

def charIndicesFrom : Nat → Text → List (Nat × Char)
  | _, [] => []
  | index, c :: rest => (index, c) :: charIndicesFrom (index + c.utf8Size) rest

/-- `str::char_indices` -/
def charIndices (text : Text) : List (Nat × Char) := charIndicesFrom 0 text

/-- `str::find` -/
def findFrom (needle : Text) : Nat → Text → Option Nat
  | index, [] => if needle.isEmpty then some index else none
  | index, c :: rest =>
    if needle.isPrefixOf (c :: rest) then some index
    else findFrom needle (index + c.utf8Size) rest

def find (needle haystack : Text) : Option Nat := findFrom needle 0 haystack

section Positions

@[simp] theorem drop_zero (text : Text) : drop 0 text = text := by cases text <;> rfl

@[simp] theorem take_zero (text : Text) : take 0 text = [] := by cases text <;> rfl

@[simp] theorem isBoundary_zero (text : Text) : isBoundary text 0 = true := by cases text <;> rfl

theorem succ_of_size (c : Char) (n : Nat) : ∃ k, c.utf8Size + n = k + 1 :=
  ⟨c.utf8Size + n - 1, by have := c.utf8Size_pos; omega⟩

theorem drop_size (left right : Text) : drop (size left) (left ++ right) = right := by
  induction left with
  | nil => exact drop_zero right
  | cons c left ih =>
    obtain ⟨k, hSize⟩ := succ_of_size c (size left)
    rw [size_cons, hSize, List.cons_append, drop, ← hSize, Nat.add_sub_cancel_left, ih]

theorem take_size (left right : Text) : take (size left) (left ++ right) = left := by
  induction left with
  | nil => exact take_zero right
  | cons c left ih =>
    obtain ⟨k, hSize⟩ := succ_of_size c (size left)
    rw [size_cons, hSize, List.cons_append, take, ← hSize, Nat.add_sub_cancel_left, ih]

theorem isBoundary_iff {text : Text} {n : Nat} :
    isBoundary text n = true ↔ ∃ left right, text = left ++ right ∧ size left = n := by
  constructor
  · intro h
    induction text generalizing n with
    | nil =>
      cases n with
      | zero => exact ⟨[], [], rfl, rfl⟩
      | succ n => cases h
    | cons c rest ih =>
      cases n with
      | zero => exact ⟨[], c :: rest, rfl, rfl⟩
      | succ n =>
        rw [isBoundary, Bool.and_eq_true, decide_eq_true_iff] at h
        obtain ⟨left, right, rfl, hSize⟩ := ih h.2
        refine ⟨c :: left, right, rfl, ?_⟩
        rw [size_cons]
        omega
  · rintro ⟨left, right, rfl, rfl⟩
    induction left with
    | nil => exact isBoundary_zero _
    | cons c left ih =>
      obtain ⟨k, hSize⟩ := succ_of_size c (size left)
      rw [size_cons, hSize, List.cons_append, isBoundary, ← hSize, Nat.add_sub_cancel_left, ih,
        Bool.and_true, decide_eq_true_iff]
      omega

theorem slice_size (left span right : Text) :
    slice (left ++ (span ++ right)) (size left) (size left + size span) = span := by
  rw [slice, drop_size, Nat.add_sub_cancel_left, take_size]

/-- Two boundaries cut a text into three parts. -/
theorem exists_span {text : Text} {start «end» : Nat} (hStart : isBoundary text start = true)
    (hEnd : isBoundary text «end» = true) (h : start ≤ «end») :
    ∃ left span right, text = left ++ (span ++ right) ∧ size left = start ∧
      size left + size span = «end» := by
  obtain ⟨left, rest, rfl, rfl⟩ := isBoundary_iff.mp hStart
  obtain ⟨upTo, right, hSplit, rfl⟩ := isBoundary_iff.mp hEnd
  rcases List.append_eq_append_iff.mp hSplit with ⟨span, rfl, rfl⟩ | ⟨span, rfl, rfl⟩
  · exact ⟨left, span, right, rfl, rfl, (size_append left span).symm⟩
  · rw [size_append] at h
    have hEmpty : span = [] := by
      have hLength := length_le_size span
      exact List.eq_nil_of_length_eq_zero (by omega)
    subst hEmpty
    refine ⟨upTo, [], rest, ?_, ?_, ?_⟩ <;> simp

theorem size_slice {text : Text} {start «end» : Nat} (hStart : isBoundary text start = true)
    (hEnd : isBoundary text «end» = true) (h : start ≤ «end») :
    size (slice text start «end») = «end» - start := by
  obtain ⟨left, span, right, rfl, rfl, rfl⟩ := exists_span hStart hEnd h
  rw [slice_size, Nat.add_sub_cancel_left]

theorem get?_span (left span right : Text) :
    get? (left ++ (span ++ right)) (size left) (size left + size span) = some span := by
  have hEnd : isBoundary (left ++ (span ++ right)) (size left + size span) = true :=
    isBoundary_iff.mpr ⟨left ++ span, right, List.append_assoc _ _ _ |>.symm, size_append _ _⟩
  rw [get?, if_pos ⟨Nat.le_add_right _ _, isBoundary_iff.mpr ⟨left, _, rfl, rfl⟩, hEnd⟩,
    slice_size]

theorem mem_charIndicesFrom {text : Text} {start index : Nat} {c : Char}
    (h : (index, c) ∈ charIndicesFrom start text) :
    ∃ left right, text = left ++ c :: right ∧ index = start + size left := by
  induction text generalizing start with
  | nil => cases h
  | cons first rest ih =>
    rcases List.mem_cons.mp h with hHere | hLater
    · cases hHere
      exact ⟨[], rest, rfl, rfl⟩
    · obtain ⟨left, right, rfl, rfl⟩ := ih hLater
      exact ⟨first :: left, right, rfl, by rw [size_cons, Nat.add_assoc]⟩

/-- A character of the text, at its position. -/
theorem slice_charIndices {text : Text} {index : Nat} {c : Char}
    (h : (index, c) ∈ charIndices text) : slice text index (index + c.utf8Size) = [c] := by
  obtain ⟨left, right, rfl, rfl⟩ := mem_charIndicesFrom h
  have hSlice := slice_size left [c] right
  rw [size_cons, size_nil, Nat.add_zero] at hSlice
  rw [Nat.zero_add]
  exact hSlice

end Positions

section Patches

/-- A part of a text that is replaced, after a part that is kept. -/
structure Patch where
  gap : Text
  original : Text
  replacement : Text

def source : List Patch → Text → Text
  | [], tail => tail
  | patch :: rest, tail => patch.gap ++ (patch.original ++ source rest tail)

def target : List Patch → Text → Text
  | [], tail => tail
  | patch :: rest, tail => patch.gap ++ (patch.replacement ++ target rest tail)

/-- The replacement is shorter, or another character of the same size. -/
def Effective (original replacement : Text) : Prop :=
  size replacement < size original ∨
    ∃ c d, original = [c] ∧ replacement = [d] ∧ c ≠ d ∧ d.utf8Size = c.utf8Size

def Patch.Effective (patch : Patch) : Prop := ByteText.Effective patch.original patch.replacement

theorem Patch.Effective.size_le {patch : Patch} (h : patch.Effective) :
    size patch.replacement ≤ size patch.original := by
  rcases h with hShorter | ⟨c, d, hOriginal, hReplacement, -, hSame⟩
  · exact hShorter.le
  · rw [hOriginal, hReplacement, size_cons, size_cons, hSame]

theorem size_target_le {patches : List Patch} (h : ∀ patch ∈ patches, patch.Effective)
    (tail : Text) : size (target patches tail) ≤ size (source patches tail) := by
  induction patches with
  | nil => exact Nat.le_refl _
  | cons patch rest ih =>
    rw [List.forall_mem_cons] at h
    have hFirst := h.1.size_le
    have hRest := ih h.2
    rw [target, source, size_append, size_append, size_append, size_append]
    omega

theorem filter_target {p : Char → Bool} {patches : List Patch}
    (h : ∀ patch ∈ patches, patch.replacement.filter p = patch.original.filter p) (tail : Text) :
    (target patches tail).filter p = (source patches tail).filter p := by
  induction patches with
  | nil => rfl
  | cons patch rest ih =>
    rw [List.forall_mem_cons] at h
    simp only [target, source, List.filter_append]
    rw [h.1, ih h.2]

/-- Effective replacements never cancel out. -/
theorem eq_nil_of_target_eq {patches : List Patch} (h : ∀ patch ∈ patches, patch.Effective)
    {tail : Text} (hSame : target patches tail = source patches tail) : patches = [] := by
  cases patches with
  | nil => rfl
  | cons patch rest =>
    rw [List.forall_mem_cons] at h
    rw [target, source] at hSame
    have hAfter := List.append_cancel_left hSame
    have hSizes := congrArg size hAfter
    have hRest := size_target_le h.2 tail
    rw [size_append, size_append] at hSizes
    rcases h.1 with hShorter | ⟨c, d, hOriginal, hReplacement, hDiffer, -⟩
    · omega
    · rw [hOriginal, hReplacement] at hAfter
      exact absurd (List.cons.inj hAfter).1.symm hDiffer

end Patches

end ByteText
