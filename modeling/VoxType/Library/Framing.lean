import Mathlib

/-!
# Cutting a stream into frames

`frames n` are the complete frames of `n` items and `rest n` is what follows
them. Cutting piece by piece, with the rest carried over, gives the frames of
the whole stream. `padded n` fills what follows up to one more frame.
-/

namespace Framing

set_option autoImplicit false

universe u

variable {α : Type u}

def frames (n : Nat) (items : List α) : List (List α) :=
  if 0 < n ∧ n ≤ items.length then items.take n :: frames n (items.drop n) else []
termination_by items.length
decreasing_by
  rename_i h
  rw [List.length_drop]
  omega

def rest (n : Nat) (items : List α) : List α :=
  if 0 < n ∧ n ≤ items.length then rest n (items.drop n) else items
termination_by items.length
decreasing_by
  rename_i h
  rw [List.length_drop]
  omega

theorem frames_short {n : Nat} {items : List α} (h : items.length < n) : frames n items = [] := by
  rw [frames, if_neg (by omega)]

theorem rest_short {n : Nat} {items : List α} (h : items.length < n) : rest n items = items := by
  rw [rest, if_neg (by omega)]

theorem frames_cons {n : Nat} {items : List α} (hn : 0 < n) (h : n ≤ items.length) :
    frames n items = items.take n :: frames n (items.drop n) := by rw [frames, if_pos ⟨hn, h⟩]

theorem rest_drop {n : Nat} {items : List α} (hn : 0 < n) (h : n ≤ items.length) :
    rest n items = rest n (items.drop n) := by rw [rest, if_pos ⟨hn, h⟩]

theorem length_rest_lt {n : Nat} (hn : 0 < n) (items : List α) : (rest n items).length < n := by
  induction items using (measure List.length).wf.induction with
  | h items ih =>
    rcases Nat.lt_or_ge items.length n with hShort | hLong
    · rwa [rest_short hShort]
    · rw [rest_drop hn hLong]
      apply ih
      change (items.drop n).length < items.length
      rw [List.length_drop]
      omega

/-- The frames of a stream are those of a first piece, then those of its rest and the others. -/
theorem frames_append {n : Nat} (hn : 0 < n) (left right : List α) :
    frames n (left ++ right) = frames n left ++ frames n (rest n left ++ right) ∧
      rest n (left ++ right) = rest n (rest n left ++ right) := by
  induction left using (measure List.length).wf.induction with
  | h left ih =>
    rcases Nat.lt_or_ge left.length n with hShort | hLong
    · rw [frames_short hShort, rest_short hShort]
      exact ⟨rfl, rfl⟩
    · have hAppend : n ≤ (left ++ right).length := by
        rw [List.length_append]
        omega
      have hTail := ih (left.drop n) (by
        change (left.drop n).length < left.length
        rw [List.length_drop]
        omega)
      rw [frames_cons hn hAppend, rest_drop hn hAppend, frames_cons hn hLong, rest_drop hn hLong,
        List.drop_append_of_le_length hLong, List.take_append_of_le_length hLong, hTail.1, hTail.2]
      exact ⟨rfl, rfl⟩

theorem length_frames {n : Nat} (hn : 0 < n) (items : List α) :
    (frames n items).length = items.length / n := by
  induction items using (measure List.length).wf.induction with
  | h items ih =>
    rcases Nat.lt_or_ge items.length n with hShort | hLong
    · rw [frames_short hShort, Nat.div_eq_of_lt hShort, List.length_nil]
    · rw [frames_cons hn hLong, List.length_cons, ih (items.drop n) (by
        change (items.drop n).length < items.length
        rw [List.length_drop]
        omega), List.length_drop, Nat.div_eq_sub_div hn hLong]

theorem length_rest {n : Nat} (hn : 0 < n) (items : List α) :
    (rest n items).length = items.length % n := by
  induction items using (measure List.length).wf.induction with
  | h items ih =>
    rcases Nat.lt_or_ge items.length n with hShort | hLong
    · rw [rest_short hShort, Nat.mod_eq_of_lt hShort]
    · rw [rest_drop hn hLong, ih (items.drop n) (by
        change (items.drop n).length < items.length
        rw [List.length_drop]
        omega), List.length_drop, Nat.mod_eq_sub_mod hLong]

theorem length_of_mem_frames {n : Nat} (hn : 0 < n) {items frame : List α}
    (h : frame ∈ frames n items) : frame.length = n := by
  induction items using (measure List.length).wf.induction with
  | h items ih =>
    rcases Nat.lt_or_ge items.length n with hShort | hLong
    · rw [frames_short hShort] at h
      cases h
    · rw [frames_cons hn hLong] at h
      rcases List.mem_cons.mp h with rfl | h
      · exact List.length_take_of_le hLong
      · refine ih (items.drop n) ?_ h
        change (items.drop n).length < items.length
        rw [List.length_drop]
        omega

theorem getElem?_frames {n : Nat} (hn : 0 < n) (items : List α) (k : Nat) :
    (frames n items)[k]? =
      if n * k + n ≤ items.length then some ((items.drop (n * k)).take n) else none := by
  induction k generalizing items with
  | zero =>
    rcases Nat.lt_or_ge items.length n with hShort | hLong
    · rw [frames_short hShort, if_neg (by omega)]
      rfl
    · rw [frames_cons hn hLong, if_pos (by omega)]
      rfl
  | succ k ih =>
    rw [Nat.mul_succ]
    rcases Nat.lt_or_ge items.length n with hShort | hLong
    · rw [frames_short hShort, if_neg (by omega)]
      rfl
    · rw [frames_cons hn hLong, List.getElem?_cons_succ, ih (items.drop n), List.length_drop,
        List.drop_drop, Nat.add_comm n (n * k)]
      exact if_congr (by omega) rfl rfl

theorem frames_flatten {n : Nat} (hn : 0 < n) {pieces : List (List α)}
    (h : ∀ piece ∈ pieces, piece.length = n) : frames n pieces.flatten = pieces := by
  induction pieces with
  | nil => exact frames_short hn
  | cons piece pieces ih =>
    obtain ⟨rfl, hRest⟩ := List.forall_mem_cons.mp h
    have hLength : piece.length ≤ (piece ++ pieces.flatten).length := by
      rw [List.length_append]
      exact Nat.le_add_right _ _
    rw [List.flatten_cons, frames_cons hn hLength, List.take_left, List.drop_left, ih hRest]

section Padding

def pad (n : Nat) (filler : α) (items : List α) : List α :=
  items ++ List.replicate (n - items.length) filler

def padded (n : Nat) (filler : α) (items : List α) : List (List α) :=
  frames n items ++ if (rest n items).isEmpty then [] else [pad n filler (rest n items)]

variable {n : Nat} {filler : α}

theorem length_pad {items : List α} (h : items.length ≤ n) : (pad n filler items).length = n := by
  rw [pad, List.length_append, List.length_replicate, Nat.add_sub_cancel' h]

theorem padded_nil (hn : 0 < n) : padded n filler ([] : List α) = [] := by
  rw [padded, frames_short (by simpa using hn), rest_short (by simpa using hn)]
  rfl

/-- The first frame of a stream, full or not, and the others. -/
theorem padded_cons (hn : 0 < n) {items : List α} (hItems : items ≠ []) :
    padded n filler items =
      pad n filler (items.take n) :: padded n filler (items.drop n) := by
  rcases Nat.lt_or_ge items.length n with hShort | hLong
  · rw [List.take_of_length_le hShort.le, List.drop_of_length_le hShort.le, padded_nil hn, padded,
      frames_short hShort, rest_short hShort, if_neg (by simpa using hItems), List.nil_append]
  · have hFull : pad n filler (items.take n) = items.take n := by
      rw [pad, List.length_take_of_le hLong, Nat.sub_self, List.replicate_zero, List.append_nil]
    rw [padded, padded, hFull, frames_cons hn hLong, rest_drop hn hLong, List.cons_append]

theorem length_padded (hn : 0 < n) (items : List α) :
    (padded n filler items).length = (items.length + (n - 1)) / n := by
  induction items using (measure List.length).wf.induction with
  | h items ih =>
    by_cases hItems : items = []
    · rw [hItems, padded_nil hn]
      exact (Nat.div_eq_of_lt (by rw [List.length_nil]; omega)).symm
    · have hPos := List.length_pos_iff.mpr hItems
      have hTail := ih (items.drop n) (by
        change (items.drop n).length < items.length
        rw [List.length_drop]
        omega)
      rw [padded_cons hn hItems, List.length_cons, hTail, List.length_drop,
        ← Nat.add_div_right _ hn]
      rcases Nat.lt_or_ge items.length n with hShort | hLong
      · have hFirst : items.length - n + (n - 1) + n = n - 1 + n := by omega
        have hOne : items.length + (n - 1) = items.length - 1 + n := by omega
        rw [hFirst, hOne, Nat.add_div_right _ hn, Nat.add_div_right _ hn,
          Nat.div_eq_of_lt (by omega), Nat.div_eq_of_lt (by omega)]
      · congr 1
        omega

/-- Nothing is lost and fewer than `n` items are added. -/
theorem flatten_padded (hn : 0 < n) (items : List α) :
    ∃ k < n, (padded n filler items).flatten = items ++ List.replicate k filler := by
  induction items using (measure List.length).wf.induction with
  | h items ih =>
    by_cases hItems : items = []
    · exact ⟨0, hn, by rw [hItems, padded_nil hn]; rfl⟩
    · have hPos := List.length_pos_iff.mpr hItems
      rw [padded_cons hn hItems, List.flatten_cons]
      rcases Nat.lt_or_ge items.length n with hShort | hLong
      · refine ⟨n - items.length, by omega, ?_⟩
        rw [List.take_of_length_le hShort.le, List.drop_of_length_le hShort.le, padded_nil hn,
          List.flatten_nil, List.append_nil, pad]
      · obtain ⟨k, hk, hTail⟩ := ih (items.drop n) (by
          change (items.drop n).length < items.length
          rw [List.length_drop]
          omega)
        refine ⟨k, hk, ?_⟩
        rw [hTail, pad, List.length_take_of_le hLong, Nat.sub_self, List.replicate_zero,
          List.append_nil, ← List.append_assoc, List.take_append_drop]

theorem length_of_mem_padded (hn : 0 < n) {items frame : List α}
    (h : frame ∈ padded n filler items) : frame.length = n := by
  rw [padded] at h
  rcases List.mem_append.mp h with hFull | hLast
  · exact length_of_mem_frames hn hFull
  · split at hLast
    · cases hLast
    · rw [List.mem_singleton.mp hLast, length_pad (length_rest_lt hn items).le]

end Padding

end Framing
