import VoxType.Library.Lossy

/-!
# Words of a text

Words are what is left between white space. A marked word is found by its mark.
-/

namespace RustText

set_option autoImplicit false

/-- `str::split_whitespace` -/
def splitWhitespace (text : List Char) : List (List Char) :=
  (text.splitOnP isWhitespace).filter fun word => !word.isEmpty

/-- The first word with the mark, without it. -/
def markedWord (marker text : List Char) : Option (List Char) :=
  (splitWhitespace text).findSome? (stripPrefix? marker)

theorem splitWhitespace_cons {word : List Char} (hNonempty : word ≠ [])
    (hSolid : ∀ c ∈ word, isWhitespace c = false) (rest : List Char) :
    splitWhitespace (word ++ ' ' :: rest) = word :: splitWhitespace rest := by
  have hSplit : (word ++ ' ' :: rest).splitOnP isWhitespace =
      word :: rest.splitOnP isWhitespace := by
    apply List.splitOnP_append_cons_of_forall_mem _ _ rfl
    simpa using hSolid
  rw [splitWhitespace, hSplit, List.filter_cons_of_pos]
  · rfl
  · simpa using hNonempty

theorem markedWord_cons {marker word : List Char} (hMarked : marker ++ word ≠ [])
    (hSolid : ∀ c ∈ marker ++ word, isWhitespace c = false) (rest : List Char) :
    markedWord marker (marker ++ word ++ ' ' :: rest) = some word := by
  rw [markedWord, splitWhitespace_cons hMarked hSolid, List.findSome?_cons,
    stripPrefix?_eq_some.mpr rfl]

theorem dropWhile_all {α : Type*} {p : α → Bool} {l : List α}
    (h : ∀ x ∈ l.dropWhile p, p x = true) : l.dropWhile p = [] := by
  by_contra hSome
  have hHead := List.head_dropWhile_not p hSome
  rw [h _ (List.head_mem hSome)] at hHead
  cases hHead

theorem trimChars_nil {text : List Char} (h : trimChars text = []) :
    ∀ c ∈ text, isWhitespace c = true := by
  have hRest := List.dropWhile_eq_nil_iff.mp (List.reverse_eq_nil_iff.mp h)
  apply List.dropWhile_eq_nil_iff.mp
  apply dropWhile_all
  intro c hMem
  exact hRest c (List.mem_reverse.mpr hMem)

/-- Trimming leaves nothing to trim away. -/
theorem isBlank_trim {text : String} (h : isBlank text = false) : isBlank (trim text) = false := by
  rw [Bool.eq_false_iff] at h ⊢
  intro hBlank
  apply h
  have hChars : trimChars (trimChars text.toList) = [] := by
    simpa [isBlank, trim, trimChars] using hBlank
  have hNone : trimChars text.toList = [] := by
    apply List.reverse_eq_nil_iff.mpr
    apply dropWhile_all
    intro c hMem
    exact trimChars_nil hChars c (List.mem_reverse.mpr hMem)
  simpa [isBlank, trim, trimChars] using hNone

end RustText
