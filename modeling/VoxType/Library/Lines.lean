import VoxType.Library.Lossy

/-!
# Lines of a text that may be cut short

Lines are searched from the last one, each without the whitespace around it. A
text whose bytes are cut inside a character ends with U+FFFD.
-/

namespace RustText

set_option autoImplicit false

universe u

section Decoding

/-- What a decoded text may end with where its bytes were cut. -/
def CutMark (mark : List Char) : Prop := mark = [] ∨ mark = [replacement]

theorem prefix_or_append {α : Type u} {text first second : List α} (h : text <+: first ++ second) :
    text <+: first ∨ ∃ tail, text = first ++ tail ∧ tail <+: second := by
  obtain ⟨rest, hRest⟩ := h
  rcases List.append_eq_append_iff.mp hRest with ⟨gap, rfl, -⟩ | ⟨tail, rfl, rfl⟩
  · exact .inl (List.prefix_append text gap)
  · exact .inr ⟨tail, rfl, List.prefix_append tail rest⟩

theorem CutMark.solid_mark {mark : List Char} (h : CutMark mark) :
    ∀ c ∈ mark, isWhitespace c = false := by
  rcases h with rfl | rfl
  · exact nofun
  · intro c hMem
    rw [List.mem_singleton.mp hMem]
    simp [replacement, isWhitespace]

theorem utf8Decode_cut (pending : Option Utf8Partial) (bytes more : List UInt8) :
    ∃ text mark, utf8Decode pending bytes = text ++ mark ∧ CutMark mark ∧
      text <+: utf8Decode pending (bytes ++ more) := by
  induction bytes generalizing pending with
  | nil =>
    cases pending with
    | none => exact ⟨[], [], rfl, .inl rfl, List.nil_prefix⟩
    | some part => exact ⟨[], [replacement], rfl, .inr rfl, List.nil_prefix⟩
  | cons byte rest ih =>
    obtain ⟨text, mark, hText, hMark, hCut⟩ := ih (utf8Step pending byte.toNat).2
    refine ⟨(utf8Step pending byte.toNat).1 ++ text, mark, ?_, hMark, ?_⟩
    · rw [utf8Decode, hText, List.append_assoc]
    · rw [List.cons_append, utf8Decode]
      exact (List.prefix_append_right_inj _).mpr hCut

/-- No ASCII byte continues a character. -/
def NotAscii (pending : Option Utf8Partial) : Prop := ∀ part ∈ pending, 0x80 ≤ part.low

theorem utf8Start_notAscii (byte : Nat) : NotAscii (utf8Start byte).2 := by
  intro part hPart
  revert hPart
  simp only [utf8Start]
  split_ifs <;> rintro ⟨⟩ <;> simp

theorem utf8Step_notAscii (pending : Option Utf8Partial) (byte : Nat) :
    NotAscii (utf8Step pending byte).2 := by
  cases pending with
  | none => exact utf8Start_notAscii byte
  | some part =>
    rw [utf8Step]
    split
    · intro next hNext
      revert hNext
      simp only
      split <;> rintro ⟨⟩
      exact Nat.le_refl _
    · exact utf8Start_notAscii byte

theorem utf8Decode_append_ascii {pending : Option Utf8Partial} (hPending : NotAscii pending)
    {byte : UInt8} (hAscii : byte.toNat < 0x80) (bytes rest : List UInt8) :
    utf8Decode pending (bytes ++ byte :: rest) =
      utf8Decode pending bytes ++ Char.ofNat byte.toNat :: utf8Decode none rest := by
  induction bytes generalizing pending with
  | nil =>
    rw [List.nil_append, utf8Decode]
    cases pending with
    | none => rw [utf8Step, utf8Start, if_pos hAscii]; rfl
    | some part =>
      have hLow := hPending part rfl
      rw [utf8Step, if_neg (by omega), utf8Start, if_pos hAscii]
      rfl
  | cons first bytes ih =>
    rw [List.cons_append, utf8Decode, utf8Decode, ih (utf8Step_notAscii pending first.toNat),
      List.append_assoc]

def asciiBytes (text : List Char) : List UInt8 := text.map fun c => UInt8.ofNat c.toNat

theorem fromUtf8Lossy_append_cons {c : Char} (bytes : List UInt8) (text : List Char)
    (h : c.toNat < 0x80) :
    fromUtf8Lossy (bytes ++ asciiBytes (c :: text)) =
      fromUtf8Lossy bytes ++ c :: fromUtf8Lossy (asciiBytes text) := by
  have hByte : (UInt8.ofNat c.toNat).toNat = c.toNat := by
    rw [UInt8.toNat_ofNat']
    omega
  have hNone : NotAscii none := nofun
  have hSplit := utf8Decode_append_ascii hNone (hByte.trans_lt h) bytes (asciiBytes text)
  rw [hByte, Char.ofNat_toNat] at hSplit
  exact hSplit

theorem fromUtf8Lossy_ascii {text : List Char} (h : ∀ c ∈ text, c.toNat < 0x80) :
    fromUtf8Lossy (asciiBytes text) = text := by
  induction text with
  | nil => rfl
  | cons c text ih =>
    rw [List.forall_mem_cons] at h
    have hFirst := fromUtf8Lossy_append_cons [] text h.1
    rw [ih h.2] at hFirst
    exact hFirst

theorem fromUtf8Lossy_append_ascii {text : List Char} (bytes : List UInt8)
    (h : ∀ c ∈ text, c.toNat < 0x80) (hNonempty : text ≠ []) :
    fromUtf8Lossy (bytes ++ asciiBytes text) = fromUtf8Lossy bytes ++ text := by
  obtain ⟨c, text, rfl⟩ := List.exists_cons_of_ne_nil hNonempty
  rw [List.forall_mem_cons] at h
  rw [fromUtf8Lossy_append_cons bytes text h.1, fromUtf8Lossy_ascii h.2]

end Decoding

section Trimming

theorem trimChars_eq_rdropWhile (text : List Char) :
    trimChars text = (text.dropWhile isWhitespace).rdropWhile isWhitespace := rfl

theorem trimChars_chomp (line : List Char) : trimChars (chomp line) = trimChars line := by
  rw [chomp]
  split
  case isFalse => rfl
  case isTrue hLast =>
    obtain ⟨body, rfl⟩ := List.getLast?_eq_some_iff.mp hLast
    have hReturn : isWhitespace '\r' = true := by decide
    rw [List.dropLast_concat, trimChars_eq_rdropWhile, trimChars_eq_rdropWhile,
      List.dropWhile_append]
    split
    case isTrue hBlank =>
      rw [List.isEmpty_iff.mp hBlank, List.dropWhile_cons_of_pos hReturn]
      rfl
    case isFalse => rw [List.rdropWhile_concat_pos _ _ _ hReturn]

/-- No whitespace, and so no line break. -/
def Solid (text : List Char) : Prop := ∀ c ∈ text, isWhitespace c = false

theorem Solid.append {text more : List Char} (h : Solid text) (hMore : Solid more) :
    Solid (text ++ more) := by
  intro c hMem
  rcases List.mem_append.mp hMem with hText | hTail
  · exact h c hText
  · exact hMore c hTail

theorem Solid.of_prefix {text more : List Char} (h : Solid more) (hCut : text <+: more) :
    Solid text :=
  fun c hMem => h c (hCut.subset hMem)

theorem trimChars_of_solid {text : List Char} (h : Solid text) : trimChars text = text := by
  have hKeep : text.dropWhile isWhitespace = text := by
    cases text with
    | nil => rfl
    | cons c rest =>
      rw [List.dropWhile_cons_of_neg]
      rw [h c List.mem_cons_self]
      exact Bool.false_ne_true
  rw [trimChars_eq_rdropWhile, hKeep, List.rdropWhile_eq_self_iff]
  intro hNonempty
  rw [h _ (List.getLast_mem hNonempty)]
  exact Bool.false_ne_true

theorem prefix_rdropWhile {p : Char → Bool} {text : List Char} (h : text.rdropWhile p = text)
    (rest : List Char) : text <+: (text ++ rest).rdropWhile p := by
  induction rest using List.reverseRecOn with
  | nil => rw [List.append_nil, h]
  | append_singleton rest c ih =>
    rw [← List.append_assoc, List.rdropWhile_concat]
    split
    case isTrue => exact ih
    case isFalse => exact (List.prefix_append text rest).trans (List.prefix_append _ [c])

end Trimming

section Searching

variable {α : Type u} {look : List Char → Option α}

/-- The last line in which something is found. -/
def lastLine (look : List Char → Option α) (text : List Char) : Option α :=
  (lines text).reverse.findSome? fun line => look (trimChars line)

theorem linesFrom_cons (line : List Char) (c : Char) (rest : List Char) :
    linesFrom line (c :: rest) =
      if c = '\n' then chomp line :: linesFrom [] rest else linesFrom (line ++ [c]) rest := by
  cases line <;> rfl

theorem linesFrom_append (hBlank : look [] = none) (line text more : List Char) :
    (linesFrom line (text ++ '\n' :: more)).reverse.findSome? (fun line => look (trimChars line)) =
      (lastLine look more).or
        ((linesFrom line text).reverse.findSome? fun line => look (trimChars line)) := by
  induction text generalizing line with
  | nil =>
    rw [List.nil_append, linesFrom_cons, if_pos rfl, List.reverse_cons, List.findSome?_append]
    congr 1
    cases line with
    | nil => simp [linesFrom, chomp, trimChars, hBlank]
    | cons c line => simp [linesFrom, trimChars_chomp]
  | cons c text ih =>
    rw [List.cons_append, linesFrom_cons, linesFrom_cons]
    split
    case isTrue hBreak =>
      rw [List.reverse_cons, List.findSome?_append, ih, List.reverse_cons, List.findSome?_append,
        Option.or_assoc]
    case isFalse => exact ih (line ++ [c])

theorem lastLine_append (hBlank : look [] = none) (text more : List Char) :
    lastLine look (text ++ '\n' :: more) = (lastLine look more).or (lastLine look text) :=
  linesFrom_append hBlank [] text more

theorem linesFrom_unbroken {line text : List Char} (h : '\n' ∉ text) (hNonempty : line ++ text ≠ []) :
    linesFrom line text = [line ++ text] := by
  induction text generalizing line with
  | nil =>
    rw [List.append_nil] at hNonempty ⊢
    rw [linesFrom]
    exact hNonempty
  | cons c text ih =>
    rw [List.mem_cons, not_or] at h
    rw [linesFrom_cons, if_neg (Ne.symm h.1), ih h.2] <;> simp

theorem lastLine_unbroken (hBlank : look [] = none) {text : List Char} (h : '\n' ∉ text) :
    lastLine look text = look (trimChars text) := by
  cases text with
  | nil => exact hBlank.symm
  | cons c text =>
    rw [lastLine, lines, linesFrom_unbroken h (by simp)]
    simp

theorem lastLine_solid (hBlank : look [] = none) {text : List Char} (h : Solid text) :
    lastLine look text = look text := by
  have hUnbroken : '\n' ∉ text := fun hMem => absurd (h _ hMem) (by decide)
  rw [lastLine_unbroken hBlank hUnbroken, trimChars_of_solid h]

end Searching

section Markers

variable {marker : List Char} (hNonempty : marker ≠ [])
  (hSolid : Solid marker)

theorem prefix_of_cut {text mark : List Char} (hMark : CutMark mark) (hPlain : replacement ∉ marker)
    (h : marker <+: text ++ mark) : marker <+: text := by
  rcases hMark with rfl | rfl
  · rwa [List.append_nil] at h
  · rcases List.prefix_concat_iff.mp h with rfl | hShort
    · exact absurd List.mem_concat_self hPlain
    · exact hShort

/-- The line starts with the marker, after trimming. -/
def Begins (marker line : List Char) : Prop := marker <+: line.dropWhile isWhitespace

def Marked (marker text : List Char) : Prop := ∃ line ∈ lines text, Begins marker line

include hNonempty

theorem Begins.append {line : List Char} (h : Begins marker line) (more : List Char) :
    Begins marker (line ++ more) := by
  have hSome : line.dropWhile isWhitespace ≠ [] := by
    intro hEmpty
    rw [Begins, hEmpty, List.prefix_nil] at h
    exact hNonempty h
  rw [Begins, List.dropWhile_append, if_neg (by simpa using hSome)]
  exact h.trans (List.prefix_append _ more)

theorem Begins.of_cut {line mark : List Char} (hMark : CutMark mark)
    (hPlain : replacement ∉ marker) (h : Begins marker (line ++ mark)) : Begins marker line := by
  rw [Begins, List.dropWhile_append] at h
  split at h
  case isTrue =>
    rcases hMark with rfl | rfl
    · exact (hNonempty (List.prefix_nil.mp h)).elim
    · exact (hNonempty (List.prefix_nil.mp (prefix_of_cut (.inr rfl) hPlain h))).elim
  case isFalse => exact prefix_of_cut hMark hPlain h

include hSolid

theorem stripPrefix?_trimChars_isSome {line : List Char} :
    (stripPrefix? marker (trimChars line)).isSome = true ↔ Begins marker line := by
  rw [Option.isSome_iff_exists, trimChars_eq_rdropWhile]
  constructor
  · rintro ⟨rest, hRest⟩
    have hTrimmed := List.rdropWhile_prefix isWhitespace (line.dropWhile isWhitespace)
    rw [stripPrefix?_eq_some.mp hRest] at hTrimmed
    exact (List.prefix_append marker rest).trans hTrimmed
  · rintro ⟨rest, hRest⟩
    rw [← hRest]
    have hLast : marker.rdropWhile isWhitespace = marker := by
      rw [List.rdropWhile_eq_self_iff]
      intro _
      rw [hSolid _ (List.getLast_mem hNonempty)]
      exact Bool.false_ne_true
    obtain ⟨tail, hTail⟩ := prefix_rdropWhile hLast rest
    exact ⟨tail, stripPrefix?_eq_some.mpr hTail.symm⟩

theorem begins_chomp {line : List Char} : Begins marker (chomp line) ↔ Begins marker line := by
  rw [← stripPrefix?_trimChars_isSome hNonempty hSolid, trimChars_chomp,
    stripPrefix?_trimChars_isSome hNonempty hSolid]

theorem begins_linesFrom {line : List Char} (h : Begins marker line) (more : List Char) :
    ∃ other ∈ linesFrom line more, Begins marker other := by
  induction more generalizing line with
  | nil =>
    refine ⟨line, ?_, h⟩
    rw [linesFrom]
    · exact List.mem_singleton_self line
    · rintro rfl
      exact hNonempty (List.prefix_nil.mp h)
  | cons c more ih =>
    rw [linesFrom_cons]
    split
    case isTrue => exact ⟨chomp line, List.mem_cons_self, (begins_chomp hNonempty hSolid).mpr h⟩
    case isFalse => exact ih (h.append hNonempty [c])

theorem linesFrom_cut (hPlain : replacement ∉ marker) {mark : List Char} (hMark : CutMark mark)
    {line : List Char} (text more : List Char)
    (h : ∃ other ∈ linesFrom line (text ++ mark), Begins marker other) :
    ∃ other ∈ linesFrom line (text ++ more), Begins marker other := by
  induction text generalizing line with
  | nil =>
    obtain ⟨other, hMem, hBegins⟩ := h
    have hBreak : '\n' ∉ mark := by rcases hMark with rfl | rfl <;> decide
    have hWhole : other = line ++ mark := by
      by_cases hEmpty : line ++ mark = []
      · rw [List.append_eq_nil_iff] at hEmpty
        rw [hEmpty.1, hEmpty.2] at hMem
        cases hMem
      · rw [List.nil_append, linesFrom_unbroken hBreak hEmpty] at hMem
        exact List.mem_singleton.mp hMem
    exact begins_linesFrom hNonempty hSolid ((hWhole ▸ hBegins).of_cut hNonempty hMark hPlain) more
  | cons c text ih =>
    rw [List.cons_append, linesFrom_cons] at h ⊢
    split at h
    case isTrue hBreak =>
      rw [if_pos hBreak]
      obtain ⟨other, hMem, hBegins⟩ := h
      rcases List.mem_cons.mp hMem with rfl | hLater
      · exact ⟨_, List.mem_cons_self, hBegins⟩
      · obtain ⟨found, hFound, hMark⟩ := ih ⟨other, hLater, hBegins⟩
        exact ⟨found, List.mem_cons_of_mem _ hFound, hMark⟩
    case isFalse hBreak =>
      rw [if_neg hBreak]
      exact ih h

theorem not_marked {text : List Char}
    (h : ∀ line ∈ lines text, stripPrefix? marker (trimChars line) = none) :
    ¬ Marked marker text := by
  rintro ⟨line, hMem, hBegins⟩
  have hSome := (stripPrefix?_trimChars_isSome hNonempty hSolid).mpr hBegins
  rw [h line hMem] at hSome
  cases hSome

/-- A marker that is on no line is on no line of a text cut short. -/
theorem not_marked_cut (hPlain : replacement ∉ marker) {text mark more : List Char}
    (hMark : CutMark mark) (h : ¬ Marked marker (text ++ more)) : ¬ Marked marker (text ++ mark) :=
  fun hMarked => h (linesFrom_cut hNonempty hSolid hPlain hMark text more hMarked)

theorem lastLine_of_not_marked {α : Type u} {look : List Char → Option α}
    (hLook : ∀ line, stripPrefix? marker line = none → look line = none) {text : List Char}
    (h : ¬ Marked marker text) : lastLine look text = none := by
  rw [lastLine, List.findSome?_eq_none_iff]
  intro line hMem
  refine hLook _ (Option.not_isSome_iff_eq_none.mp fun hSome => h ⟨line, ?_, ?_⟩)
  · exact List.mem_reverse.mp hMem
  · exact (stripPrefix?_trimChars_isSome hNonempty hSolid).mp hSome

/-- What depends on a marker that is on no line is not found, wherever the text is cut. -/
theorem lastLine_cut {α : Type u} {look : List Char → Option α} (hPlain : replacement ∉ marker)
    (hLook : ∀ line, stripPrefix? marker line = none → look line = none)
    {text mark more whole : List Char} (hMark : CutMark mark) (hWhole : text ++ more = whole)
    (h : ∀ line ∈ lines whole, stripPrefix? marker (trimChars line) = none) :
    lastLine look (text ++ mark) = none := by
  subst hWhole
  refine lastLine_of_not_marked hNonempty hSolid hLook ?_
  exact not_marked_cut hNonempty hSolid hPlain hMark (not_marked hNonempty hSolid h)

end Markers

end RustText
