import Mathlib

/-!
# Configuration files of quoted values

A file has one directive a line, a name and a quoted value. Between the quotes a
backslash escapes the character after it; a quote that is not escaped ends the
value.
-/

namespace ConfigFile

set_option autoImplicit false

structure Directive where
  name : List Char
  value : List Char
  deriving DecidableEq, Repr

def unescape (c : Char) : Char :=
  if c = 't' then '\t' else if c = 'n' then '\n' else if c = 'r' then '\r'
  else if c = 'v' then Char.ofNat 0x0B else c

/-- The value after an opening quote, and what follows the closing one. -/
def quoted : List Char → Option (List Char × List Char)
  | [] => none
  | '"' :: rest => some ([], rest)
  | '\\' :: c :: rest => (quoted rest).map fun read => (unescape c :: read.1, read.2)
  | c :: rest => (quoted rest).map fun read => (c :: read.1, read.2)

def isSeparator (c : Char) : Bool := c == ' ' || c == '\t' || c == '=' || c == ':'

/-- Nothing may follow the value on its line. -/
def directive (line : List Char) : Option Directive :=
  match (line.dropWhile (!isSeparator ·)).dropWhile isSeparator with
  | '"' :: rest =>
    match quoted rest with
    | some (value, []) => some ⟨line.takeWhile (!isSeparator ·), value⟩
    | _ => none
  | _ => none

def parse (text : List Char) : Option (List Directive) :=
  ((text.splitOn '\n').filter (!·.isEmpty)).mapM directive

def escapeChar (c : Char) : List Char :=
  if c = '\\' then ['\\', '\\'] else if c = '"' then ['\\', '"'] else [c]

def escape (value : List Char) : List Char := value.flatMap escapeChar

def line (d : Directive) : List Char := d.name ++ " = \"".toList ++ escape d.value ++ ['"']

def render (directives : List Directive) : List Char := directives.flatMap fun d => line d ++ ['\n']

/-- A directive that fits on its line. -/
structure Directive.Plain (d : Directive) : Prop where
  name : ∀ c ∈ d.name, isSeparator c = false ∧ c ≠ '\n'
  value : '\n' ∉ d.value

theorem quoted_plain {c : Char} (hQuote : c ≠ '"') (hEscape : c ≠ '\\') (rest : List Char) :
    quoted (c :: rest) = (quoted rest).map fun read => (c :: read.1, read.2) := by
  rw [quoted]
  · exact hQuote
  · exact fun _ _ hEq _ => hEscape hEq

/-- Reading undoes escaping, up to the quote that ends the value. -/
theorem quoted_escape (value rest : List Char) :
    quoted (escape value ++ '"' :: rest) = some (value, rest) := by
  induction value with
  | nil => rfl
  | cons c value ih =>
    rw [escape] at ih ⊢
    rw [List.flatMap_cons, escapeChar, List.append_assoc]
    split
    case isTrue hBackslash =>
      rw [List.cons_append, List.cons_append, List.nil_append, quoted, ih, hBackslash]
      rfl
    case isFalse hEscape =>
      split
      case isTrue hQuote =>
        rw [List.cons_append, List.cons_append, List.nil_append, quoted, ih, hQuote]
        rfl
      case isFalse hQuote =>
        rw [List.cons_append, List.nil_append, quoted_plain hQuote hEscape, ih]
        rfl

theorem escape_append (left right : List Char) : escape (left ++ right) = escape left ++ escape right :=
  List.flatMap_append

theorem not_mem_escape {value : List Char} (h : '\n' ∉ value) : '\n' ∉ escape value := by
  intro hMem
  obtain ⟨c, hc, hNewline⟩ := List.mem_flatMap.mp hMem
  rw [escapeChar] at hNewline
  split_ifs at hNewline
  · simp at hNewline
  · simp at hNewline
  · exact h (List.mem_singleton.mp hNewline ▸ hc)

variable {d : Directive}

theorem directive_line (h : d.Plain) : directive (line d) = some d := by
  have hName : ∀ c ∈ d.name, (!isSeparator c) = true := fun c hMem => by rw [(h.name c hMem).1]; rfl
  have hSpace : line d = d.name ++ (' ' :: '=' :: ' ' :: '"' :: (escape d.value ++ ['"'])) := by
    rw [line, List.append_assoc, List.append_assoc]
    rfl
  have hTake : (line d).takeWhile (!isSeparator ·) = d.name := by
    rw [hSpace, List.takeWhile_append_of_pos hName, List.takeWhile_cons_of_neg (by decide),
      List.append_nil]
  have hDrop : ((line d).dropWhile (!isSeparator ·)).dropWhile isSeparator =
      '"' :: (escape d.value ++ ['"']) := by
    rw [hSpace, List.dropWhile_append_of_pos hName, List.dropWhile_cons_of_neg (by decide)]
    rfl
  rw [directive, hDrop, hTake]
  simp only [quoted_escape]

theorem newline_not_mem_line (h : d.Plain) : '\n' ∉ line d := by
  rw [line]
  simp only [List.mem_append, List.mem_singleton, not_or]
  exact ⟨⟨⟨fun hMem => (h.name _ hMem).2 rfl, by decide⟩, not_mem_escape h.value⟩, by decide⟩

theorem splitOn_render {directives : List Directive} (h : ∀ d ∈ directives, d.Plain) :
    (render directives).splitOn '\n' = directives.map line ++ [[]] := by
  induction directives with
  | nil => rfl
  | cons d directives ih =>
    rw [List.forall_mem_cons] at h
    have hLine : ∀ c ∈ line d, (c == '\n') = false :=
      fun c hMem => beq_eq_false_iff_ne.mpr fun hEq => newline_not_mem_line h.1 (hEq ▸ hMem)
    have hRest := ih h.2
    rw [List.splitOn_eq_splitOnP] at hRest ⊢
    rw [render, List.flatMap_cons, List.append_assoc, List.singleton_append,
      List.splitOnP_append_cons_of_forall_mem hLine '\n' rfl]
    exact congrArg _ hRest

theorem mapM_directive {directives : List Directive} (h : ∀ d ∈ directives, d.Plain) :
    (directives.map line).mapM directive = some directives := by
  induction directives with
  | nil => rfl
  | cons d directives ih =>
    rw [List.forall_mem_cons] at h
    rw [List.map_cons, List.mapM_cons, directive_line h.1, ih h.2]
    rfl

/-- A rendered file is read as the directives it was rendered from. -/
theorem parse_render {directives : List Directive} (h : ∀ d ∈ directives, d.Plain) :
    parse (render directives) = some directives := by
  have hLines : (directives.map line ++ [[]]).filter (!·.isEmpty) = directives.map line := by
    rw [List.filter_append, List.filter_eq_self.mpr]
    · exact List.append_nil _
    · intro text hMem
      obtain ⟨d, -, rfl⟩ := List.mem_map.mp hMem
      simp [line]
  rw [parse, splitOn_render h, hLines, mapM_directive h]

end ConfigFile
