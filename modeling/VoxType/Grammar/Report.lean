import VoxType.Grammar.Candidates

/-!
# Reports of suggested edits

`check` keeps candidates in the order of their priority, as long as they do not
overlap. Texts of reports are lists of characters.
-/

namespace VoxType.Grammar

set_option autoImplicit false

open ByteText

structure CleanupEdit where
  startByte : Nat
  endByte : Nat
  original : Text
  replacement : Text
  ruleId : String
  message : String
  safety : EditSafety
  confidence : EditConfidence
  deriving DecidableEq, Repr

structure GrammarReport where
  schema : Nat
  clean : Bool
  originalFingerprint : String
  originalBytes : Nat
  originalCharacters : Nat
  suggested : Text
  safeEditCount : Nat
  reviewEditCount : Nat
  edits : List CleanupEdit
  deriving DecidableEq, Repr

/-- `format!("{:016x}")` -/
def hex16 (value : UInt64) : String :=
  let digits := Nat.toDigits 16 value.toNat
  String.ofList (List.replicate (16 - digits.length) '0' ++ digits)

def fingerprint (text : Text) : String :=
  let hash := (text.flatMap String.utf8EncodeChar).foldl
    (fun hash byte => (hash ^^^ byte.toUInt64) * 0x100000001b3) (0xcbf29ce484222325 : UInt64)
  "fnv1a64:" ++ hex16 hash

def rangesOverlap (aStart aEnd bStart bEnd : Nat) : Bool := aStart < bEnd && bStart < aEnd

/-- `sort_by_key` of the priority, the start and the end; it is stable. -/
def keyLe (a b : Candidate) : Prop :=
  a.priority < b.priority ∨ a.priority = b.priority ∧
    (a.start < b.start ∨ a.start = b.start ∧ a.end ≤ b.end)

instance : DecidableRel keyLe := fun _ _ => inferInstanceAs (Decidable (_ ∨ _))

def startLe (a b : Candidate) : Prop := a.start ≤ b.start

instance : DecidableRel startLe := fun _ _ => inferInstanceAs (Decidable (_ ≤ _))

def isSelectable (text : Text) (selected : List Candidate) (candidate : Candidate) : Bool :=
  !(decide (candidate.end ≤ candidate.start) || !isBoundary text candidate.start ||
    !isBoundary text candidate.end ||
    selected.any fun edit => rangesOverlap candidate.start candidate.end edit.start edit.end)

def select (text : Text) : List Candidate → List Candidate → List Candidate
  | selected, [] => selected
  | selected, candidate :: rest =>
    if isSelectable text selected candidate then select text (selected ++ [candidate]) rest
    else select text selected rest

def cleanupEdit (text : Text) (candidate : Candidate) : CleanupEdit where
  startByte := candidate.start
  endByte := candidate.end
  original := slice text candidate.start candidate.end
  replacement := candidate.replacement
  ruleId := candidate.ruleId
  message := candidate.message
  safety := candidate.safety
  confidence := candidate.confidence

/-- The first loop of `apply_edits`. -/
def editsMatch (text : Text) : Nat → List CleanupEdit → Bool
  | _, [] => true
  | previousEnd, edit :: rest =>
    if edit.startByte < previousEnd ∨ edit.endByte < edit.startByte ∨ size text < edit.endByte ∨
        isBoundary text edit.startByte = false ∨ isBoundary text edit.endByte = false ∨
        get? text edit.startByte edit.endByte ≠ some edit.original then false
    else editsMatch text edit.endByte rest

/-- The second loop of `apply_edits`. -/
def editedFrom (text : Text) : Nat → List CleanupEdit → Text
  | cursor, [] => drop cursor text
  | cursor, edit :: rest =>
    slice text cursor edit.startByte ++ (edit.replacement ++ editedFrom text edit.endByte rest)

def applyEdits (text : Text) (edits : List CleanupEdit) : Option Text :=
  if editsMatch text 0 edits then some (editedFrom text 0 edits) else none

/-- The candidates that `check` keeps, in the order of the text. -/
def selection (isAlphanumeric : Char → Bool) (text : Text) : List Candidate :=
  (select text [] ((candidates isAlphanumeric text).insertionSort keyLe)).insertionSort startLe

def check (isAlphanumeric : Char → Bool) (text : Text) : GrammarReport :=
  let edits := (selection isAlphanumeric text).map (cleanupEdit text)
  let safeEditCount := edits.countP fun edit => edit.safety == .safe
  { schema := 1
    clean := edits.isEmpty
    originalFingerprint := fingerprint text
    originalBytes := size text
    originalCharacters := text.length
    suggested := (applyEdits text edits).getD text
    safeEditCount
    reviewEditCount := edits.length - safeEditCount
    edits }

def applyReport (text : Text) (report : GrammarReport) : Option Text :=
  if size text ≠ report.originalBytes ∨ text.length ≠ report.originalCharacters ∨
      fingerprint text ≠ report.originalFingerprint then none
  else applyEdits text report.edits

example : (check Char.isAlphanum "  hello   hello , world!!  ".toList).suggested =
    "Hello, world!".toList := by decide

section Applying

variable {text : Text}

/-- The span of the edit, as the text has it. -/
structure CleanupEdit.Matches (text : Text) (edit : CleanupEdit) : Prop where
  nonempty : edit.startByte < edit.endByte
  start_boundary : isBoundary text edit.startByte = true
  end_boundary : isBoundary text edit.endByte = true
  original : get? text edit.startByte edit.endByte = some edit.original

/-- The edits follow each other, apart. -/
def Ordered (edits : List CleanupEdit) : Prop :=
  edits.Pairwise fun first second => first.endByte ≤ second.startByte

theorem boundary_le_size {n : Nat} (h : isBoundary text n = true) : n ≤ size text := by
  obtain ⟨left, right, rfl, rfl⟩ := isBoundary_iff.mp h
  rw [size_append]
  exact Nat.le_add_right _ _

theorem editsMatch_of_matches {edits : List CleanupEdit} {previousEnd : Nat}
    (hMatches : ∀ edit ∈ edits, edit.Matches text) (hOrdered : Ordered edits)
    (hAfter : ∀ edit ∈ edits, previousEnd ≤ edit.startByte) :
    editsMatch text previousEnd edits = true := by
  induction edits generalizing previousEnd with
  | nil => rfl
  | cons edit rest ih =>
    rw [List.forall_mem_cons] at hMatches hAfter
    rw [Ordered, List.pairwise_cons] at hOrdered
    have hEdit := hMatches.1
    have hEnd := boundary_le_size hEdit.end_boundary
    have hNonempty := hEdit.nonempty
    rw [editsMatch, if_neg]
    · exact ih hMatches.2 hOrdered.2 hOrdered.1
    · rw [hEdit.start_boundary, hEdit.end_boundary, hEdit.original]
      simp only [reduceCtorEq, ne_eq, not_true_eq_false, or_false, not_or, Nat.not_lt]
      exact ⟨hAfter.1, hNonempty.le, hEnd⟩

theorem applyEdits_of_matches {edits : List CleanupEdit}
    (hMatches : ∀ edit ∈ edits, edit.Matches text) (hOrdered : Ordered edits) :
    applyEdits text edits = some (editedFrom text 0 edits) :=
  if_pos (editsMatch_of_matches hMatches hOrdered fun _ _ => Nat.zero_le _)

/-- The edits as patches of what follows the cursor. -/
def patchesFrom (text : Text) : Nat → List CleanupEdit → List Patch
  | _, [] => []
  | cursor, edit :: rest =>
    { gap := slice text cursor edit.startByte, original := edit.original,
      replacement := edit.replacement } :: patchesFrom text edit.endByte rest

def lastEnd : Nat → List CleanupEdit → Nat
  | cursor, [] => cursor
  | _, edit :: rest => lastEnd edit.endByte rest

theorem editedFrom_eq_target (cursor : Nat) (edits : List CleanupEdit) :
    editedFrom text cursor edits =
      target (patchesFrom text cursor edits) (drop (lastEnd cursor edits) text) := by
  induction edits generalizing cursor with
  | nil => rfl
  | cons edit rest ih =>
    rw [editedFrom, ih]
    rfl

/-- Three parts of what follows a cursor. -/
theorem drop_span {cursor start «end» : Nat} {original : Text}
    (hCursor : isBoundary text cursor = true) (hStart : isBoundary text start = true)
    (hEnd : isBoundary text «end» = true) (hBefore : cursor ≤ start) (hNonempty : start ≤ «end»)
    (hOriginal : get? text start «end» = some original) :
    drop cursor text = slice text cursor start ++ (original ++ drop «end» text) := by
  obtain ⟨left, gap, rest, hText, rfl, rfl⟩ := exists_span hCursor hStart hBefore
  obtain ⟨upTo, span, right, hSplit, hUpTo, rfl⟩ := exists_span hStart hEnd hNonempty
  have hRest : drop (size left + size gap) text = rest := by
    rw [hText, ← size_append, ← List.append_assoc, drop_size]
  have hSpan : drop (size upTo) text = span ++ right := by rw [hSplit, drop_size]
  have hRight : drop (size upTo + size span) text = right := by
    rw [hSplit, ← size_append, ← List.append_assoc, drop_size]
  have hGap : slice text (size left) (size left + size gap) = gap := by rw [hText, slice_size]
  rw [← hUpTo, hSplit, get?_span] at hOriginal
  cases hOriginal
  rw [hGap, hRight, ← hSpan, hUpTo, hRest, hText, drop_size]

theorem drop_eq_source {edits : List CleanupEdit} {cursor : Nat}
    (hMatches : ∀ edit ∈ edits, edit.Matches text) (hOrdered : Ordered edits)
    (hCursor : isBoundary text cursor = true) (hAfter : ∀ edit ∈ edits, cursor ≤ edit.startByte) :
    drop cursor text = source (patchesFrom text cursor edits) (drop (lastEnd cursor edits) text) := by
  induction edits generalizing cursor with
  | nil => rfl
  | cons edit rest ih =>
    rw [List.forall_mem_cons] at hMatches hAfter
    rw [Ordered, List.pairwise_cons] at hOrdered
    have hEdit := hMatches.1
    rw [patchesFrom, lastEnd, source,
      ← ih hMatches.2 hOrdered.2 hEdit.end_boundary hOrdered.1]
    exact drop_span hCursor hEdit.start_boundary hEdit.end_boundary hAfter.1 hEdit.nonempty.le
      hEdit.original

theorem mem_patchesFrom {edits : List CleanupEdit} {cursor : Nat} {patch : Patch}
    (h : patch ∈ patchesFrom text cursor edits) :
    ∃ edit ∈ edits, patch.original = edit.original ∧ patch.replacement = edit.replacement := by
  induction edits generalizing cursor with
  | nil => cases h
  | cons edit rest ih =>
    rcases List.mem_cons.mp h with rfl | hLater
    · exact ⟨edit, List.mem_cons_self, rfl, rfl⟩
    · obtain ⟨other, hOther, hSame⟩ := ih hLater
      exact ⟨other, List.mem_cons_of_mem _ hOther, hSame⟩

/-- Effective edits that follow each other change the text. -/
theorem edits_eq_nil_of_unchanged {edits : List CleanupEdit}
    (hMatches : ∀ edit ∈ edits, edit.Matches text) (hOrdered : Ordered edits)
    (hEffective : ∀ edit ∈ edits, Effective edit.original edit.replacement)
    (hSame : editedFrom text 0 edits = text) : edits = [] := by
  have hSource := drop_eq_source hMatches hOrdered (isBoundary_zero text) fun _ _ => Nat.zero_le _
  rw [drop_zero] at hSource
  rw [editedFrom_eq_target] at hSame
  have hPatches : patchesFrom text 0 edits = [] := by
    refine eq_nil_of_target_eq ?_ (hSame.trans hSource)
    intro patch hPatch
    obtain ⟨edit, hEdit, hOriginal, hReplacement⟩ := mem_patchesFrom hPatch
    rw [Patch.Effective, hOriginal, hReplacement]
    exact hEffective edit hEdit
  cases edits with
  | nil => rfl
  | cons edit rest => cases hPatches

end Applying

end VoxType.Grammar
