import VoxType.Library.ByteText
import VoxType.Library.Text

/-!
# Candidates for the cleanup of a text

The generators of `check`, in its order. Which characters are alphanumeric is
left to the tables of the standard library, `isAlphanumeric`.
-/

namespace VoxType.Grammar

set_option autoImplicit false

open ByteText

inductive EditSafety
  | safe
  | review
  deriving DecidableEq, Repr

inductive EditConfidence
  | high
  | medium
  deriving DecidableEq, Repr

structure Candidate where
  start : Nat
  «end» : Nat
  replacement : Text
  ruleId : String
  message : String
  safety : EditSafety
  confidence : EditConfidence
  priority : Nat
  deriving DecidableEq, Repr

structure Span where
  start : Nat
  «end» : Nat
  deriving DecidableEq, Repr

structure Word where
  start : Nat
  «end» : Nat
  value : Text
  deriving DecidableEq, Repr

def isHorizontalWhitespace (c : Char) : Bool := [' ', '\t', '\u00a0', '\u3000'].contains c

def isSentencePunctuation (c : Char) : Bool :=
  [',', '.', ';', ':', '!', '?', '，', '。', '；', '：', '！', '？'].contains c

def isCollapsiblePunctuation (c : Char) : Bool :=
  [',', ';', ':', '!', '?', '，', '；', '：', '！', '？'].contains c

def punctuationReplacement (c : Char) : Text := if isCollapsiblePunctuation c then [c] else []

def isAsciiLowercase (c : Char) : Bool := 97 ≤ c.toNat && c.toNat ≤ 122

def uppercaseAscii (c : Char) : Text := if isAsciiLowercase c then [c.toUpper] else []

def isOpeningQuote (c : Char) : Bool := ['"', '\'', '“', '‘', '(', '[', '{'].contains c

def isSentenceTerminator (c : Char) : Bool := ['.', '!', '?', '。', '！', '？'].contains c

/-- The characters with their positions, and one more at the end. -/
def withSentinel (text : Text) (sentinel : Char) : List (Nat × Char) :=
  charIndices text ++ [(size text, sentinel)]

/-- Where the horizontal whitespace before the end of a text starts. -/
def trailingStart (text : Text) : Nat :=
  ((((charIndices text).reverse.takeWhile fun entry => isHorizontalWhitespace entry.2).map
    Prod.fst).getLast?).getD (size text)

section Generators

def outerHorizontalWhitespace (text : Text) : List Candidate :=
  let leadingEnd := ((((charIndices text).takeWhile fun entry =>
    isHorizontalWhitespace entry.2).map fun entry => entry.1 + entry.2.utf8Size).getLast?).getD 0
  (if 0 < leadingEnd then
    [{ start := 0, «end» := leadingEnd, replacement := [], ruleId := "cleanup.outer-whitespace",
       message := "Remove leading horizontal whitespace", safety := .safe, confidence := .high,
       priority := 0 }]
  else []) ++
    if trailingStart text < size text ∧ leadingEnd ≤ trailingStart text then
      [{ start := trailingStart text, «end» := size text, replacement := [],
         ruleId := "cleanup.outer-whitespace",
         message := "Remove trailing horizontal whitespace", safety := .safe,
         confidence := .high, priority := 0 }]
    else []

def tokenSpansFrom : Option Nat → List (Nat × Char) → List Span
  | _, [] => []
  | start, (index, c) :: rest =>
    if RustText.isWhitespace c then
      match start with
      | some start => { start, «end» := index } :: tokenSpansFrom none rest
      | none => tokenSpansFrom none rest
    else tokenSpansFrom (some (start.getD index)) rest

def tokenSpans (text : Text) : List Span := tokenSpansFrom none (withSentinel text ' ')

/-- `str::trim_matches` -/
def trimPunctuation (token : Text) : Text :=
  (token.dropWhile isSentencePunctuation).rdropWhile isSentencePunctuation

def normalizedWord (isAlphanumeric : Char → Bool) (text : Text) (span : Span) : Option Word :=
  let token := slice text span.start span.end
  let value := trimPunctuation token
  if value.isEmpty || !value.any isAlphanumeric then none
  else
    (find value token).map fun relativeStart =>
      { start := span.start + relativeStart,
        «end» := span.start + relativeStart + size value, value }

def eqIgnoreAsciiCase (left right : Text) : Bool := left.map Char.toLower == right.map Char.toLower

/-- What `repeated_words` makes of two tokens that follow each other. -/
def repeatedWord (isAlphanumeric : Char → Bool) (text : Text) (previous current : Span) :
    Option Candidate :=
  match normalizedWord isAlphanumeric text previous, normalizedWord isAlphanumeric text current with
  | some previousWord, some currentWord =>
    if eqIgnoreAsciiCase previousWord.value currentWord.value &&
        !(slice text previous.end current.start).contains '\n' &&
        currentWord.start == current.start then
      some { start := previous.end, «end» := currentWord.end, replacement := [],
             ruleId := "cleanup.repeated-word", message := "Remove an adjacent repeated word",
             safety := .review, confidence := .medium, priority := 1 }
    else none
  | _, _ => none

def repeatedWords (isAlphanumeric : Char → Bool) (text : Text) : List Candidate :=
  let tokens := tokenSpans text
  (tokens.zip tokens.tail).filterMap fun pair =>
    repeatedWord isAlphanumeric text pair.1 pair.2

def punctuationSpacing (text : Text) : List Candidate :=
  (charIndices text).flatMap fun entry =>
    if !isSentencePunctuation entry.2 then []
    else
      let start := trailingStart (take entry.1 text)
      if start < entry.1 then
        [{ start, «end» := entry.1, replacement := [], ruleId := "cleanup.punctuation-spacing",
           message := "Remove horizontal whitespace before punctuation", safety := .safe,
           confidence := .high, priority := 2 }]
      else []

/-- A run: where it starts, its character and how often this has been read. -/
def repeatedPunctuationFrom : Option (Nat × Char × Nat) → List (Nat × Char) → List Candidate
  | _, [] => []
  | some (start, previous, count), (index, c) :: rest =>
    if c = previous then repeatedPunctuationFrom (some (start, previous, count + 1)) rest
    else
      (if 1 < count && isCollapsiblePunctuation previous then
        [{ start, «end» := index, replacement := punctuationReplacement previous,
           ruleId := "cleanup.repeated-punctuation", message := "Collapse repeated punctuation",
           safety := .review, confidence := .medium, priority := 3 }]
      else []) ++ repeatedPunctuationFrom (some (index, c, 1)) rest
  | none, (index, c) :: rest => repeatedPunctuationFrom (some (index, c, 1)) rest

def repeatedPunctuation (text : Text) : List Candidate :=
  repeatedPunctuationFrom none (withSentinel text '\x00')

def repeatedHorizontalWhitespaceFrom (text : Text) :
    Option Nat → List (Nat × Char) → List Candidate
  | _, [] => []
  | runStart, (index, c) :: rest =>
    if isHorizontalWhitespace c then
      repeatedHorizontalWhitespaceFrom text (some (runStart.getD index)) rest
    else
      match runStart with
      | none => repeatedHorizontalWhitespaceFrom text none rest
      | some start =>
        (if 1 < (slice text start index).length ∧ 0 < start ∧ index < size text ∧
            (take start text).getLast? ≠ some '\n' then
          [{ start, «end» := index, replacement := [' '], ruleId := "cleanup.repeated-whitespace",
             message := "Collapse repeated horizontal whitespace", safety := .review,
             confidence := .high, priority := 4 }]
        else []) ++ repeatedHorizontalWhitespaceFrom text none rest

def repeatedHorizontalWhitespace (text : Text) : List Candidate :=
  repeatedHorizontalWhitespaceFrom text none (withSentinel text '\x00')

def isProtected (text : Text) (span : Span) : Bool :=
  let token := slice text span.start span.end
  decide ("://".toList <:+: token) || token.contains '@' || "www.".toList.isPrefixOf token

def protectedTokenSpans (text : Text) : List Span := (tokenSpans text).filter (isProtected text)

def sentenceCaseFrom (protectedSpans : List Span) : Bool → List (Nat × Char) → List Candidate
  | _, [] => []
  | sentenceStart, (index, c) :: rest =>
    if protectedSpans.any fun span => decide (span.start ≤ index ∧ index < span.end) then
      sentenceCaseFrom protectedSpans false rest
    else if sentenceStart then
      if isAsciiLowercase c then
        { start := index, «end» := index + c.utf8Size, replacement := uppercaseAscii c,
          ruleId := "cleanup.sentence-case", message := "Capitalize an ASCII sentence beginning",
          safety := .review, confidence := .medium, priority := 5 } ::
          sentenceCaseFrom protectedSpans false rest
      else
        sentenceCaseFrom protectedSpans (RustText.isWhitespace c || isOpeningQuote c) rest
    else sentenceCaseFrom protectedSpans (isSentenceTerminator c) rest

def sentenceCase (text : Text) : List Candidate :=
  sentenceCaseFrom (protectedTokenSpans text) true (charIndices text)

/-- Every suggestion, in the order of the generators. -/
def candidates (isAlphanumeric : Char → Bool) (text : Text) : List Candidate :=
  outerHorizontalWhitespace text ++ repeatedWords isAlphanumeric text ++ punctuationSpacing text ++
    repeatedPunctuation text ++ repeatedHorizontalWhitespace text ++ sentenceCase text

end Generators

end VoxType.Grammar
