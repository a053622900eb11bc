import VoxType.Curl.Attempt
import VoxType.Library.Decimal
import VoxType.Library.Lines

/-!
# What the diagnostics of curl tell of an upload

curl ends its diagnostics with the status and the number of bytes it sent. What
is retained of them may be cut anywhere.
-/

namespace VoxType.Curl

set_option autoImplicit false

open RustText

/-- `%{http_code}` has at least three digits. -/
def httpCode (status : Nat) : List Char :=
  List.replicate (3 - (Nat.toDigits 10 status).length) '0' ++ Nat.toDigits 10 status

def statusLine (status : Nat) : List Char := httpStatusMarker ++ httpCode status

def uploadLine (uploaded : Nat) : List Char := uploadBytesMarker ++ Nat.toDigits 10 uploaded

/-- `CURL_WRITE_OUT` for a status and a number of bytes sent. -/
def curlWriteOut (status uploaded : Nat) : List Char :=
  '\n' :: (statusLine status ++ '\n' :: (uploadLine uploaded ++ ['\n']))

/-- What curl writes to its diagnostics: details of its own, then `CURL_WRITE_OUT`. -/
def diagnosticsStream (details : List UInt8) (status uploaded : Nat) : List UInt8 :=
  details ++ RustText.asciiBytes (curlWriteOut status uploaded)

/-- No line starts with a marker, after trimming. -/
def NoMarkerLine (details : List UInt8) : Prop :=
  ∀ line ∈ lines (fromUtf8Lossy details),
    stripPrefix? httpStatusMarker (trimChars line) = none ∧
      stripPrefix? uploadBytesMarker (trimChars line) = none

/-- The loop of `read_bounded`; a read of no bytes is the end. -/
def readBoundedFrom (limit : Nat) (acc : BoundedRead) : List (List UInt8) → BoundedRead
  | [] => acc
  | chunk :: rest =>
    if chunk.isEmpty then acc
    else
      let remaining := limit - acc.bytes.length
      let retained := min remaining chunk.length
      readBoundedFrom limit
        { bytes := acc.bytes ++ chunk.take retained,
          overflowed := acc.overflowed || decide (retained < chunk.length) } rest

def readBounded (limit : Nat) (chunks : List (List UInt8)) : BoundedRead :=
  readBoundedFrom limit { bytes := [], overflowed := false } chunks

theorem readBoundedFrom_prefix {limit : Nat} {acc : BoundedRead} {read : List UInt8}
    (hAcc : acc.bytes = read.take limit) (chunks : List (List UInt8)) :
    (readBoundedFrom limit acc chunks).bytes <+: read ++ chunks.flatten := by
  induction chunks generalizing acc read with
  | nil =>
    rw [readBoundedFrom, hAcc, List.flatten_nil, List.append_nil]
    exact List.take_prefix limit read
  | cons chunk rest ih =>
    rw [readBoundedFrom]
    split
    case isTrue =>
      rw [hAcc]
      exact (List.take_prefix limit read).trans (List.prefix_append read _)
    case isFalse =>
      rw [List.flatten_cons, ← List.append_assoc]
      apply ih
      have hTake : chunk.take (min (limit - acc.bytes.length) chunk.length) =
          chunk.take (limit - read.length) := by
        rw [List.take_eq_take_iff, hAcc, List.length_take]
        omega
      simp only
      rw [hTake, hAcc, List.take_append]

/-- What is kept of an output is a prefix of it. -/
theorem readBounded_prefix (limit : Nat) (chunks : List (List UInt8)) :
    (readBounded limit chunks).bytes <+: chunks.flatten := by
  have hStart : ({ bytes := [], overflowed := false } : BoundedRead).bytes =
      ([] : List UInt8).take limit := List.take_nil.symm
  exact readBoundedFrom_prefix hStart chunks

section Evidence

def findStatus (line : List Char) : Option Nat :=
  ((stripPrefix? httpStatusMarker line).bind (parseUnsigned 16)).filter (· != 0)

def findUploaded (line : List Char) : Option Nat :=
  (stripPrefix? uploadBytesMarker line).bind fun value =>
    parseUnsigned 64 (value.takeWhile (· != '.'))

theorem solid_of_digits {text : List Char} (h : ∀ c ∈ text, c.isDigit = true) : Solid text := by
  intro c hMem
  have hDigit := isDigit_iff.mp (h c hMem)
  simp only [isWhitespace, Bool.or_eq_false_iff, Bool.and_eq_false_iff, decide_eq_false_iff_not,
    beq_eq_false_iff_ne]
  omega

theorem ascii_of_digits {text : List Char} (h : ∀ c ∈ text, c.isDigit = true) :
    ∀ c ∈ text, c.toNat < 0x80 := by
  intro c hMem
  have hDigit := isDigit_iff.mp (h c hMem)
  omega

theorem isDigit_httpCode {status : Nat} : ∀ c ∈ httpCode status, c.isDigit = true := by
  intro c hMem
  rcases List.mem_append.mp hMem with hPad | hDigits
  · rw [List.eq_of_mem_replicate hPad]
    rfl
  · exact isDigit_toDigits c hDigits

theorem solid_of_all {text : List Char} (h : text.all (fun c => !isWhitespace c) = true) :
    Solid text := by
  intro c hMem
  have hKept := List.all_eq_true.mp h c hMem
  rwa [Bool.not_eq_true'] at hKept

theorem httpCode_ne_nil (status : Nat) : httpCode status ≠ [] :=
  fun hEmpty => Nat.toDigits_ne_nil (List.append_eq_nil_iff.mp hEmpty).2

theorem httpStatusMarker_solid : Solid httpStatusMarker := solid_of_all (by decide)

theorem uploadBytesMarker_solid : Solid uploadBytesMarker := solid_of_all (by decide)

/-- The markers differ in their ninth character. -/
theorem markers_differ {marker other text : List Char}
    (h : marker.getD 8 ' ' ≠ other.getD 8 ' ') (hMarker : 8 < marker.length)
    (hOther : 8 < other.length) : ¬ marker <+: other ++ text := by
  rintro ⟨rest, hRest⟩
  have hSame := congrArg (fun line => line.getD 8 ' ') hRest
  simp only [List.getD_eq_getElem?_getD, List.getElem?_append_left hMarker,
    List.getElem?_append_left hOther] at hSame
  exact h (by rwa [List.getD_eq_getElem?_getD, List.getD_eq_getElem?_getD])

theorem findStatus_of_not_prefix {line : List Char} (h : ¬ httpStatusMarker <+: line) :
    findStatus line = none := by
  have hNone : stripPrefix? httpStatusMarker line = none := by
    refine Option.eq_none_iff_forall_ne_some.mpr fun rest hRest => h ⟨rest, ?_⟩
    exact (stripPrefix?_eq_some.mp hRest).symm
  rw [findStatus, hNone]
  rfl

theorem findUploaded_of_not_prefix {line : List Char} (h : ¬ uploadBytesMarker <+: line) :
    findUploaded line = none := by
  have hNone : stripPrefix? uploadBytesMarker line = none := by
    refine Option.eq_none_iff_forall_ne_some.mpr fun rest hRest => h ⟨rest, ?_⟩
    exact (stripPrefix?_eq_some.mp hRest).symm
  rw [findUploaded, hNone]
  rfl

/-- The line with the status, when it is whole. -/
theorem findStatus_line {status found : Nat}
    (h : findStatus (statusLine status) = some found) :
    found = status ∧ found ≠ 0 := by
  rw [findStatus, statusLine, stripPrefix?_eq_some.mpr rfl, Option.filter_eq_some_iff,
    Option.bind_some] at h
  obtain ⟨hParsed, hSome⟩ := h
  refine ⟨?_, bne_iff_ne.mp hSome⟩
  have hValue : digits 0 (httpCode status) = some status := by
    rw [digits_eq isDigit_httpCode, httpCode, Nat.ofDigitChars_append,
      Nat.ofDigitChars_replicate_zero, Nat.mul_zero, Nat.ofDigitChars_ten_toDigits]
  obtain ⟨c, rest, hCode⟩ := List.exists_cons_of_ne_nil (httpCode_ne_nil status)
  have hPlus : c ≠ '+' := by
    rintro rfl
    exact absurd (isDigit_httpCode _ (hCode ▸ List.mem_cons_self)) (by decide)
  rw [hCode, parseUnsigned_cons hPlus, ← hCode, hValue] at hParsed
  exact (Option.some.inj (Option.filter_eq_some_iff.mp hParsed).1).symm

/-- The line with the bytes sent, cut anywhere, never tells of none. -/
theorem findUploaded_cut {uploaded found : Nat} (hUploaded : 0 < uploaded) {line mark : List Char}
    (hMark : CutMark mark) (hCut : line <+: uploadLine uploaded)
    (h : findUploaded (line ++ mark) = some found) : 0 < found := by
  rw [findUploaded, Option.bind_eq_some_iff] at h
  obtain ⟨value, hValue, hParsed⟩ := h
  have hMarker : replacement ∉ uploadBytesMarker := by decide
  have hSplit := stripPrefix?_eq_some.mp hValue
  obtain ⟨sent, rfl⟩ := prefix_of_cut hMark hMarker ⟨value, hSplit.symm⟩
  rw [List.append_assoc, List.append_cancel_left_eq] at hSplit
  rw [uploadLine, List.prefix_append_right_inj] at hCut
  rw [← hSplit] at hParsed
  cases sent with
  | nil =>
    have hNone : parseUnsigned 64 (mark.takeWhile (· != '.')) = none := by
      rcases hMark with rfl | rfl
      · rfl
      · decide
    rw [List.nil_append, hNone] at hParsed
    cases hParsed
  | cons c sent =>
    obtain ⟨first, rest, hDigits, hDigit, hFirst⟩ := toDigits_first hUploaded
    rw [hDigits, List.cons_prefix_cons] at hCut
    obtain ⟨rfl, -⟩ := hCut
    rw [isDigit_iff] at hDigit
    have hPlus : c ≠ '+' := by
      rintro rfl
      exact absurd hDigit (by decide)
    have hPoint : (c != '.') = true := by
      rw [bne_iff_ne]
      rintro rfl
      exact absurd hDigit (by decide)
    have hZero : c.toNat ≠ 48 := fun hCode => hFirst (Char.toNat_inj.mp hCode)
    rw [List.cons_append, List.takeWhile_cons, if_pos hPoint, parseUnsigned_cons hPlus] at hParsed
    have hRead := (Option.filter_eq_some_iff.mp hParsed).1
    rw [digits, if_pos hDigit] at hRead
    have hLow := le_digits hRead
    omega

theorem statusLine_solid (status : Nat) : Solid (statusLine status) :=
  httpStatusMarker_solid.append (solid_of_digits isDigit_httpCode)

theorem uploadLine_solid (uploaded : Nat) : Solid (uploadLine uploaded) :=
  uploadBytesMarker_solid.append (solid_of_digits isDigit_toDigits)

theorem curlWriteOut_ascii {status uploaded : Nat} :
    ∀ c ∈ curlWriteOut status uploaded, c.toNat < 0x80 := by
  intro c hMem
  have hAll : (httpStatusMarker ++ uploadBytesMarker ++ ['\n']).all
      (fun c => decide (c.toNat < 0x80)) = true := by decide
  have hMarkers : ∀ c ∈ httpStatusMarker ++ uploadBytesMarker ++ ['\n'], c.toNat < 0x80 :=
    fun c hMem => of_decide_eq_true (List.all_eq_true.mp hAll c hMem)
  simp only [curlWriteOut, statusLine, uploadLine, List.mem_cons, List.mem_append,
    List.not_mem_nil, or_false] at hMem hMarkers
  rcases hMem with rfl | (hMem | hMem) | rfl | (hMem | hMem) | rfl
  · exact hMarkers _ (.inr rfl)
  · exact hMarkers _ (.inl (.inl hMem))
  · exact ascii_of_digits isDigit_httpCode c hMem
  · exact hMarkers _ (.inr rfl)
  · exact hMarkers _ (.inl (.inr hMem))
  · exact ascii_of_digits isDigit_toDigits c hMem
  · exact hMarkers _ (.inr rfl)

theorem lastLine_cut_solid {look : List Char → Option Nat} (hBlank : look [] = none)
    {line whole mark : List Char} (hMark : CutMark mark) (hSolid : Solid whole)
    (hCut : line <+: whole) : lastLine look (line ++ mark) = look (line ++ mark) :=
  lastLine_solid hBlank ((hSolid.of_prefix hCut).append hMark.solid_mark)

/-- A line of one marker, cut anywhere, does not begin with the other one. -/
theorem not_prefix_cut {marker other line mark : List Char} {rest : List Char}
    (hDiffer : ¬ marker <+: other ++ rest) (hPlain : replacement ∉ marker) (hMark : CutMark mark)
    (hCut : line <+: other ++ rest) : ¬ marker <+: line ++ mark :=
  fun h => hDiffer ((prefix_of_cut hMark hPlain h).trans hCut)

theorem not_upload_statusLine {status : Nat} : ¬ uploadBytesMarker <+: statusLine status :=
  markers_differ (by decide) (by decide) (by decide)

theorem not_status_uploadLine {uploaded : Nat} : ¬ httpStatusMarker <+: uploadLine uploaded :=
  markers_differ (by decide) (by decide) (by decide)

/-- What is found once the line with the status is whole, whatever follows it. -/
theorem evidence_after_status {text last : List Char} {status : Nat}
    (hText : lastLine findUploaded text = none) (hTextStatus : lastLine findStatus text = none)
    (hLast : ∀ found, lastLine findUploaded last = some found → 0 < found)
    (hLastStatus : lastLine findStatus last = none) :
    lastLine findUploaded (text ++ '\n' :: (statusLine status ++ '\n' :: last)) = none ∨
      (∃ found, lastLine findUploaded (text ++ '\n' :: (statusLine status ++ '\n' :: last)) =
        some found ∧ 0 < found) ∧
      ∀ found, lastLine findStatus (text ++ '\n' :: (statusLine status ++ '\n' :: last)) =
        some found → found = status ∧ found ≠ 0 := by
  have hSolid := statusLine_solid status
  rw [lastLine_append rfl, lastLine_append rfl, lastLine_solid rfl hSolid, hText,
    findUploaded_of_not_prefix not_upload_statusLine, Option.or_none, Option.or_none,
    lastLine_append rfl, lastLine_append rfl, lastLine_solid rfl hSolid, hTextStatus, hLastStatus,
    Option.or_none, Option.none_or]
  cases hFound : lastLine findUploaded last with
  | none => exact .inl rfl
  | some found => exact .inr ⟨⟨found, rfl, hLast found hFound⟩, fun _ h => findStatus_line h⟩

theorem uploadMarker_plain : replacement ∉ uploadBytesMarker := by decide

theorem statusMarker_plain : replacement ∉ httpStatusMarker := by decide

/-- Details without markers tell of no upload and no status, wherever they are cut. -/
theorem unmarked_cut {details : List UInt8} (h : NoMarkerLine details) {text mark : List Char}
    (hText : text <+: fromUtf8Lossy details) (hMark : CutMark mark) :
    lastLine findUploaded (text ++ mark) = none ∧ lastLine findStatus (text ++ mark) = none := by
  obtain ⟨rest, hRest⟩ := hText
  constructor
  · refine lastLine_cut ?_ uploadBytesMarker_solid uploadMarker_plain ?_ hMark hRest ?_
    · decide
    · intro line hLine
      rw [findUploaded, hLine]
      rfl
    · exact fun line hMem => (h line hMem).2
  · refine lastLine_cut ?_ httpStatusMarker_solid statusMarker_plain ?_ hMark hRest ?_
    · decide
    · intro line hLine
      rw [findStatus, hLine]
      rfl
    · exact fun line hMem => (h line hMem).1

/-- The line with the bytes sent, cut anywhere. -/
theorem uploadLine_cut {uploaded : Nat} (hUploaded : 0 < uploaded) {shown mark : List Char}
    (hMark : CutMark mark) (hShown : shown <+: uploadLine uploaded) :
    (∀ found, lastLine findUploaded (shown ++ mark) = some found → 0 < found) ∧
      lastLine findStatus (shown ++ mark) = none := by
  rw [lastLine_cut_solid rfl hMark (uploadLine_solid uploaded) hShown,
    lastLine_cut_solid rfl hMark (uploadLine_solid uploaded) hShown]
  refine ⟨fun found hFound => findUploaded_cut hUploaded hMark hShown hFound, ?_⟩
  exact findStatus_of_not_prefix
    (not_prefix_cut not_status_uploadLine statusMarker_plain hMark hShown)

theorem nothing_in_mark {mark : List Char} (hMark : CutMark mark) :
    lastLine findUploaded mark = none ∧ lastLine findStatus mark = none := by
  rcases hMark with rfl | rfl
  · exact ⟨rfl, rfl⟩
  · constructor <;> decide

theorem retained_evidence {details kept : List UInt8} {status uploaded : Nat}
    (hDetails : NoMarkerLine details) (hUploaded : 0 < uploaded)
    (hKept : kept <+: diagnosticsStream details status uploaded) :
    parseUploadBytes kept = none ∨
      (∃ found, parseUploadBytes kept = some found ∧ 0 < found) ∧
        ∀ found, parseHttpStatus kept = some found → found = status ∧ found ≠ 0 := by
  change lastLine findUploaded (fromUtf8Lossy kept) = none ∨
    (∃ found, lastLine findUploaded (fromUtf8Lossy kept) = some found ∧ 0 < found) ∧
      ∀ found, lastLine findStatus (fromUtf8Lossy kept) = some found → found = status ∧ found ≠ 0
  obtain ⟨more, hMore⟩ := hKept
  obtain ⟨text, mark, hText, hMark, hCut⟩ := utf8Decode_cut none kept more
  change fromUtf8Lossy kept = text ++ mark at hText
  change text <+: fromUtf8Lossy (kept ++ more) at hCut
  rw [hMore, diagnosticsStream, fromUtf8Lossy_append_ascii details curlWriteOut_ascii (by simp
    [curlWriteOut]), curlWriteOut] at hCut
  rw [hText]
  clear hText hMore
  have hBlank : lastLine findUploaded (fromUtf8Lossy details) = none ∧
      lastLine findStatus (fromUtf8Lossy details) = none := by
    have hWhole := unmarked_cut hDetails (List.prefix_refl _) (.inl rfl)
    rwa [List.append_nil] at hWhole
  have hStatusCut : ∀ shown, shown <+: statusLine status →
      lastLine findUploaded (fromUtf8Lossy details ++ '\n' :: (shown ++ mark)) = none := by
    intro shown hShown
    rw [lastLine_append rfl, lastLine_cut_solid rfl hMark (statusLine_solid status) hShown,
      findUploaded_of_not_prefix (not_prefix_cut not_upload_statusLine uploadMarker_plain hMark hShown),
      hBlank.1]
    rfl
  rcases prefix_or_append hCut with hDetailsCut | ⟨tail, rfl, hTail⟩
  · exact .inl (unmarked_cut hDetails hDetailsCut hMark).1
  rcases List.prefix_cons_iff.mp hTail with rfl | ⟨tail, rfl, hAfterDetails⟩
  · rw [List.append_nil]
    exact .inl (unmarked_cut hDetails (List.prefix_refl _) hMark).1
  rw [List.append_assoc, List.cons_append]
  rcases prefix_or_append hAfterDetails with hStatusLine | ⟨rest, rfl, hRest⟩
  · exact .inl (hStatusCut tail hStatusLine)
  rcases List.prefix_cons_iff.mp hRest with rfl | ⟨rest, rfl, hAfterStatus⟩
  · rw [List.append_nil]
    exact .inl (hStatusCut _ (List.prefix_refl _))
  rw [List.append_assoc, List.cons_append]
  rcases prefix_or_append hAfterStatus with hUploadLine | ⟨ending, rfl, hEnding⟩
  · exact evidence_after_status hBlank.1 hBlank.2 (uploadLine_cut hUploaded hMark hUploadLine).1
      (uploadLine_cut hUploaded hMark hUploadLine).2
  rcases List.prefix_cons_iff.mp hEnding with rfl | ⟨ending, rfl, hNothing⟩
  · rw [List.append_nil]
    have hWhole := uploadLine_cut hUploaded hMark (List.prefix_refl _)
    exact evidence_after_status hBlank.1 hBlank.2 hWhole.1 hWhole.2
  · obtain rfl := List.prefix_nil.mp hNothing
    have hWhole := uploadLine_cut hUploaded (.inl rfl) (List.prefix_refl _)
    rw [List.append_nil] at hWhole
    rw [List.append_assoc, List.singleton_append]
    refine evidence_after_status hBlank.1 hBlank.2 ?_ ?_
    · rw [lastLine_append rfl, (nothing_in_mark hMark).1, Option.none_or]
      exact hWhole.1
    · rw [lastLine_append rfl, (nothing_in_mark hMark).2, Option.none_or]
      exact hWhole.2

end Evidence

section Failures

/-- The exit codes of a transfer that could not begin. -/
def neverSent : List Int := [5, 6, 7, 35, 60]

theorem classifyAudioAcceptance_unknown {uploadedBytes httpStatus : Option Nat}
    {curlExitCode : Option Int} {wasCancelled : Bool}
    (hUploaded : ∀ found, uploadedBytes = some found → 0 < found)
    (hExit : ∀ code ∈ curlExitCode, code ∉ neverSent) :
    classifyAudioAcceptance uploadedBytes curlExitCode httpStatus wasCancelled ≠ .notAccepted := by
  have hNotSent : curlExitCode.any ([5, 6, 7, 35, 60].contains ·) = false := by
    cases curlExitCode with
    | none => rfl
    | some code => simpa [neverSent] using hExit code rfl
  rw [classifyAudioAcceptance, hNotSent]
  cases uploadedBytes with
  | none => simp
  | some found =>
    have hFound : (some found).any (0 < ·) = true := decide_eq_true (hUploaded found rfl)
    rw [hFound, if_pos rfl]
    split <;> simp

theorem classifyAudioAcceptance_accepted {uploadedBytes httpStatus : Option Nat}
    {curlExitCode : Option Int} {wasCancelled : Bool}
    (h : classifyAudioAcceptance uploadedBytes curlExitCode httpStatus wasCancelled = .accepted) :
    uploadedBytes.isSome = true ∧ curlExitCode = some 0 ∧
      ∃ status, httpStatus = some status ∧ isRedirect status = false := by
  rw [classifyAudioAcceptance] at h
  split at h
  case isFalse => split at h <;> cases h
  case isTrue hSent =>
    split at h
    case isFalse => cases h
    case isTrue hDone =>
      rw [Bool.and_eq_true, beq_iff_eq] at hDone
      obtain ⟨hExit, hStatus⟩ := hDone
      cases uploadedBytes with
      | none => cases hSent
      | some found =>
        cases httpStatus with
        | none => cases hStatus
        | some status => exact ⟨rfl, hExit, status, rfl, (Bool.not_eq_true' _).mp hStatus⟩

/-- Every failure carries the evidence of the diagnostics. -/
theorem finishCurlAttempt_error {status : ExitStatus} {wasCancelled : Bool}
    {body diagnostics : BoundedRead} {stdinError : Option String} {maxResponseBytes : Nat}
    {failure : CurlFailure}
    (h : finishCurlAttempt status wasCancelled body diagnostics stdinError maxResponseBytes =
      .error failure) :
    failure.transportStarted = true ∧
      failure.audioAcceptance = classifyAudioAcceptance (parseUploadBytes diagnostics.bytes)
        status.code (parseHttpStatus diagnostics.bytes) wasCancelled := by
  simp only [finishCurlAttempt] at h
  repeat' split at h
  all_goals
    cases h
    try exact ⟨rfl, rfl⟩

/-- Whatever is retained of the diagnostics of an upload that sent something, a failure
does not say that the audio was not accepted. -/
theorem upload_evidence_conservative {details : List UInt8} {httpStatus uploaded : Nat}
    (hUploaded : 0 < uploaded) (hDetails : NoMarkerLine details) {status : ExitStatus}
    (hExit : ∀ code ∈ status.code, code ∈ neverSent → uploaded = 0)
    {body diagnostics : BoundedRead}
    (hKept : diagnostics.bytes <+: diagnosticsStream details httpStatus uploaded)
    (wasCancelled : Bool) (stdinError : Option String) (maxResponseBytes : Nat)
    {failure : CurlFailure}
    (h : finishCurlAttempt status wasCancelled body diagnostics stdinError maxResponseBytes =
      .error failure) :
    failure.transportStarted = true ∧ failure.audioAcceptance ≠ .notAccepted ∧
      (failure.audioAcceptance = .accepted →
        status.code = some 0 ∧ httpStatus ≠ 0 ∧ ¬ (300 ≤ httpStatus ∧ httpStatus ≤ 399)) := by
  obtain ⟨hStarted, hAcceptance⟩ := finishCurlAttempt_error h
  have hEvidence := retained_evidence hDetails hUploaded hKept
  rw [hAcceptance]
  refine ⟨hStarted, ?_, ?_⟩
  · refine classifyAudioAcceptance_unknown ?_ ?_
    · intro found hFound
      rcases hEvidence with hNone | ⟨⟨sent, hSent, hPositive⟩, -⟩
      · rw [hNone] at hFound
        cases hFound
      · rw [hSent] at hFound
        cases hFound
        exact hPositive
    · intro code hCode hNever
      have hNothing := hExit code hCode hNever
      omega
  · intro hAccepted
    obtain ⟨hSome, hZero, found, hFound, hPlain⟩ := classifyAudioAcceptance_accepted hAccepted
    rcases hEvidence with hNone | ⟨-, hStatus⟩
    · rw [hNone] at hSome
      cases hSome
    · obtain ⟨rfl, hNonzero⟩ := hStatus found hFound
      refine ⟨hZero, hNonzero, ?_⟩
      rw [isRedirect, Bool.and_eq_false_iff, decide_eq_false_iff_not, decide_eq_false_iff_not]
        at hPlain
      omega

def resetDetails : List UInt8 := RustText.asciiBytes "curl: (56) reset".toList

/-- The diagnostics end inside the number of bytes sent. -/
def cutDiagnostics : BoundedRead where
  bytes := (diagnosticsStream resetDetails 200 684).take 64
  overflowed := false

def resetFailure : CurlFailure where
  category := .connection
  retryable := true
  message := "curl: (56) reset"
  httpStatus := some 200
  curlExitCode := some 56
  transportStarted := true
  audioAcceptance := .possiblyAccepted

theorem finishCurlAttempt_reset :
    finishCurlAttempt { code := some 56 } false { bytes := [], overflowed := false }
      cutDiagnostics none 1024 = .error resetFailure := by
  have hDiagnostic : sanitizedDiagnostic cutDiagnostics.bytes = some "curl: (56) reset" := by
    decide
  have hStatus : parseHttpStatus cutDiagnostics.bytes = some 200 := by decide
  have hUploaded : parseUploadBytes cutDiagnostics.bytes = some 68 := by decide
  rw [finishCurlAttempt, hDiagnostic, hStatus, hUploaded]
  rfl

theorem upload_evidence_conservative_reset :
    resetFailure.transportStarted = true ∧ resetFailure.audioAcceptance ≠ .notAccepted ∧
      (resetFailure.audioAcceptance = .accepted →
        (some 56 : Option Int) = some 0 ∧ 200 ≠ 0 ∧ ¬ (300 ≤ 200 ∧ 200 ≤ 399)) := by
  have hDetails : NoMarkerLine resetDetails := by
    simp only [NoMarkerLine]
    decide
  have hKept : cutDiagnostics.bytes <+: diagnosticsStream resetDetails 200 684 :=
    List.take_prefix 64 _
  exact upload_evidence_conservative (by decide) hDetails (by decide) hKept false none 1024
    finishCurlAttempt_reset

end Failures

end VoxType.Curl
