import VoxType.Doubao.Completion

/-!
# Which item a final text comes from

The flags of an event are gathered over all items of a result, its text is that
of the last item that has one.
-/

namespace VoxType.Doubao

set_option autoImplicit false

open DoubaoSessionProtocol

def resultItems (value : Json) : List Json :=
  ((value.get "results").bind Json.asArray).getD []

def itemText (item : Json) : Option String := (item.get "text").bind Json.asStr

def notInterim (item : Json) : Bool :=
  ((item.get "is_interim").bind Json.asBool).any fun interim => !interim

def vadFinished (item : Json) : Bool :=
  ((item.get "is_vad_finished").bind Json.asBool).getD false

def nonstreamResult (item : Json) : Bool :=
  (((item.get "extra").bind fun value => value.get "nonstream_result").bind Json.asBool).getD false

/-- The provider marked this item final. -/
def markedFinal (item : Json) : Bool :=
  nonstreamResult item || (notInterim item && vadFinished item)

/-- Items with text `text` among the items of a result, one of them marked final. -/
def FinalItem (value : Json) (text : String) : Prop :=
  ∃ item ∈ resultItems value, itemText item = some text ∧ markedFinal item = true

instance (value : Json) (text : String) : Decidable (FinalItem value text) :=
  inferInstanceAs (Decidable (∃ item ∈ resultItems value, _))

/-- A text that is reported final is the text of an item that was marked final. -/
def FinalTextMarked (value : Json) : Prop :=
  ∀ text, (recognitionEvent value).finalResult = true →
    (recognitionEvent value).text = some text → FinalItem value text

/-- The flags of a final item, on one item or spread over several. -/
def CarriesFinal (items : List Json) : Prop :=
  (∃ item ∈ items, nonstreamResult item = true) ∨
    ((∃ item ∈ items, notInterim item = true) ∧ ∃ item ∈ items, vadFinished item = true)

/-- The flags of a final item do not occur, or there is no text, or an item that has the last text is
marked final. -/
def FlagsOnLastText (value : Json) : Prop :=
  ¬ CarriesFinal (resultItems value) ∨ (∀ item ∈ resultItems value, itemText item = none) ∨
    ∃ before last after, resultItems value = before ++ last :: after ∧ itemText last ≠ none ∧
      (∀ later ∈ after, itemText later = none) ∧
      ∃ item ∈ resultItems value, itemText item = itemText last ∧ markedFinal item = true

theorem recognitionEvent_text (value : Json) :
    (recognitionEvent value).text = (resultItems value).reverse.findSome? itemText := by
  rw [recognitionEvent, resultItems]
  cases (value.get "results").bind Json.asArray <;> rfl

theorem recognitionEvent_final (value : Json) :
    (recognitionEvent value).finalResult = true ↔ CarriesFinal (resultItems value) := by
  rw [recognitionEvent, resultItems]
  cases (value.get "results").bind Json.asArray with
  | none => simp [CarriesFinal]
  | some items =>
    change (items.any nonstreamResult || (!(!items.any notInterim) && items.any vadFinished)) =
      true ↔ CarriesFinal items
    rw [Bool.not_not, Bool.or_eq_true, Bool.and_eq_true, List.any_eq_true, List.any_eq_true,
      List.any_eq_true]
    rfl

theorem last_text_iff {items : List Json} {text : String} :
    items.reverse.findSome? itemText = some text ↔
      ∃ before item after, items = before ++ item :: after ∧ itemText item = some text ∧
        ∀ later ∈ after, itemText later = none := by
  rw [List.findSome?_eq_some_iff]
  constructor
  · rintro ⟨after, item, before, hSplit, hText, hNone⟩
    refine ⟨before.reverse, item, after.reverse, ?_, hText, ?_⟩
    · rw [← List.reverse_reverse items, hSplit, List.reverse_append, List.reverse_cons,
        List.append_assoc, List.singleton_append]
    · exact fun later hMem => hNone later (List.mem_reverse.mp hMem)
  · rintro ⟨before, item, after, rfl, hText, hNone⟩
    refine ⟨after.reverse, item, before.reverse, ?_, hText, ?_⟩
    · rw [List.reverse_append, List.reverse_cons, List.append_assoc, List.singleton_append]
    · exact fun later hMem => hNone later (List.mem_reverse.mp hMem)

theorem finalTextMarked_iff (value : Json) : FinalTextMarked value ↔ FlagsOnLastText value := by
  constructor
  · intro h
    by_cases hFlags : CarriesFinal (resultItems value)
    · cases hText : (resultItems value).reverse.findSome? itemText with
      | none =>
        refine .inr (.inl fun item hMem => ?_)
        exact List.findSome?_eq_none_iff.mp hText item (List.mem_reverse.mpr hMem)
      | some text =>
        obtain ⟨item, hMem, hItem, hMarked⟩ := h text ((recognitionEvent_final value).mpr hFlags)
          ((recognitionEvent_text value).trans hText)
        obtain ⟨before, last, after, hSplit, hLast, hNone⟩ := last_text_iff.mp hText
        refine .inr (.inr ⟨before, last, after, hSplit, ?_, hNone, item, hMem, ?_, hMarked⟩)
        · rw [hLast]
          exact Option.some_ne_none text
        · rw [hItem, hLast]
    · exact .inl hFlags
  · intro h text hFinal hText
    rw [recognitionEvent_text] at hText
    rcases h with hFlags | hNone | ⟨before, last, after, hSplit, hSome, hNone, item, hMem, hItem, hMarked⟩
    · exact absurd ((recognitionEvent_final value).mp hFinal) hFlags
    · rw [List.findSome?_eq_none_iff.mpr fun item hMem => hNone item (List.mem_reverse.mp hMem)]
        at hText
      cases hText
    · obtain ⟨found, hLast⟩ := Option.ne_none_iff_exists'.mp hSome
      rw [last_text_iff.mpr ⟨before, last, after, hSplit, hLast, hNone⟩] at hText
      cases hText
      exact ⟨item, hMem, hItem.trans hLast, hMarked⟩

/-- The call hands the session a result that meets `p`, if it hands it a result at all. -/
def HandsOver (fromSlice : Bytes → Option Json) (p : Json → Prop) (call : SessionCall) : Prop :=
  ∀ message response value, call = .handleBinary message →
    decodeResponse message = .ok response → fromSlice response.resultJson = some value → p value

/-- A final item of an accepted result has the text. -/
def FromFinalItem (fromSlice : Bytes → Option Json) (log : SessionLog)
    (text : String) : Prop :=
  ∃ message response value event, (.handleBinary message, .event (some (.recognition event))) ∈ log ∧
    decodeResponse message = .ok response ∧ fromSlice response.resultJson = some value ∧
    FinalItem value text

theorem FromFinalItem.mono {fromSlice : Bytes → Option Json}
    {log : SessionLog} {text : String} (h : FromFinalItem fromSlice log text)
    (more : SessionLog) : FromFinalItem fromSlice (log ++ more) text := by
  obtain ⟨message, response, value, event, hMem, hRest⟩ := h
  exact ⟨message, response, value, event, List.mem_append_left more hMem, hRest⟩

theorem parse_value {fromSlice : Bytes → Option Json} {response : ResponseEnvelope}
    {event : RecognitionEvent}
    (h : parseRecognitionEvent fromSlice response = .ok (some event)) :
    ∃ value, fromSlice response.resultJson = some value ∧ recognitionEvent value = event := by
  rw [parseRecognitionEvent] at h
  split at h
  · cases h
  · split at h
    · cases h
    · rename_i value hValue
      cases h
      exact ⟨value, hValue, rfl⟩

/-- One step keeps the origin of the final transcript. -/
theorem final_step {fromSlice : Bytes → Option Json} {log : SessionLog}
    {protocol after : DoubaoSessionProtocol} {call : SessionCall} {reply : SessionReply}
    (h : ∀ text, protocol.finalTranscript = some text → FromFinalItem fromSlice log text)
    (hMarked : HandsOver fromSlice FinalTextMarked call)
    (hTaken : Taken fromSlice protocol call reply after) (text : String)
    (hText : after.finalTranscript = some text) :
    FromFinalItem fromSlice (log ++ [(call, reply)]) text := by
  cases hTaken with
  | cancelled =>
    refine (h text ?_).mono _
    rw [cancel] at hText
    split at hText <;> exact hText
  | refused call error after hCall hRefused =>
    refine (h text ?_).mono _
    have hFailing : protocol.failing.finalTranscript = protocol.finalTranscript := by
      rw [failing]
      split <;> rfl
    cases hRefused with
    | unreceived => exact hText
    | failing => exact hFailing ▸ hText
    | emptyFinal event =>
      rw [failing] at hText
      split at hText <;> exact hText
  | recognized message response hUsed hPhase event hEvent hFresh hSome =>
    cases hFinal : event.finalResult with
    | false =>
      rw [finalText, hFinal] at hText
      exact (h text hText).mono _
    | true =>
      obtain ⟨found, hFound, -⟩ := hSome hFinal
      rw [finalText, hFinal, if_pos rfl, hFound] at hText
      cases hText
      obtain ⟨value, hValue, hSame⟩ := parse_value hEvent
      refine ⟨message, response, value, event, List.mem_append_right log List.mem_cons_self,
        hUsed.decoded, hValue, ?_⟩
      exact hMarked message response value rfl hUsed.decoded hValue text (hSame ▸ hFinal)
        (hSame ▸ hFound)
  | _ => exact (h text hText).mono _

/-- A final text comes from an item marked final just where the flags are on the last text; in a
session that is handed such results only, the final transcript does. -/
theorem final_text_iff (fromSlice : Bytes → Option Json) (requestId : String)
    (protocol : DoubaoSessionProtocol) (calls : List SessionCall) :
    (∀ value, FinalTextMarked value ↔ FlagsOnLastText value) ∧
    (DoubaoSessionProtocol.new requestId = .ok protocol →
      (protocolMachine fromSlice protocol).Along
        (fun _ _ call => HandsOver fromSlice FlagsOnLastText call) calls →
      ∀ text, ((protocolMachine fromSlice protocol).state calls).finalTranscript = some text →
        FromFinalItem fromSlice ((protocolMachine fromSlice protocol).log calls) text) := by
  refine ⟨finalTextMarked_iff, ?_⟩
  intro hNew hAlong
  refine (protocolMachine fromSlice protocol).invariant_along
    (P := fun log state => ∀ text, state.finalTranscript = some text →
      FromFinalItem fromSlice log text) ?_ ?_ calls hAlong
  · intro text hText
    rw [DoubaoSessionProtocol.new] at hNew
    split at hNew
    · cases hNew
    · cases hNew
      cases hText
  · intro log state call hOld hHands
    refine final_step hOld ?_ (call_taken fromSlice state call)
    exact fun message response value hCall hDecoded hValue =>
      (finalTextMarked_iff value).mpr (hHands message response value hCall hDecoded hValue)

/-- A final item, and a later draft. -/
def draftAfterFinal : Json :=
  .object [("results", .array
    [.object [("text", .string "final"), ("extra", .object [("nonstream_result", .bool true)])],
      .object [("text", .string "draft"), ("is_interim", .bool true)]])]

theorem draft_reported_final : ¬ FinalTextMarked draftAfterFinal := by
  intro h
  have hDraft := h "draft" (by decide) (by decide)
  revert hDraft
  decide

theorem final_text_greeting :
    FromFinalItem finalGreeting ((protocolMachine finalGreeting (idle "r")).log greeting) "hi" := by
  have hNew : DoubaoSessionProtocol.new "r" = .ok (idle "r") := by decide
  refine (final_text_iff finalGreeting "r" (idle "r") greeting).2 hNew ?_ "hi" (by decide)
  intro before call after _ message response value _ _ hValue
  cases hValue
  refine (finalTextMarked_iff _).mp fun text _ hText => ?_
  cases hText
  decide

end VoxType.Doubao
