import VoxType.Doubao.Wire
import VoxType.Library.Text

/-!
# Recognition events

What a response says about the recognition, and whether a refusal is about the
credential. The keys of a JSON object are distinct.
-/

namespace VoxType.Doubao

set_option autoImplicit false

/-- A JSON value; a number counts only where it is a `u64`. -/
inductive Json
  | null
  | bool (value : Bool)
  | number (asU64 : Option UInt64)
  | string (value : String)
  | array (items : List Json)
  | object (entries : List (String × Json))

namespace Json

def get (value : Json) (key : String) : Option Json :=
  match value with
  | object entries => entries.lookup key
  | _ => none

def asBool : Json → Option Bool
  | bool value => some value
  | _ => none

def asU64 : Json → Option UInt64
  | number value => value
  | _ => none

def asStr : Json → Option String
  | string value => some value
  | _ => none

def asArray : Json → Option (List Json)
  | array items => some items
  | _ => none

def isObject : Json → Bool
  | object _ => true
  | _ => false

end Json

structure RecognitionEvent where
  text : Option String
  interim : Bool
  vadStarted : Bool
  vadFinished : Bool
  finalResult : Bool
  packetNumber : Option UInt64
  deriving DecidableEq, Repr

/-- The event in a result that is JSON. -/
def recognitionEvent (value : Json) : RecognitionEvent :=
  let extra := (value.get "extra").getD .null
  let vadStarted := ((extra.get "vad_start").bind Json.asBool).getD false
  let packetNumber := (extra.get "packet_number").bind Json.asU64
  match (value.get "results").bind Json.asArray with
  | none =>
    { text := none, interim := true, vadStarted, vadFinished := false, finalResult := false,
      packetNumber }
  | some results =>
    let text := results.reverse.findSome? fun result => (result.get "text").bind Json.asStr
    let interim := !results.any fun result =>
      ((result.get "is_interim").bind Json.asBool).any fun interim => !interim
    let vadFinished := results.any fun result =>
      ((result.get "is_vad_finished").bind Json.asBool).getD false
    let nonstream := results.any fun result =>
      (((result.get "extra").bind fun value => value.get "nonstream_result").bind
        Json.asBool).getD false
    { text, interim, vadStarted, vadFinished,
      finalResult := nonstream || (!interim && vadFinished), packetNumber }

/-- `fromSlice` reads JSON text. -/
def parseRecognitionEvent (fromSlice : Bytes → Option Json) (response : ResponseEnvelope) :
    Except String (Option RecognitionEvent) :=
  if response.resultJson = [] then .ok none
  else
    match fromSlice response.resultJson with
    | none => .error "invalid Doubao result JSON"
    | some value => .ok (some (recognitionEvent value))

/-- `char::to_lowercase`, exact where the result has ASCII characters. -/
def toLowercase (c : Char) : List Char :=
  if 65 ≤ c.toNat ∧ c.toNat ≤ 90 then [Char.ofNat (c.toNat + 32)]
  else if c.toNat = 0x212A then ['k']
  else if c.toNat = 0x0130 then ['i', Char.ofNat 0x0307]
  else [c]

def authNeedles : List String :=
  ["token", "auth", "credential", "app_key", "unauthorized", "forbidden"]

def authLikeResponse (response : ResponseEnvelope) : Bool :=
  if response.statusCode = 401 ∨ response.statusCode = 403 then true
  else
    let normalized := (response.statusMessage.toList.take 1024).flatMap toLowercase
    authNeedles.any fun needle => decide (needle.toList <:+: normalized)

example : authLikeResponse { ResponseEnvelope.empty with statusMessage := "To\u212Aen expired" } =
    true := by decide

end VoxType.Doubao
