import Mathlib

/-!
# Datagrams of the Fcitx bridge

A datagram is a sequence of bytes; its fields are separated by zero bytes.
-/

namespace VoxType.Fcitx

set_option autoImplicit false

abbrev Bytes : Type := List UInt8

/-- An ASCII literal of the source. -/
def ascii (text : String) : Bytes := text.toList.map fun c => UInt8.ofNat c.toNat

def maxDatagramSize : Nat := 64 * 1024

def field (message : Bytes) : Nat → Bytes
  | 0 => message.takeWhile (· != 0)
  | index + 1 =>
    match message.dropWhile (· != 0) with
    | [] => []
    | _ :: rest => field rest index

def response (status detail : Bytes) : Bytes := status ++ 0 :: detail

def dispatchedResponse (requestId : Bytes) : Bytes :=
  response (ascii "OK") (ascii "dispatched") ++ 0 :: requestId

def textFingerprint (text : Bytes) : UInt64 :=
  text.foldl (fun value character => (value ^^^ character.toUInt64) * 1099511628211)
    14695981039346656037

theorem dispatchedResponse_injective {first second : Bytes}
    (h : dispatchedResponse first = dispatchedResponse second) : first = second :=
  (List.cons.inj (List.append_cancel_left h)).2

/-- The second field of a response names what it answers. -/
theorem field_response (detail rest : Bytes) (hDetail : ∀ byte ∈ detail, byte ≠ 0) :
    field (ascii "OK" ++ 0 :: (detail ++ 0 :: rest)) 1 = detail := by
  change (detail ++ 0 :: rest).takeWhile (· != 0) = detail
  rw [List.takeWhile_append_of_pos, List.takeWhile_cons_of_neg (by simp), List.append_nil]
  intro byte hMem
  simpa using hDetail byte hMem

theorem field_dispatched (requestId : Bytes) :
    field (dispatchedResponse requestId) 1 = ascii "dispatched" := by
  have hShape : dispatchedResponse requestId =
      ascii "OK" ++ 0 :: (ascii "dispatched" ++ 0 :: requestId) := by
    rw [dispatchedResponse, response, List.append_assoc, List.cons_append]
  rw [hShape, field_response _ _ (by decide +kernel)]

end VoxType.Fcitx
