import Mathlib

/-!
# String operations of the source language

`isWhitespace` is the Unicode `White_Space` property, which trimming uses.
-/

namespace RustText

set_option autoImplicit false

def isWhitespace (c : Char) : Bool :=
  let code := c.toNat
  (9 ≤ code && code ≤ 13) || code == 0x20 || code == 0x85 || code == 0xA0 || code == 0x1680 ||
    (0x2000 ≤ code && code ≤ 0x200A) || code == 0x2028 || code == 0x2029 || code == 0x202F ||
    code == 0x205F || code == 0x3000

def trim (text : String) : String :=
  String.ofList
    (((text.toList.dropWhile isWhitespace).reverse.dropWhile isWhitespace).reverse)

/-- `text.trim().is_empty()` -/
def isBlank (text : String) : Bool := (trim text).isEmpty

example : isBlank " \t\u3000" = true ∧ isBlank " a " = false := by decide

end RustText
