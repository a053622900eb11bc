import Mathlib

/-!
# The host of an authority

An authority ends before the first `/`, `?` or `#`. Its userinfo ends with the
last `@`, its port begins after the host; a host in brackets may hold colons.
-/

namespace Uri

set_option autoImplicit false

def isDelimiter (c : Char) : Bool := c == '/' || c == '?' || c == '#'

def authority (text : List Char) : List Char := text.takeWhile (!isDelimiter ·)

def withoutUserinfo : List Char → List Char
  | [] => []
  | c :: rest => if '@' ∈ rest then withoutUserinfo rest else if c = '@' then rest else c :: rest

/-- The text up to a character, and that character. -/
def through (last : Char) : List Char → List Char
  | [] => []
  | c :: rest => if c = last then [c] else c :: through last rest

def withoutPort : List Char → List Char
  | '[' :: rest => '[' :: through ']' rest
  | text => text.takeWhile (· != ':')

def host (text : List Char) : List Char := withoutPort (withoutUserinfo (authority text))

/-- The scheme, up to the first colon. -/
def scheme (text : List Char) : List Char := text.takeWhile (· != ':')

theorem withoutUserinfo_of_not_mem {text : List Char} (h : '@' ∉ text) :
    withoutUserinfo text = text := by
  cases text with
  | nil => rfl
  | cons c rest =>
    rw [List.mem_cons, not_or] at h
    rw [withoutUserinfo, if_neg h.2, if_neg (Ne.symm h.1)]

theorem withoutUserinfo_split (userinfo : List Char) {hostport : List Char} (h : '@' ∉ hostport) :
    withoutUserinfo (userinfo ++ '@' :: hostport) = hostport := by
  induction userinfo with
  | nil => rw [List.nil_append, withoutUserinfo, if_neg h, if_pos rfl]
  | cons c userinfo ih =>
    rw [List.cons_append, withoutUserinfo,
      if_pos (List.mem_append_right userinfo List.mem_cons_self), ih]

theorem exists_userinfo {text : List Char} (h : '@' ∈ text) :
    ∃ userinfo hostport, text = userinfo ++ '@' :: hostport ∧ '@' ∉ hostport := by
  induction text with
  | nil => cases h
  | cons c rest ih =>
    by_cases hRest : '@' ∈ rest
    · obtain ⟨userinfo, hostport, rfl, hLast⟩ := ih hRest
      exact ⟨c :: userinfo, hostport, rfl, hLast⟩
    · rcases List.mem_cons.mp h with rfl | hMem
      · exact ⟨[], rest, rfl, hRest⟩
      · exact absurd hMem hRest

/-- A name without colons and brackets is the host, whatever port follows. -/
theorem withoutPort_name {name rest : List Char} (hColon : ':' ∉ name) (hBracket : '[' ∉ name)
    (hNonempty : name ≠ []) (hRest : rest = [] ∨ ∃ port, rest = ':' :: port) :
    withoutPort (name ++ rest) = name := by
  obtain ⟨c, tail, rfl⟩ := List.exists_cons_of_ne_nil hNonempty
  have hOpen : c ≠ '[' := fun hEq => hBracket (hEq ▸ List.mem_cons_self)
  have hPlain : withoutPort (c :: tail ++ rest) = (c :: tail ++ rest).takeWhile (· != ':') := by
    rw [List.cons_append, withoutPort]
    exact fun _ hEq => hOpen (List.cons.inj hEq).1
  have hAll : ∀ x ∈ c :: tail, (x != ':') = true := by
    intro x hMem
    exact bne_iff_ne.mpr fun hEq => hColon (hEq ▸ hMem)
  rw [hPlain, List.takeWhile_append_of_pos hAll]
  rcases hRest with rfl | ⟨port, rfl⟩
  · exact List.append_nil _
  · rw [List.takeWhile_cons_of_neg (by decide), List.append_nil]

end Uri
