import VoxType.Library.Lossy

/-!
# Decimal numbers

The digits a number is written with are read back as this number.
-/

namespace RustText

set_option autoImplicit false

theorem isDigit_iff {c : Char} : c.isDigit = true ↔ 48 ≤ c.toNat ∧ c.toNat ≤ 57 := by
  simp only [Char.isDigit, Bool.and_eq_true, decide_eq_true_eq, ge_iff_le,
    UInt32.le_iff_toNat_le]
  rfl

theorem digits_eq {value : Nat} {text : List Char} (h : ∀ c ∈ text, c.isDigit = true) :
    digits value text = some (Nat.ofDigitChars 10 text value) := by
  induction text generalizing value with
  | nil => rw [digits, Nat.ofDigitChars_nil]
  | cons c text ih =>
    rw [List.forall_mem_cons] at h
    rw [digits, if_pos (isDigit_iff.mp h.1), ih h.2, Nat.ofDigitChars_cons, Nat.mul_comm]
    rfl

theorem le_digits {value read : Nat} {text : List Char} (h : digits value text = some read) :
    value ≤ read := by
  induction text generalizing value with
  | nil => exact (Option.some.inj h).le
  | cons c text ih =>
    rw [digits] at h
    split at h
    case isTrue =>
      have hRead := ih h
      omega
    case isFalse => cases h

theorem parseUnsigned_cons {bits : Nat} {c : Char} (hPlus : c ≠ '+') (text : List Char) :
    parseUnsigned bits (c :: text) = (digits 0 (c :: text)).filter (· < 2 ^ bits) := by
  unfold parseUnsigned
  split
  case h_1 rest hEq => exact absurd (List.cons.inj hEq).1 hPlus
  case h_2 => rfl

/-- The first digit of a positive number. -/
theorem toDigits_first {n : Nat} (hn : 0 < n) :
    ∃ c rest, Nat.toDigits 10 n = c :: rest ∧ c.isDigit = true ∧ c ≠ '0' := by
  induction n using Nat.strong_induction_on with
  | _ n ih =>
    by_cases hSmall : n < 10
    · refine ⟨n.digitChar, [], Nat.toDigits_of_lt_base hSmall, ?_, ?_⟩ <;>
        (interval_cases n <;> decide)
    · obtain ⟨c, rest, hDigits, hFirst⟩ := ih (n / 10) (by omega) (by omega)
      refine ⟨c, rest ++ [(n % 10).digitChar], ?_, hFirst⟩
      rw [Nat.toDigits_of_base_le (by omega) (by omega), hDigits]
      rfl

theorem isDigit_toDigits {n : Nat} : ∀ c ∈ Nat.toDigits 10 n, c.isDigit = true :=
  fun _ hMem => Nat.isDigit_of_mem_toDigits (by omega) (by omega) hMem

/-- What `to_string` writes of a number, `parse` reads. -/
theorem parseUnsigned_toDigits {bits n : Nat} (hFits : n < 2 ^ bits) :
    parseUnsigned bits (Nat.toDigits 10 n) = some n := by
  have hRead : digits 0 (Nat.toDigits 10 n) = some n := by
    rw [digits_eq isDigit_toDigits, Nat.ofDigitChars_toDigits (by omega) (by omega)]
  obtain ⟨c, rest, hDigits⟩ := List.exists_cons_of_ne_nil (Nat.toDigits_ne_nil (n := n) (b := 10))
  have hDigit := isDigit_toDigits c (hDigits ▸ List.mem_cons_self)
  have hPlus : c ≠ '+' := by
    rintro rfl
    exact absurd hDigit (by decide)
  rw [hDigits] at hRead ⊢
  rw [parseUnsigned_cons hPlus, hRead, Option.filter_some, if_pos (decide_eq_true hFits)]

theorem toDigits_injective {n m : Nat} (h : Nat.toDigits 10 n = Nat.toDigits 10 m) : n = m := by
  have hRead := congrArg (Nat.ofDigitChars 10 · 0) h
  simpa only [Nat.ofDigitChars_toDigits (b := 10) (by omega) (by omega)] using hRead

section Delimiters

variable {α : Type} {delimiter : α} {part part' rest rest' : List α}

/-- What stands before the first delimiter is told by the whole. -/
theorem first_part (hPart : delimiter ∉ part) (hPart' : delimiter ∉ part')
    (h : part ++ delimiter :: rest = part' ++ delimiter :: rest') : part = part' ∧ rest = rest' := by
  induction part generalizing part' with
  | nil =>
    cases part' with
    | nil => exact ⟨rfl, (List.cons.inj h).2⟩
    | cons item part' => exact absurd (List.cons.inj h).1 fun hEq => hPart' (hEq ▸ List.mem_cons_self)
  | cons item part ih =>
    cases part' with
    | nil =>
      exact absurd (List.cons.inj h).1.symm fun hEq => hPart (hEq ▸ List.mem_cons_self)
    | cons item' part' =>
      obtain ⟨hItem, hRest⟩ := List.cons.inj h
      obtain ⟨hSame, hAfter⟩ := ih (fun hMem => hPart (List.mem_cons_of_mem _ hMem))
        (fun hMem => hPart' (List.mem_cons_of_mem _ hMem)) hRest
      exact ⟨by rw [hItem, hSame], hAfter⟩

/-- What stands after the last delimiter is told by the whole. -/
theorem last_part (hRest : delimiter ∉ rest) (hRest' : delimiter ∉ rest')
    (h : part ++ delimiter :: rest = part' ++ delimiter :: rest') : part = part' ∧ rest = rest' := by
  have hReversed := congrArg List.reverse h
  simp only [List.reverse_append, List.reverse_cons, List.append_assoc,
    List.singleton_append] at hReversed
  obtain ⟨hAfter, hBefore⟩ := first_part (fun hMem => hRest (List.mem_reverse.mp hMem))
    (fun hMem => hRest' (List.mem_reverse.mp hMem)) hReversed
  exact ⟨List.reverse_injective hBefore, List.reverse_injective hAfter⟩

end Delimiters

end RustText
