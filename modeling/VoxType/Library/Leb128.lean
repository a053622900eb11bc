import Mathlib

/-!
# Base-128 numbers

A number is written in groups of seven bits, lowest first; every byte but the
last has its high bit set. Numbers with leading zero groups are allowed.
-/

namespace Leb128

set_option autoImplicit false

/-- All bytes but the last continue the number. -/
def WellFormed : List UInt8 → Prop
  | [] => False
  | [byte] => byte.toNat < 128
  | byte :: next :: rest => 128 ≤ byte.toNat ∧ WellFormed (next :: rest)

def value : List UInt8 → Nat
  | [] => 0
  | byte :: rest => byte.toNat % 128 + 128 * value rest

/-- The shortest writing of a number. -/
def encode (n : Nat) : List UInt8 :=
  if n < 128 then [UInt8.ofNat n] else UInt8.ofNat (n % 128 + 128) :: encode (n / 128)
termination_by n
decreasing_by omega

theorem WellFormed.ne_nil {bytes : List UInt8} (h : WellFormed bytes) : bytes ≠ [] := by
  rintro rfl
  exact h

theorem wellFormed_last {byte : UInt8} (hLast : byte.toNat < 128) {rest : List UInt8} :
    WellFormed (byte :: rest) ↔ rest = [] := by
  cases rest with
  | nil => exact iff_of_true hLast rfl
  | cons next rest =>
    refine iff_of_false ?_ (List.cons_ne_nil _ _)
    rintro ⟨hMore, _⟩
    omega

theorem wellFormed_cons {byte : UInt8} (hMore : 128 ≤ byte.toNat) {rest : List UInt8} :
    WellFormed (byte :: rest) ↔ WellFormed rest := by
  cases rest with
  | nil =>
    refine iff_of_false ?_ id
    intro hLast
    change byte.toNat < 128 at hLast
    omega
  | cons next rest => exact and_iff_right hMore

theorem toNat_ofNat {n : Nat} (h : n < 256) : (UInt8.ofNat n).toNat = n := by
  rw [UInt8.toNat_ofNat', Nat.mod_eq_of_lt h]

theorem encode_of_lt {n : Nat} (h : n < 128) : encode n = [UInt8.ofNat n] := by
  rw [encode, if_pos h]

theorem encode_of_le {n : Nat} (h : 128 ≤ n) :
    encode n = UInt8.ofNat (n % 128 + 128) :: encode (n / 128) := by
  rw [encode, if_neg (Nat.not_lt.mpr h)]

theorem wellFormed_encode (n : Nat) : WellFormed (encode n) := by
  induction n using Nat.strongRecOn with
  | ind n ih =>
    by_cases hSmall : n < 128
    · rw [encode_of_lt hSmall]
      change (UInt8.ofNat n).toNat < 128
      rw [toNat_ofNat (by omega)]
      exact hSmall
    · have hLarge : 128 ≤ n := Nat.le_of_not_lt hSmall
      rw [encode_of_le hLarge, wellFormed_cons]
      · exact ih (n / 128) (by omega)
      · rw [toNat_ofNat (by omega)]
        omega

@[simp] theorem value_encode (n : Nat) : value (encode n) = n := by
  induction n using Nat.strongRecOn with
  | ind n ih =>
    by_cases hSmall : n < 128
    · rw [encode_of_lt hSmall, value, value, toNat_ofNat (by omega)]
      omega
    · have hLarge : 128 ≤ n := Nat.le_of_not_lt hSmall
      rw [encode_of_le hLarge, value, ih (n / 128) (by omega), toNat_ofNat (by omega)]
      omega

theorem length_encode_le (n : Nat) : ∀ groups, n < 128 ^ (groups + 1) →
    (encode n).length ≤ groups + 1 := by
  intro groups
  induction groups generalizing n with
  | zero =>
    intro hBound
    rw [encode_of_lt (by omega), List.length_singleton]
  | succ groups ih =>
    intro hBound
    by_cases hSmall : n < 128
    · rw [encode_of_lt hSmall, List.length_singleton]
      omega
    · rw [encode_of_le (Nat.le_of_not_lt hSmall), List.length_cons]
      refine Nat.succ_le_succ (ih (n / 128) ?_)
      rw [Nat.div_lt_iff_lt_mul (by decide), ← Nat.pow_succ]
      exact hBound

/-- The groups of a number of `groups + 1` bytes leave little for the last one. -/
theorem last_le (bytes : List UInt8) (groups : Nat) (last : UInt8)
    (hLast : bytes[groups]? = some last) : last.toNat % 128 * 128 ^ groups ≤ value bytes := by
  induction groups generalizing bytes with
  | zero =>
    cases bytes with
    | nil => cases hLast
    | cons byte rest =>
      cases hLast
      rw [Nat.pow_zero, value]
      omega
  | succ groups ih =>
    cases bytes with
    | nil => cases hLast
    | cons byte rest =>
      have hRest := ih rest hLast
      rw [Nat.pow_succ, value]
      calc last.toNat % 128 * (128 ^ groups * 128)
          = last.toNat % 128 * 128 ^ groups * 128 := (Nat.mul_assoc _ _ _).symm
        _ ≤ value rest * 128 := Nat.mul_le_mul_right 128 hRest
        _ ≤ byte.toNat % 128 + 128 * value rest := by omega

/-- The last byte ends the number. -/
theorem WellFormed.last_lt {bytes : List UInt8} (hWellFormed : WellFormed bytes) (groups : Nat)
    (hLength : bytes.length ≤ groups + 1) {last : UInt8} (hLast : bytes[groups]? = some last) :
    last.toNat < 128 := by
  induction groups generalizing bytes with
  | zero =>
    obtain ⟨byte, rfl⟩ := List.length_eq_one_iff.mp
      (Nat.le_antisymm hLength (List.length_pos_iff.mpr hWellFormed.ne_nil))
    cases hLast
    exact hWellFormed
  | succ groups ih =>
    cases bytes with
    | nil => cases hLast
    | cons byte rest =>
      refine ih ?_ (Nat.le_of_succ_le_succ hLength) hLast
      by_cases hMore : 128 ≤ byte.toNat
      · exact (wellFormed_cons hMore).mp hWellFormed
      · rw [(wellFormed_last (Nat.lt_of_not_le hMore)).mp hWellFormed] at hLast
        cases hLast

end Leb128
