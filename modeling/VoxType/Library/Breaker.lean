import Mathlib

/-!
# Circuit breakers

A breaker lets nothing pass for a while once enough failures have followed one
another. The streak is read off the whole history; what a breaker has to
remember of it is the deadline.
-/

namespace Breaker

set_option autoImplicit false

inductive Record
  | cleared
  | failure (time : Nat)
  | neither
  deriving DecidableEq, Repr

def Record.time? : Record → Option Nat
  | failure time => some time
  | _ => none

/-- The failures since the history was last cleared, the latest one first. -/
def streak (history : List Record) : List Nat :=
  (history.reverse.takeWhile (· != .cleared)).filterMap Record.time?

@[simp] theorem streak_cleared (history : List Record) : streak (history ++ [.cleared]) = [] := by
  rw [streak, List.reverse_append, List.reverse_singleton, List.singleton_append,
    List.takeWhile_cons_of_neg (by simp), List.filterMap_nil]

@[simp] theorem streak_failure (history : List Record) (time : Nat) :
    streak (history ++ [.failure time]) = time :: streak history := by
  rw [streak, List.reverse_append, List.reverse_singleton, List.singleton_append,
    List.takeWhile_cons_of_pos (by simp), List.filterMap_cons]
  rfl

@[simp] theorem streak_neither (history : List Record) :
    streak (history ++ [.neither]) = streak history := by
  rw [streak, List.reverse_append, List.reverse_singleton, List.singleton_append,
    List.takeWhile_cons_of_pos (by simp), List.filterMap_cons]
  rfl

structure Rule where
  threshold : Nat
  cooldown : Nat
  positive : 0 < threshold

namespace Rule

variable (rule : Rule)

/-- Too few failures in a row, or the last of them is long enough ago. -/
def Passes (history : List Record) (now : Nat) : Prop :=
  (streak history).length < rule.threshold ∨
    ∀ last ∈ (streak history).head?, last + rule.cooldown ≤ now

instance (history : List Record) (now : Nat) : Decidable (rule.Passes history now) :=
  inferInstanceAs (Decidable (_ ∨ _))

/-- When something passes again. -/
def deadline (history : List Record) : Option Nat :=
  if rule.threshold ≤ (streak history).length then
    (streak history).head?.map (· + rule.cooldown)
  else none

theorem passes_iff (history : List Record) (now : Nat) :
    rule.Passes history now ↔ ∀ time ∈ rule.deadline history, time ≤ now := by
  rw [Passes, deadline]
  split
  case isTrue hMany =>
    rw [or_iff_right (Nat.not_lt.mpr hMany)]
    cases (streak history).head? <;> simp
  case isFalse hFew => exact iff_of_true (.inl (Nat.lt_of_not_le hFew)) nofun

@[simp] theorem deadline_cleared (history : List Record) :
    rule.deadline (history ++ [.cleared]) = none := by
  rw [deadline, streak_cleared]
  exact if_neg (Nat.not_le.mpr rule.positive)

@[simp] theorem deadline_neither (history : List Record) :
    rule.deadline (history ++ [.neither]) = rule.deadline history := by
  rw [deadline, streak_neither, deadline]

/-- Below the threshold there is nothing to keep of an earlier deadline. -/
theorem deadline_failure (history : List Record) (time : Nat) :
    rule.deadline (history ++ [.failure time]) =
      if rule.threshold ≤ (streak history).length + 1 then some (time + rule.cooldown)
      else rule.deadline history := by
  rw [deadline, streak_failure, List.length_cons]
  split
  case isTrue => rfl
  case isFalse hFew => rw [deadline, if_neg (by omega)]

end Rule

end Breaker
