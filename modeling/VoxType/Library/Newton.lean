import Mathlib

/-!
# Descending Newton iteration for the integer square root

An integer square root written as a loop replaces the estimate while the next
one is smaller. Its answer depends on the side of the root it starts from.
-/

namespace Newton

set_option autoImplicit false

/-- `while next < estimate { estimate = next }` -/
def descend (next : Nat → Nat) (estimate : Nat) : Nat :=
  if next estimate < estimate then descend next (next estimate) else estimate
termination_by estimate

/-- One Newton step for the root of `v`. -/
def step (v estimate : Nat) : Nat := (estimate + v / estimate) / 2

theorem descend_stop {next : Nat → Nat} {estimate : Nat} (h : estimate ≤ next estimate) :
    descend next estimate = estimate := by
  rw [descend, if_neg (by omega)]

/-- Two step functions that agree up to the start give the same descent. -/
theorem descend_congr {f g : Nat → Nat} (estimate : Nat) (h : ∀ e ≤ estimate, f e = g e) :
    descend f estimate = descend g estimate := by
  induction estimate using Nat.strongRecOn with
  | ind estimate ih =>
    rw [descend, h estimate (Nat.le_refl _)]
    split
    · rename_i hLess
      rw [ih (g estimate) hLess (fun e he => h e (by omega)), descend.eq_def g estimate,
        if_pos hLess]
    · rename_i hLess
      rw [descend_stop (by omega)]

theorem sqrt_le_step (v : Nat) {estimate : Nat} (h : 0 < estimate) :
    Nat.sqrt v ≤ step v estimate := by
  have hSquare : Nat.sqrt v * Nat.sqrt v ≤ v := Nat.sqrt_le v
  have hProduct : (2 * Nat.sqrt v - estimate) * estimate ≤ v := by
    refine Nat.le_trans ?_ hSquare
    rcases Nat.le_total estimate (2 * Nat.sqrt v) with hLe | hLe
    · zify [hLe]
      nlinarith [sq_nonneg ((Nat.sqrt v : Int) - estimate)]
    · rw [Nat.sub_eq_zero_of_le hLe, Nat.zero_mul]
      exact Nat.zero_le _
  have hQuotient := (Nat.le_div_iff_mul_le h).mpr hProduct
  unfold step
  omega

theorem step_lt {v estimate : Nat} (h : Nat.sqrt v < estimate) : step v estimate < estimate := by
  have hQuotient : v / estimate < estimate :=
    (Nat.div_lt_iff_lt_mul (by omega)).mpr (Nat.sqrt_lt.mp h)
  unfold step
  omega

/-- From the root or above, the descent ends at the root. -/
theorem descend_from_above {v estimate : Nat} (hPos : 0 < estimate) (h : Nat.sqrt v ≤ estimate) :
    descend (step v) estimate = Nat.sqrt v := by
  induction estimate using Nat.strongRecOn with
  | ind estimate ih =>
    rcases Nat.lt_or_eq_of_le h with hAbove | hEq
    · have hLess := step_lt hAbove
      have hRoot := sqrt_le_step v hPos
      rw [descend, if_pos hLess]
      rcases Nat.eq_zero_or_pos (step v estimate) with hZero | hNext
      · rw [hZero] at hRoot ⊢
        rw [descend_stop (Nat.zero_le _)]
        omega
      · exact ih _ hLess hNext hRoot
    · have hRoot := sqrt_le_step v hPos
      rw [descend_stop (by omega), hEq]

/-- From the root or below, the descent never moves. -/
theorem descend_from_below {v estimate : Nat} (hPos : 0 < estimate) (h : estimate ≤ Nat.sqrt v) :
    descend (step v) estimate = estimate := by
  apply descend_stop
  have hQuotient : estimate ≤ v / estimate :=
    (Nat.le_div_iff_mul_le hPos).mpr (Nat.le_sqrt.mp h)
  unfold step
  omega

section Turns

/-- How a loop ends that divides: it may still be running, or have divided by zero. -/
inductive Ending
  | running
  | panicked
  | returned (root : Nat)
  deriving DecidableEq, Repr

/-- A step that panics where its divisor is zero. -/
def checkedStep (v estimate : Nat) : Option Nat :=
  if estimate = 0 then none else some (step v estimate)

/-- `while next < estimate`, for at most `fuel` turns -/
def turns (v : Nat) : Nat → Nat → Nat → Ending
  | 0, _, _ => .running
  | fuel + 1, estimate, next =>
    if next < estimate then
      match checkedStep v next with
      | none => .panicked
      | some following => turns v fuel next following
    else .returned estimate

/-- The whole root, from the value itself. -/
def rootWithin (fuel v : Nat) : Ending :=
  if v < 2 then .returned v
  else
    match checkedStep v v with
    | none => .panicked
    | some next => turns v fuel v next

theorem step_pos {v estimate : Nat} (hPos : 0 < estimate) (hValue : 0 < v) : 0 < step v estimate :=
  (Nat.sqrt_pos.mpr hValue).trans_le (sqrt_le_step v hPos)

/-- Every divisor is positive, and the estimate falls in every turn. -/
theorem turns_descend {v estimate fuel : Nat} (hValue : 0 < v) (hPos : 0 < estimate)
    (hFuel : estimate < fuel) :
    turns v fuel estimate (step v estimate) = .returned (descend (step v) estimate) := by
  induction fuel generalizing estimate with
  | zero => exact absurd hFuel (Nat.not_lt_zero _)
  | succ fuel ih =>
    rw [turns, descend]
    split
    · rename_i hLess
      have hNext := step_pos hPos hValue
      rw [checkedStep, if_neg hNext.ne']
      exact ih hNext (by omega)
    · rfl

theorem turns_safe {v estimate next : Nat} (hValue : 0 < v) (hNext : 0 < next) (fuel : Nat) :
    turns v fuel estimate next ≠ .panicked := by
  induction fuel generalizing estimate next with
  | zero => exact nofun
  | succ fuel ih =>
    rw [turns]
    split
    · rw [checkedStep, if_neg hNext.ne']
      exact ih (step_pos hNext hValue)
    · exact nofun

theorem rootWithin_safe (fuel v : Nat) : rootWithin fuel v ≠ .panicked := by
  rw [rootWithin]
  split
  · exact nofun
  · have hPos : 0 < v := by omega
    rw [checkedStep, if_neg hPos.ne']
    exact turns_safe hPos (step_pos hPos hPos) fuel

theorem rootWithin_eq {v fuel : Nat} (hFuel : v < fuel) :
    rootWithin fuel v = .returned (Nat.sqrt v) := by
  rw [rootWithin]
  split
  · rename_i hSmall
    rcases v with _ | _ | v
    · rfl
    · rfl
    · omega
  · rename_i hLarge
    have hPos : 0 < v := by omega
    rw [checkedStep, if_neg hPos.ne']
    exact (turns_descend hPos hPos hFuel).trans
      (congrArg _ (descend_from_above hPos (Nat.sqrt_le_self v)))

end Turns

end Newton
