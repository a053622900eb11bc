import VoxType.Audio.Calibration
import VoxType.Audio.LevelAgreement

/-!
# The roots as loops

Both roots that start at the value itself, turn by turn: a division by zero would
panic, and a loop that never stops would still be running. `u64::midpoint` is the
mean, rounded down, and no estimate is above the value.
-/

namespace VoxType

set_option autoImplicit false

namespace Vad

/-- `integer_sqrt`, given a number of turns -/
def integerSqrtWithin (fuel value : Nat) : Newton.Ending := Newton.rootWithin fuel value

end Vad

namespace Calibration

/-- `integer_sqrt`, given a number of turns -/
def integerSqrtWithin (fuel value : Nat) : Newton.Ending := Newton.rootWithin fuel value

theorem calibration_integerSqrt (value : Nat) : integerSqrt value = Nat.sqrt value :=
  vad_integerSqrt value

end Calibration

/-- A root that a loop returns, however many more turns it is given. -/
structure ExactRoot (loop : Nat → Newton.Ending) (value root : Nat) : Prop where
  safe : ∀ fuel, loop fuel ≠ .panicked
  returns : ∃ turns, ∀ fuel, turns ≤ fuel → loop fuel = .returned root
  below : root * root ≤ value
  above : value < (root + 1) * (root + 1)

theorem rootWithin_exact (value : Nat) :
    ExactRoot (fun fuel => Newton.rootWithin fuel value) value (Nat.sqrt value) where
  safe fuel := Newton.rootWithin_safe fuel value
  returns := ⟨value + 1, fun _ => Newton.rootWithin_eq⟩
  below := Nat.sqrt_le value
  above := Nat.lt_succ_sqrt value

theorem integer_roots_exact (value : Nat) :
    ExactRoot (fun fuel => Vad.integerSqrtWithin fuel value) value (Vad.integerSqrt value) ∧
      ExactRoot (fun fuel => Calibration.integerSqrtWithin fuel value) value
        (Calibration.integerSqrt value) := by
  rw [vad_integerSqrt, Calibration.calibration_integerSqrt]
  exact ⟨rootWithin_exact value, rootWithin_exact value⟩

end VoxType
