import VoxType.Audio.Level

/-!
# Where the live and the offline level agree

The offline root descends from above and is exact. The live root starts below
the root when the bit length of its argument is odd, and then never moves.
-/

namespace VoxType

set_option autoImplicit false

theorem sampleMagnitude_le (low high : UInt8) : sampleMagnitude low high ≤ 2 ^ 15 := by
  simp only [sampleMagnitude]
  split <;> omega

theorem magnitudes_le (pcm : List UInt8) : ∀ x ∈ magnitudes pcm, x ≤ 2 ^ 15 := by
  induction pcm using magnitudes.induct with
  | case1 low high rest ih =>
    intro x hx
    rcases List.mem_cons.mp hx with rfl | hx
    · exact sampleMagnitude_le low high
    · exact ih x hx
  | case2 => intro x hx; simp_all [magnitudes]

theorem length_magnitudes (pcm : List UInt8) : (magnitudes pcm).length = pcm.length / 2 := by
  induction pcm using magnitudes.induct with
  | case1 low high rest ih =>
    rw [magnitudes, List.length_cons, ih, List.length_cons, List.length_cons]
    omega
  | case2 pcm hShort =>
    match pcm, hShort with
    | [], _ => simp [magnitudes]
    | [_], _ => simp [magnitudes]
    | low :: high :: rest, hShort => exact absurd rfl (hShort low high rest)

def squareSum (levels : List Nat) : Nat := (levels.map fun x => x * x).sum

/-- Mean square of the samples of a frame, as both sides compute it. -/
def meanSquare (pcm : List UInt8) : Nat :=
  squareSum (magnitudes pcm) / (magnitudes pcm).length

theorem squareSum_le (levels : List Nat) (h : ∀ x ∈ levels, x ≤ 2 ^ 15) :
    squareSum levels ≤ levels.length * 2 ^ 30 := by
  induction levels with
  | nil => simp [squareSum]
  | cons x levels ih =>
    have hRest := ih (fun y hy => h y (List.mem_cons_of_mem _ hy))
    have hSquare : x * x ≤ 2 ^ 15 * 2 ^ 15 :=
      Nat.mul_le_mul (h x List.mem_cons_self) (h x List.mem_cons_self)
    simp only [squareSum, List.map_cons, List.sum_cons, List.length_cons] at hRest ⊢
    omega

/-- Below saturation the live fold counts and sums the samples. -/
theorem capture_sums (levels : List Nat) (h : ∀ x ∈ levels, x ≤ 2 ^ 15)
    (sums : Capture.FrameSums) (hSamples : sums.samples + levels.length ≤ u16Max)
    (hSquare : sums.squareSum + levels.length * 2 ^ 30 ≤ u64Max) :
    let result := levels.foldl Capture.FrameSums.add sums
    result.squareSum = sums.squareSum + squareSum levels ∧
      result.samples = sums.samples + levels.length ∧
      result.peak = levels.foldl max sums.peak := by
  induction levels generalizing sums with
  | nil => simp [squareSum]
  | cons x levels ih =>
    have hx : x * x ≤ 2 ^ 15 * 2 ^ 15 :=
      Nat.mul_le_mul (h x List.mem_cons_self) (h x List.mem_cons_self)
    rw [List.length_cons] at hSamples hSquare
    have hAdd : (sums.add x).squareSum = sums.squareSum + x * x ∧
        (sums.add x).samples = sums.samples + 1 := by
      unfold Capture.FrameSums.add u64Max u16Max at *
      constructor <;> simp only <;> omega
    obtain ⟨hSum, hCount, hPeak⟩ := ih (fun y hy => h y (List.mem_cons_of_mem _ hy)) (sums.add x)
      (by omega) (by rw [hAdd.1]; omega)
    simp only [List.foldl_cons, hSum, hCount, hPeak, hAdd, squareSum, List.map_cons,
      List.sum_cons, List.length_cons]
    exact ⟨by omega, by omega, rfl⟩

theorem vad_sums (levels : List Nat) (h : ∀ x ∈ levels, x ≤ 2 ^ 15) (sums : Vad.FrameSums)
    (hSamples : sums.samples + levels.length ≤ u64Max)
    (hSquare : sums.squareSum + levels.length * 2 ^ 30 ≤ u64Max) :
    let result := levels.foldl Vad.FrameSums.add sums
    result.squareSum = sums.squareSum + squareSum levels ∧
      result.samples = sums.samples + levels.length ∧
      result.peak = levels.foldl max sums.peak := by
  induction levels generalizing sums with
  | nil => simp [squareSum]
  | cons x levels ih =>
    have hx : x * x ≤ 2 ^ 15 * 2 ^ 15 :=
      Nat.mul_le_mul (h x List.mem_cons_self) (h x List.mem_cons_self)
    rw [List.length_cons] at hSamples hSquare
    have hAdd : (sums.add x).squareSum = sums.squareSum + x * x ∧
        (sums.add x).samples = sums.samples + 1 := by
      unfold Vad.FrameSums.add u64Max at *
      constructor <;> simp only <;> omega
    obtain ⟨hSum, hCount, hPeak⟩ := ih (fun y hy => h y (List.mem_cons_of_mem _ hy)) (sums.add x)
      (by omega) (by rw [hAdd.1]; omega)
    simp only [List.foldl_cons, hSum, hCount, hPeak, hAdd, squareSum, List.map_cons,
      List.sum_cons, List.length_cons]
    exact ⟨by omega, by omega, rfl⟩

theorem vad_integerSqrt (v : Nat) : Vad.integerSqrt v = Nat.sqrt v := by
  unfold Vad.integerSqrt
  split
  · rename_i h
    interval_cases v <;> simp
  · exact Newton.descend_from_above (by omega) (Nat.sqrt_le_self v)

theorem log2_bounds {v : Nat} (h : v ≠ 0) : 2 ^ v.log2 ≤ v ∧ v < 2 ^ (v.log2 + 1) :=
  ⟨Nat.log2_self_le h, Nat.lt_log2_self⟩

/-- The live root, by the parity of `ilog2`. -/
theorem capture_integerSqrt {v : Nat} (hPos : v ≠ 0) (hBound : v < 2 ^ 63) :
    Capture.integerSqrt v =
      if v.log2 % 2 = 1 then Nat.sqrt v else 2 ^ (v.log2 / 2) := by
  obtain ⟨hLow, hHigh⟩ := log2_bounds hPos
  have hLog : v.log2 < 63 := (Nat.log2_lt hPos).mpr hBound
  have hStart : 2 ^ ((v.log2 + 1) / 2) ≤ 2 ^ 32 := Nat.pow_le_pow_right (by decide) (by omega)
  have hStep : Capture.integerSqrt v = Newton.descend (Newton.step v) (2 ^ ((v.log2 + 1) / 2)) := by
    rw [Capture.integerSqrt, if_neg hPos, Nat.one_shiftLeft]
    apply Newton.descend_congr
    intro e he
    have hQuotient : v / e ≤ v := Nat.div_le_self v e
    have hNoSaturation : e + v / e ≤ u64Max := by
      unfold u64Max
      omega
    change min (e + v / e) u64Max / 2 = Newton.step v e
    rw [Nat.min_eq_left hNoSaturation]
    rfl
  rw [hStep]
  split
  · rename_i hOdd
    apply Newton.descend_from_above (Nat.two_pow_pos _)
    have hSquare : 2 ^ ((v.log2 + 1) / 2) * 2 ^ ((v.log2 + 1) / 2) = 2 ^ (v.log2 + 1) := by
      rw [← Nat.pow_add]
      congr 1
      omega
    exact Nat.le_of_lt (Nat.sqrt_lt.mpr (by rw [hSquare]; exact hHigh))
  · rename_i hEven
    have hHalf : (v.log2 + 1) / 2 = v.log2 / 2 := by omega
    have hSquare : 2 ^ (v.log2 / 2) * 2 ^ (v.log2 / 2) = 2 ^ v.log2 := by
      rw [← Nat.pow_add]
      congr 1
      omega
    rw [hHalf]
    exact Newton.descend_from_below (Nat.two_pow_pos _)
      (Nat.le_sqrt.mpr (by rw [hSquare]; exact hLow))

/-- The values whose live root is the floor root: the start of the descent is not below it. -/
def RootsAgree (v : Nat) : Prop :=
  v = 0 ∨ v.log2 % 2 = 1 ∨ v < (2 ^ (v.log2 / 2) + 1) ^ 2

theorem roots_agree_iff {v : Nat} (hBound : v < 2 ^ 63) :
    Capture.integerSqrt v = Vad.integerSqrt v ↔ RootsAgree v := by
  rw [vad_integerSqrt, RootsAgree]
  rcases Nat.eq_zero_or_pos v with rfl | hPos
  · simp [Capture.integerSqrt]
  · have hNonzero : v ≠ 0 := by omega
    rw [capture_integerSqrt hNonzero hBound]
    by_cases hOdd : v.log2 % 2 = 1
    · simp [hOdd]
    · have hLow := (log2_bounds hNonzero).1
      have hSquare : 2 ^ (v.log2 / 2) * 2 ^ (v.log2 / 2) = 2 ^ v.log2 := by
        rw [← Nat.pow_add]
        congr 1
        omega
      rw [if_neg hOdd, Nat.eq_sqrt, hSquare, ← Nat.pow_two]
      constructor
      · rintro ⟨_, hHigh⟩
        exact .inr (.inr hHigh)
      · rintro (hZero | hOdd' | hHigh)
        · exact absurd hZero hNonzero
        · exact absurd hOdd' hOdd
        · exact ⟨hLow, hHigh⟩

end VoxType
