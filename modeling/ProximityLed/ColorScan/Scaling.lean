/- ProximityLed/ColorScan/Scaling
   digest: How a channel is scaled by a brightness: what the handlers need, and what floats do. -/

import ProximityLed.Library.Rounding

set_option autoImplicit false
set_option relaxedAutoImplicit false

namespace ProximityLed.ColorScan

open Library.Rounding

/-- The scaling of a channel by a brightness in percent, with what the handlers need of it: no less
at more, nothing at 0 and the channel itself at 100. -/
class Scaling where
  scaleChannel : UInt8 → ℤ → UInt8
  scaleChannel_mono (v : UInt8) {b b' : ℤ} (low : 0 ≤ b) (le : b ≤ b') (high : b' ≤ 100) :
    (scaleChannel v b).toNat ≤ (scaleChannel v b').toNat
  scaleChannel_zero (v : UInt8) : scaleChannel v 0 = 0
  scaleChannel_full (v : UInt8) : scaleChannel v 100 = v

namespace Scaling

attribute [simp] scaleChannel_zero scaleChannel_full

theorem scaleChannel_le [Scaling] (v : UInt8) {b : ℤ} (low : 0 ≤ b) (high : b ≤ 100) :
    (scaleChannel v b).toNat ≤ v.toNat := by
  simpa using scaleChannel_mono v low high le_rfl

def CutsOff (scaling : Scaling) : Prop :=
  ∀ (v : UInt8) (b : ℤ), 0 ≤ b → b ≤ 100 →
    ((scaling.scaleChannel v b).toNat : ℤ) = (v.toNat : ℤ) * b / 100

section Floats

/-- The binary digits of `float` and `double`. -/
def FLT_MANT_DIG : ℕ := 24
def DBL_MANT_DIG : ℕ := 53

/-- `brightness / 100.0` is a `double`, and then put into a `float`. -/
def brightnessPercent (brightness : ℤ) : ℚ :=
  round FLT_MANT_DIG (round DBL_MANT_DIG (brightness / 100))

/-- The product is a `float`, cut off where it is stored. -/
def scaleFloat (v : UInt8) (brightness : ℤ) : UInt8 :=
  UInt8.ofNat ⌊round FLT_MANT_DIG (v.toNat * brightnessPercent brightness)⌋₊

variable {b b' : ℤ}

private theorem brightnessPercent_nonneg (low : 0 ≤ b) : 0 ≤ brightnessPercent b := by
  have exact : (0 : ℚ) ≤ b / 100 := by positivity
  exact round_nonneg (by decide) (round_nonneg (by decide) exact)

private theorem brightnessPercent_mono (low : 0 ≤ b) (le : b ≤ b') :
    brightnessPercent b ≤ brightnessPercent b' := by
  have exact : (0 : ℚ) ≤ b / 100 := by positivity
  apply round_mono (by decide) (round_nonneg (by decide) exact)
  apply round_mono (by decide) exact
  gcongr

private theorem brightnessPercent_full : brightnessPercent 100 = 1 := by
  have one (p : ℕ) (digits : 0 < p) : round p 1 = 1 := by
    simpa using round_natCast (n := 1) (Nat.one_lt_two_pow digits.ne')
  have exact : ((100 : ℤ) : ℚ) / 100 = 1 := by norm_num
  rw [brightnessPercent, exact, one DBL_MANT_DIG (by decide), one FLT_MANT_DIG (by decide)]

private theorem floor_product_le (v : UInt8) (low : 0 ≤ b) (high : b ≤ 100) :
    ⌊round FLT_MANT_DIG (v.toNat * brightnessPercent b)⌋₊ ≤ v.toNat := by
  have part : v.toNat * brightnessPercent b ≤ (v.toNat : ℚ) := by
    have less := brightnessPercent_mono low high
    rw [brightnessPercent_full] at less
    exact mul_le_of_le_one_right (by positivity) less
  have nonneg := mul_nonneg (Nat.cast_nonneg v.toNat) (brightnessPercent_nonneg low)
  apply Nat.floor_le_of_le
  calc round FLT_MANT_DIG (v.toNat * brightnessPercent b)
    _ ≤ round FLT_MANT_DIG (v.toNat : ℚ) := round_mono (by decide) nonneg part
    _ = v.toNat := round_natCast (v.toNat_lt.trans (by decide))

private theorem toNat_scaleFloat (v : UInt8) (low : 0 ≤ b) (high : b ≤ 100) :
    (scaleFloat v b).toNat = ⌊round FLT_MANT_DIG (v.toNat * brightnessPercent b)⌋₊ :=
  Nat.mod_eq_of_lt ((floor_product_le v low high).trans_lt v.toNat_lt)

instance floats : Scaling where
  scaleChannel := scaleFloat
  scaleChannel_mono v b b' low le high := by
    rw [toNat_scaleFloat v low (le.trans high), toNat_scaleFloat v (low.trans le) high]
    apply Nat.floor_le_floor
    apply round_mono (by decide)
    · exact mul_nonneg (Nat.cast_nonneg _) (brightnessPercent_nonneg low)
    · exact mul_le_mul_of_nonneg_left (brightnessPercent_mono low le) (Nat.cast_nonneg _)
  scaleChannel_zero v := by simp [scaleFloat, brightnessPercent]
  scaleChannel_full v := by
    have whole : round FLT_MANT_DIG (v.toNat : ℚ) = v.toNat :=
      round_natCast (v.toNat_lt.trans (by decide))
    simp [scaleFloat, brightnessPercent_full, whole]

private theorem brightnessPercent_near (low : 0 ≤ b) (high : b ≤ 100) :
    |brightnessPercent b - b / 100| ≤ 1 / 2 ^ 24 := by
  have table : ∀ n < 101, |brightnessPercent (n : ℕ) - (n : ℕ) / 100| ≤ 1 / 2 ^ 24 := by
    decide +kernel
  obtain ⟨n, rfl⟩ := Int.eq_ofNat_of_zero_le low
  rw [Int.cast_natCast]
  exact table n (by omega)

/-- Where the exact product is no whole number, its floor is what the floats give. -/
theorem toNat_scaleFloat_of_not_dvd {v : UInt8} (low : 0 ≤ b) (high : b ≤ 100)
    (fraction : ¬ 100 ∣ (v.toNat : ℤ) * b) :
    ((scaleFloat v b).toNat : ℤ) = (v.toNat : ℤ) * b / 100 := by
  have hv : (v.toNat : ℚ) ≤ 255 := by exact_mod_cast Nat.le_of_lt_succ v.toNat_lt
  obtain ⟨n, floor⟩ := Int.eq_ofNat_of_zero_le
    (Int.ediv_nonneg (mul_nonneg (Int.natCast_nonneg v.toNat) low) (by decide : (0 : ℤ) ≤ 100))
  have below : 100 * (n : ℤ) + 1 ≤ v.toNat * b ∧ v.toNat * b ≤ 100 * (n : ℤ) + 99 := by omega
  have lower : 100 * (n : ℚ) + 1 ≤ v.toNat * b := by exact_mod_cast below.1
  have upper : v.toNat * b ≤ 100 * (n : ℚ) + 99 := by exact_mod_cast below.2
  have near := abs_le.mp (brightnessPercent_near low high)
  have small : n < 256 := by
    have full : (v.toNat : ℚ) * b ≤ 255 * 100 := by
      have hb : (b : ℚ) ≤ 100 := by exact_mod_cast high
      have nonneg : (0 : ℚ) ≤ b := by exact_mod_cast low
      gcongr
    have : (n : ℚ) < 256 := by linarith
    exact_mod_cast this
  have at_least : (n : ℚ) ≤ v.toNat * brightnessPercent b := by nlinarith
  have at_most : v.toNat * brightnessPercent b ≤ ((128 * n + 127 : ℕ) : ℚ) / 2 ^ 7 := by
    push_cast
    nlinarith
  have product : ⌊round FLT_MANT_DIG (v.toNat * brightnessPercent b)⌋₊ = n := by
    have whole : round FLT_MANT_DIG (n : ℚ) = n := round_natCast (small.trans (by decide))
    have dyadic : round FLT_MANT_DIG (((128 * n + 127 : ℕ) : ℚ) / 2 ^ 7) =
        ((128 * n + 127 : ℕ) : ℚ) / 2 ^ 7 :=
      round_dyadic (lt_trans (by omega) (by decide : 32896 < 2 ^ FLT_MANT_DIG))
    have from_below := round_mono (p := FLT_MANT_DIG) (by decide) (Nat.cast_nonneg n) at_least
    have from_above := round_mono (p := FLT_MANT_DIG) (by decide)
      ((Nat.cast_nonneg n).trans at_least) at_most
    rw [whole] at from_below
    rw [dyadic] at from_above
    rw [Nat.floor_eq_iff ((Nat.cast_nonneg n).trans from_below)]
    refine ⟨from_below, from_above.trans_lt ?_⟩
    push_cast
    linarith
  rw [toNat_scaleFloat v low high, product, floor]

/-- On the way out, down from 100 in steps of 15, the floats give the floor everywhere. -/
theorem toNat_scaleFloat_leaving (v : UInt8) (k : ℕ) :
    ((scaleFloat v (max 0 (100 - 15 * (k : ℤ)))).toNat : ℤ) =
      (v.toNat : ℤ) * max 0 (100 - 15 * (k : ℤ)) / 100 := by
  by_cases fraction : 100 ∣ (v.toNat : ℤ) * max 0 (100 - 15 * (k : ℤ))
  · rcases Nat.eq_zero_or_pos k with rfl | pos
    · have full : scaleFloat v 100 = v := floats.scaleChannel_full v
      simp [full]
    · rcases Nat.lt_or_ge k 7 with early | late
      · have table : ∀ k < 7, 0 < k → ∀ n < 256, 100 ∣ n * (100 - 15 * k) →
            (scaleFloat (UInt8.ofNat n) (100 - 15 * k : ℕ)).toNat = n * (100 - 15 * k) / 100 := by
          decide +kernel
        have level : max 0 (100 - 15 * (k : ℤ)) = ((100 - 15 * k : ℕ) : ℤ) := by omega
        rw [level] at fraction ⊢
        have whole := table k early pos v.toNat v.toNat_lt (by exact_mod_cast fraction)
        rw [UInt8.ofNat_toNat] at whole
        exact_mod_cast whole
      · have dark : max 0 (100 - 15 * (k : ℤ)) = 0 := by omega
        have none : scaleFloat v 0 = 0 := floats.scaleChannel_zero v
        simp [dark, none]
  · exact toNat_scaleFloat_of_not_dvd (by omega) (by omega) fraction

end Floats

section Exact

variable {b b' : ℤ}

def scaleExact (v : UInt8) (b : ℤ) : UInt8 := UInt8.ofNat ((v.toNat : ℤ) * b / 100).toNat

private theorem toNat_scaleExact (v : UInt8) (low : 0 ≤ b) (high : b ≤ 100) :
    ((scaleExact v b).toNat : ℤ) = (v.toNat : ℤ) * b / 100 := by
  have hv : (v.toNat : ℤ) < 256 := by exact_mod_cast v.toNat_lt
  have nonneg : 0 ≤ (v.toNat : ℤ) * b / 100 := by positivity
  have bound : (v.toNat : ℤ) * b / 100 < 256 := by
    apply Int.ediv_lt_of_lt_mul (by decide)
    nlinarith
  rw [scaleExact, UInt8.toNat_ofNat', Nat.mod_eq_of_lt (by omega)]
  exact Int.toNat_of_nonneg nonneg

@[reducible] def exact : Scaling where
  scaleChannel := scaleExact
  scaleChannel_mono v b b' low le high := by
    zify
    rw [toNat_scaleExact v low (le.trans high), toNat_scaleExact v (low.trans le) high]
    apply Int.ediv_le_ediv (by decide)
    exact mul_le_mul_of_nonneg_left le (Int.natCast_nonneg _)
  scaleChannel_zero v := by simp [scaleExact]
  scaleChannel_full v := by
    apply UInt8.toNat_inj.mp
    zify
    rw [toNat_scaleExact v (by decide) le_rfl]
    exact Int.mul_ediv_cancel _ (by decide)

theorem cutsOff_exact : CutsOff exact := fun v _ low high => toNat_scaleExact v low high

end Exact

end Scaling

end ProximityLed.ColorScan
