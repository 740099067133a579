/- ProximityLed/Library/Rounding
   digest: Rational numbers rounded to so many binary digits, to the nearest and ties to even. -/

import Mathlib.Algebra.Order.Round
import Mathlib.Data.Int.Log
import Mathlib.Data.Rat.Floor
import Mathlib.Tactic.Linarith
import Mathlib.Tactic.Positivity

set_option autoImplicit false
set_option relaxedAutoImplicit false

namespace ProximityLed.Library.Rounding

def nearest (q : ℚ) : ℤ :=
  if 2 * Int.fract q < 1 ∨ 2 * Int.fract q = 1 ∧ Even ⌊q⌋ then ⌊q⌋ else ⌊q⌋ + 1

/-- What the last of `p` binary digits counts, the first being that of `q`. -/
def ulp (p : ℕ) (q : ℚ) : ℚ := 2 ^ (Int.log 2 q + 1 - p)

/-- A number that is not negative, with `p` significant digits left.  There is no least and no
greatest exponent. -/
def round (p : ℕ) (q : ℚ) : ℚ := nearest (q / ulp p q) * ulp p q

variable {p : ℕ} {x y : ℚ}

theorem nearest_mono (le : x ≤ y) : nearest x ≤ nearest y := by
  have bounds (q : ℚ) : ⌊q⌋ ≤ nearest q ∧ nearest q ≤ ⌊q⌋ + 1 := by
    unfold nearest
    split_ifs <;> omega
  have floors : ⌊x⌋ ≤ ⌊y⌋ := Int.floor_le_floor le
  rcases floors.eq_or_lt with same | less
  · by_cases down : 2 * Int.fract y < 1 ∨ 2 * Int.fract y = 1 ∧ Even ⌊y⌋
    · have fracts : Int.fract x ≤ Int.fract y := by
        rw [Int.fract, Int.fract, same]
        linarith
      have too : 2 * Int.fract x < 1 ∨ 2 * Int.fract x = 1 ∧ Even ⌊x⌋ := by
        rcases down with below | ⟨half, even⟩
        · exact .inl (by linarith)
        · rcases fracts.eq_or_lt with as_much | less
          · exact .inr ⟨by rw [as_much, half], by rwa [same]⟩
          · exact .inl (by linarith)
      rw [nearest, nearest, if_pos too, if_pos down, same]
    · rw [nearest.eq_def y, if_neg down, ← same]
      exact (bounds x).2
  · have above := (bounds x).2
    have below := (bounds y).1
    omega

@[simp] theorem nearest_intCast (n : ℤ) : nearest n = n := by
  simp [nearest]

theorem ulp_pos (p : ℕ) (q : ℚ) : 0 < ulp p q := zpow_pos (by norm_num) _

@[simp] theorem round_zero (p : ℕ) : round p 0 = 0 := by
  have none : nearest 0 = 0 := nearest_intCast 0
  simp [round, none]

private theorem round_of_multiple {n : ℤ} (multiple : x = n * ulp p x) : round p x = x := by
  have whole : x / ulp p x = n := by
    rw [div_eq_iff (ulp_pos p x).ne']
    exact multiple
  rw [round, whole, nearest_intCast, ← multiple]

theorem round_dyadic {n k : ℕ} (small : n < 2 ^ p) : round p (n / 2 ^ k) = n / 2 ^ k := by
  rcases Nat.eq_zero_or_pos n with rfl | pos
  · simp
  · have positive : (0 : ℚ) < n / 2 ^ k := by positivity
    have digits : Int.log 2 ((n : ℚ) / 2 ^ k) + 1 + k ≤ p := by
      have below : (n : ℚ) / 2 ^ k < ((2 : ℕ) : ℚ) ^ ((p : ℤ) - k) := by
        rw [Nat.cast_ofNat, zpow_sub₀ (by norm_num), zpow_natCast, zpow_natCast]
        gcongr
        exact_mod_cast small
      have log := (Int.lt_zpow_iff_log_lt (by norm_num) positive).mp below
      omega
    obtain ⟨j, spare⟩ := Int.le.dest digits
    apply round_of_multiple (n := n * 2 ^ j)
    have unit : ulp p ((n : ℚ) / 2 ^ k) = (2 ^ k * 2 ^ j : ℚ)⁻¹ := by
      have exponent : Int.log 2 ((n : ℚ) / 2 ^ k) + 1 - p = -((k + j : ℕ) : ℤ) := by omega
      rw [ulp, exponent, zpow_neg, zpow_natCast, pow_add]
    rw [unit]
    push_cast
    field_simp

theorem round_natCast {n : ℕ} (small : n < 2 ^ p) : round p n = n := by
  simpa using round_dyadic (k := 0) small

/-- Rounding does not leave the powers of two around a number. -/
theorem round_le_zpow (p : ℕ) (x : ℚ) : round p x ≤ 2 ^ (Int.log 2 x + 1) := by
  have unit := ulp_pos p x
  have whole : (2 : ℚ) ^ (Int.log 2 x + 1) = ((2 ^ p : ℤ) : ℚ) * ulp p x := by
    rw [ulp]
    push_cast
    rw [← zpow_natCast, ← zpow_add₀ (by norm_num)]
    congr 1
    ring
  have small : x / ulp p x ≤ ((2 ^ p : ℤ) : ℚ) := by
    rw [div_le_iff₀ unit, ← whole]
    exact_mod_cast (Int.lt_zpow_succ_log_self (by norm_num) x).le
  have rounded : nearest (x / ulp p x) ≤ 2 ^ p := by
    rw [← nearest_intCast (2 ^ p)]
    exact nearest_mono small
  rw [round, whole]
  gcongr

theorem zpow_le_round (pos : 0 < x) (digits : 0 < p) : 2 ^ Int.log 2 x ≤ round p x := by
  have unit := ulp_pos p x
  have whole : (2 : ℚ) ^ Int.log 2 x = ((2 ^ (p - 1) : ℤ) : ℚ) * ulp p x := by
    rw [ulp]
    push_cast
    rw [← zpow_natCast, ← zpow_add₀ (by norm_num)]
    congr 1
    push_cast [digits]
    ring
  have large : ((2 ^ (p - 1) : ℤ) : ℚ) ≤ x / ulp p x := by
    rw [le_div_iff₀ unit, ← whole]
    exact_mod_cast Int.zpow_log_le_self (by norm_num) pos
  have rounded : 2 ^ (p - 1) ≤ nearest (x / ulp p x) := by
    rw [← nearest_intCast (2 ^ (p - 1))]
    exact nearest_mono large
  rw [round, whole]
  gcongr

theorem round_mono (digits : 0 < p) (nonneg : 0 ≤ x) (le : x ≤ y) : round p x ≤ round p y := by
  rcases nonneg.eq_or_lt with rfl | pos
  · rw [round_zero, round]
    have rounded : nearest 0 ≤ nearest (y / ulp p y) :=
      nearest_mono (div_nonneg le (ulp_pos p y).le)
    have none : nearest 0 = 0 := nearest_intCast 0
    rw [none] at rounded
    exact mul_nonneg (by exact_mod_cast rounded) (ulp_pos p y).le
  · have logs : Int.log 2 x ≤ Int.log 2 y := Int.log_mono_right pos le
    rcases logs.eq_or_lt with same | less
    · have unit : ulp p x = ulp p y := by rw [ulp, ulp, same]
      have positive := ulp_pos p y
      rw [round, round, unit]
      gcongr
      exact nearest_mono (by gcongr)
    · calc round p x ≤ 2 ^ (Int.log 2 x + 1) := round_le_zpow p x
        _ ≤ 2 ^ Int.log 2 y := zpow_le_zpow_right₀ (by norm_num) less
        _ ≤ round p y := zpow_le_round (pos.trans_le le) digits

theorem round_nonneg (digits : 0 < p) (nonneg : 0 ≤ x) : 0 ≤ round p x := by
  simpa using round_mono digits le_rfl nonneg

end ProximityLed.Library.Rounding
