/- ProximityLed/Library/Bits
   digest: Bytes as bit words, most significant first, and saturation after a wrapped sum. -/

import Mathlib.Data.Nat.Bitwise
import Mathlib.Tactic.Ring

set_option autoImplicit false
set_option relaxedAutoImplicit false

namespace ProximityLed.Library.Bits

variable {α : Type} [DecidableEq α]

/-- The low `n` bits of `v`, most significant first, each sent as one of two symbols. -/
def msbWords (hi lo : α) : ℕ → ℕ → List α
  | 0, _ => []
  | n + 1, v => (if v.testBit n then hi else lo) :: msbWords hi lo n v

/-- Read symbols as bits, most significant first; a symbol that is neither is refused. -/
def readMsb (hi lo : α) (acc : ℕ) : List α → Option ℕ
  | [] => some acc
  | w :: ws =>
    if w = hi then readMsb hi lo (2 * acc + 1) ws
    else if w = lo then readMsb hi lo (2 * acc) ws
    else none

omit [DecidableEq α] in
@[simp] theorem length_msbWords (hi lo : α) (n v : ℕ) : (msbWords hi lo n v).length = n := by
  induction n with
  | zero => rfl
  | succ n ih => simp [msbWords, ih]

omit [DecidableEq α] in
theorem getElem?_msbWords (hi lo : α) {n k : ℕ} (v : ℕ) (hk : k < n) :
    (msbWords hi lo n v)[k]? = some (if v.testBit (n - 1 - k) then hi else lo) := by
  induction n generalizing k with
  | zero => omega
  | succ n ih =>
    cases k with
    | zero => simp [msbWords]
    | succ k =>
      have shift : n + 1 - 1 - (k + 1) = n - 1 - k := by omega
      rw [msbWords, List.getElem?_cons_succ, ih (by omega), shift]

theorem readMsb_append {hi lo : α} {us : List α} {m : ℕ} (acc : ℕ) (ws : List α)
    (h : readMsb hi lo acc us = some m) : readMsb hi lo acc (us ++ ws) = readMsb hi lo m ws := by
  induction us generalizing acc with
  | nil =>
    obtain rfl : acc = m := by simpa [readMsb] using h
    rfl
  | cons u us ih =>
    rw [List.cons_append, readMsb]
    rw [readMsb] at h
    split at h
    · rw [if_pos ‹_›]
      exact ih _ h
    · rw [if_neg ‹_›]
      split at h
      · rw [if_pos ‹_›]
        exact ih _ h
      · cases h

theorem readMsb_msbWords {hi lo : α} (hne : hi ≠ lo) (acc n v : ℕ) :
    readMsb hi lo acc (msbWords hi lo n v) = some (acc * 2 ^ n + v % 2 ^ n) := by
  induction n generalizing acc with
  | zero => simp [msbWords, readMsb, Nat.mod_one]
  | succ n ih =>
    rw [msbWords, readMsb, Nat.mod_pow_succ, ← Nat.toNat_testBit]
    cases v.testBit n
    · rw [if_neg Bool.false_ne_true, if_neg hne.symm, if_pos rfl, ih]
      simp only [Bool.toNat_false]
      congr 1
      ring
    · rw [if_pos rfl, if_pos rfl, ih]
      simp only [Bool.toNat_true]
      congr 1
      ring

/-- A sum of bytes that wraps falls below its first term; the comparison turns it into 255. -/
theorem toNat_clampWrapped (x y : UInt8) :
    (if x ≤ x + y then x + y else 255).toNat = min 255 (x.toNat + y.toNat) := by
  have hx := x.toNat_lt
  have hy := y.toNat_lt
  have hsum : (x + y).toNat = (x.toNat + y.toNat) % 256 := UInt8.toNat_add x y
  split
  · rename_i hle
    have : x.toNat ≤ (x + y).toNat := UInt8.le_iff_toNat_le.mp hle
    omega
  · rename_i hlt
    have : (x + y).toNat < x.toNat := by
      have := mt UInt8.le_iff_toNat_le.mpr hlt
      omega
    have top : (255 : UInt8).toNat = 255 := rfl
    omega

end ProximityLed.Library.Bits
