/- ProximityLed/Library/Endian
   digest: Numbers as bytes, the least significant first. -/

import Mathlib.Data.Nat.Digits.Lemmas
import Mathlib.Tactic.Ring

set_option autoImplicit false
set_option relaxedAutoImplicit false

namespace ProximityLed.Library.Endian

def value (bytes : List UInt8) : ℕ := Nat.ofDigits 256 (bytes.map UInt8.toNat)

def bytesOf (size n : ℕ) : List UInt8 :=
  (List.range size).map fun i => UInt8.ofNat (n / 256 ^ i % 256)

@[simp] theorem length_bytesOf (size n : ℕ) : (bytesOf size n).length = size := by
  simp [bytesOf]

@[simp] theorem value_nil : value [] = 0 := rfl

@[simp] theorem value_cons (b : UInt8) (bytes : List UInt8) :
    value (b :: bytes) = b.toNat + 256 * value bytes := by
  simp [value, Nat.ofDigits_cons]

theorem bytesOf_succ (size n : ℕ) :
    bytesOf (size + 1) n = UInt8.ofNat (n % 256) :: bytesOf size (n / 256) := by
  have shift (i : ℕ) : n / 256 ^ (i + 1) = n / 256 / 256 ^ i := by
    rw [Nat.div_div_eq_div_mul, pow_succ']
  simp [bytesOf, List.range_succ_eq_map, Function.comp_def, shift]

theorem bytesOf_two (n : ℕ) :
    bytesOf 2 n = [UInt8.ofNat (n % 256), UInt8.ofNat (n / 256 % 256)] := by
  rw [bytesOf_succ, bytesOf_succ]
  rfl

theorem value_bytesOf (size n : ℕ) : value (bytesOf size n) = n % 256 ^ size := by
  induction size generalizing n with
  | zero => simp [bytesOf, Nat.mod_one]
  | succ size ih =>
    have low : n % 256 % 2 ^ 8 = n % 256 := by omega
    rw [bytesOf_succ, value_cons, ih, UInt8.toNat_ofNat', low, pow_succ', Nat.mod_mul]

theorem value_bytesOf_of_lt {size n : ℕ} (fits : n < 256 ^ size) : value (bytesOf size n) = n := by
  rw [value_bytesOf, Nat.mod_eq_of_lt fits]

theorem value_lt (bytes : List UInt8) : value bytes < 256 ^ bytes.length := by
  have digit : ∀ d ∈ bytes.map UInt8.toNat, d < 256 := by
    intro d mem
    obtain ⟨b, _, rfl⟩ := List.mem_map.mp mem
    exact b.toNat_lt
  simpa [value] using Nat.ofDigits_lt_base_pow_length (by decide : 1 < 256) digit

theorem value_reverse (bytes : List UInt8) :
    value bytes.reverse = bytes.foldl (fun n b => 256 * n + b.toNat) 0 := by
  induction bytes using List.reverseRecOn with
  | nil => rfl
  | append_singleton bytes b ih =>
    rw [List.reverse_append, List.reverse_singleton, List.singleton_append, value_cons, ih,
      List.foldl_concat, Nat.add_comm]

end ProximityLed.Library.Endian
