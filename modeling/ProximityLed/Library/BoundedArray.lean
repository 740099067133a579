/- ProximityLed/Library/BoundedArray
   digest: Arrays of a fixed length that record a store outside their bounds, and counted loops. -/

import Mathlib.Data.Vector.Basic
import Mathlib.Data.List.Induction

set_option autoImplicit false
set_option relaxedAutoImplicit false

namespace ProximityLed.Library.BoundedArray

variable {α : Type} {n : ℕ}

/-- An array of `n` cells, and whether every store so far went to one of them. -/
@[ext] structure CArray (α : Type) (n : ℕ) where
  cells : Vector α n
  inBounds : Bool

def CArray.fill (n : ℕ) (x : α) : CArray α n := ⟨Vector.replicate n x, true⟩

def CArray.read [Inhabited α] (a : CArray α n) (i : ℕ) : α := a.cells[i]?.getD default

/-- A store outside the array changes no cell and is put on record. -/
def CArray.write (a : CArray α n) (i : ℕ) (x : α) : CArray α n :=
  if h : i < n then { a with cells := a.cells.set i x } else { a with inBounds := false }

def CArray.writeLoop (m : ℕ) (index : ℕ → ℕ) (value : ℕ → α) (a : CArray α n) : CArray α n :=
  (List.range m).foldl (fun a i => a.write (index i) (value i)) a

theorem write_inBounds (a : CArray α n) {i : ℕ} (x : α) (hi : i < n) :
    (a.write i x).inBounds = a.inBounds := by
  simp [CArray.write, hi]

theorem write_cells_self (a : CArray α n) {i : ℕ} (x : α) (hi : i < n) :
    (a.write i x).cells[i]? = some x := by
  simp [CArray.write, hi]

theorem write_cells_of_ne (a : CArray α n) {i k : ℕ} (x : α) (hne : i ≠ k) :
    (a.write i x).cells[k]? = a.cells[k]? := by
  unfold CArray.write
  split
  · exact Vector.getElem?_set_ne ‹_› hne
  · rfl

theorem cells_eq_some_read [Inhabited α] (a : CArray α n) {i : ℕ} (hi : i < n) :
    a.cells[i]? = some (a.read i) := by
  simp [CArray.read, hi]

section WriteLoop

variable (index : ℕ → ℕ) (value : ℕ → α) (a : CArray α n)

theorem writeLoop_succ (m : ℕ) :
    a.writeLoop (m + 1) index value = (a.writeLoop m index value).write (index m) (value m) := by
  simp [CArray.writeLoop, List.range_succ]

theorem writeLoop_inBounds {m : ℕ} (h : ∀ i < m, index i < n) :
    (a.writeLoop m index value).inBounds = a.inBounds := by
  induction m with
  | zero => rfl
  | succ m ih =>
    rw [writeLoop_succ, write_inBounds _ _ (h m (by omega))]
    exact ih fun i hi => h i (by omega)

theorem writeLoop_miss {m k : ℕ} (h : ∀ i < m, index i ≠ k) :
    (a.writeLoop m index value).cells[k]? = a.cells[k]? := by
  induction m with
  | zero => rfl
  | succ m ih =>
    rw [writeLoop_succ, write_cells_of_ne _ _ (h m (by omega))]
    exact ih fun i hi => h i (by omega)

theorem writeLoop_hit {m i : ℕ} (hi : i < m) (bound : index i < n)
    (once : ∀ j < m, index j = index i → j = i) :
    (a.writeLoop m index value).cells[index i]? = some (value i) := by
  induction m with
  | zero => omega
  | succ m ih =>
    rw [writeLoop_succ]
    by_cases last : i = m
    · subst last
      exact write_cells_self _ _ bound
    · have apart : index m ≠ index i := fun h => last (once m (by omega) h).symm
      rw [write_cells_of_ne _ _ apart]
      exact ih (by omega) fun j hj => once j (by omega)

end WriteLoop

end ProximityLed.Library.BoundedArray
