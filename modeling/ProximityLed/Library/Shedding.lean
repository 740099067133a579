/- ProximityLed/Library/Shedding
   digest: Buffers that are emptied from the front, and shed a chunk of old items when they are full. -/

import Mathlib.Data.List.Sublists

set_option autoImplicit false
set_option relaxedAutoImplicit false

namespace ProximityLed.Library.Shedding

variable {α : Type} {limit chunk sheds : ℕ} {pushed taken items : List α}

def push (limit chunk : ℕ) (items : List α) (a : α) : List α :=
  (if items.length > limit then items.drop chunk else items) ++ [a]

/-- What there is to say about a buffer after `sheds` sheddings: what was taken out and what is left
stand in the order in which they were pushed, all but the chunks shed is there, and what is left
was pushed last. -/
structure Accounts (limit chunk : ℕ) (pushed taken items : List α) (sheds : ℕ) : Prop where
  order : (taken ++ items).Sublist pushed
  recent : items <:+ pushed
  count : pushed.length = taken.length + items.length + chunk * sheds
  bounded : items.length ≤ limit + 1

theorem accounts_nil (limit chunk : ℕ) :
    Accounts limit chunk ([] : List α) [] [] 0 :=
  ⟨List.Sublist.refl [], List.suffix_refl [], rfl, Nat.zero_le _⟩

theorem Accounts.push (h : Accounts limit chunk pushed taken items sheds)
    (positive : 0 < chunk) (small : chunk ≤ limit) (a : α) :
    Accounts limit chunk (pushed ++ [a]) taken (push limit chunk items a)
      (sheds + if items.length > limit then 1 else 0) := by
  obtain ⟨order, recent, count, bounded⟩ := h
  unfold Shedding.push
  by_cases full : items.length > limit
  · simp only [if_pos full]
    have rest : items.drop chunk <:+ items := List.drop_suffix chunk items
    refine ⟨?_, List.suffix_append_self_iff.mpr (rest.trans recent), ?_, ?_⟩
    · rw [← List.append_assoc]
      exact ((rest.sublist.append_left taken).trans order).append_right [a]
    · simp only [List.length_append, List.length_drop, List.length_singleton, count]
      rw [Nat.mul_add, Nat.mul_one]
      omega
    · simp only [List.length_append, List.length_drop, List.length_singleton]
      omega
  · simp only [if_neg full]
    refine ⟨?_, List.suffix_append_self_iff.mpr recent, ?_, ?_⟩
    · rw [← List.append_assoc]
      exact order.append_right [a]
    · simp only [List.length_append, List.length_singleton, count, Nat.add_zero]
      omega
    · simp only [List.length_append, List.length_singleton]
      omega

theorem Accounts.take (h : Accounts limit chunk pushed taken items sheds) (k : ℕ) :
    Accounts limit chunk pushed (taken ++ items.take k) (items.drop k) sheds := by
  obtain ⟨order, recent, count, bounded⟩ := h
  refine ⟨?_, (List.drop_suffix k items).trans recent, ?_, ?_⟩
  · rw [List.append_assoc, List.take_append_drop]
    exact order
  · rw [count, List.length_append, List.length_take, List.length_drop]
    omega
  · rw [List.length_drop]
    omega

end ProximityLed.Library.Shedding
