/- ProximityLed/Library/Echo
   digest: What is received of a sender over a channel that loses and repeats, but keeps the order. -/

import Mathlib.Data.List.Induction
import Mathlib.Logic.Function.Basic

set_option autoImplicit false
set_option relaxedAutoImplicit false

namespace ProximityLed.Library.Echo

variable {α : Type}

/-- The receiver has heard, of what was sent so far, the last item whenever it heard any. -/
inductive Echoes : List α → List α → Prop
  | silence : Echoes [] []
  | send {heard sent : List α} (a : α) : Echoes heard sent → Echoes heard (sent ++ [a])
  | hear {heard sent : List α} {a : α} :
      Echoes heard (sent ++ [a]) → Echoes (heard ++ [a]) (sent ++ [a])

variable {heard sent : List α}

theorem Echoes.hear_last {a : α} (h : Echoes heard sent) (last : sent.getLast? = some a) :
    Echoes (heard ++ [a]) sent := by
  obtain ⟨before, rfl⟩ := List.getLast?_eq_some_iff.mp last
  exact h.hear

theorem Echoes.of_append {later : List α} (h : Echoes (heard ++ later) sent) :
    Echoes heard sent := by
  generalize whole : heard ++ later = all at h
  induction h generalizing later with
  | silence =>
    obtain ⟨rfl, _⟩ := List.append_eq_nil_iff.mp whole
    exact .silence
  | send a _ ih => exact (ih whole).send a
  | hear h ih =>
    rcases List.eq_nil_or_concat later with rfl | ⟨rest, last, rfl⟩
    · rw [List.append_nil] at whole
      rw [whole]
      exact h.hear
    · rw [List.concat_eq_append, ← List.append_assoc] at whole
      obtain ⟨front, _⟩ := List.append_inj' whole rfl
      exact ih front

/-- A list with its i-th item `n i` times. -/
def repeated (n : ℕ → ℕ) (sent : List α) : List α :=
  sent.zipIdx.flatMap fun p => List.replicate (n p.2) p.1

private theorem repeated_concat (n : ℕ → ℕ) (sent : List α) (a : α) :
    repeated n (sent ++ [a]) = repeated n sent ++ List.replicate (n sent.length) a := by
  simp [repeated, List.zipIdx_append]

private theorem repeated_congr {n m : ℕ → ℕ} (same : ∀ i < sent.length, n i = m i) :
    repeated n sent = repeated m sent := by
  induction sent using List.reverseRecOn with
  | nil => rfl
  | append_singleton sent a ih =>
    simp only [List.length_append, List.length_singleton] at same
    rw [repeated_concat, repeated_concat, same sent.length (by omega), ih]
    intro i inside
    exact same i (by omega)

/-- Each item is heard some number of times, and all in the order in which they were sent. -/
theorem Echoes.exists_repeated (h : Echoes heard sent) : ∃ n, heard = repeated n sent := by
  induction h with
  | silence => exact ⟨fun _ => 0, rfl⟩
  | @send heard sent a _ ih =>
    obtain ⟨n, rfl⟩ := ih
    refine ⟨Function.update n sent.length 0, ?_⟩
    rw [repeated_concat, Function.update_self, List.replicate_zero, List.append_nil]
    apply repeated_congr
    intro i inside
    rw [Function.update_of_ne (by omega)]
  | @hear heard sent a _ ih =>
    obtain ⟨n, rfl⟩ := ih
    refine ⟨Function.update n sent.length (n sent.length + 1), ?_⟩
    rw [repeated_concat, repeated_concat, Function.update_self, List.replicate_succ',
      List.append_assoc]
    congr 1
    apply repeated_congr
    intro i inside
    rw [Function.update_of_ne (by omega)]

theorem mem_of_mem_repeated {n : ℕ → ℕ} {a : α} (h : a ∈ repeated n sent) : a ∈ sent := by
  obtain ⟨p, mem, copies⟩ := List.mem_flatMap.mp h
  rw [List.eq_of_mem_replicate copies]
  exact List.fst_mem_of_mem_zipIdx mem

end ProximityLed.Library.Echo
