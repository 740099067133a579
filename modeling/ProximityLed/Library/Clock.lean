/- ProximityLed/Library/Clock
   digest: Events on a clock, and the instants at which some of them happen. -/

import ProximityLed.Library.Run
import Mathlib.Data.List.Chain

set_option autoImplicit false
set_option relaxedAutoImplicit false

namespace ProximityLed.Library.Clock

open Library.Run

variable {σ ε δ : Type}

@[ext] structure Timed (σ : Type) where
  now : ℕ
  state : σ

inductive TimedEvent (ε : Type)
  | delay (n : ℕ)
  | act (e : ε)
  deriving DecidableEq

/-- The part of a timed event that a labelling of the untimed ones lets see. -/
def TimedEvent.label (f : ε → Option δ) : TimedEvent ε → Option (TimedEvent δ)
  | .delay n => some (.delay n)
  | .act e => (f e).map .act

def TimedEvent.happening : TimedEvent ε → Option ε
  | .delay _ => none
  | .act e => some e

/-- The instants at which picked events happen, when the first event starts at `now`. -/
def instants (pick : ε → Bool) (now : ℕ) : List (TimedEvent ε) → List ℕ
  | [] => []
  | .delay n :: es => instants pick (now + n) es
  | .act e :: es => if pick e then now :: instants pick now es else instants pick now es

/-- Each instant comes less than `q` after the one before, the first less than `q` after `last`. -/
def Spaced (q last : ℕ) (is : List ℕ) : Prop := List.IsChain (fun a b => b < a + q) (last :: is)

@[simp] theorem spaced_nil (q last : ℕ) : Spaced q last [] := List.isChain_singleton last

@[simp] theorem spaced_cons {q last i : ℕ} {is : List ℕ} :
    Spaced q last (i :: is) ↔ i < last + q ∧ Spaced q i is :=
  List.isChain_cons_cons

theorem instants_label (f : ε → Option δ) (pick : δ → Bool) (now : ℕ) (es : List (TimedEvent ε)) :
    instants pick now (es.filterMap (TimedEvent.label f)) =
      instants (fun e => (f e).any pick) now es := by
  induction es generalizing now with
  | nil => rfl
  | cons e es ih =>
    cases e with
    | delay n => exact ih (now + n)
    | act e =>
      cases h : f e with
      | none => simp [TimedEvent.label, instants, h, ih]
      | some x => simp [TimedEvent.label, instants, h, ih]

section Runs

variable {step : Timed σ → TimedEvent ε → Option (Timed σ)} {x y z : Timed σ}

/-- A step takes the time its event says. -/
def KeepsTime (step : Timed σ → TimedEvent ε → Option (Timed σ)) : Prop :=
  ∀ x e y, step x e = some y →
    y.now = match e with
      | .delay n => x.now + n
      | .act _ => x.now

variable (time : KeepsTime step)

include time

theorem now_lt_of_spaced {pick : ε → Bool} {q last : ℕ} {es : List (TimedEvent ε)}
    (hrun : run step x es = some y) (spaced : Spaced q last (instants pick x.now es ++ [y.now])) :
    x.now < last + q := by
  induction es generalizing x with
  | nil =>
    obtain rfl : x = y := by simpa using hrun
    exact (spaced_cons.mp spaced).1
  | cons e es ih =>
    rcases run_cons_eq_some.mp hrun with ⟨m, he, rest⟩
    have now := time x e m he
    cases e with
    | delay n =>
      have later := ih rest (by rw [now]; exact spaced)
      dsimp only at now
      omega
    | act e =>
      by_cases picked : pick e = true
      · simp only [instants, if_pos picked, List.cons_append, spaced_cons] at spaced
        exact spaced.1
      · simp only [instants, if_neg picked] at spaced
        have same := ih rest (by rw [now]; exact spaced)
        rwa [now] at same

end Runs

end ProximityLed.Library.Clock
