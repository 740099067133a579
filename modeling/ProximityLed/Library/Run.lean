/- ProximityLed/Library/Run
   digest: Runs of a guarded step function, with their induction, projection and counting rules. -/

import Mathlib.Data.List.Induction

set_option autoImplicit false
set_option relaxedAutoImplicit false

namespace ProximityLed.Library.Run

universe u v w

variable {σ ρ : Type u} {ε : Type v} {δ : Type w}

/-- Feed the events to the step function in order; one refused event refuses the whole run. -/
def run (step : σ → ε → Option σ) (s : σ) (es : List ε) : Option σ := es.foldlM step s

@[simp] theorem run_nil (step : σ → ε → Option σ) (s : σ) : run step s [] = some s := rfl

@[simp] theorem run_cons (step : σ → ε → Option σ) (s : σ) (e : ε) (es : List ε) :
    run step s (e :: es) = (step s e).bind fun t => run step t es := rfl

theorem run_append (step : σ → ε → Option σ) (s : σ) (es fs : List ε) :
    run step s (es ++ fs) = (run step s es).bind fun t => run step t fs := by
  induction es generalizing s with
  | nil => rfl
  | cons e es ih =>
    simp only [List.cons_append, run_cons, Option.bind_assoc]
    congr 1
    funext t
    exact ih t

theorem run_append_eq_some {step : σ → ε → Option σ} {s t : σ} {es fs : List ε} :
    run step s (es ++ fs) = some t ↔
      ∃ m, run step s es = some m ∧ run step m fs = some t := by
  rw [run_append, Option.bind_eq_some_iff]

theorem run_cons_eq_some {step : σ → ε → Option σ} {s t : σ} {e : ε} {es : List ε} :
    run step s (e :: es) = some t ↔ ∃ m, step s e = some m ∧ run step m es = some t := by
  rw [run_cons, Option.bind_eq_some_iff]

theorem run_singleton (step : σ → ε → Option σ) (s : σ) (e : ε) :
    run step s [e] = step s e := by
  simp

/-- Induction along a run, on the history so far and the state it has led to. -/
theorem run_induction {step : σ → ε → Option σ} {s t : σ} {es : List ε}
    {P : List ε → σ → Prop} (start : P [] s)
    (grow : ∀ h e m m', run step s h = some m → P h m → h ++ [e] <+: es →
      step m e = some m' → P (h ++ [e]) m')
    (hrun : run step s es = some t) : P es t := by
  have key : ∀ h m, h <+: es → run step s h = some m → P h m := by
    intro h
    induction h using List.reverseRecOn with
    | nil =>
      intro m _ hm
      obtain rfl : s = m := by simpa using hm
      exact start
    | append_singleton h e ih =>
      intro m' pre hm'
      obtain ⟨m, hm, he⟩ := run_append_eq_some.mp hm'
      rw [run_singleton] at he
      exact grow h e m m' hm (ih m ((List.prefix_append h [e]).trans pre) hm) pre he
  exact key es t List.prefix_rfl hrun

theorem run_invariant {step : σ → ε → Option σ} {s t : σ} {es : List ε} {I : σ → Prop}
    (keeps : ∀ m e m', e ∈ es → I m → step m e = some m' → I m')
    (start : I s) (hrun : run step s es = some t) : I t := by
  refine run_induction (P := fun _ => I) start ?_ hrun
  intro h e m m' _ hm pre he
  exact keeps m e m' (pre.subset (by simp)) hm he

/-- A projection that answers every step with one labelled step, or with none, carries the
whole run to the run on the labels. -/
theorem run_project {step : σ → ε → Option σ} {step' : ρ → δ → Option ρ} {s t : σ}
    {es : List ε} {I : σ → Prop} (proj : σ → ρ) (label : ε → Option δ)
    (keeps : ∀ m e m', I m → step m e = some m' → I m')
    (simulates : ∀ m e m', I m → step m e = some m' →
      run step' (proj m) (label e).toList = some (proj m'))
    (start : I s) (hrun : run step s es = some t) :
    run step' (proj s) (es.filterMap label) = some (proj t) := by
  induction es generalizing s with
  | nil =>
    obtain rfl : s = t := by simpa using hrun
    rfl
  | cons e es ih =>
    obtain ⟨m, he, hes⟩ := run_cons_eq_some.mp hrun
    have rest := ih (keeps s e m start he) hes
    have first := simulates s e m start he
    rw [show e :: es = [e] ++ es from rfl, List.filterMap_append, run_append_eq_some]
    refine ⟨proj m, ?_, rest⟩
    cases hl : label e <;> simpa [hl] using first

/-- A potential that every counted event lowers, and no event raises, bounds their number. -/
theorem run_potential {step : σ → ε → Option σ} {s t : σ} {es : List ε} {I : σ → Prop}
    (φ : σ → ℕ) (counted : ε → Bool)
    (keeps : ∀ m e m', e ∈ es → I m → step m e = some m' → I m')
    (pays : ∀ m e m', e ∈ es → I m → step m e = some m' →
      φ m' + (if counted e then 1 else 0) ≤ φ m)
    (start : I s) (hrun : run step s es = some t) : φ t + es.countP counted ≤ φ s := by
  induction es generalizing s with
  | nil =>
    obtain rfl : s = t := by simpa using hrun
    simp
  | cons e es ih =>
    obtain ⟨m, he, hes⟩ := run_cons_eq_some.mp hrun
    have head : e ∈ e :: es := List.mem_cons_self
    have rest := ih (fun m e m' he => keeps m e m' (List.mem_cons_of_mem _ he))
      (fun m e m' he => pays m e m' (List.mem_cons_of_mem _ he))
      (keeps s e m head start he) hes
    have first := pays s e m head start he
    rw [List.countP_cons]
    omega

/-- The states of a run, from its start to its end or to the first event that is refused. -/
def states (step : σ → ε → Option σ) (s : σ) : List ε → List σ
  | [] => [s]
  | e :: es => s :: ((step s e).map fun t => states step t es).getD []

def moves (step : σ → ε → Option σ) (s : σ) : List ε → List (σ × ε)
  | [] => []
  | e :: es => ((step s e).map fun t => (s, e) :: moves step t es).getD []

theorem run_mem_states {step : σ → ε → Option σ} {s t : σ} {es : List ε}
    (hrun : run step s es = some t) : t ∈ states step s es := by
  induction es generalizing s with
  | nil =>
    obtain rfl : s = t := by simpa using hrun
    simp [states]
  | cons e es ih =>
    obtain ⟨m, he, hes⟩ := run_cons_eq_some.mp hrun
    simp [states, he, ih hes]

theorem mem_moves_of_run {step : σ → ε → Option σ} {s m t : σ} {es : List ε} {e : ε}
    (hrun : run step s es = some m) (he : step m e = some t) :
    (m, e) ∈ moves step s (es ++ [e]) := by
  induction es generalizing s with
  | nil =>
    obtain rfl : s = m := by simpa using hrun
    simp [moves, he]
  | cons e' es ih =>
    obtain ⟨m', he', rest⟩ := run_cons_eq_some.mp hrun
    simp [moves, he', ih rest]

theorem moves_invariant {step : σ → ε → Option σ} {I : σ → Prop}
    (keeps : ∀ m e m', I m → step m e = some m' → I m') {s : σ} (start : I s) (es : List ε) :
    ∀ p ∈ moves step s es, I p.1 ∧ ∃ m', step p.1 p.2 = some m' := by
  induction es generalizing s with
  | nil => simp [moves]
  | cons e es ih =>
    cases he : step s e with
    | none => simp [moves, he]
    | some t =>
      simp only [moves, he, Option.map_some, Option.getD_some, List.forall_mem_cons]
      exact ⟨⟨start, t, rfl⟩, ih (keeps s e t start he)⟩

/-- When, from a strong state, a step ends well exactly when it meets a condition, and then in a
strong state again, all states of a run are good exactly when all its steps meet the condition. -/
theorem states_good_iff {step : σ → ε → Option σ} {Strong Good : σ → Prop} {Ok : σ → ε → Prop}
    (good : ∀ m, Strong m → Good m)
    (exact_step : ∀ m e m', Strong m → step m e = some m' →
      (Good m' ↔ Ok m e) ∧ (Ok m e → Strong m'))
    {s : σ} (start : Strong s) (es : List ε) :
    (∀ m ∈ states step s es, Good m) ↔ ∀ p ∈ moves step s es, Ok p.1 p.2 := by
  induction es generalizing s with
  | nil => simpa [states, moves] using good s start
  | cons e es ih =>
    cases he : step s e with
    | none => simpa [states, moves, he] using good s start
    | some t =>
      obtain ⟨ends, next⟩ := exact_step s e t start he
      simp only [states, moves, he, Option.map_some, Option.getD_some, List.forall_mem_cons]
      constructor
      · rintro ⟨_, rest⟩
        have ok := ends.mp (rest t (by cases es <;> simp [states]))
        exact ⟨ok, (ih (next ok)).mp rest⟩
      · rintro ⟨ok, rest⟩
        exact ⟨good s start, (ih (next ok)).mpr rest⟩

end ProximityLed.Library.Run
