/- ProximityLed/Library/Interrupt
   digest: A main loop of polls whose actions an interrupt handler may cut into, and its proof rule. -/

import ProximityLed.Library.Run

set_option autoImplicit false
set_option relaxedAutoImplicit false

namespace ProximityLed.Library.Interrupt

open Library.Run

variable {σ ι π κ : Type}

/-- Each poll of the loop reads an input and may begin an action, a list of atomic statements.
The handler runs between any two statements, when the state enables it. -/
structure MainLoop (σ ι π κ : Type) where
  polls : List π
  poll : π → ι → σ → List κ × σ
  exec : κ → σ → σ
  handler : σ → Option σ

@[ext] structure Control (σ π κ : Type) where
  action : List κ
  polls : List π
  state : σ

inductive Move (ι : Type)
  | main (input : ι)
  | interrupt
  deriving DecidableEq

namespace MainLoop

variable (m : MainLoop σ ι π κ)

def start (s : σ) : Control σ π κ := ⟨[], [], s⟩

/-- The end of an iteration is where no action and no poll is left. -/
def move (c : Control σ π κ) : Move ι → Option (Control σ π κ)
  | .main input =>
    match c.action, c.polls with
    | statement :: rest, polls => some ⟨rest, polls, m.exec statement c.state⟩
    | [], poll :: polls =>
      let begun := m.poll poll input c.state
      some ⟨begun.1, polls, begun.2⟩
    | [], [] => some ⟨[], m.polls, c.state⟩
  | .interrupt => (m.handler c.state).map fun s => ⟨c.action, c.polls, s⟩

def Stable (P : σ → Prop) : Prop := ∀ s t, P s → m.handler s = some t → P t

/-- A proof outline of an action: a stable assertion in front of every statement, and `Q` behind
the last. -/
inductive Outline (Q : σ → Prop) : List κ → (σ → Prop) → Prop
  | done : Outline Q [] Q
  | next {statement : κ} {rest : List κ} {P R : σ → Prop} : m.Stable P →
      (∀ s, P s → R (m.exec statement s)) → Outline Q rest R → Outline Q (statement :: rest) P

variable {m}

theorem Outline.append {P Q R : σ → Prop} {a b : List κ} (first : m.Outline R a P)
    (second : m.Outline Q b R) : m.Outline Q (a ++ b) P := by
  induction first with
  | done => exact second
  | next stable effect _ ih => exact .next stable effect ih

/-- A counted loop: the k-th pass takes the k-th assertion to the next. -/
theorem Outline.counted {n : ℕ} (body : Fin n → κ) (A : ℕ → σ → Prop)
    (stable : ∀ k, m.Stable (A k)) (effect : ∀ k s, A k.val s → A (k.val + 1) (m.exec (body k) s)) :
    m.Outline (A n) (List.ofFn body) (A 0) := by
  induction n generalizing A with
  | zero => exact .done
  | succ n ih =>
    rw [List.ofFn_succ]
    refine .next (stable 0) (effect 0) ?_
    exact ih (fun k => body k.succ) (fun k => A (k + 1)) (fun k => stable (k + 1))
      (fun k s h => effect k.succ s h)

variable {Q : σ → Prop} {s : σ} {c : Control σ π κ} {es : List (Move ι)}

/-- When every poll, begun in `Q`, is either void or the start of an outlined action that ends in
`Q` again, the outline holds wherever the loop has got to. -/
theorem outline_of_run (stable : m.Stable Q)
    (begins : ∀ poll input s, Q s → ∃ P, P (m.poll poll input s).2 ∧
      m.Outline Q (m.poll poll input s).1 P)
    (initial : Q s) (hrun : run m.move (start s) es = some c) :
    ∃ P, m.Outline Q c.action P ∧ P c.state := by
  refine run_invariant (I := fun c => ∃ P, m.Outline Q c.action P ∧ P c.state) ?_
    ⟨Q, .done, initial⟩ hrun
  rintro ⟨action, polls, s⟩ e c' _ ⟨P, outline, holds⟩ he
  cases e with
  | main input =>
    cases outline with
    | next _ effect rest =>
      obtain rfl := Option.some_inj.mp he
      exact ⟨_, rest, effect s holds⟩
    | done =>
      cases polls with
      | nil =>
        obtain rfl := Option.some_inj.mp he
        exact ⟨Q, .done, holds⟩
      | cons poll polls =>
        obtain rfl := Option.some_inj.mp he
        rcases begins poll input s holds with ⟨P, pre, action⟩
        exact ⟨P, action, pre⟩
  | interrupt =>
    rcases Option.map_eq_some_iff.mp he with ⟨t, handled, rfl⟩
    refine ⟨P, outline, ?_⟩
    cases outline with
    | done => exact stable s t holds handled
    | next stableP _ _ => exact stableP s t holds handled

theorem holds_between_actions (stable : m.Stable Q)
    (begins : ∀ poll input s, Q s → ∃ P, P (m.poll poll input s).2 ∧
      m.Outline Q (m.poll poll input s).1 P)
    (initial : Q s) (hrun : run m.move (start s) es = some c) (between : c.action = []) :
    Q c.state := by
  rcases outline_of_run stable begins initial hrun with ⟨P, outline, holds⟩
  rw [between] at outline
  cases outline
  exact holds

end MainLoop

end ProximityLed.Library.Interrupt
