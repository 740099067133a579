/- ProximityLed/Library/Stepwise
   digest: Commands carried out statement by statement, and the whole commands they come to. -/

import ProximityLed.Library.Run

set_option autoImplicit false
set_option relaxedAutoImplicit false

namespace ProximityLed.Library.Stepwise

open Library.Run

variable {σ μ κ : Type}

/-- A thread that carries out each command it takes as a list of atomic statements. -/
structure Thread (σ μ κ : Type) where
  statements : σ → μ → Option (List κ)
  exec : κ → σ → σ

structure Control (σ κ : Type) where
  todo : List κ
  state : σ

inductive Move (μ : Type)
  | command (m : μ)
  | statement
  deriving DecidableEq

def Move.asked : Move μ → Option μ
  | .command m => some m
  | .statement => none

namespace Thread

variable (t : Thread σ μ κ)

/-- A command is taken when none is under way. -/
def move (c : Control σ κ) : Move μ → Option (Control σ κ)
  | .command m =>
    match c.todo with
    | [] => (t.statements c.state m).map fun todo => ⟨todo, c.state⟩
    | _ :: _ => none
  | .statement =>
    match c.todo with
    | [] => none
    | statement :: rest => some ⟨rest, t.exec statement c.state⟩

def perform (s : σ) (todo : List κ) : σ := todo.foldl (fun s statement => t.exec statement s) s

def finish (c : Control σ κ) : σ := t.perform c.state c.todo

def whole (s : σ) (m : μ) : Option σ := (t.statements s m).map (t.perform s)

variable {t} {c c' : Control σ κ} {e : Move μ} {es : List (Move μ)}

@[simp] theorem perform_nil (s : σ) : t.perform s [] = s := rfl

@[simp] theorem perform_cons (s : σ) (statement : κ) (rest : List κ) :
    t.perform s (statement :: rest) = t.perform (t.exec statement s) rest := rfl

theorem perform_append (s : σ) (todo todo' : List κ) :
    t.perform s (todo ++ todo') = t.perform (t.perform s todo) todo' := List.foldl_append

theorem move_cases (he : t.move c e = some c') :
    (∃ m todo, e = .command m ∧ c.todo = [] ∧ t.statements c.state m = some todo ∧
      c' = ⟨todo, c.state⟩) ∨
    (∃ statement rest, e = .statement ∧ c.todo = statement :: rest ∧
      c' = ⟨rest, t.exec statement c.state⟩) := by
  cases e with
  | command m =>
    left
    simp only [move] at he
    split at he
    · rename_i free
      obtain ⟨todo, begun, rfl⟩ := Option.map_eq_some_iff.mp he
      exact ⟨m, todo, rfl, free, begun, rfl⟩
    · cases he
  | statement =>
    right
    simp only [move] at he
    split at he
    · cases he
    · rename_i statement rest under_way
      exact ⟨statement, rest, rfl, under_way, (Option.some_inj.mp he).symm⟩

theorem finish_of_move (he : t.move c e = some c') :
    run t.whole (t.finish c) e.asked.toList = some (t.finish c') := by
  rcases move_cases he with ⟨m, todo, rfl, free, begun, rfl⟩ | ⟨statement, rest, rfl, first, rfl⟩
  · have state : t.finish c = c.state := by
      rw [finish, free]
      rfl
    rw [state]
    simp [Move.asked, whole, begun, finish]
  · have same : t.finish c = t.finish ⟨rest, t.exec statement c.state⟩ := by
      rw [finish, first]
      rfl
    rw [same]
    rfl

/-- Commands carried out by statements come to what they come to as single steps. -/
theorem finish_of_run (hrun : run t.move c es = some c') :
    run t.whole (t.finish c) (es.filterMap Move.asked) = some (t.finish c') :=
  run_project (I := fun _ => True) t.finish Move.asked (fun _ _ _ _ _ => trivial)
    (fun _ _ _ _ he => finish_of_move he) trivial hrun

end Thread

end ProximityLed.Library.Stepwise
