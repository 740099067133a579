/- ProximityLed/Library/Timer
   digest: Repeated timers behind one interface, kept as a flag or as an alarm on a clock. -/

import Mathlib.Data.Nat.Notation

set_option autoImplicit false
set_option relaxedAutoImplicit false

namespace ProximityLed.Library.Timer

variable {κ μ τ υ : Type}

/-- What a program asks of a library of repeated timers.  A start hands over the period and the
context of the timeout handler; `armed` is that context while the timer runs. -/
structure TimerApi (κ τ : Type) where
  create : τ → τ
  start : ℕ → κ → τ → τ
  stop : τ → τ
  armed : τ → Option κ

/-- A map of timers, over a map of contexts, that every call commutes with. -/
structure TimerApi.Hom (A : TimerApi κ τ) (B : TimerApi μ υ) (g : κ → μ) (f : τ → υ) : Prop where
  create : ∀ t, f (A.create t) = B.create (f t)
  start : ∀ n c t, f (A.start n c t) = B.start n (g c) (f t)
  stop : ∀ t, f (A.stop t) = B.stop (f t)
  armed : ∀ t, B.armed (f t) = (A.armed t).map g

/-- A timer without a clock: whether it has been created, and the context while it runs. -/
@[ext] structure FlagTimer (κ : Type) where
  created : Bool
  armed : Option κ
  deriving DecidableEq

def FlagTimer.blank : FlagTimer κ := ⟨false, none⟩

def FlagTimer.running (t : FlagTimer κ) : Bool := t.armed.isSome

/-- Before its creation a timer answers start and stop with an error and does not change. -/
def flagApi : TimerApi κ (FlagTimer κ) where
  create _ := ⟨true, none⟩
  start _ c t := if t.created then ⟨true, some c⟩ else t
  stop t := if t.created then ⟨true, none⟩ else t
  armed t := t.armed

structure Alarm (κ : Type) where
  context : κ
  due : ℕ
  period : ℕ
  deriving DecidableEq

@[ext] structure ClockTimer (κ : Type) where
  created : Bool
  alarm : Option (Alarm κ)
  deriving DecidableEq

/-- Calls made at the instant `now`; `ticks` turns a period of the program into clock ticks. -/
def clockApi (ticks : ℕ → ℕ) (now : ℕ) : TimerApi κ (ClockTimer κ) where
  create _ := ⟨true, none⟩
  start n c t := if t.created then ⟨true, some ⟨c, now + ticks n, ticks n⟩⟩ else t
  stop t := if t.created then ⟨true, none⟩ else t
  armed t := t.alarm.map Alarm.context

/-- A repeated timer that has expired is due again one period later. -/
def ClockTimer.reload (t : ClockTimer κ) : ClockTimer κ :=
  { t with alarm := t.alarm.map fun a => { a with due := a.due + a.period } }

def ClockTimer.quietUntil (t : ClockTimer κ) (n : ℕ) : Prop := ∀ a ∈ t.alarm, n ≤ a.due

instance (t : ClockTimer κ) (n : ℕ) : Decidable (t.quietUntil n) :=
  match h : t.alarm with
  | none => .isTrue (by simp [ClockTimer.quietUntil, h])
  | some a => decidable_of_iff (n ≤ a.due) (by simp [ClockTimer.quietUntil, h])

def ClockTimer.dueAt (t : ClockTimer κ) (n : ℕ) : Bool := t.alarm.any fun a => a.due == n

def ClockTimer.flag (t : ClockTimer κ) : FlagTimer κ := ⟨t.created, t.alarm.map Alarm.context⟩

theorem flag_hom (ticks : ℕ → ℕ) (now : ℕ) :
    (clockApi ticks now).Hom (flagApi (κ := κ)) id ClockTimer.flag where
  create _ := rfl
  start n c t := by
    simp only [clockApi, flagApi, ClockTimer.flag]
    split <;> rfl
  stop t := by
    simp only [clockApi, flagApi, ClockTimer.flag]
    split <;> rfl
  armed t := by simp [clockApi, flagApi, ClockTimer.flag]

theorem id_hom (A : TimerApi κ τ) : A.Hom A id id where
  create _ := rfl
  start _ _ _ := rfl
  stop _ := rfl
  armed t := by simp

def FlagTimer.rename (g : κ → μ) (t : FlagTimer κ) : FlagTimer μ := ⟨t.created, t.armed.map g⟩

theorem rename_hom (g : κ → μ) : (flagApi (κ := κ)).Hom flagApi g (FlagTimer.rename g) where
  create _ := rfl
  start n c t := by
    simp only [flagApi, FlagTimer.rename]
    split <;> rfl
  stop t := by
    simp only [flagApi, FlagTimer.rename]
    split <;> rfl
  armed _ := rfl

@[simp] theorem flag_reload (t : ClockTimer κ) : t.reload.flag = t.flag := by
  ext1
  · rfl
  · simp [ClockTimer.flag, ClockTimer.reload, Function.comp_def]

end ProximityLed.Library.Timer
