/- ProximityLed/ColorScan/Startup
   digest: The startup of main, with reports between its statements, and the state it leads to. -/

import ProximityLed.ColorScan.DeviceView

set_option autoImplicit false
set_option relaxedAutoImplicit false

namespace ProximityLed.ColorScan.Startup

open PwmDriver (Color DARKNESS Pwm)
open Library.Timer (TimerApi)
open Library.Run
open Helpers (AdvReport device1 device2)
open Handlers
open DeviceView

/-- The statements of `main` up to its idle loop.  `simple_ble_init` and `advertising_stop` come
before scanning starts and touch nothing kept here. -/
inductive Statement
  | darkenAnimationColors
  | scanningStart
  | pwmInit
  | displayDarkness
  | appTimerInit
  | createTtlTimer (d : Fin 2)
  | createUndimTimer (d : Fin 2)
  deriving DecidableEq

def startup : List Statement :=
  [.darkenAnimationColors, .scanningStart, .pwmInit, .displayDarkness, .appTimerInit,
    .createTtlTimer device1, .createTtlTimer device2, .createUndimTimer device1,
    .createUndimTimer device2]

/-- The scanner while `main` is still in its startup. -/
@[ext] structure Boot (τ : Type) where
  rest : List Statement
  scanning : Bool
  scan : Scan τ

variable {τ : Type} (api : TimerApi (Fin 2) τ)

/-- The globals at power-on: all zero, with the two ids in place and no timer created. -/
def globals (blank : τ) : Scan τ where
  animationColors _ := ⟨0, 0, 0, 0⟩
  actualDeviceColor _ := ⟨0, 0, 0, 0⟩
  deviceTtlTimers _ := blank
  deviceUndimTimers _ := blank
  animationState i := ⟨i, 0, false⟩
  pwm := Pwm.blank LED_DUTY_CYCLE_ARRAY_LENGTH
  deviceId_eq _ := rfl

def powerOn (blank : τ) : Boot τ := ⟨startup, false, globals blank⟩

/-- What a statement does; neither driver initialisation changes a global kept here. -/
def execute (b : Boot τ) : Statement → Boot τ
  | .darkenAnimationColors =>
    { b with scan := (b.scan.setAnimationColor device1 DARKNESS).setAnimationColor device2 DARKNESS }
  | .scanningStart => { b with scanning := true }
  | .pwmInit => b
  | .displayDarkness => { b with scan := b.scan.display DARKNESS }
  | .appTimerInit => b
  | .createTtlTimer d => { b with scan := b.scan.onTtlTimer d api.create }
  | .createUndimTimer d => { b with scan := b.scan.onUndimTimer d api.create }

inductive BootEvent
  | main (statement : Statement)
  | event (e : Event)
  deriving DecidableEq

/-- Statements run in their order, reports arrive once scanning has started, and timers tick as
they do later. -/
def bootStep [Scaling] (b : Boot τ) : BootEvent → Option (Boot τ)
  | .main statement =>
    if b.rest.head? = some statement then
      some { execute api b statement with rest := b.rest.tail }
    else none
  | .event (.report r) =>
    if b.scanning then some { b with scan := bleEvtAdvReport api b.scan r } else none
  | .event e => (step api b.scan e).map fun s => { b with scan := s }

/-- A step of the startup is the next statement, or an event that leaves the statements alone. -/
theorem bootStep_cases [Scaling] {api : TimerApi (Fin 2) τ} {b b' : Boot τ} {e : BootEvent}
    (h : bootStep api b e = some b') :
    (∃ statement, e = .main statement ∧ b.rest.head? = some statement ∧
        b' = { execute api b statement with rest := b.rest.tail }) ∨
      ∃ ev s, e = .event ev ∧ (∀ r, ev = .report r → b.scanning = true) ∧
        step api b.scan ev = some s ∧ b' = { b with scan := s } := by
  cases e with
  | main statement =>
    simp only [bootStep, Option.ite_none_right_eq_some, Option.some.injEq] at h
    exact .inl ⟨statement, rfl, h.1, h.2.symm⟩
  | event ev =>
    cases ev with
    | report r =>
      simp only [bootStep, Option.ite_none_right_eq_some, Option.some.injEq] at h
      exact .inr ⟨_, _, rfl, fun _ _ => h.1, rfl, h.2.symm⟩
    | ttlTick c | undimTick c =>
      rcases Option.map_eq_some_iff.mp h with ⟨s, moved, rfl⟩
      exact .inr ⟨_, s, rfl, by simp, moved, rfl⟩

def afterStartup (blank : τ) : Scan τ := (startup.foldl (execute api) (powerOn blank)).scan

/-- The startup alone leads the machine to its idle loop in that state. -/
theorem run_startup [Scaling] (blank : τ) :
    run (bootStep api) (powerOn blank) (startup.map .main) =
      some ⟨[], true, afterStartup api blank⟩ := by
  simp [startup, powerOn, bootStep, execute, afterStartup]

theorem device_afterStartup (blank : τ) (d : Fin 2) :
    device (afterStartup api blank) d =
      ⟨0, false, DARKNESS, DARKNESS, api.create blank, api.create blank⟩ := by
  fin_cases d <;> rfl

theorem pwm_afterStartup (blank : τ) :
    (afterStartup api blank).pwm = displayColor DARKNESS (Pwm.blank _) := by
  rfl

end ProximityLed.ColorScan.Startup
