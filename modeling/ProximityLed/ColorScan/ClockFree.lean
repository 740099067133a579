/- ProximityLed/ColorScan/ClockFree
   digest: A run of the scanner on a clock is, its instants forgotten, a run with flags for timers. -/

import ProximityLed.ColorScan.Cache
import ProximityLed.ColorScan.Presence
import ProximityLed.ColorScan.Renaming

set_option autoImplicit false
set_option relaxedAutoImplicit false

namespace ProximityLed.ColorScan.ClockFree

open Library.Timer
open Library.Run
open Library.Clock
open Handlers
open DeviceView
open Startup
open Soundness
open Cache
open Presence
open Renaming

def forget (s : ClockScan) : FlagScan :=
  { s with
    deviceTtlTimers := ClockTimer.flag ∘ s.deviceTtlTimers
    deviceUndimTimers := ClockTimer.flag ∘ s.deviceUndimTimers }

private theorem device_forget (s : ClockScan) (d : Fin 2) :
    device (forget s) d = (device s d).map ClockTimer.flag := rfl

private theorem renames_id (e : Event) : Renames id e e := by
  cases e with
  | report r => exact .report rfl fun _ => Iff.rfl
  | ttlTick c => exact .ttlTick c
  | undimTick c => exact .undimTick c

section Runs

variable [Scaling] {ticks : ℕ → ℕ} {now : ℕ} {s s' : ClockScan} {e : Event} {x y : Timed ClockScan}

omit [Scaling] in
private theorem forget_expire (h : expire now s e = some s') : forget s' = forget s := by
  cases e with
  | report r =>
    obtain rfl : s = s' := by simpa [expire] using h
    rfl
  | ttlTick c =>
    simp only [expire, Option.ite_none_right_eq_some, Option.some.injEq] at h
    rcases h with ⟨_, rfl⟩
    refine scan_ext ?_ rfl
    intro d
    by_cases own : d = c
    · simp [device_forget, own, Device.map]
    · simp [device_forget, own]
  | undimTick c =>
    simp only [expire, Option.ite_none_right_eq_some, Option.some.injEq] at h
    rcases h with ⟨_, rfl⟩
    refine scan_ext ?_ rfl
    intro d
    by_cases own : d = c
    · simp [device_forget, own, Device.map]
    · simp [device_forget, own]

theorem timedStep_forget {ev : TimedEvent Event} (h : timedStep ticks x ev = some y) :
    run (step flagApi) (forget x.state) ev.happening.toList = some (forget y.state) := by
  cases ev with
  | delay n =>
    simp only [timedStep, Option.ite_none_right_eq_some, Option.some.injEq] at h
    rcases h with ⟨_, rfl⟩
    rfl
  | act e =>
    rcases Option.map_eq_some_iff.mp h with ⟨t, moved, rfl⟩
    rcases Option.bind_eq_some_iff.mp moved with ⟨s, expired, handled⟩
    have carried := step_renamed (flag_hom ticks x.now) Function.bijective_id
      (fun s => ⟨device_forget s, rfl⟩) s (renames_id e)
    rw [handled] at carried
    rw [TimedEvent.happening, Option.toList_some, run_singleton, ← forget_expire expired]
    exact carried

variable {es : List (TimedEvent Event)}

theorem run_forget (hrun : run (timedStep ticks) x es = some y) :
    run (step flagApi) (forget x.state) (es.filterMap TimedEvent.happening) =
      some (forget y.state) :=
  run_project (I := fun _ => True) (fun m => forget m.state) TimedEvent.happening
    (fun _ _ _ _ _ => trivial) (fun _ _ _ _ he => timedStep_forget he) trivial hrun

omit [Scaling] in
private theorem forget_timedIdle (ticks : ℕ → ℕ) : forget (timedIdle ticks).state = idle := by
  refine scan_ext ?_ rfl
  intro d
  rw [device_forget, timedIdle, idle, device_afterStartup, device_afterStartup]
  rfl

/-- At every instant both devices are sound, and their colours are those of their last accepted
reports at the brightness of the moment. -/
theorem timed_agreement (hrun : run (timedStep ticks) (timedIdle ticks) es = some y) (d : Fin 2) :
    Sound d ((device y.state d).map ClockTimer.flag) ∧ Cached (device y.state d) ∧
      y.state.actualDeviceColor d = advertisedColor d (es.filterMap TimedEvent.happening) := by
  have free := run_forget hrun
  rw [forget_timedIdle] at free
  obtain ⟨cached, color⟩ := idle_cached free d
  exact ⟨idle_sound free d, ⟨cached.padding, cached.fresh⟩, color⟩

end Runs

end ProximityLed.ColorScan.ClockFree
