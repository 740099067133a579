/- ProximityLed/ColorScan/Independence
   digest: The devices do not disturb each other, and exchanging their ids exchanges them. -/

import ProximityLed.ColorScan.Strip
import ProximityLed.ColorScan.Renaming

set_option autoImplicit false
set_option relaxedAutoImplicit false

namespace ProximityLed.ColorScan.Independence

open Library.Timer
open Library.Run
open Helpers
open Handlers
open DeviceView
open Startup
open Soundness
open Renaming
open Strip (head_of_step)

def target : Event → Option (Fin 2)
  | .report r => r.acceptedFor
  | .ttlTick d => some d
  | .undimTick d => some d

def deviceEvents (d : Fin 2) (es : List Event) : List Event :=
  es.filter fun e => target e = some d

def EndsRefreshed (es : List Event) : Prop := ∃ pre e, es = pre ++ [e] ∧ refreshes e = true

theorem forDevice_isSome (d : Fin 2) (e : Event) :
    (forDevice d e).isSome = true ↔ target e = some d := by
  cases e <;> simp [forDevice, target]

private theorem filterMap_forDevice (d : Fin 2) (es : List Event) :
    es.filterMap (forDevice d) = (deviceEvents d es).filterMap (forDevice d) := by
  induction es with
  | nil => rfl
  | cons e es ih =>
    have own := forDevice_isSome d e
    cases label : forDevice d e with
    | none =>
      have other : target e ≠ some d := by simpa [label] using own
      rw [List.filterMap_cons_none label, ih, deviceEvents, deviceEvents,
        List.filter_cons_of_neg (by simpa using other)]
    | some ev =>
      have mine : target e = some d := by simpa [label] using own
      rw [List.filterMap_cons_some label, ih, deviceEvents, deviceEvents,
        List.filter_cons_of_pos (by simpa using mine), List.filterMap_cons_some label]

private theorem head_of_refreshed [Scaling] {es : List Event} {s : FlagScan}
    (hrun : run (step flagApi) idle es = some s) (ends : EndsRefreshed es) :
    s.pwm.played.head? = some (colorFrame (calculateCombinedColor s.animationColors)) := by
  rcases ends with ⟨pre, e, rfl, refreshed⟩
  rcases run_append_eq_some.mp hrun with ⟨m, _, he⟩
  rw [run_singleton] at he
  exact head_of_step he refreshed

private theorem device_of_events [Scaling] {es es' : List Event} {s s' : FlagScan}
    (hrun : run (step flagApi) idle es = some s) (hrun' : run (step flagApi) idle es' = some s')
    {d : Fin 2} (same : deviceEvents d es = deviceEvents d es') : device s d = device s' d := by
  have own := idle_device hrun d
  have own' := idle_device hrun' d
  rw [filterMap_forDevice, same, ← filterMap_forDevice, own'] at own
  exact (Option.some_inj.mp own).symm

def swapReport (r : AdvReport) : AdvReport :=
  if r.advId = 0xAABB then
    { r with peerAddr := (r.peerAddr.setIfInBounds 0 0xDD).setIfInBounds 1 0xCC }
  else if r.advId = 0xCCDD then
    { r with peerAddr := (r.peerAddr.setIfInBounds 0 0xBB).setIfInBounds 1 0xAA }
  else r

def swapEvent : Event → Event
  | .report r => .report (swapReport r)
  | .ttlTick d => .ttlTick d.rev
  | .undimTick d => .undimTick d.rev

def swap (s : FlagScan) : FlagScan where
  animationColors := s.animationColors ∘ Fin.rev
  actualDeviceColor := s.actualDeviceColor ∘ Fin.rev
  deviceTtlTimers d := (s.deviceTtlTimers d.rev).rename Fin.rev
  deviceUndimTimers d := (s.deviceUndimTimers d.rev).rename Fin.rev
  animationState d := { s.animationState d.rev with deviceId := d }
  pwm := s.pwm
  deviceId_eq _ := rfl

private theorem device_swap (s : FlagScan) (d : Fin 2) :
    device (swap s) d = (device s d.rev).map (FlagTimer.rename Fin.rev) := rfl

private theorem swapReport_advColor (r : AdvReport) : (swapReport r).advColor = r.advColor := by
  unfold swapReport
  split
  · rfl
  · split <;> rfl

private theorem swapReport_acceptedFor (r : AdvReport) :
    (swapReport r).acceptedFor = r.acceptedFor.map Fin.rev := by
  have rssi : (swapReport r).rssi = r.rssi := by
    unfold swapReport
    split
    · rfl
    · split <;> rfl
  have index : getDeviceIndex (swapReport r).advId = (getDeviceIndex r.advId).map Fin.rev := by
    by_cases first : r.advId = 0xAABB
    · have exchanged : (swapReport r).advId = 0xCCDD := by
        rw [swapReport, if_pos first]
        simpa [AdvReport.advId] using (by decide : (0xCC : UInt16) <<< 8 + 0xDD = 0xCCDD)
      rw [exchanged, first]
      rfl
    by_cases second : r.advId = 0xCCDD
    · have exchanged : (swapReport r).advId = 0xAABB := by
        rw [swapReport, if_neg first, if_pos second]
        simpa [AdvReport.advId] using (by decide : (0xAA : UInt16) <<< 8 + 0xBB = 0xAABB)
      rw [exchanged, second]
      rfl
    · have unknown : getDeviceIndex r.advId = none := by
        simp [getDeviceIndex, first, second]
      rw [swapReport, if_neg first, if_neg second, unknown]
      rfl
  rw [acceptedFor_eq, acceptedFor_eq, rssi, index]
  split <;> rfl

private theorem renames_swapEvent (e : Event) : Renames Fin.rev e (swapEvent e) := by
  cases e with
  | report r =>
    refine .report (swapReport_advColor r) ?_
    intro d
    rw [swapReport_acceptedFor, Option.map_eq_some_iff]
    constructor
    · rintro ⟨c, accepted, same⟩
      rw [accepted, Fin.rev_injective same]
    · intro accepted
      exact ⟨d, accepted, rfl⟩
  | ttlTick c => exact .ttlTick c
  | undimTick c => exact .undimTick c

private theorem renamed_swap (s : FlagScan) :
    Renamed Fin.rev (FlagTimer.rename Fin.rev) s (swap s) := by
  refine ⟨?_, rfl⟩
  intro d
  rw [device_swap, Fin.rev_rev]

theorem step_swap [Scaling] (s : FlagScan) (e : Event) :
    step flagApi (swap s) (swapEvent e) = (step flagApi s e).map swap :=
  step_renamed (rename_hom Fin.rev) Fin.rev_involutive.bijective renamed_swap s
    (renames_swapEvent e)

private theorem swap_idle : swap idle = idle := by
  refine scan_ext ?_ (by rw [swap])
  intro d
  rw [device_swap, idle, device_afterStartup, device_afterStartup]
  rfl

theorem run_swap [Scaling] (s : FlagScan) (es : List Event) :
    run (step flagApi) (swap s) (es.map swapEvent) = (run (step flagApi) s es).map swap := by
  induction es generalizing s with
  | nil => rfl
  | cons e es ih =>
    rw [List.map_cons, run_cons, run_cons, step_swap]
    cases step flagApi s e with
    | none => rfl
    | some t => exact ih t

/-- Runs with the same events of each device, whatever their interleaving and whatever rejected
reports they add, end with the same devices, and with the same frame if both end refreshed.
Exchanging the ids and the ticks throughout a run exchanges the devices and no frame. -/
theorem devices_independent_and_interchangeable [Scaling] :
    (∀ (es es' : List Event) (s s' : FlagScan), run (step flagApi) idle es = some s →
      run (step flagApi) idle es' = some s' →
      (∀ d, deviceEvents d es = deviceEvents d es') →
      (∀ d, device s d = device s' d) ∧
        (EndsRefreshed es → EndsRefreshed es' → s.pwm.played.head? = s'.pwm.played.head?)) ∧
    ∀ es : List Event, run (step flagApi) idle (es.map swapEvent) =
      (run (step flagApi) idle es).map swap := by
  refine ⟨?_, ?_⟩
  · intro es es' s s' hrun hrun' same
    have devices (d : Fin 2) := device_of_events hrun hrun' (same d)
    refine ⟨devices, ?_⟩
    intro ends ends'
    have colors : s.animationColors = s'.animationColors := by
      funext d
      exact congrArg Device.animationColor (devices d)
    rw [head_of_refreshed hrun ends, head_of_refreshed hrun' ends', colors]
  · intro es
    have swapped := run_swap idle es
    rwa [swap_idle] at swapped

/-- Two beacons heard in either order, with a stranger's report in between. -/
theorem devices_independent_beacons :
    ∃ s s', run (step flagApi) idle [.report (beacon 0 ⟨200, 0, 0, 0⟩),
        .report { beacon 0 ⟨0, 0, 9, 0⟩ with rssi := -49 }, .report (beacon 1 ⟨0, 90, 0, 0⟩)] =
          some s ∧
      run (step flagApi) idle [.report (beacon 1 ⟨0, 90, 0, 0⟩),
        .report (beacon 0 ⟨200, 0, 0, 0⟩)] = some s' ∧
      (∀ d, device s d = device s' d) ∧ s.pwm.played.head? = s'.pwm.played.head? := by
  have hrun : run (step flagApi) idle [.report (beacon 0 ⟨200, 0, 0, 0⟩),
      .report { beacon 0 ⟨0, 0, 9, 0⟩ with rssi := -49 }, .report (beacon 1 ⟨0, 90, 0, 0⟩)] =
        some _ := rfl
  have hrun' : run (step flagApi) idle [.report (beacon 1 ⟨0, 90, 0, 0⟩),
      .report (beacon 0 ⟨200, 0, 0, 0⟩)] = some _ := rfl
  obtain ⟨devices, frames⟩ := devices_independent_and_interchangeable.1 _ _ _ _ hrun hrun'
    (by decide)
  have ends : EndsRefreshed [.report (beacon 0 ⟨200, 0, 0, 0⟩),
      .report { beacon 0 ⟨0, 0, 9, 0⟩ with rssi := -49 }, .report (beacon 1 ⟨0, 90, 0, 0⟩)] :=
    ⟨[_, _], _, rfl, by decide⟩
  have ends' : EndsRefreshed [.report (beacon 1 ⟨0, 90, 0, 0⟩),
      .report (beacon 0 ⟨200, 0, 0, 0⟩)] := ⟨[_], _, rfl, by decide⟩
  exact ⟨_, _, hrun, hrun', devices, frames ends ends'⟩

end ProximityLed.ColorScan.Independence
