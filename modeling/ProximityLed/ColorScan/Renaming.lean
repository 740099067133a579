/- ProximityLed/ColorScan/Renaming
   digest: The handlers commute with a renaming of the devices and a map of their timers. -/

import ProximityLed.ColorScan.DeviceView

set_option autoImplicit false
set_option relaxedAutoImplicit false

namespace ProximityLed.ColorScan.Renaming

open Library.Timer (TimerApi)
open Helpers
open Handlers
open DeviceView

inductive Renames (g : Fin 2 → Fin 2) : Event → Event → Prop
  | report {r r' : AdvReport} (color : r'.advColor = r.advColor)
      (accepted : ∀ d, r'.acceptedFor = some (g d) ↔ r.acceptedFor = some d) :
      Renames g (.report r) (.report r')
  | ttlTick (c : Fin 2) : Renames g (.ttlTick c) (.ttlTick (g c))
  | undimTick (c : Fin 2) : Renames g (.undimTick c) (.undimTick (g c))

variable {τ υ : Type} {g : Fin 2 → Fin 2} {f : τ → υ}

/-- The second scanner is the first with the devices renamed, the timers mapped and the strip as
it is. -/
structure Renamed (g : Fin 2 → Fin 2) (f : τ → υ) (s : Scan τ) (s' : Scan υ) : Prop where
  devices : ∀ d, device s' (g d) = (device s d).map f
  pwm : s'.pwm = s.pwm

private theorem Renamed.unique {s : Scan τ} {s' s'' : Scan υ} (onto : Function.Surjective g)
    (h : Renamed g f s s') (h' : Renamed g f s s'') : s' = s'' := by
  refine scan_ext ?_ (h.pwm.trans h'.pwm.symm)
  intro d
  obtain ⟨d, rfl⟩ := onto d
  exact (h.devices d).trans (h'.devices d).symm

private theorem Renames.refreshes_eq (onto : Function.Surjective g) {e e' : Event}
    (h : Renames g e e') :
    refreshes e' = refreshes e := by
  cases h with
  | report color accepted =>
    rw [refreshes, refreshes, Bool.eq_iff_iff, Option.isSome_iff_exists, Option.isSome_iff_exists,
      onto.exists]
    exact exists_congr accepted
  | ttlTick c => rfl
  | undimTick c => rfl

section Step

variable [Scaling] {A : TimerApi (Fin 2) τ} {B : TimerApi (Fin 2) υ} (hom : A.Hom B g f)
  (bij : Function.Bijective g) {s t : Scan τ} {s' t' : Scan υ} {e e' : Event}

include bij

private theorem renamed_of_devices (h : Renamed g f s s') (renames : Renames g e e')
    (moved : step A s e = some t) (moved' : step B s' e' = some t')
    (devices : ∀ d, device t' (g d) = (device t d).map f) : Renamed g f t t' := by
  refine ⟨devices, ?_⟩
  have combined : calculateCombinedColor t'.animationColors =
      calculateCombinedColor t.animationColors :=
    combined_renamed bij.injective fun d => congrArg Device.animationColor (devices d)
  rw [step_pwm moved, step_pwm moved', renames.refreshes_eq bij.surjective, combined, h.pwm]

include hom

theorem Renamed.dimDevice (h : Renamed g f s s') (p d : Fin 2) :
    device (Handlers.dimDevice B s' (g p)) (g d) = (device (Handlers.dimDevice A s p) d).map f := by
  rw [device_dimDevice, device_dimDevice, h.devices, h.devices, ← dim_map hom]
  simp only [bij.injective.eq_iff]
  split <;> rfl

theorem Renamed.undimDevice (h : Renamed g f s s') (p d : Fin 2) :
    device (Handlers.undimDevice B s' (g p)) (g d) =
      (device (Handlers.undimDevice A s p) d).map f := by
  rw [device_undimDevice, device_undimDevice, h.devices, h.devices, ← brighten_map hom]
  simp only [bij.injective.eq_iff]
  split <;> rfl

theorem Renamed.step (h : Renamed g f s s') (renames : Renames g e e') :
    Option.Rel (Renamed g f) (Handlers.step A s e) (Handlers.step B s' e') := by
  cases renames with
  | @report r r' color accepted =>
    refine .some (renamed_of_devices bij h (.report color accepted) rfl rfl ?_)
    intro d
    rw [device_bleEvtAdvReport, device_bleEvtAdvReport, color, h.devices, ← advert_map hom]
    by_cases own : r.acceptedFor = some d
    · rw [if_pos own, if_pos ((accepted d).mpr own)]
    · rw [if_neg own, if_neg (mt (accepted d).mp own)]
  | ttlTick c =>
    have timer : B.armed (s'.deviceTtlTimers (g c)) = (A.armed (s.deviceTtlTimers c)).map g := by
      rw [← hom.armed]
      exact congrArg (fun x => B.armed x.ttl) (h.devices c)
    cases armed : A.armed (s.deviceTtlTimers c) with
    | none =>
      simp only [Handlers.step, timer, armed, Option.map_none]
      exact .none
    | some p =>
      have moved : Handlers.step A s (.ttlTick c) = some (Handlers.dimDevice A s p) := by
        simp only [Handlers.step, armed, Option.map_some]
      have moved' : Handlers.step B s' (.ttlTick (g c)) = some (Handlers.dimDevice B s' (g p)) := by
        simp only [Handlers.step, timer, armed, Option.map_some]
      rw [moved, moved']
      exact .some (renamed_of_devices bij h (.ttlTick c) moved moved' (h.dimDevice hom bij p))
  | undimTick c =>
    have timer : B.armed (s'.deviceUndimTimers (g c)) =
        (A.armed (s.deviceUndimTimers c)).map g := by
      rw [← hom.armed]
      exact congrArg (fun x => B.armed x.undim) (h.devices c)
    cases armed : A.armed (s.deviceUndimTimers c) with
    | none =>
      simp only [Handlers.step, timer, armed, Option.map_none]
      exact .none
    | some p =>
      have moved : Handlers.step A s (.undimTick c) = some (Handlers.undimDevice A s p) := by
        simp only [Handlers.step, armed, Option.map_some]
      have moved' : Handlers.step B s' (.undimTick (g c)) =
          some (Handlers.undimDevice B s' (g p)) := by
        simp only [Handlers.step, timer, armed, Option.map_some]
      rw [moved, moved']
      exact .some (renamed_of_devices bij h (.undimTick c) moved moved' (h.undimDevice hom bij p))

theorem step_renamed {F : Scan τ → Scan υ} (renamed : ∀ s, Renamed g f s (F s)) (s : Scan τ)
    (renames : Renames g e e') : Handlers.step B (F s) e' = (Handlers.step A s e).map F := by
  have related := (renamed s).step hom bij renames
  cases moved : Handlers.step A s e with
  | none =>
    rw [moved] at related
    generalize Handlers.step B (F s) e' = o at related
    cases related
    rfl
  | some t =>
    rw [moved] at related
    generalize Handlers.step B (F s) e' = o at related
    cases related with
    | some next => exact congrArg some (next.unique bij.surjective (renamed t))

end Step

end ProximityLed.ColorScan.Renaming
