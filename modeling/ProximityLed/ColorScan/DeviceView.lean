/- ProximityLed/ColorScan/DeviceView
   digest: One device by itself, and the handlers as its steps beside an untouched other device. -/

import ProximityLed.ColorScan.Handlers
import ProximityLed.Library.Run
import Mathlib.Data.Fintype.Basic
import Mathlib.Tactic.FinCases

set_option autoImplicit false
set_option relaxedAutoImplicit false

namespace ProximityLed.ColorScan.DeviceView

open PwmDriver (Color DARKNESS displayLeds_played)
open Library.Timer (TimerApi)
open Library.Run
open Helpers
open Handlers

@[ext] structure Device (τ : Type) where
  brightness : ℤ
  isUndimming : Bool
  actualColor : Color
  animationColor : Color
  ttl : τ
  undim : τ

variable {τ υ : Type}

namespace Device

def map (f : τ → υ) (x : Device τ) : Device υ := { x with ttl := f x.ttl, undim := f x.undim }

variable [Scaling] (api : TimerApi (Fin 2) τ)

/-- A TTL tick: the fade-in ends, and the light goes down by 15, to a stop at 0. -/
def dim (x : Device τ) : Device τ :=
  let b := max 0 (x.brightness - 15)
  { x with
    brightness := b
    isUndimming := false
    animationColor := makeColorOfBrightness x.actualColor b
    ttl := if b = 0 then api.stop x.ttl else x.ttl
    undim := api.stop x.undim }

def brighten (x : Device τ) : Device τ :=
  let b := min 100 (x.brightness + 10)
  { x with
    brightness := b
    isUndimming := if b = 100 then false else x.isUndimming
    animationColor := makeColorOfBrightness x.actualColor b
    undim := if b = 100 then api.stop x.undim else x.undim }

/-- A colour heard: kept, and shown at the brightness of the moment if it is a new one. -/
def store (c : Color) (x : Device τ) : Device τ :=
  if isSameColor x.actualColor c then x
  else { x with actualColor := c, animationColor := makeColorOfBrightness c x.brightness }

/-- A fade-in begun: its first step is taken at once, and its timer started after that. -/
def begin (d : Fin 2) (x : Device τ) : Device τ :=
  if x.isUndimming = false ∧ x.brightness < 100 then
    let y := brighten api { x with isUndimming := true }
    { y with undim := api.start ANIMATION_MS d y.undim }
  else x

/-- An accepted advert: the TTL timer is stopped first and started last. -/
def advert (d : Fin 2) (c : Color) (x : Device τ) : Device τ :=
  let y := begin api d (store c { x with ttl := api.stop x.ttl })
  { y with ttl := api.start TTL_MS d y.ttl }

@[simp] theorem store_brightness (c : Color) (x : Device τ) :
    (store c x).brightness = x.brightness := by
  unfold store
  split <;> rfl

@[simp] theorem store_isUndimming (c : Color) (x : Device τ) :
    (store c x).isUndimming = x.isUndimming := by
  unfold store
  split <;> rfl

@[simp] theorem store_undim (c : Color) (x : Device τ) : (store c x).undim = x.undim := by
  unfold store
  split <;> rfl

private theorem store_ttl (c : Color) (x : Device τ) (t : τ) :
    store c { x with ttl := t } = { store c x with ttl := t } := by
  unfold store
  split <;> rfl

omit [Scaling] in
theorem rests_or_busy (x : Device τ) :
    (x.isUndimming = false ∧ x.brightness < 100) ∨ x.isUndimming = true ∨ 100 ≤ x.brightness := by
  cases flag : x.isUndimming with
  | true => exact .inr (.inl rfl)
  | false =>
    rcases lt_or_ge x.brightness 100 with below | full
    · exact .inl ⟨rfl, below⟩
    · exact .inr (.inr full)

theorem advert_busy (d : Fin 2) (c : Color) {x : Device τ}
    (busy : x.isUndimming = true ∨ 100 ≤ x.brightness) :
    x.advert api d c = { store c x with ttl := api.start TTL_MS d (api.stop x.ttl) } := by
  have stay : ¬ (x.isUndimming = false ∧ x.brightness < 100) := by
    rintro ⟨flag, below⟩
    rcases busy with fading | full
    · simp [flag] at fading
    · omega
  simp only [advert, store_ttl, begin, store_isUndimming, store_brightness, if_neg stay]

/-- An advert that meets a light at rest starts a fade-in; the first step does not end it as long
as it stays below 100. -/
theorem advert_resting (d : Fin 2) (c : Color) {x : Device τ} (rest : x.isUndimming = false)
    (below : min 100 (x.brightness + 10) < 100) :
    x.advert api d c =
      { brightness := x.brightness + 10
        isUndimming := true
        actualColor := (store c x).actualColor
        animationColor := makeColorOfBrightness (store c x).actualColor (x.brightness + 10)
        ttl := api.start TTL_MS d (api.stop x.ttl)
        undim := api.start ANIMATION_MS d x.undim } := by
  have start : x.isUndimming = false ∧ x.brightness < 100 := ⟨rest, by omega⟩
  have step : min 100 (x.brightness + 10) = x.brightness + 10 := by omega
  have notFull : x.brightness + 10 ≠ 100 := by omega
  simp only [advert, store_ttl, begin, store_isUndimming, store_brightness, store_undim,
    if_pos start, brighten, step, if_neg notFull]

end Device

inductive DeviceEvent
  | advert (c : Color)
  | ttlTick
  | undimTick
  deriving DecidableEq

def deviceStep [Scaling] (api : TimerApi (Fin 2) τ) (d : Fin 2) (x : Device τ) :
    DeviceEvent → Option (Device τ)
  | .advert c => some (x.advert api d c)
  | .ttlTick => if (api.armed x.ttl).isSome then some (x.dim api) else none
  | .undimTick => if (api.armed x.undim).isSome then some (x.brighten api) else none

/-- What a step of a device can be, and when. -/
theorem deviceStep_cases [Scaling] {api : TimerApi (Fin 2) τ} {d : Fin 2} {x y : Device τ}
    {ev : DeviceEvent}
    (h : deviceStep api d x ev = some y) :
    (∃ c, ev = .advert c ∧ y = x.advert api d c) ∨
      (ev = .ttlTick ∧ (api.armed x.ttl).isSome = true ∧ y = x.dim api) ∨
      (ev = .undimTick ∧ (api.armed x.undim).isSome = true ∧ y = x.brighten api) := by
  cases ev with
  | advert c => exact .inl ⟨c, rfl, (Option.some_inj.mp h).symm⟩
  | ttlTick =>
    simp only [deviceStep, Option.ite_none_right_eq_some, Option.some.injEq] at h
    exact .inr (.inl ⟨rfl, h.1, h.2.symm⟩)
  | undimTick =>
    simp only [deviceStep, Option.ite_none_right_eq_some, Option.some.injEq] at h
    exact .inr (.inr ⟨rfl, h.1, h.2.symm⟩)

section Map

variable [Scaling] {A : TimerApi (Fin 2) τ} {B : TimerApi (Fin 2) υ} {g : Fin 2 → Fin 2} {f : τ → υ}
  (hom : A.Hom B g f) (d : Fin 2) (x : Device τ)

private theorem store_map (c : Color) : (x.store c).map f = (x.map f).store c := by
  rw [Device.store, apply_ite (Device.map f)]
  rfl

include hom

theorem dim_map : (x.dim A).map f = (x.map f).dim B := by
  simp only [Device.dim, Device.map, hom.stop, apply_ite f]
  rfl

theorem brighten_map : (x.brighten A).map f = (x.map f).brighten B := by
  simp only [Device.brighten, Device.map, hom.stop, apply_ite f]
  rfl

private theorem begin_map : (x.begin A d).map f = (x.map f).begin B (g d) := by
  have brighten := brighten_map hom { x with isUndimming := true }
  simp only [Device.map, Device.ext_iff] at brighten
  rw [Device.begin, apply_ite (Device.map f)]
  simp only [Device.begin, Device.map, hom.start, brighten]
  rfl

theorem advert_map (c : Color) : (x.advert A d c).map f = (x.map f).advert B (g d) c := by
  have begin := begin_map hom d (Device.store c { x with ttl := A.stop x.ttl })
  rw [store_map] at begin
  simp only [Device.map, hom.stop, Device.ext_iff] at begin
  ext1 <;> simp [Device.advert, Device.map, begin, hom.start]

theorem deviceStep_map (ev : DeviceEvent) :
    deviceStep B (g d) (x.map f) ev = (deviceStep A d x ev).map (Device.map f) := by
  have ttl : (B.armed (f x.ttl)).isSome = (A.armed x.ttl).isSome := by simp [hom.armed]
  have undim : (B.armed (f x.undim)).isSome = (A.armed x.undim).isSome := by simp [hom.armed]
  cases ev with
  | advert c => simp [deviceStep, advert_map hom]
  | ttlTick =>
    simp only [deviceStep, Device.map, ttl]
    split
    · exact congrArg some (dim_map hom x).symm
    · rfl
  | undimTick =>
    simp only [deviceStep, Device.map, undim]
    split
    · exact congrArg some (brighten_map hom x).symm
    · rfl

end Map

def forDevice (d : Fin 2) : Event → Option DeviceEvent
  | .report r => if r.acceptedFor = some d then some (.advert r.advColor) else none
  | .ttlTick e => if e = d then some .ttlTick else none
  | .undimTick e => if e = d then some .undimTick else none

theorem forDevice_cases {d : Fin 2} {e : Event} {ev : DeviceEvent} (h : forDevice d e = some ev) :
    (∃ r : AdvReport, e = .report r ∧ r.acceptedFor = some d ∧ ev = .advert r.advColor) ∨
      (e = .ttlTick d ∧ ev = .ttlTick) ∨ (e = .undimTick d ∧ ev = .undimTick) := by
  cases e with
  | report r =>
    simp only [forDevice, Option.ite_none_right_eq_some, Option.some.injEq] at h
    exact .inl ⟨r, rfl, h.1, h.2.symm⟩
  | ttlTick c =>
    simp only [forDevice, Option.ite_none_right_eq_some, Option.some.injEq] at h
    exact .inr (.inl ⟨congrArg Event.ttlTick h.1, h.2.symm⟩)
  | undimTick c =>
    simp only [forDevice, Option.ite_none_right_eq_some, Option.some.injEq] at h
    exact .inr (.inr ⟨congrArg Event.undimTick h.1, h.2.symm⟩)

def device (s : Scan τ) (d : Fin 2) : Device τ where
  brightness := (s.animationState d).brightness
  isUndimming := (s.animationState d).isUndimming
  actualColor := s.actualDeviceColor d
  animationColor := s.animationColors d
  ttl := s.deviceTtlTimers d
  undim := s.deviceUndimTimers d

theorem scan_ext {s t : Scan τ} (devices : ∀ d, device s d = device t d) (pwm : s.pwm = t.pwm) :
    s = t := by
  simp only [device, Device.mk.injEq] at devices
  refine Scan.ext ?_ ?_ ?_ ?_ ?_ pwm <;> funext d
  · exact (devices d).2.2.2.1
  · exact (devices d).2.2.1
  · exact (devices d).2.2.2.2.1
  · exact (devices d).2.2.2.2.2
  · obtain ⟨brightness, undimming, -⟩ := devices d
    have hs := s.deviceId_eq d
    have ht := t.deviceId_eq d
    cases hsd : s.animationState d
    cases htd : t.animationState d
    simp only [hsd, htd] at brightness undimming hs ht
    rw [brightness, undimming, hs, ht]

section Setters

variable (s : Scan τ) (d e : Fin 2)

@[simp] theorem device_setBrightness (b : ℤ) :
    device (s.setBrightness d b) e =
      if e = d then { device s d with brightness := b } else device s e := by
  by_cases h : e = d
  · subst h
    simp [device, Scan.setBrightness]
  · simp [device, Scan.setBrightness, h]

@[simp] theorem device_setIsUndimming (u : Bool) :
    device (s.setIsUndimming d u) e =
      if e = d then { device s d with isUndimming := u } else device s e := by
  by_cases h : e = d
  · subst h
    simp [device, Scan.setIsUndimming]
  · simp [device, Scan.setIsUndimming, h]

@[simp] theorem device_setAnimationColor (c : Color) :
    device (s.setAnimationColor d c) e =
      if e = d then { device s d with animationColor := c } else device s e := by
  by_cases h : e = d
  · subst h
    simp [device, Scan.setAnimationColor]
  · simp [device, Scan.setAnimationColor, h]

@[simp] theorem device_setActualDeviceColor (c : Color) :
    device (s.setActualDeviceColor d c) e =
      if e = d then { device s d with actualColor := c } else device s e := by
  by_cases h : e = d
  · subst h
    simp [device, Scan.setActualDeviceColor]
  · simp [device, Scan.setActualDeviceColor, h]

@[simp] theorem device_onTtlTimer (call : τ → τ) :
    device (s.onTtlTimer d call) e =
      if e = d then { device s d with ttl := call (device s d).ttl } else device s e := by
  by_cases h : e = d
  · subst h
    simp [device, Scan.onTtlTimer]
  · simp [device, Scan.onTtlTimer, h]

@[simp] theorem device_onUndimTimer (call : τ → τ) :
    device (s.onUndimTimer d call) e =
      if e = d then { device s d with undim := call (device s d).undim } else device s e := by
  by_cases h : e = d
  · subst h
    simp [device, Scan.onUndimTimer]
  · simp [device, Scan.onUndimTimer, h]

@[simp] theorem device_display (c : Color) : device (s.display c) e = device s e := by
  simp only [device, Scan.display]

end Setters

section Reads

variable (s : Scan τ) (d : Fin 2)

@[simp] theorem read_brightness : (s.animationState d).brightness = (device s d).brightness := rfl

@[simp] theorem read_isUndimming :
    (s.animationState d).isUndimming = (device s d).isUndimming := rfl

@[simp] theorem read_actualDeviceColor : s.actualDeviceColor d = (device s d).actualColor := rfl

@[simp] theorem read_deviceTtlTimers : s.deviceTtlTimers d = (device s d).ttl := rfl

@[simp] theorem read_deviceUndimTimers : s.deviceUndimTimers d = (device s d).undim := rfl

@[simp] theorem read_animationColors : s.animationColors d = (device s d).animationColor := rfl

end Reads

section Handlers

variable [Scaling] (api : TimerApi (Fin 2) τ) (s : Scan τ) (d e : Fin 2)

theorem device_dimDevice :
    device (dimDevice api s d) e = if e = d then (device s d).dim api else device s e := by
  by_cases h : e = d
  · subst h
    simp only [dimDevice, Device.dim, ANIMATION_STEP_SIZE, Scan.deviceId_eq]
    split <;> simp_all
  · simp only [dimDevice, Scan.deviceId_eq]
    split <;> simp [h]

theorem device_undimDevice :
    device (undimDevice api s d) e = if e = d then (device s d).brighten api else device s e := by
  by_cases h : e = d
  · subst h
    simp only [undimDevice, Device.brighten, ANIMATION_STEP_SIZE, Scan.deviceId_eq]
    split <;> simp_all
  · simp only [undimDevice, Scan.deviceId_eq]
    split <;> simp [h]

theorem device_storeColor (c : Color) :
    device (storeColor s d d c) e = if e = d then (device s d).store c else device s e := by
  by_cases h : e = d
  · subst h
    simp only [storeColor, Device.store]
    split <;> simp_all
  · simp only [storeColor]
    split <;> simp [h]

private theorem device_startUndimming :
    device (startUndimming api s d d) e = if e = d then (device s d).begin api d else device s e := by
  by_cases h : e = d
  · subst h
    simp only [startUndimming, Device.begin]
    split <;> simp_all [device_undimDevice]
  · simp only [startUndimming]
    split <;> simp [h, device_undimDevice]

def handleAdvert (s : Scan τ) (d : Fin 2) (c : Color) : Scan τ :=
  let s := startUndimming api (storeColor (s.onTtlTimer d api.stop) d d c) d d
  (s.display (calculateCombinedColor s.animationColors)).onTtlTimer d (api.start TTL_MS d)

/-- The handler ignores a report, or handles it for the one device it is accepted for. -/
theorem bleEvtAdvReport_eq (r : AdvReport) :
    bleEvtAdvReport api s r =
      match r.acceptedFor with
      | none => s
      | some d => handleAdvert api s d r.advColor := by
  have pointer (d : Fin 2) : (if d = 0 then device1 else device2) = d := by
    fin_cases d <;> rfl
  unfold bleEvtAdvReport AdvReport.acceptedFor
  dsimp only
  cases hid : hasKnownId r.advId
  · simp
  by_cases weak : r.rssi < -48
  · simp [weak]
  cases hd : getDeviceIndex r.advId
  · simp [weak]
  · simp [weak, pointer, handleAdvert]

private theorem device_handleAdvert (c : Color) :
    device (handleAdvert api s d c) e =
      if e = d then (device s d).advert api d c else device s e := by
  by_cases h : e = d
  · subst h
    simp [handleAdvert, Device.advert, device_startUndimming, device_storeColor]
  · simp [handleAdvert, device_startUndimming, device_storeColor, h]

theorem device_bleEvtAdvReport (r : AdvReport) :
    device (bleEvtAdvReport api s r) e =
      if r.acceptedFor = some e then (device s e).advert api e r.advColor else device s e := by
  rw [bleEvtAdvReport_eq]
  cases accepted : r.acceptedFor with
  | none => simp
  | some d =>
    simp only [device_handleAdvert, Option.some.injEq]
    by_cases h : e = d
    · subst h
      simp
    · simp [h, Ne.symm h]

end Handlers

section Strip

variable [Scaling] (api : TimerApi (Fin 2) τ) (s : Scan τ) (d : Fin 2)

private theorem pwm_undimDevice : (undimDevice api s d).pwm = s.pwm := by
  unfold undimDevice
  dsimp only
  split <;> rfl

private theorem pwm_dimDevice :
    (dimDevice api s d).pwm =
      displayColor (calculateCombinedColor (dimDevice api s d).animationColors) s.pwm := by
  unfold dimDevice
  dsimp only
  split <;> rfl

private theorem pwm_startUndimming (p : Fin 2) : (startUndimming api s d p).pwm = s.pwm := by
  unfold startUndimming
  split
  · exact pwm_undimDevice api _ p
  · rfl

private theorem pwm_storeColor (p : Fin 2) (c : Color) : (storeColor s d p c).pwm = s.pwm := by
  unfold storeColor
  split <;> rfl

private theorem pwm_handleAdvert (c : Color) :
    (handleAdvert api s d c).pwm =
      displayColor (calculateCombinedColor (handleAdvert api s d c).animationColors) s.pwm := by
  have pwm : (startUndimming api (storeColor (s.onTtlTimer d api.stop) d d c) d d).pwm =
      s.pwm := by
    rw [pwm_startUndimming, pwm_storeColor]
    rfl
  simp only [handleAdvert, Scan.display, Scan.onTtlTimer] at pwm ⊢
  rw [pwm]

end Strip

/-- The events that end with a call of `display_color`. -/
def refreshes : Event → Bool
  | .report r => r.acceptedFor.isSome
  | .ttlTick _ => true
  | .undimTick _ => false

def Wired (api : TimerApi (Fin 2) τ) (d : Fin 2) (x : Device τ) : Prop :=
  (∀ c, api.armed x.ttl = some c → c = d) ∧ ∀ c, api.armed x.undim = some c → c = d

section Step

variable [Scaling] {api : TimerApi (Fin 2) τ} {s t : Scan τ} {e : Event}

/-- One step of the scanner is, for each device, one step of its own or none. -/
theorem step_device (wired : ∀ d, Wired api d (device s d)) (h : step api s e = some t)
    (d : Fin 2) :
    run (deviceStep api d) (device s d) (forDevice d e).toList = some (device t d) := by
  cases e with
  | report r =>
    obtain rfl : bleEvtAdvReport api s r = t := by simpa [step] using h
    rw [device_bleEvtAdvReport]
    by_cases accepted : r.acceptedFor = some d <;>
      simp [forDevice, accepted, deviceStep]
  | ttlTick c =>
    obtain ⟨p, armed, rfl⟩ := Option.map_eq_some_iff.mp h
    obtain rfl : p = c := (wired c).1 p armed
    rw [device_dimDevice]
    by_cases hd : p = d
    · subst hd
      simp [forDevice, deviceStep, ← read_deviceTtlTimers, armed]
    · simp [forDevice, hd, Ne.symm hd]
  | undimTick c =>
    obtain ⟨p, armed, rfl⟩ := Option.map_eq_some_iff.mp h
    obtain rfl : p = c := (wired c).2 p armed
    rw [device_undimDevice]
    by_cases hd : p = d
    · subst hd
      simp [forDevice, deviceStep, ← read_deviceUndimTimers, armed]
    · simp [forDevice, hd, Ne.symm hd]

theorem step_device_cases (wired : ∀ d, Wired api d (device s d)) (h : step api s e = some t)
    (d : Fin 2) :
    (forDevice d e = none ∧ device t d = device s d) ∨
      ∃ ev, forDevice d e = some ev ∧ deviceStep api d (device s d) ev = some (device t d) := by
  have own := step_device wired h d
  cases label : forDevice d e with
  | none =>
    rw [label] at own
    exact .inl ⟨rfl, (Option.some_inj.mp own).symm⟩
  | some ev =>
    rw [label, Option.toList_some, run_singleton] at own
    exact .inr ⟨ev, rfl, own⟩

/-- One step of the scanner plays one frame, that of the colour it leaves behind, or none. -/
theorem step_pwm (h : step api s e = some t) :
    t.pwm = if refreshes e then displayColor (calculateCombinedColor t.animationColors) s.pwm
      else s.pwm := by
  cases e with
  | report r =>
    obtain rfl : bleEvtAdvReport api s r = t := by simpa [step] using h
    rw [bleEvtAdvReport_eq]
    cases accepted : r.acceptedFor with
    | none => simp [refreshes, accepted]
    | some d => simpa [refreshes, accepted] using pwm_handleAdvert api s d r.advColor
  | ttlTick c =>
    obtain ⟨p, _, rfl⟩ := Option.map_eq_some_iff.mp h
    exact pwm_dimDevice api s p
  | undimTick c =>
    obtain ⟨p, _, rfl⟩ := Option.map_eq_some_iff.mp h
    exact pwm_undimDevice api s p

end Step

end ProximityLed.ColorScan.DeviceView
