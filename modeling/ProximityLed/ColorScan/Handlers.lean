/- ProximityLed/ColorScan/Handlers
   digest: The state of the scanner and its three handlers, over any timer library. -/

import ProximityLed.ColorScan.Helpers
import ProximityLed.Library.Timer
import Mathlib.Logic.Function.Basic

set_option autoImplicit false
set_option relaxedAutoImplicit false

namespace ProximityLed.ColorScan.Handlers

open PwmDriver (Color DARKNESS Pwm displayLeds frame displayLeds_played)
open Library.Timer (TimerApi)
open Helpers
open Function (update)

def LED_DUTY_CYCLE_ARRAY_LENGTH : ℕ := 744
def TTL_MS : ℕ := 1500
def ANIMATION_STEP_SIZE : ℤ := 10
def ANIMATION_MS : ℕ := 100

/-- `display_color` of the scanner's driver: 30 LEDs and 24 zero words. -/
def displayColor (color : Color) (p : Pwm LED_DUTY_CYCLE_ARRAY_LENGTH) :
    Pwm LED_DUTY_CYCLE_ARRAY_LENGTH :=
  displayLeds 30 24 (fun _ => color) p

def colorFrame (color : Color) : Vector UInt16 LED_DUTY_CYCLE_ARRAY_LENGTH :=
  frame LED_DUTY_CYCLE_ARRAY_LENGTH 30 fun _ => color

structure AnimationState where
  deviceId : Fin 2
  brightness : ℤ
  isUndimming : Bool
  deriving DecidableEq

/-- The globals of `main.c`.  A pointer to an animation state is its index, and the id stored in
an animation state, which nothing overwrites, is that index. -/
@[ext] structure Scan (τ : Type) where
  animationColors : Fin 2 → Color
  actualDeviceColor : Fin 2 → Color
  deviceTtlTimers : Fin 2 → τ
  deviceUndimTimers : Fin 2 → τ
  animationState : Fin 2 → AnimationState
  pwm : Pwm LED_DUTY_CYCLE_ARRAY_LENGTH
  deviceId_eq : ∀ i, (animationState i).deviceId = i

attribute [simp] Scan.deviceId_eq

variable {τ : Type}

namespace Scan

def setBrightness (s : Scan τ) (p : Fin 2) (brightness : ℤ) : Scan τ :=
  { s with
    animationState := update s.animationState p { s.animationState p with brightness }
    deviceId_eq := by
      intro i
      by_cases hi : i = p
      · subst hi
        simp
      · simp [hi] }

def setIsUndimming (s : Scan τ) (p : Fin 2) (isUndimming : Bool) : Scan τ :=
  { s with
    animationState := update s.animationState p { s.animationState p with isUndimming }
    deviceId_eq := by
      intro i
      by_cases hi : i = p
      · subst hi
        simp
      · simp [hi] }

def setAnimationColor (s : Scan τ) (d : Fin 2) (c : Color) : Scan τ :=
  { s with animationColors := update s.animationColors d c }

def setActualDeviceColor (s : Scan τ) (d : Fin 2) (c : Color) : Scan τ :=
  { s with actualDeviceColor := update s.actualDeviceColor d c }

def onTtlTimer (s : Scan τ) (d : Fin 2) (call : τ → τ) : Scan τ :=
  { s with deviceTtlTimers := update s.deviceTtlTimers d (call (s.deviceTtlTimers d)) }

def onUndimTimer (s : Scan τ) (d : Fin 2) (call : τ → τ) : Scan τ :=
  { s with deviceUndimTimers := update s.deviceUndimTimers d (call (s.deviceUndimTimers d)) }

def display (s : Scan τ) (c : Color) : Scan τ := { s with pwm := displayColor c s.pwm }

end Scan

variable [Scaling] (api : TimerApi (Fin 2) τ)

def dimDevice (s : Scan τ) (animationStatePtr : Fin 2) : Scan τ :=
  let deviceId := (s.animationState animationStatePtr).deviceId
  let s := s.onUndimTimer deviceId api.stop
  let s := s.setIsUndimming animationStatePtr false
  let brightness := (s.animationState animationStatePtr).brightness
  let brightness := max 0 (brightness - (ANIMATION_STEP_SIZE + 5))
  let s := s.setBrightness animationStatePtr brightness
  let s := s.setAnimationColor deviceId
    (makeColorOfBrightness (s.actualDeviceColor deviceId) brightness)
  let s := s.display (calculateCombinedColor s.animationColors)
  if brightness = 0 then s.onTtlTimer deviceId api.stop else s

def undimDevice (s : Scan τ) (animationStatePtr : Fin 2) : Scan τ :=
  let deviceId := (s.animationState animationStatePtr).deviceId
  let brightness := (s.animationState animationStatePtr).brightness
  let brightness := min 100 (brightness + ANIMATION_STEP_SIZE)
  let s := s.setBrightness animationStatePtr brightness
  let s := s.setAnimationColor deviceId
    (makeColorOfBrightness (s.actualDeviceColor deviceId) brightness)
  if brightness = 100 then
    (s.onUndimTimer deviceId api.stop).setIsUndimming animationStatePtr false
  else s

/-- The first `if` of the advert handler: a new colour is stored and shown at the old brightness. -/
def storeColor (s : Scan τ) (deviceId : Fin 2) (animationState : Fin 2) (advColor : Color) :
    Scan τ :=
  if !isSameColor (s.actualDeviceColor deviceId) advColor then
    let s := s.setActualDeviceColor deviceId advColor
    s.setAnimationColor deviceId (makeColorOfBrightness (s.actualDeviceColor deviceId)
      (s.animationState animationState).brightness)
  else s

/-- The second `if` of the advert handler: a fade-in takes its first step at once. -/
def startUndimming (s : Scan τ) (deviceId : Fin 2) (animationState : Fin 2) : Scan τ :=
  if !(s.animationState animationState).isUndimming ∧
      (s.animationState animationState).brightness < 100 then
    let s := s.setIsUndimming animationState true
    let s := undimDevice api s animationState
    s.onUndimTimer deviceId (api.start ANIMATION_MS animationState)
  else s

def bleEvtAdvReport (s : Scan τ) (advReport : AdvReport) : Scan τ :=
  let advId := advReport.advId
  if !hasKnownId advId then s
  else if advReport.rssi < -48 then s
  else match getDeviceIndex advId with
    | none => s
    | some deviceId =>
      let s := s.onTtlTimer deviceId api.stop
      let animationState : Fin 2 := if deviceId.val = 0 then device1 else device2
      let s := storeColor s deviceId animationState advReport.advColor
      let s := startUndimming api s deviceId animationState
      let s := s.display (calculateCombinedColor s.animationColors)
      s.onTtlTimer deviceId (api.start TTL_MS animationState)

inductive Event
  | report (r : AdvReport)
  | ttlTick (d : Fin 2)
  | undimTick (d : Fin 2)
  deriving DecidableEq

/-- A timer only ticks while it runs, and calls its handler on the context it was started with. -/
def step (s : Scan τ) : Event → Option (Scan τ)
  | .report r => some (bleEvtAdvReport api s r)
  | .ttlTick d => (api.armed (s.deviceTtlTimers d)).map (dimDevice api s)
  | .undimTick d => (api.armed (s.deviceUndimTimers d)).map (undimDevice api s)

end ProximityLed.ColorScan.Handlers
