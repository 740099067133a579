/- ProximityLed/ColorAdv/Program
   digest: The advertiser: its globals, the statements of its main loop, and its blink handler. -/

import ProximityLed.PwmDriver
import ProximityLed.Library.Interrupt
import ProximityLed.Library.Timer
import Mathlib.Data.Fin.VecNotation
import Mathlib.Logic.Function.Basic

set_option autoImplicit false
set_option relaxedAutoImplicit false

namespace ProximityLed.ColorAdv.Program

open PwmDriver (Color DARKNESS Pwm displayLeds frame displayLeds_played)
open Library.Interrupt (MainLoop)
open Library.Timer (FlagTimer flagApi)
open Function (update)

def LED_DUTY_CYCLE_ARRAY_LENGTH : ℕ := 408

def RED : Color := ⟨0, 0x8F, 0, 0⟩
def ORANGE : Color := ⟨0x40, 0x8F, 0, 0⟩
def YELLOW : Color := ⟨0x8F, 0x8F, 0, 0⟩
def GREEN : Color := ⟨0x8F, 0, 0, 0⟩
def CYAN : Color := ⟨0x8F, 0, 0x8F, 0⟩
def BLUE : Color := ⟨0, 0, 0x8F, 0⟩
def PURPLE : Color := ⟨0, 0x60, 0x8F, 0⟩
def PINK : Color := ⟨0, 0x8F, 0x8F, 0⟩

/-- The eight entries of `color_options` and of `displayed_colors`. -/
abbrev Palette := Fin 8 → Color

def palette : Palette := ![RED, ORANGE, YELLOW, GREEN, CYAN, BLUE, PURPLE, PINK]

/-- An LED behind the eight entries is never asked for. -/
def Palette.led (colors : Palette) (i : ℕ) : Color := if h : i < 8 then colors ⟨i, h⟩ else DARKNESS

/-- `display_color` of the advertiser's driver: 16 LEDs and 24 zero words. -/
def displayColor (color : Color) (p : Pwm LED_DUTY_CYCLE_ARRAY_LENGTH) :
    Pwm LED_DUTY_CYCLE_ARRAY_LENGTH :=
  displayLeds 16 24 (fun _ => color) p

/-- One LED for each of the eight entries, and 216 zero words. -/
def displayColorOptions (colorOptions : Palette) (p : Pwm LED_DUTY_CYCLE_ARRAY_LENGTH) :
    Pwm LED_DUTY_CYCLE_ARRAY_LENGTH :=
  displayLeds 8 216 colorOptions.led p

def colorFrame (color : Color) : Vector UInt16 LED_DUTY_CYCLE_ARRAY_LENGTH :=
  frame LED_DUTY_CYCLE_ARRAY_LENGTH 16 fun _ => color

def incrementColorIndex (index : ℤ) : ℤ := if index + 1 > 7 then 0 else index + 1

def decrementColorIndex (index : ℤ) : ℤ := if index - 1 < 0 then 7 else index - 1

/-- The globals of `main.c`, with the array `new_color` that `update_color` fills.  The broadcast
is the data last handed to `simple_ble_adv_manuf_data`, none while advertising is stopped.  The
index stays inside the two arrays. -/
@[ext] structure Adv where
  colorOptions : Palette
  displayedColors : Palette
  colorIndex : ℤ
  isInSelectMode : Bool
  blinkingTimer : FlagTimer Unit
  newColor : Vector UInt8 3
  broadcast : Option (Vector UInt8 3)
  pwm : Pwm LED_DUTY_CYCLE_ARRAY_LENGTH
  index_mem : 0 ≤ colorIndex ∧ colorIndex ≤ 7

namespace Adv

def selected (s : Adv) : Fin 8 := ⟨s.colorIndex.toNat, by have := s.index_mem; omega⟩

def color (s : Adv) : Color := s.colorOptions s.selected

end Adv

/-- The bytes of a colour as both advertising calls send them. -/
def colorBytes (c : Color) : Vector UInt8 3 := #v[c.green, c.red, c.blue]

private theorem incrementColorIndex_mem {index : ℤ} (h : 0 ≤ index ∧ index ≤ 7) :
    0 ≤ incrementColorIndex index ∧ incrementColorIndex index ≤ 7 := by
  unfold incrementColorIndex
  split <;> omega

private theorem decrementColorIndex_mem {index : ℤ} (h : 0 ≤ index ∧ index ≤ 7) :
    0 ≤ decrementColorIndex index ∧ decrementColorIndex index ≤ 7 := by
  unfold decrementColorIndex
  split <;> omega

theorem incrementColorIndex_eq {index : ℤ} (h : 0 ≤ index ∧ index ≤ 7) :
    incrementColorIndex index = (index + 1) % 8 := by
  unfold incrementColorIndex
  split <;> omega

theorem decrementColorIndex_eq {index : ℤ} (h : 0 ≤ index ∧ index ≤ 7) :
    decrementColorIndex index = (index - 1) % 8 := by
  unfold decrementColorIndex
  split <;> omega

/-- The statements of `main`, `update_color` and `reset_displayed_colors` that touch a global. -/
inductive Statement
  | setColorOptions
  | createBlinkingTimer
  | decrementIndex
  | incrementIndex
  | advertisingStop
  | readNewColor
  | advManufData
  | resetDisplayed (i : Fin 8)
  | delayMs (ms : ℕ)
  | stopBlinking
  | leaveSelectMode
  | enterSelectMode
  | displayDarkness
  | displaySelected
  | displayOptions
  | startBlinking
  deriving DecidableEq

def execute : Statement → Adv → Adv
  | .setColorOptions, s => { s with colorOptions := palette }
  | .createBlinkingTimer, s => { s with blinkingTimer := flagApi.create s.blinkingTimer }
  | .decrementIndex, s =>
    { s with
      colorIndex := decrementColorIndex s.colorIndex
      index_mem := decrementColorIndex_mem s.index_mem }
  | .incrementIndex, s =>
    { s with
      colorIndex := incrementColorIndex s.colorIndex
      index_mem := incrementColorIndex_mem s.index_mem }
  | .advertisingStop, s => { s with broadcast := none }
  | .readNewColor, s => { s with newColor := colorBytes s.color }
  | .advManufData, s => { s with broadcast := some s.newColor }
  | .resetDisplayed i, s =>
    { s with displayedColors := update s.displayedColors i (s.colorOptions i) }
  | .delayMs _, s => s
  | .stopBlinking, s => { s with blinkingTimer := flagApi.stop s.blinkingTimer }
  | .leaveSelectMode, s => { s with isInSelectMode := false }
  | .enterSelectMode, s => { s with isInSelectMode := true }
  | .displayDarkness, s => { s with pwm := displayColor DARKNESS s.pwm }
  | .displaySelected, s => { s with pwm := displayColor s.color s.pwm }
  | .displayOptions, s => { s with pwm := displayColorOptions s.displayedColors s.pwm }
  | .startBlinking, s => { s with blinkingTimer := flagApi.start 750 () s.blinkingTimer }

def updateColor : List Statement := [.advertisingStop, .readNewColor, .advManufData]

def resetDisplayedColors : List Statement := List.ofFn Statement.resetDisplayed

/-- The statements of `main` before its loop; no interrupt of the blink timer falls among them. -/
def startup : List Statement :=
  .setColorOptions :: resetDisplayedColors ++
    [.displaySelected, .createBlinkingTimer, .readNewColor, .advManufData]

/-- The body of the first two buttons, which differ in the change of the index. -/
def changeColor (change : Statement) : List Statement :=
  change :: (updateColor ++ (resetDisplayedColors ++ [.delayMs 500]))

def leaveSelection : List Statement :=
  [.stopBlinking, .leaveSelectMode, .displayDarkness, .delayMs 750, .displaySelected, .delayMs 500]

def enterSelection : List Statement :=
  [.enterSelectMode, .displayDarkness, .delayMs 750, .displayOptions, .startBlinking, .delayMs 500]

def blinkAnimation (s : Adv) : Adv :=
  let s :=
    if (s.displayedColors s.selected).val = DARKNESS.val then
      { s with displayedColors := update s.displayedColors s.selected s.color }
    else { s with displayedColors := update s.displayedColors s.selected DARKNESS }
  { s with pwm := displayColorOptions s.displayedColors s.pwm }

/-- The globals at power-on. -/
def globals : Adv where
  colorOptions _ := ⟨0, 0, 0, 0⟩
  displayedColors _ := ⟨0, 0, 0, 0⟩
  colorIndex := 0
  isInSelectMode := false
  blinkingTimer := .blank
  newColor := #v[0, 0, 0]
  broadcast := none
  pwm := Pwm.blank LED_DUTY_CYCLE_ARRAY_LENGTH
  index_mem := by decide

/-- The program with a count of the presses of the first two buttons it has acted on. -/
@[ext] structure Session where
  adv : Adv
  pressed1 : ℕ
  pressed2 : ℕ

inductive Button
  | button1 | button2 | button3
  deriving DecidableEq

def poll (button : Button) (held : Bool) (s : Session) : List Statement × Session :=
  match button with
  | .button1 =>
    if held && s.adv.isInSelectMode then
      (changeColor .decrementIndex, { s with pressed1 := s.pressed1 + 1 })
    else ([], s)
  | .button2 =>
    if held && s.adv.isInSelectMode then
      (changeColor .incrementIndex, { s with pressed2 := s.pressed2 + 1 })
    else ([], s)
  | .button3 =>
    if held then (if s.adv.isInSelectMode then leaveSelection else enterSelection, s) else ([], s)

theorem poll_adv (button : Button) (held : Bool) (s : Session) :
    (poll button held s).2.adv = s.adv := by
  cases button <;> simp only [poll] <;> split <;> rfl

/-- The loop of `main`, with `blink_animation` as the handler of the blink timer. -/
def mainLoop : MainLoop Session Bool Button Statement where
  polls := [.button1, .button2, .button3]
  poll := poll
  exec statement s := { s with adv := execute statement s.adv }
  handler s :=
    if s.adv.blinkingTimer.running then some { s with adv := blinkAnimation s.adv } else none

def started : Session := ⟨startup.foldl (fun s statement => execute statement s) globals, 0, 0⟩

end ProximityLed.ColorAdv.Program
