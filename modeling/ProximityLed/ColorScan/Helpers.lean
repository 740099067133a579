/- ProximityLed/ColorScan/Helpers
   digest: The colour and id helpers of the scanner, and the reports it reads. -/

import ProximityLed.ColorScan.Scaling
import ProximityLed.PwmDriver
import Mathlib.Tactic.Linarith

set_option autoImplicit false
set_option relaxedAutoImplicit false

namespace ProximityLed.ColorScan.Helpers

open PwmDriver (Color Channel DARKNESS)
open Library.Bits (toNat_clampWrapped)
open Scaling

def makeColorOfBrightness [Scaling] (inputColor : Color) (brightness : ℤ) : Color where
  green := scaleChannel inputColor.green brightness
  red := scaleChannel inputColor.red brightness
  blue := scaleChannel inputColor.blue brightness
  padding := 0

def hasKnownId (id : UInt16) : Bool := id == 0xAABB || id == 0xCCDD

/-- The index of a device in the tables; `none` stands for the -1 of an unknown id. -/
def getDeviceIndex (id : UInt16) : Option (Fin 2) :=
  if id = 0xAABB then some 0
  else if id = 0xCCDD then some 1
  else none

/-- The rows of the tables for the devices the source calls 1 and 2. -/
abbrev device1 : Fin 2 := 0
abbrev device2 : Fin 2 := 1

def isSameColor (color1 color2 : Color) : Bool :=
  color1.green == color2.green && color1.red == color2.red && color1.blue == color2.blue

def calculateCombinedColor (animationColors : Fin 2 → Color) : Color :=
  let green := (animationColors 0).green + (animationColors 1).green
  let green := if green ≥ (animationColors 0).green then green else 255
  let red := (animationColors 0).red + (animationColors 1).red
  let red := if red ≥ (animationColors 0).red then red else 255
  let blue := (animationColors 0).blue + (animationColors 1).blue
  let blue := if blue ≥ (animationColors 0).blue then blue else 255
  ⟨green, red, blue, 0⟩

/-- The part of `ble_gap_evt_adv_report_t` the handler reads.  Only the first `len` bytes of the
buffer belong to the payload. -/
structure AdvReport where
  peerAddr : Vector UInt8 6
  rssi : Int8
  len : Fin 32
  buffer : Vector UInt8 31
  deriving DecidableEq

def AdvReport.advId (r : AdvReport) : UInt16 :=
  (r.peerAddr[1].toUInt16 <<< 8) + r.peerAddr[0].toUInt16

def AdvReport.advColor (r : AdvReport) : Color where
  green := r.buffer[7]
  red := r.buffer[8]
  blue := r.buffer[9]
  padding := 0

/-- The device whose report the handler acts on, none for an unknown id or a weak signal. -/
def AdvReport.acceptedFor (r : AdvReport) : Option (Fin 2) :=
  if hasKnownId r.advId ∧ ¬ r.rssi < -48 then getDeviceIndex r.advId else none

/-- A strong report of `c0:98:e5:4e:aa:bb` or `c0:98:e5:4e:cc:dd`, with the payload of a
`color_adv` beacon. -/
def beacon (d : Fin 2) (c : Color) : AdvReport where
  peerAddr := if d = 0 then #v[0xBB, 0xAA, 0x4E, 0xE5, 0x98, 0xC0]
    else #v[0xDD, 0xCC, 0x4E, 0xE5, 0x98, 0xC0]
  rssi := -40
  len := 10
  buffer := #v[2, 1, 6, 6, 0xFF, 0xE0, 2, c.green, c.red, c.blue] ++ Vector.replicate 21 (0 : UInt8)

/-- Only a known id has an index, so the handler never meets the -1. -/
theorem getDeviceIndex_isSome (id : UInt16) : (getDeviceIndex id).isSome = hasKnownId id := by
  unfold hasKnownId getDeviceIndex
  split
  · simp [*]
  · split <;> simp [*]

theorem acceptedFor_eq (r : AdvReport) :
    r.acceptedFor = if r.rssi < -48 then none else getDeviceIndex r.advId := by
  have known := getDeviceIndex_isSome r.advId
  unfold AdvReport.acceptedFor
  cases hid : hasKnownId r.advId
  · have unknown : getDeviceIndex r.advId = none := by simpa [hid] using known
    simp [unknown]
  · by_cases weak : r.rssi < -48 <;> simp [weak]

theorem isSameColor_iff {c d : Color} (hc : c.padding = 0) (hd : d.padding = 0) :
    isSameColor c d = true ↔ c = d := by
  simp only [isSameColor, Bool.and_eq_true, beq_iff_eq]
  constructor
  · rintro ⟨⟨green, red⟩, blue⟩
    exact Color.ext green red blue (hc.trans hd.symm)
  · rintro rfl
    exact ⟨⟨rfl, rfl⟩, rfl⟩

@[simp] theorem makeColorOfBrightness_padding [Scaling] (c : Color) (b : ℤ) :
    (makeColorOfBrightness c b).padding = 0 := rfl

theorem makeColorOfBrightness_channel [Scaling] (c : Color) (b : ℤ) (ch : Channel) :
    (makeColorOfBrightness c b).channel ch = scaleChannel (c.channel ch) b := by
  cases ch <;> rfl

theorem makeColorOfBrightness_zero [Scaling] (c : Color) :
    makeColorOfBrightness c 0 = DARKNESS := by
  simp [makeColorOfBrightness, DARKNESS]

theorem toNat_combined_channel (colors : Fin 2 → Color) (ch : Channel) :
    ((calculateCombinedColor colors).channel ch).toNat =
      min 255 (((colors 0).channel ch).toNat + ((colors 1).channel ch).toNat) := by
  cases ch
  · exact toNat_clampWrapped (colors 0).green (colors 1).green
  · exact toNat_clampWrapped (colors 0).red (colors 1).red
  · exact toNat_clampWrapped (colors 0).blue (colors 1).blue

private theorem combined_ext {colors colors' : Fin 2 → Color}
    (h : ∀ ch, ((calculateCombinedColor colors).channel ch).toNat =
      ((calculateCombinedColor colors').channel ch).toNat) :
    calculateCombinedColor colors = calculateCombinedColor colors' :=
  Color.ext_channel (fun ch => UInt8.toNat_inj.mp (h ch)) rfl

/-- The sum is written from the first device's side, yet does not tell the devices apart. -/
theorem combined_renamed {g : Fin 2 → Fin 2} (inj : Function.Injective g)
    {colors colors' : Fin 2 → Color} (h : ∀ d, colors' (g d) = colors d) :
    calculateCombinedColor colors' = calculateCombinedColor colors := by
  apply combined_ext
  intro ch
  rw [toNat_combined_channel, toNat_combined_channel, ← h 0, ← h 1]
  have apart : g 0 ≠ g 1 := inj.ne (by decide)
  rcases (by omega : g 0 = 0 ∧ g 1 = 1 ∨ g 0 = 1 ∧ g 1 = 0) with ⟨first, second⟩ | ⟨first, second⟩
  · rw [first, second]
  · rw [first, second, Nat.add_comm]

theorem combined_of_black {colors : Fin 2 → Color} {d : Fin 2} (black : colors d = DARKNESS)
    (padding : (colors d.rev).padding = 0) : calculateCombinedColor colors = colors d.rev := by
  refine Color.ext_channel (fun ch => UInt8.toNat_inj.mp ?_) padding.symm
  have zero : (DARKNESS.channel ch).toNat = 0 := by cases ch <;> rfl
  have bound (i : Fin 2) := ((colors i).channel ch).toNat_lt
  rw [toNat_combined_channel]
  rcases (by omega : d = 0 ∨ d = 1) with rfl | rfl
  · have other := bound 1
    rw [black, zero]
    show min 255 (0 + ((colors 1).channel ch).toNat) = ((colors 1).channel ch).toNat
    omega
  · have other := bound 0
    rw [black, zero]
    show min 255 (((colors 0).channel ch).toNat + 0) = ((colors 0).channel ch).toNat
    omega

end ProximityLed.ColorScan.Helpers
