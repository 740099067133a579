/- ProximityLed/Encoding
   digest: Sequences of display calls, and what the last of them leaves in the buffer. -/

import ProximityLed.ColorScan.Handlers
import ProximityLed.ColorAdv.Program

set_option autoImplicit false
set_option relaxedAutoImplicit false

namespace ProximityLed.Encoding

open PwmDriver
open Library.Bits (readMsb)
open ColorAdv.Program (Palette)

variable {n : ℕ}

def holding (sequenceData : Vector UInt16 n) (colorArray : Vector UInt16 24) : Pwm n :=
  ⟨⟨sequenceData, true⟩, ⟨colorArray, true⟩, []⟩

structure InBounds (p : Pwm n) : Prop where
  sequenceData : p.sequenceData.inBounds = true
  colorArray : p.colorArray.inBounds = true

/-- The buffer read back: the 24 words of a driven LED, in order, are the bits of its green, red
and blue bytes, most significant first, and all words behind the driven LEDs are 0, at least the
last 24. -/
structure Decodes (f : Vector UInt16 n) (leds : ℕ) (colors : ℕ → Color) : Prop where
  bits : ∀ led < leds, readMsb HIGH LOW 0 (ledWords f led) =
    some ((colors led).green.toNat * 2 ^ 16 + (colors led).red.toNat * 2 ^ 8 +
      (colors led).blue.toNat)
  bytes : ∀ led < leds, ∀ ch, ledChannel f led ch = some ((colors led).channel ch).toNat
  zero : ∀ k, leds * 24 ≤ k → k < n → f[k]? = some 0
  tail : leds * 24 + 24 ≤ n

private theorem decodes_frame {leds : ℕ} (colors : ℕ → Color) (room : leds * 24 + 24 ≤ n) :
    Decodes (frame n leds colors) leds colors := by
  have fits : leds * 24 ≤ n := by omega
  refine ⟨?_, ?_, ?_, room⟩
  · intro led driven
    rw [ledWords_frame colors driven fits, readMsb_colorWords]
  · intro led driven ch
    exact ledChannel_frame colors ch driven fits
  · intro k behind inside
    exact frame_tail colors behind inside

section Calls

variable {α : Type} (display : α → Pwm n → Pwm n)

def displayAll (args : List α) (p : Pwm n) : Pwm n := args.foldl (fun p a => display a p) p

/-- What the calls leave behind, whatever the arrays held before: no store outside them, and a
buffer that decodes to the colours of the last call.  Two last calls that drive the same LEDs with
the same channels, whatever their padding, leave the same buffer behind. -/
structure EncodesLast (leds : α → ℕ) (colors : α → ℕ → Color) : Prop where
  inBounds : ∀ sequenceData colorArray earlier last,
    InBounds (displayAll display (earlier ++ [last]) (holding sequenceData colorArray))
  decodes : ∀ sequenceData colorArray earlier last,
    Decodes (displayAll display (earlier ++ [last])
      (holding sequenceData colorArray)).sequenceData.cells (leds last) (colors last)
  forgets : ∀ sequenceData colorArray earlier last sequenceData' colorArray' earlier' last',
    leds last = leds last' →
    (∀ led < leds last, ∀ ch, (colors last led).channel ch = (colors last' led).channel ch) →
    (displayAll display (earlier ++ [last])
      (holding sequenceData colorArray)).sequenceData.cells =
    (displayAll display (earlier' ++ [last'])
      (holding sequenceData' colorArray')).sequenceData.cells

variable {display} {leds tail : α → ℕ} {colors : α → ℕ → Color}
  (displays : ∀ a p, display a p = displayLeds (leds a) (tail a) (colors a) p)
  (fits : ∀ a, leds a * 24 + tail a = n)

include displays fits

theorem displayAll_inBounds (args : List α) {p : Pwm n} (h : InBounds p) :
    InBounds (displayAll display args p) := by
  induction args generalizing p with
  | nil => exact h
  | cons a args ih =>
    obtain ⟨sequenceData, colorArray⟩ := displayLeds_inBounds (colors a) p (fits a)
    apply ih
    show InBounds (display a p)
    rw [displays]
    exact ⟨sequenceData.trans h.sequenceData, colorArray.trans h.colorArray⟩

theorem displayAll_cells (earlier : List α) (last : α) (p : Pwm n) :
    (displayAll display (earlier ++ [last]) p).sequenceData.cells =
      frame n (leds last) (colors last) := by
  simp only [displayAll, List.foldl_append, List.foldl_cons, List.foldl_nil, displays]
  exact displayLeds_cells (colors last) _ (fits last)

private theorem encodesLast (room : ∀ a, 24 ≤ tail a) : EncodesLast display leds colors := by
  refine ⟨?_, ?_, ?_⟩
  · intro sequenceData colorArray earlier last
    exact displayAll_inBounds displays fits _ ⟨rfl, rfl⟩
  · intro sequenceData colorArray earlier last
    rw [displayAll_cells displays fits]
    apply decodes_frame
    have := fits last
    have := room last
    omega
  · intro sequenceData colorArray earlier last sequenceData' colorArray' earlier' last' driven same
    rw [displayAll_cells displays fits, displayAll_cells displays fits, ← driven]
    exact frame_congr _ same

end Calls

inductive DisplayCall
  | displayColor (color : Color)
  | displayColorOptions (colorOptions : Palette)

namespace DisplayCall

def perform : DisplayCall → Pwm ColorAdv.Program.LED_DUTY_CYCLE_ARRAY_LENGTH →
    Pwm ColorAdv.Program.LED_DUTY_CYCLE_ARRAY_LENGTH
  | .displayColor color => ColorAdv.Program.displayColor color
  | .displayColorOptions colorOptions => ColorAdv.Program.displayColorOptions colorOptions

def leds : DisplayCall → ℕ
  | .displayColor _ => 16
  | .displayColorOptions _ => 8

def tail : DisplayCall → ℕ
  | .displayColor _ => 24
  | .displayColorOptions _ => 216

def colors : DisplayCall → ℕ → Color
  | .displayColor color => fun _ => color
  | .displayColorOptions colorOptions => colorOptions.led

end DisplayCall

/-- In both programs a sequence of display calls, with colours as they come and, in the advertiser,
in any mix of its two functions, stays inside the arrays and leaves a buffer behind that is the
encoding of the last call's colours and of nothing else. -/
theorem display_encodes_last :
    EncodesLast ColorScan.Handlers.displayColor (fun _ => 30) (fun color _ => color) ∧
      EncodesLast DisplayCall.perform DisplayCall.leds DisplayCall.colors := by
  constructor
  · exact encodesLast (fun _ _ => rfl) (fun _ => rfl) (fun _ => le_rfl)
  · have displays (c : DisplayCall) (p) : c.perform p = displayLeds c.leds c.tail c.colors p := by
      cases c <;> rfl
    apply encodesLast displays
    · intro c
      cases c <;> rfl
    · intro c
      cases c with
      | displayColor _ => exact le_rfl
      | displayColorOptions _ => exact (by decide : 24 ≤ 216)

end ProximityLed.Encoding
