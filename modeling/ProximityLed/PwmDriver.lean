/- ProximityLed/PwmDriver
   digest: The LED driver both programs carry a copy of, and the frames it plays. -/

import ProximityLed.Library.BoundedArray
import ProximityLed.Library.Bits
import Mathlib.Data.Vector.Basic

set_option autoImplicit false
set_option relaxedAutoImplicit false

namespace ProximityLed.PwmDriver

open Library.BoundedArray
open Library.Bits (msbWords readMsb readMsb_append readMsb_msbWords getElem?_msbWords
  length_msbWords)

/-- `color_t`: the bytes in the order of the struct. -/
@[ext] structure Color where
  green : UInt8
  red : UInt8
  blue : UInt8
  padding : UInt8
  deriving DecidableEq

/-- The `val` member of the union, the same four bytes read as a little-endian word. -/
def Color.val (c : Color) : ℕ :=
  c.green.toNat + 2 ^ 8 * c.red.toNat + 2 ^ 16 * c.blue.toNat + 2 ^ 24 * c.padding.toNat

/-- Every use sets `DARKNESS.val = 0`, which clears all four bytes. -/
def DARKNESS : Color := ⟨0, 0, 0, 0⟩

inductive Channel
  | green | red | blue
  deriving DecidableEq

def Color.channel (c : Color) : Channel → UInt8
  | .green => c.green
  | .red => c.red
  | .blue => c.blue

theorem Color.ext_channel {c d : Color} (h : ∀ ch, c.channel ch = d.channel ch)
    (padding : c.padding = d.padding) : c = d :=
  Color.ext (h .green) (h .red) (h .blue) padding

/-- Where a channel starts among the 24 words of an LED. -/
def Channel.offset : Channel → ℕ
  | .green => 0
  | .red => 8
  | .blue => 16

def HIGH : UInt16 := (1 : UInt16) <<< 15 ||| 7
def LOW : UInt16 := (1 : UInt16) <<< 15 ||| 3

private theorem high_ne_low : HIGH ≠ LOW := by decide

/-- The globals of `pwm_driver.c`, with every sequence handed to the PWM so far, latest first. -/
@[ext] structure Pwm (n : ℕ) where
  sequenceData : CArray UInt16 n
  colorArray : CArray UInt16 24
  played : List (Vector UInt16 n)

variable {n : ℕ}

def Pwm.blank (n : ℕ) : Pwm n := ⟨.fill n 0, .fill 24 0, []⟩

def calculateColorArray (color : Color) (a : CArray UInt16 24) : CArray UInt16 24 :=
  let a := a.writeLoop 8 (fun i => 7 - i) fun i =>
    if 1 <<< i &&& color.green.toNat ≠ 0 then HIGH else LOW
  let a := a.writeLoop 8 (fun i => 15 - i) fun i =>
    if 1 <<< i &&& color.red.toNat ≠ 0 then HIGH else LOW
  a.writeLoop 8 (fun i => 23 - i) fun i =>
    if 1 <<< i &&& color.blue.toNat ≠ 0 then HIGH else LOW

def setLedToColor (ledNum : ℕ) (color : Color) (p : Pwm n) : Pwm n :=
  let colorArray := calculateColorArray color p.colorArray
  { p with
    colorArray := colorArray
    sequenceData := p.sequenceData.writeLoop 24 (fun i => ledNum * 24 + i) colorArray.read }

def setLeds (leds : ℕ) (colors : ℕ → Color) (p : Pwm n) : Pwm n :=
  (List.range leds).foldl (fun p i => setLedToColor i (colors i) p) p

def clearTail (tail : ℕ) (p : Pwm n) : Pwm n :=
  { p with sequenceData := p.sequenceData.writeLoop tail (fun i => n - tail + i) fun _ => 0 }

/-- The common body of the display functions: stop the PWM, which needs no state here, fill the
sequence, and play it once. -/
def displayLeds (leds tail : ℕ) (colors : ℕ → Color) (p : Pwm n) : Pwm n :=
  let p := clearTail tail (setLeds leds colors p)
  { p with played := p.sequenceData.cells :: p.played }

def colorWords (c : Color) : List UInt16 :=
  msbWords HIGH LOW 8 c.green.toNat ++ msbWords HIGH LOW 8 c.red.toNat ++
    msbWords HIGH LOW 8 c.blue.toNat

def frame (n leds : ℕ) (colors : ℕ → Color) : Vector UInt16 n :=
  Vector.ofFn fun k =>
    if k.val < leds * 24 then ((colorWords (colors (k.val / 24)))[k.val % 24]?).getD 0 else 0

def ledWords (f : Vector UInt16 n) (led : ℕ) : List UInt16 := (f.toList.drop (led * 24)).take 24

/-- What an LED shows on a channel: its eight words read as bits. -/
def ledChannel (f : Vector UInt16 n) (led : ℕ) (ch : Channel) : Option ℕ :=
  readMsb HIGH LOW 0 (((ledWords f led).drop ch.offset).take 8)

@[simp] theorem length_colorWords (c : Color) : (colorWords c).length = 24 := by
  simp [colorWords]

theorem colorWords_congr {c d : Color} (h : ∀ ch, c.channel ch = d.channel ch) :
    colorWords c = colorWords d := by
  have green : c.green = d.green := h .green
  have red : c.red = d.red := h .red
  have blue : c.blue = d.blue := h .blue
  rw [colorWords, colorWords, green, red, blue]

theorem readMsb_colorWords (c : Color) :
    readMsb HIGH LOW 0 (colorWords c) =
      some (c.green.toNat * 2 ^ 16 + c.red.toNat * 2 ^ 8 + c.blue.toNat) := by
  have read (acc : ℕ) (v : UInt8) :
      readMsb HIGH LOW acc (msbWords HIGH LOW 8 v.toNat) = some (acc * 2 ^ 8 + v.toNat) := by
    rw [readMsb_msbWords high_ne_low, Nat.mod_eq_of_lt v.toNat_lt]
  rw [colorWords, List.append_assoc, readMsb_append 0 _ (read 0 c.green),
    readMsb_append _ _ (read _ c.red), read]
  apply congrArg some
  ring

private theorem bit_test (i v : ℕ) : (1 <<< i &&& v ≠ 0) ↔ v.testBit i = true := by
  rw [Nat.one_shiftLeft, Nat.two_pow_and]
  cases v.testBit i <;> simp

private theorem channel_loop (a : CArray UInt16 24) {top : ℕ} (v : UInt8)
    (htop : top < 24) (h7 : 7 ≤ top) {k : ℕ} (hk : k < 8) :
    (a.writeLoop 8 (fun i => top - i) fun i =>
      if 1 <<< i &&& v.toNat ≠ 0 then HIGH else LOW).cells[top - 7 + k]? =
      (msbWords HIGH LOW 8 v.toNat)[k]? := by
  have place : top - 7 + k = (fun i => top - i) (7 - k) := by
    change top - 7 + k = top - (7 - k)
    omega
  rw [getElem?_msbWords _ _ _ hk, place,
    writeLoop_hit (fun i => top - i) _ a (by omega : 7 - k < 8) (by omega)
      (by intro j hj h; change top - j = top - (7 - k) at h; omega)]
  simp only [bit_test, Nat.add_one_sub_one]

private theorem channel_loop_other (a : CArray UInt16 24) {top : ℕ} (value : ℕ → UInt16)
    (h7 : 7 ≤ top) {k : ℕ} (hk : k < top - 7 ∨ top < k) :
    (a.writeLoop 8 (fun i => top - i) value).cells[k]? = a.cells[k]? :=
  writeLoop_miss _ _ _ (by intro i hi h; change top - i = k at h; omega)

private theorem calculateColorArray_cells (c : Color) (a : CArray UInt16 24) {k : ℕ} (hk : k < 24) :
    (calculateColorArray c a).cells[k]? = (colorWords c)[k]? := by
  unfold calculateColorArray colorWords
  dsimp only
  by_cases green : k < 8
  · rw [channel_loop_other _ _ (by omega) (by omega), channel_loop_other _ _ (by omega) (by omega),
      List.getElem?_append_left (by simp; omega), List.getElem?_append_left (by simpa)]
    simpa using channel_loop a c.green (by omega : 7 < 24) (by omega) green
  by_cases red : k < 16
  · rw [channel_loop_other _ _ (by omega) (by omega), List.getElem?_append_left (by simpa),
      List.getElem?_append_right (by simpa using green)]
    have h := channel_loop (a.writeLoop 8 (fun i => 7 - i) fun i =>
      if 1 <<< i &&& c.green.toNat ≠ 0 then HIGH else LOW) c.red (by omega : 15 < 24) (by omega)
      (by omega : k - 8 < 8)
    rwa [show 15 - 7 + (k - 8) = k by omega, ← length_msbWords HIGH LOW 8 c.green.toNat] at h
  · rw [List.getElem?_append_right (by simpa using red)]
    have h := channel_loop ((a.writeLoop 8 (fun i => 7 - i) fun i =>
      if 1 <<< i &&& c.green.toNat ≠ 0 then HIGH else LOW).writeLoop 8 (fun i => 15 - i) fun i =>
      if 1 <<< i &&& c.red.toNat ≠ 0 then HIGH else LOW) c.blue (by omega : 23 < 24) (by omega)
      (by omega : k - 16 < 8)
    rw [show 23 - 7 + (k - 16) = k by omega] at h
    simpa using h

private theorem calculateColorArray_inBounds (c : Color) (a : CArray UInt16 24) :
    (calculateColorArray c a).inBounds = a.inBounds := by
  unfold calculateColorArray
  dsimp only
  rw [writeLoop_inBounds _ _ _ (by intros; omega), writeLoop_inBounds _ _ _ (by intros; omega),
    writeLoop_inBounds _ _ _ (by intros; omega)]

private theorem setLedToColor_cells (p : Pwm n) {led : ℕ} (c : Color) (fits : led * 24 + 24 ≤ n)
    (k : ℕ) :
    (setLedToColor led c p).sequenceData.cells[k]? =
      if led * 24 ≤ k ∧ k < led * 24 + 24 then (colorWords c)[k - led * 24]?
      else p.sequenceData.cells[k]? := by
  simp only [setLedToColor]
  split
  · rename_i inside
    have place : k = (fun i => led * 24 + i) (k - led * 24) := by
      change k = led * 24 + (k - led * 24)
      omega
    rw [place, writeLoop_hit (fun i => led * 24 + i) _ _ (by omega : k - led * 24 < 24) (by omega)
        (by intro j _ h; change led * 24 + j = led * 24 + (k - led * 24) at h; omega),
      ← cells_eq_some_read _ (by omega), calculateColorArray_cells c _ (by omega)]
    congr 1
    omega
  · exact writeLoop_miss _ _ _ (by intro i hi h; change led * 24 + i = k at h; omega)

private theorem setLeds_succ (leds : ℕ) (colors : ℕ → Color) (p : Pwm n) :
    setLeds (leds + 1) colors p = setLedToColor leds (colors leds) (setLeds leds colors p) := by
  simp [setLeds, List.range_succ]

private theorem setLeds_cells (p : Pwm n) {leds : ℕ} (colors : ℕ → Color) (fits : leds * 24 ≤ n)
    (k : ℕ) :
    (setLeds leds colors p).sequenceData.cells[k]? =
      if k < leds * 24 then (colorWords (colors (k / 24)))[k % 24]?
      else p.sequenceData.cells[k]? := by
  induction leds with
  | zero => simp [setLeds]
  | succ leds ih =>
    rw [setLeds_succ, setLedToColor_cells _ _ (by omega), ih (by omega)]
    by_cases before : k < leds * 24
    · rw [if_neg (by omega), if_pos before, if_pos (by omega)]
    by_cases here : k < leds * 24 + 24
    · have led : k / 24 = leds := by omega
      rw [if_pos (by omega), if_pos (by omega), led]
      congr 1
      omega
    · rw [if_neg (by omega), if_neg before, if_neg (by omega)]

private theorem setLeds_bounds (p : Pwm n) {leds : ℕ} (colors : ℕ → Color)
    (fits : leds * 24 ≤ n) :
    (setLeds leds colors p).sequenceData.inBounds = p.sequenceData.inBounds ∧
      (setLeds leds colors p).colorArray.inBounds = p.colorArray.inBounds ∧
      (setLeds leds colors p).played = p.played := by
  induction leds with
  | zero => exact ⟨rfl, rfl, rfl⟩
  | succ leds ih =>
    obtain ⟨sequence, array, played⟩ := ih (by omega)
    rw [setLeds_succ]
    refine ⟨?_, ?_, ?_⟩
    · simp only [setLedToColor]
      rw [writeLoop_inBounds _ _ _ (by intros; omega), sequence]
    · simp only [setLedToColor]
      rw [calculateColorArray_inBounds, array]
    · exact played

section Display

variable {leds tail : ℕ} (colors : ℕ → Color) (p : Pwm n) (fits : leds * 24 + tail = n)

include fits

/-- A display call leaves the frame of its arguments in the sequence, whatever was there. -/
theorem displayLeds_cells :
    (displayLeds leds tail colors p).sequenceData.cells = frame n leds colors := by
  apply Vector.ext
  intro k hk
  apply Option.some_inj.mp
  rw [← Vector.getElem?_eq_getElem hk, ← Vector.getElem?_eq_getElem hk]
  simp only [displayLeds, clearTail, frame, Vector.getElem?_ofFn, dif_pos hk]
  by_cases lit : k < leds * 24
  · have word : k % 24 < (colorWords (colors (k / 24))).length := by
      rw [length_colorWords]
      exact Nat.mod_lt _ (by decide)
    rw [writeLoop_miss _ _ _ (by intro i hi h; change n - tail + i = k at h; omega),
      setLeds_cells _ _ (by omega), if_pos lit, if_pos lit, List.getElem?_eq_getElem word]
    rfl
  · have place : k = (fun i => n - tail + i) (k - leds * 24) := by
      change k = n - tail + (k - leds * 24)
      omega
    rw [if_neg lit]
    nth_rewrite 1 [place]
    exact writeLoop_hit _ _ _ (by omega) (by omega)
      (by intro j _ h; change n - tail + j = n - tail + (k - leds * 24) at h; omega)

theorem displayLeds_played :
    (displayLeds leds tail colors p).played = frame n leds colors :: p.played := by
  have cells := displayLeds_cells colors p fits
  simp only [displayLeds] at cells ⊢
  rw [cells]
  congr 1
  exact (setLeds_bounds p colors (by omega)).2.2

/-- No store of a display call misses its array. -/
theorem displayLeds_inBounds :
    (displayLeds leds tail colors p).sequenceData.inBounds = p.sequenceData.inBounds ∧
      (displayLeds leds tail colors p).colorArray.inBounds = p.colorArray.inBounds := by
  obtain ⟨sequence, array, _⟩ := setLeds_bounds p colors (by omega : leds * 24 ≤ n)
  refine ⟨?_, array⟩
  simp only [displayLeds, clearTail]
  rw [writeLoop_inBounds _ _ _ (by intros; omega), sequence]

end Display

section Frame

variable {leds : ℕ} (colors : ℕ → Color)

theorem ledWords_frame {led : ℕ} (driven : led < leds) (fits : leds * 24 ≤ n) :
    ledWords (frame n leds colors) led = colorWords (colors led) := by
  apply List.ext_getElem?
  intro k
  by_cases hk : k < 24
  · have index : (led * 24 + k) / 24 = led ∧ (led * 24 + k) % 24 = k := by omega
    have word : k < (colorWords (colors led)).length := by simpa using hk
    rw [ledWords, List.getElem?_take_of_lt hk, List.getElem?_drop, Vector.getElem?_toList]
    simp only [frame, Vector.getElem?_ofFn]
    rw [dif_pos (by omega), if_pos (by omega), index.1, index.2, List.getElem?_eq_getElem word]
    rfl
  · rw [List.getElem?_eq_none (by simp [ledWords]; omega),
      List.getElem?_eq_none (by simpa using hk)]

theorem frame_congr {colors' : ℕ → Color}
    (h : ∀ led < leds, ∀ ch, (colors led).channel ch = (colors' led).channel ch) :
    frame n leds colors = frame n leds colors' := by
  apply Vector.ext
  intro k hk
  simp only [frame, Vector.getElem_ofFn]
  by_cases driven : k < leds * 24
  · rw [if_pos driven, if_pos driven, colorWords_congr (h (k / 24) (by omega))]
  · rw [if_neg driven, if_neg driven]

theorem frame_tail {k : ℕ} (hk : leds * 24 ≤ k) (hn : k < n) :
    (frame n leds colors)[k]? = some 0 := by
  simp only [frame, Vector.getElem?_ofFn]
  rw [dif_pos hn, if_neg (by omega)]

theorem ledChannel_frame {led : ℕ} (ch : Channel) (driven : led < leds) (fits : leds * 24 ≤ n) :
    ledChannel (frame n leds colors) led ch = some ((colors led).channel ch).toNat := by
  have read (v : UInt8) : readMsb HIGH LOW 0 (msbWords HIGH LOW 8 v.toNat) = some v.toNat := by
    rw [readMsb_msbWords high_ne_low, Nat.mod_eq_of_lt v.toNat_lt, Nat.zero_mul, Nat.zero_add]
  have whole (v : ℕ) : (msbWords HIGH LOW 8 v).take 8 = msbWords HIGH LOW 8 v :=
    List.take_of_length_le (by simp)
  have past (v : ℕ) : (msbWords HIGH LOW 8 v).drop 16 = [] := List.drop_eq_nil_of_le (by simp)
  rw [ledChannel, ledWords_frame colors driven fits]
  cases ch <;> simp [colorWords, Channel.offset, Color.channel,
    List.drop_append, whole, past, read]

end Frame

end ProximityLed.PwmDriver
