/- ProximityLed/ColorScan/Strip
   digest: When the strip shows the combined colour, and the undim ticks that leave it stale. -/

import ProximityLed.ColorScan.Cache

set_option autoImplicit false
set_option relaxedAutoImplicit false

namespace ProximityLed.ColorScan.Strip

open PwmDriver (Color Channel DARKNESS ledChannel ledChannel_frame displayLeds_played)
open Library.Timer
open Library.Run
open Scaling
open Helpers
open Handlers
open DeviceView
open Startup
open Soundness
open Cache

variable {τ : Type}

/-- The last frame played shows, on each channel of each LED, the saturated sum of the two
animation colours. -/
def ShowsCombined (s : Scan τ) : Prop :=
  ∃ f, s.pwm.played.head? = some f ∧ ∀ led < 30, ∀ ch, ledChannel f led ch =
    some (min 255 (((s.animationColors device1).channel ch).toNat +
      ((s.animationColors device2).channel ch).toNat))

section Frames

variable [Scaling]

/-- The events that leave no stale frame behind: all but an undim tick whose step up moves a
channel that is not saturated already by the other device. -/
def Unseen (s : Scan τ) : Event → Prop
  | .undimTick d => ∀ ch,
    let color := s.actualDeviceColor d
    let b := (s.animationState d).brightness
    let shown := (makeColorOfBrightness color b).channel ch
    let next := (makeColorOfBrightness color (min 100 (b + ANIMATION_STEP_SIZE))).channel ch
    shown = next ∨ 255 ≤ shown.toNat + ((s.animationColors d.rev).channel ch).toNat
  | _ => True

omit [Scaling] in
theorem played_displayColor (c : Color) (p : PwmDriver.Pwm LED_DUTY_CYCLE_ARRAY_LENGTH) :
    (displayColor c p).played = colorFrame c :: p.played :=
  displayLeds_played _ p rfl

theorem head_of_step {api : TimerApi (Fin 2) τ} {s t : Scan τ} {e : Event}
    (h : step api s e = some t) (refreshed : refreshes e = true) :
    t.pwm.played.head? = some (colorFrame (calculateCombinedColor t.animationColors)) := by
  rw [step_pwm h, if_pos refreshed, played_displayColor]
  rfl

omit [Scaling] in
theorem ledChannel_colorFrame (c : Color) {led : ℕ} (driven : led < 30) (ch : Channel) :
    ledChannel (colorFrame c) led ch = some (c.channel ch).toNat :=
  ledChannel_frame _ ch driven (by decide)

omit [Scaling] in
private theorem showsCombined_iff {s : Scan τ} {c : Color}
    (last : s.pwm.played.head? = some (colorFrame c)) :
    ShowsCombined s ↔
      ∀ ch, c.channel ch = (calculateCombinedColor s.animationColors).channel ch := by
  constructor
  · rintro ⟨f, hf, shown⟩ ch
    obtain rfl : colorFrame c = f := Option.some_inj.mp (last.symm.trans hf)
    have led := shown 0 (by decide) ch
    rw [ledChannel_colorFrame c (by decide), ← toNat_combined_channel] at led
    exact UInt8.toNat_inj.mp (Option.some_inj.mp led)
  · intro same
    refine ⟨_, last, ?_⟩
    intro led driven ch
    rw [ledChannel_colorFrame c driven, same, toNat_combined_channel]

omit [Scaling] in
private theorem min_add_eq_iff {x y o : ℕ} (le : x ≤ y) :
    min 255 (x + o) = min 255 (y + o) ↔ x = y ∨ 255 ≤ x + o := by
  omega

omit [Scaling] in
private theorem toNat_combined_of (colors : Fin 2 → Color) (d : Fin 2) (ch : Channel) :
    ((calculateCombinedColor colors).channel ch).toNat =
      min 255 (((colors d).channel ch).toNat + ((colors d.rev).channel ch).toNat) := by
  rw [toNat_combined_channel]
  fin_cases d
  · rfl
  · exact congrArg (min 255) (Nat.add_comm _ _)

/-- An undim tick keeps the combined colour exactly when its step is one that is not seen. -/
theorem combined_undimDevice (api : TimerApi (Fin 2) τ) {s : Scan τ} {d : Fin 2}
    (cached : Cached (device s d)) (low : 0 ≤ (s.animationState d).brightness)
    (high : (s.animationState d).brightness ≤ 100) :
    (∀ ch, (calculateCombinedColor s.animationColors).channel ch =
      (calculateCombinedColor (undimDevice api s d).animationColors).channel ch) ↔
      Unseen s (.undimTick d) := by
  apply forall_congr'
  intro ch
  have step : (undimDevice api s d).animationColors d = makeColorOfBrightness
      (s.actualDeviceColor d) (min 100 ((s.animationState d).brightness + ANIMATION_STEP_SIZE)) := by
    rw [read_animationColors, device_undimDevice, if_pos rfl]
    rfl
  have still : (undimDevice api s d).animationColors d.rev = s.animationColors d.rev := by
    have apart : d.rev ≠ d := by fin_cases d <;> decide
    rw [read_animationColors, device_undimDevice, if_neg apart]
    rfl
  have before : s.animationColors d =
      makeColorOfBrightness (s.actualDeviceColor d) (s.animationState d).brightness := cached.fresh
  have up : (s.animationState d).brightness ≤
      min 100 ((s.animationState d).brightness + ANIMATION_STEP_SIZE) :=
    le_min high (le_add_of_nonneg_right (by decide))
  rw [← UInt8.toNat_inj, toNat_combined_of _ d, toNat_combined_of _ d, still, step, before]
  dsimp only
  rw [← UInt8.toNat_inj]
  apply min_add_eq_iff
  rw [makeColorOfBrightness_channel, makeColorOfBrightness_channel]
  exact scaleChannel_mono _ low up (min_le_left _ _)

def Fresh (s : Scan τ) : Prop :=
  s.pwm.played.head? = some (colorFrame (calculateCombinedColor s.animationColors))

omit [Scaling] in
theorem Fresh.shows {s : Scan τ} (h : Fresh s) : ShowsCombined s :=
  (showsCombined_iff h).mpr fun _ => rfl

structure Current (s : FlagScan) : Prop where
  sound : ∀ d, Sound d (device s d)
  cached : ∀ d, Cached (device s d)
  fresh : Fresh s

private theorem current_idle : Current idle := by
  refine ⟨sound_idle, cached_idle, ?_⟩
  rw [Fresh, idle, pwm_afterStartup, played_displayColor]
  rfl

/-- From an up-to-date strip, an event leaves the strip right exactly when it is not seen, and
then up to date again. -/
private theorem fresh_step {s t : FlagScan} {e : Event} (current : Current s)
    (h : step flagApi s e = some t) :
    (ShowsCombined t ↔ Unseen s e) ∧ (Unseen s e → Fresh t) := by
  obtain ⟨sound, cached, fresh⟩ := current
  have pwm := step_pwm h
  by_cases refreshed : refreshes e = true
  · have next : Fresh t := head_of_step h refreshed
    have unseen : Unseen s e := by
      cases e with
      | undimTick d => cases refreshed
      | _ => trivial
    exact ⟨⟨fun _ => unseen, fun _ => next.shows⟩, fun _ => next⟩
  rw [if_neg refreshed] at pwm
  cases e with
  | ttlTick d => exact absurd rfl refreshed
  | report r =>
    have ignored : r.acceptedFor = none := by simpa [refreshes] using refreshed
    obtain rfl : s = t := by simpa [step, bleEvtAdvReport_eq, ignored] using h
    exact ⟨⟨fun _ => trivial, fun _ => fresh.shows⟩, fun _ => fresh⟩
  | undimTick c =>
    have wired : Wired flagApi c (device s c) := wired_of_sound (id_hom flagApi) (sound c)
    obtain ⟨d, armed, rfl⟩ := Option.map_eq_some_iff.mp h
    obtain rfl : d = c := wired.2 d armed
    have last : (undimDevice flagApi s d).pwm.played.head? =
        some (colorFrame (calculateCombinedColor s.animationColors)) := by
      rw [pwm]
      exact fresh
    have same := combined_undimDevice flagApi (cached d) (sound d).low (sound d).high
    refine ⟨(showsCombined_iff last).trans same, ?_⟩
    intro unseen
    rw [Fresh, last, PwmDriver.Color.ext_channel (same.mpr unseen) rfl]

theorem current_step {s t : FlagScan} {e : Event} (current : Current s)
    (h : step flagApi s e = some t) :
    (ShowsCombined t ↔ Unseen s e) ∧ (Unseen s e → Current t) := by
  have wired (d : Fin 2) : Wired flagApi d (device s d) :=
    wired_of_sound (id_hom flagApi) (current.sound d)
  obtain ⟨shows, next⟩ := fresh_step current h
  refine ⟨shows, fun unseen => ⟨?_, ?_, next unseen⟩⟩
  · exact step_sound (id_hom flagApi) current.sound h
  · intro d
    exact (step_color wired (current.cached d) h).1

/-- The strip shows the combined colour after every event of a run exactly when no undim tick of
the run takes a step that would be seen. -/
theorem strip_shows_combined_iff (es : List Event) :
    (∀ s ∈ states (step flagApi) idle es, ShowsCombined s) ↔
      ∀ p ∈ moves (step flagApi) idle es, Unseen p.1 p.2 :=
  states_good_iff (fun _ current => current.fresh.shows)
    (fun _ _ _ current h => current_step current h) current_idle es

end Frames

/-- A green beacon: the strip still shows its first step when the second has been taken. -/
theorem undim_tick_not_shown :
    ∃ s ∈ states (step flagApi) idle [.report (beacon 0 ⟨200, 0, 0, 0⟩), .undimTick 0],
      ¬ ShowsCombined s := by
  have first : step flagApi idle (.report (beacon 0 ⟨200, 0, 0, 0⟩)) = some _ := rfl
  have current := (current_step current_idle first).2 trivial
  refine ⟨_, run_mem_states rfl, ?_⟩
  intro shown
  have green := (current_step (e := .undimTick 0) current rfl).1.mp shown .green
  revert green
  decide +kernel

end ProximityLed.ColorScan.Strip
