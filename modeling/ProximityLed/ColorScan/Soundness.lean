/- ProximityLed/ColorScan/Soundness
   digest: Brightness, flag and timers of a device agree after every event, in every order. -/

import ProximityLed.ColorScan.Startup

set_option autoImplicit false
set_option relaxedAutoImplicit false

namespace ProximityLed.ColorScan.Soundness

open PwmDriver (Color)
open Library.Timer
open Library.Run
open Helpers
open Handlers
open DeviceView
open Startup

abbrev FlagScan := Scan (FlagTimer (Fin 2))

def idle : FlagScan := afterStartup flagApi .blank

/-- The states of one device: its timers are what the brightness and the flag say, and a light
that is not fading in is either full or dim enough to need more than one step. -/
structure Sound (d : Fin 2) (x : Device (FlagTimer (Fin 2))) : Prop where
  multiple : (5 : ℤ) ∣ x.brightness
  low : 0 ≤ x.brightness
  high : x.brightness ≤ 100
  lit : 0 < x.brightness → x.ttl = ⟨true, some d⟩
  dark : x.brightness = 0 → x.ttl = ⟨true, none⟩
  fading : x.isUndimming = true →
    x.undim = ⟨true, some d⟩ ∧ 0 < x.brightness ∧ x.brightness < 100
  resting : x.isUndimming = false →
    x.undim = ⟨true, none⟩ ∧ (x.brightness = 100 ∨ x.brightness ≤ 85)

theorem sound_idle (d : Fin 2) : Sound d (device idle d) := by
  rw [idle, device_afterStartup]
  exact ⟨by simp, by simp, by simp, by simp, fun _ => rfl, by simp, fun _ => ⟨rfl, by simp⟩⟩

section DeviceSteps

variable {d : Fin 2} {x y : Device (FlagTimer (Fin 2))}

theorem Sound.ttl_running (h : Sound d x) : x.ttl.running = true ↔ 0 < x.brightness := by
  have low := h.low
  constructor
  · intro running
    by_contra notLit
    rw [h.dark (by omega)] at running
    cases running
  · intro lit
    rw [h.lit lit]
    rfl

theorem Sound.undim_running (h : Sound d x) : x.undim.running = x.isUndimming := by
  cases flag : x.isUndimming
  · rw [(h.resting flag).1]
    rfl
  · rw [(h.fading flag).1]
    rfl

/-- The gap between the two steps: a light at rest below 100 stays below 100 after one step up. -/
theorem Sound.begin_below (h : Sound d x) (rest : x.isUndimming = false)
    (below : x.brightness < 100) : min 100 (x.brightness + 10) < 100 := by
  rcases (h.resting rest).2 with full | low <;> omega

variable [Scaling]

theorem sound_dim (h : Sound d x) (running : x.ttl.running = true) : Sound d (x.dim flagApi) := by
  have lit := h.ttl_running.mp running
  have multiple := h.multiple
  have high := h.high
  have ttl := h.lit lit
  have undim : flagApi.stop x.undim = ⟨true, none⟩ := by
    cases flag : x.isUndimming
    · rw [(h.resting flag).1]
      rfl
    · rw [(h.fading flag).1]
      rfl
  refine ⟨?_, le_max_left _ _, ?_, ?_, ?_, ?_, ?_⟩ <;> simp only [Device.dim]
  · omega
  · omega
  · intro stillLit
    rw [if_neg (by omega), ttl]
  · intro dark
    rw [if_pos dark, ttl]
    rfl
  · intro flag
    cases flag
  · intro _
    exact ⟨undim, by omega⟩

theorem sound_brighten (h : Sound d x) (running : x.undim.running = true) :
    Sound d (x.brighten flagApi) := by
  have flag : x.isUndimming = true := by rw [← h.undim_running, running]
  obtain ⟨undim, lit, below⟩ := h.fading flag
  have multiple := h.multiple
  refine ⟨?_, ?_, min_le_left _ _, ?_, ?_, ?_, ?_⟩ <;> simp only [Device.brighten]
  · omega
  · omega
  · intro _
    exact h.lit lit
  · omega
  · intro stillFading
    have notFull : min 100 (x.brightness + 10) ≠ 100 := by
      intro full
      simp [full] at stillFading
    rw [if_neg notFull]
    exact ⟨undim, by omega⟩
  · intro done
    have full : min 100 (x.brightness + 10) = 100 := by
      by_contra notFull
      simp [notFull, flag] at done
    rw [if_pos full, undim]
    exact ⟨rfl, .inl full⟩

theorem sound_advert (h : Sound d x) (c : Color) : Sound d (x.advert flagApi d c) := by
  have multiple := h.multiple
  have low := h.low
  have high := h.high
  have restart : flagApi.start TTL_MS d (flagApi.stop x.ttl) = ⟨true, some d⟩ := by
    rcases low.lt_or_eq with lit | dark
    · rw [h.lit lit]
      rfl
    · rw [h.dark dark.symm]
      rfl
  rcases x.rests_or_busy with ⟨rest, notFull⟩ | busy
  · have below := h.begin_below rest notFull
    have undim := (h.resting rest).1
    rw [Device.advert_resting flagApi d c rest below]
    refine ⟨by simpa using (by omega : (5 : ℤ) ∣ x.brightness + 10), by simp; omega, by simp; omega,
      fun _ => restart, ?_, fun _ => ⟨?_, by simp; omega⟩, ?_⟩
    · intro dark
      simp at dark
      omega
    · simp only [undim]
      rfl
    · intro rest
      cases rest
  · rw [Device.advert_busy flagApi d c busy]
    refine ⟨by simpa, by simpa, by simpa, fun _ => restart, ?_, ?_, ?_⟩
    · intro dark
      rcases busy with fading | full
      · have := (h.fading fading).2.1
        simp at dark
        omega
      · simp at dark
        omega
    · intro fading
      simpa using h.fading (by simpa using fading)
    · intro rest
      simpa using h.resting (by simpa using rest)

/-- No event takes a device out of its sound states. -/
theorem sound_step (h : Sound d x) {ev : DeviceEvent} (hstep : deviceStep flagApi d x ev = some y) :
    Sound d y := by
  rcases deviceStep_cases hstep with ⟨c, _, rfl⟩ | ⟨_, running, rfl⟩ | ⟨_, running, rfl⟩
  · exact sound_advert h c
  · exact sound_dim h running
  · exact sound_brighten h running

end DeviceSteps

section Runs

variable {τ : Type} {api : TimerApi (Fin 2) τ} {f : τ → FlagTimer (Fin 2)}
  (hom : api.Hom flagApi id f) {s t : Scan τ}

include hom

theorem wired_of_sound {d : Fin 2} {x : Device τ} (h : Sound d (x.map f)) : Wired api d x := by
  have ttl : api.armed x.ttl = (f x.ttl).armed := by simpa [flagApi] using (hom.armed x.ttl).symm
  have undim : api.armed x.undim = (f x.undim).armed := by
    simpa [flagApi] using (hom.armed x.undim).symm
  refine ⟨?_, ?_⟩
  · intro c armed
    rw [ttl] at armed
    rcases h.low.lt_or_eq with lit | dark
    · have := h.lit lit
      simp_all [Device.map]
    · have := h.dark dark.symm
      simp_all [Device.map]
  · intro c armed
    rw [undim] at armed
    cases flag : x.isUndimming
    · have := (h.resting flag).1
      simp_all [Device.map]
    · have := (h.fading flag).1
      simp_all [Device.map]

variable [Scaling]

theorem step_sound {e : Event} (sound : ∀ d, Sound d ((device s d).map f))
    (h : step api s e = some t) (d : Fin 2) : Sound d ((device t d).map f) := by
  rcases step_device_cases (fun d => wired_of_sound hom (sound d)) h d with
    ⟨_, same⟩ | ⟨ev, _, own⟩
  · rw [same]
    exact sound d
  · have mapped := deviceStep_map hom d (device s d) ev
    rw [own] at mapped
    exact sound_step (sound d) mapped

theorem run_sound {es : List Event} (sound : ∀ d, Sound d ((device s d).map f))
    (hrun : run (step api) s es = some t) : ∀ d, Sound d ((device t d).map f) :=
  run_invariant (I := fun m => ∀ d, Sound d ((device m d).map f))
    (fun _ _ _ _ hm he => step_sound hom hm he) sound hrun

theorem run_device {es : List Event} (sound : ∀ d, Sound d ((device s d).map f))
    (hrun : run (step api) s es = some t) (d : Fin 2) :
    run (deviceStep api d) (device s d) (es.filterMap (forDevice d)) = some (device t d) :=
  run_project (I := fun m => ∀ d, Sound d ((device m d).map f)) (fun m => device m d)
    (forDevice d) (fun _ _ _ hm he => step_sound hom hm he)
    (fun _ _ _ hm he => step_device (fun d => wired_of_sound hom (hm d)) he d) sound hrun

end Runs

section FlagRuns

variable [Scaling] {es : List Event} {s : FlagScan}

theorem idle_sound (hrun : run (step flagApi) idle es = some s) (d : Fin 2) :
    Sound d (device s d) :=
  run_sound (id_hom flagApi) (s := idle) sound_idle hrun d

theorem idle_device (hrun : run (step flagApi) idle es = some s) (d : Fin 2) :
    run (deviceStep flagApi d) (device idle d) (es.filterMap (forDevice d)) =
      some (device s d) :=
  run_device (id_hom flagApi) (s := idle) sound_idle hrun d

end FlagRuns

/-- The agreement of brightness, flag and timers of one device. -/
structure FadeLaw [Scaling] (s : FlagScan) (d : Fin 2) : Prop where
  multiple : (5 : ℤ) ∣ (s.animationState d).brightness
  range : 0 ≤ (s.animationState d).brightness ∧ (s.animationState d).brightness ≤ 100
  flag : (s.animationState d).isUndimming = true ↔ (s.deviceUndimTimers d).running = true
  fading : (s.animationState d).isUndimming = true →
    0 < (s.animationState d).brightness ∧ (s.animationState d).brightness < 100
  scheduled : (s.deviceTtlTimers d).running = true ↔ 0 < (s.animationState d).brightness
  resting : (s.animationState d).isUndimming = false →
    (s.animationState d).brightness = 100 ∨ (s.animationState d).brightness ≤ 85
  /-- The inline call of `undim_device` neither reaches 100 nor clears the flag just set. -/
  inline : ∀ r : AdvReport, r.acceptedFor = some d →
    (s.animationState d).isUndimming = false → (s.animationState d).brightness < 100 →
    let stored := storeColor (s.onTtlTimer d flagApi.stop) d d r.advColor
    let t := undimDevice flagApi (stored.setIsUndimming d true) d
    (t.animationState d).brightness < 100 ∧ (t.animationState d).isUndimming = true ∧
      t.deviceUndimTimers d = s.deviceUndimTimers d

/-- In every state that reports and ticks of the two devices lead to, in any order, brightness,
flag and timers of each device agree. -/
theorem fade_law [Scaling] {es : List Event} {s : FlagScan}
    (hrun : run (step flagApi) idle es = some s)
    (d : Fin 2) : FadeLaw s d := by
  have h := idle_sound hrun d
  refine ⟨h.multiple, ⟨h.low, h.high⟩, ?_, fun flag => (h.fading flag).2, h.ttl_running,
    fun flag => (h.resting flag).2, ?_⟩
  · exact (Bool.eq_iff_iff.mp h.undim_running).symm
  · intro r _ rest below
    have step := h.begin_below rest below
    have notFull : min 100 ((device s d).brightness + 10) ≠ 100 := by omega
    intro stored t
    have fields : device t d =
        (Device.brighten flagApi { device stored d with isUndimming := true }) := by
      simp [t, device_undimDevice]
    have storedFields : device stored d = (device (s.onTtlTimer d flagApi.stop) d).store
        r.advColor := by
      simp [stored, device_storeColor]
    simp only [read_brightness, read_isUndimming, read_deviceUndimTimers, fields, storedFields,
      Device.brighten, Device.store_brightness, Device.store_undim, device_onTtlTimer, if_true,
      if_neg notFull]
    exact ⟨step, trivial, trivial⟩

/-- A green beacon, its first step up on hearing, and one tick more. -/
theorem fade_law_beacon :
    ∃ s, run (step flagApi) idle [.report (beacon 0 ⟨200, 0, 0, 0⟩), .undimTick 0] = some s ∧
      (s.animationState 0).brightness = 20 ∧ FadeLaw s 0 := by
  have hrun : run (step flagApi) idle [.report (beacon 0 ⟨200, 0, 0, 0⟩), .undimTick 0] =
      some _ := rfl
  exact ⟨_, hrun, rfl, fade_law hrun 0⟩

end ProximityLed.ColorScan.Soundness
