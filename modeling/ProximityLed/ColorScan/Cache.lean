/- ProximityLed/ColorScan/Cache
   digest: The stored and the animated colour of a device stay what their sources say. -/

import ProximityLed.ColorScan.Soundness

set_option autoImplicit false
set_option relaxedAutoImplicit false

namespace ProximityLed.ColorScan.Cache

open PwmDriver (Color Channel DARKNESS)
open Library.Timer
open Library.Run
open Scaling
open Helpers
open Handlers
open DeviceView
open Startup
open Soundness

variable {τ : Type}

structure Cached [Scaling] (x : Device τ) : Prop where
  padding : x.actualColor.padding = 0
  fresh : x.animationColor = makeColorOfBrightness x.actualColor x.brightness

section DeviceSteps

variable [Scaling] {api : TimerApi (Fin 2) τ} {d : Fin 2} {x y : Device τ}

theorem Cached.channel_eq (h : Cached x) (ch : Channel) :
    x.animationColor.channel ch = scaleChannel (x.actualColor.channel ch) x.brightness := by
  rw [← makeColorOfBrightness_channel, h.fresh]

private theorem cached_dim (h : Cached x) : Cached (x.dim api) := ⟨h.padding, rfl⟩

private theorem cached_brighten (h : Cached x) : Cached (x.brighten api) := ⟨h.padding, rfl⟩

private theorem store_actualColor (h : Cached x) {c : Color} (hc : c.padding = 0) :
    (x.store c).actualColor = c := by
  unfold Device.store
  split
  · exact (isSameColor_iff h.padding hc).mp ‹_›
  · rfl

private theorem cached_store (h : Cached x) {c : Color} (hc : c.padding = 0) :
    Cached (x.store c) := by
  refine ⟨by rw [store_actualColor h hc, hc], ?_⟩
  unfold Device.store
  split
  · exact h.fresh
  · rfl

private theorem cached_advert (h : Cached x) {c : Color} (hc : c.padding = 0) :
    Cached (x.advert api d c) ∧ (x.advert api d c).actualColor = c := by
  have stopped : Cached { x with ttl := api.stop x.ttl } := ⟨h.padding, h.fresh⟩
  have stored := cached_store stopped hc
  have color := store_actualColor stopped hc
  simp only [Device.advert, Device.begin]
  split
  · exact ⟨⟨stored.padding, rfl⟩, color⟩
  · exact ⟨⟨stored.padding, stored.fresh⟩, color⟩

def heard : DeviceEvent → Option Color
  | .advert c => some c
  | _ => none

theorem cached_step (h : Cached x) {ev : DeviceEvent} (hc : ∀ c ∈ heard ev, c.padding = 0)
    (hstep : deviceStep api d x ev = some y) :
    Cached y ∧ y.actualColor = (heard ev).getD x.actualColor := by
  rcases deviceStep_cases hstep with ⟨c, rfl, rfl⟩ | ⟨rfl, _, rfl⟩ | ⟨rfl, _, rfl⟩
  · exact cached_advert h (hc c rfl)
  · exact ⟨cached_dim h, rfl⟩
  · exact ⟨cached_brighten h, rfl⟩

omit [Scaling] in
private theorem heard_padding {e : Event} {ev : DeviceEvent} (h : forDevice d e = some ev) :
    ∀ c ∈ heard ev, c.padding = 0 := by
  intro c hc
  rcases forDevice_cases h with ⟨r, _, _, rfl⟩ | ⟨_, rfl⟩ | ⟨_, rfl⟩
  · obtain rfl : r.advColor = c := Option.some_inj.mp hc
    rfl
  · cases hc
  · cases hc

/-- One event of the scanner keeps the colour caches, and changes the stored colour only to the
one it carries. -/
theorem step_color {s t : Scan τ} {e : Event} (wired : ∀ d, Wired api d (device s d))
    (cached : Cached (device s d)) (h : step api s e = some t) :
    Cached (device t d) ∧ (device t d).actualColor =
      ((forDevice d e).bind heard).getD (device s d).actualColor := by
  rcases step_device_cases wired h d with ⟨label, same⟩ | ⟨ev, label, own⟩
  · rw [same, label]
    exact ⟨cached, rfl⟩
  · rw [label]
    exact cached_step cached (heard_padding label) own

theorem stored_of_accepted {s : Scan τ} (cached : Cached (device s d)) {r : AdvReport}
    (accepted : r.acceptedFor = some d) :
    (device (bleEvtAdvReport api s r) d).actualColor = r.advColor := by
  rw [device_bleEvtAdvReport, if_pos accepted]
  exact (cached_advert cached rfl).2

end DeviceSteps

def acceptedReports (d : Fin 2) (es : List Event) : List AdvReport :=
  es.filterMap fun
    | .report r => if r.acceptedFor = some d then some r else none
    | _ => none

def advertisedColor (d : Fin 2) (es : List Event) : Color :=
  ((acceptedReports d es).getLast?.map AdvReport.advColor).getD DARKNESS

private theorem acceptedReports_append (d : Fin 2) (es fs : List Event) :
    acceptedReports d (es ++ fs) = acceptedReports d es ++ acceptedReports d fs :=
  List.filterMap_append

private theorem advertisedColor_concat (d : Fin 2) (es : List Event) (e : Event) :
    advertisedColor d (es ++ [e]) =
      ((forDevice d e).bind heard).getD (advertisedColor d es) := by
  rw [advertisedColor, acceptedReports_append]
  cases e with
  | report r =>
    by_cases accepted : r.acceptedFor = some d <;>
      simp [acceptedReports, accepted, forDevice, heard, advertisedColor]
  | ttlTick e =>
    by_cases own : e = d <;> simp [acceptedReports, own, forDevice, heard, advertisedColor]
  | undimTick e =>
    by_cases own : e = d <;> simp [acceptedReports, own, forDevice, heard, advertisedColor]

section Runs

variable [Scaling] {es : List Event} {s : FlagScan}

theorem cached_idle (d : Fin 2) : Cached (device idle d) := by
  rw [idle, device_afterStartup]
  exact ⟨rfl, (makeColorOfBrightness_zero DARKNESS).symm⟩

theorem idle_cached (hrun : run (step flagApi) idle es = some s) (d : Fin 2) :
    Cached (device s d) ∧ s.actualDeviceColor d = advertisedColor d es := by
  refine run_induction (P := fun h m => ∀ d, Cached (device m d) ∧
    m.actualDeviceColor d = advertisedColor d h) (fun d => ⟨cached_idle d, ?_⟩) ?_ hrun d
  · simp only [read_actualDeviceColor, idle, device_afterStartup]
    rfl
  · intro h e m m' hm ih _ he d
    obtain ⟨cached, color⟩ := ih d
    have wired (d : Fin 2) : Wired flagApi d (device m d) :=
      wired_of_sound (id_hom flagApi) (idle_sound hm d)
    have next := step_color wired cached he
    rw [advertisedColor_concat]
    exact ⟨next.1, next.2.trans (by rw [← color]; rfl)⟩

end Runs

/-- In every state that events lead to, in any order, the stored colour of a device is the one
its last accepted report carries, and the animated colour is that one at the current brightness:
never above it, equal to it at 100, and black at 0.  With a scaling that cuts off the exact product
it is the floor. -/
theorem colors_follow_source [scaling : Scaling] {es : List Event} {s : FlagScan}
    (hrun : run (step flagApi) idle es = some s) (d : Fin 2) :
    s.actualDeviceColor d = advertisedColor d es ∧
    ∀ ch, (s.animationColors d).channel ch =
        (makeColorOfBrightness (s.actualDeviceColor d) (s.animationState d).brightness).channel ch ∧
      (scaling.CutsOff → (((s.animationColors d).channel ch).toNat : ℤ) =
        ((s.actualDeviceColor d).channel ch).toNat * (s.animationState d).brightness / 100) ∧
      ((s.animationColors d).channel ch).toNat ≤ ((s.actualDeviceColor d).channel ch).toNat ∧
      ((s.animationState d).brightness = 100 →
        (s.animationColors d).channel ch = (s.actualDeviceColor d).channel ch) ∧
      ((s.animationState d).brightness = 0 → (s.animationColors d).channel ch = 0) := by
  obtain ⟨cached, color⟩ := idle_cached hrun d
  have sound := idle_sound hrun d
  refine ⟨color, ?_⟩
  intro ch
  have fresh := cached.channel_eq ch
  refine ⟨?_, ?_, ?_, ?_, ?_⟩
  · rw [makeColorOfBrightness_channel]
    exact fresh
  · intro cutsOff
    rw [read_animationColors, fresh]
    exact cutsOff _ _ sound.low sound.high
  · rw [read_animationColors, fresh]
    exact scaleChannel_le _ sound.low sound.high
  · intro full
    rw [read_brightness] at full
    rw [read_animationColors, fresh, full, scaleChannel_full]
    rfl
  · intro dark
    rw [read_brightness] at dark
    rw [read_animationColors, fresh, dark, scaleChannel_zero]

/-- A beacon that turns from green to blue in the middle of its fade-in. -/
theorem colors_follow_source_beacon :
    letI := Scaling.exact
    ∃ s, run (step flagApi) idle [.report (beacon 0 ⟨200, 0, 0, 0⟩), .undimTick 0,
        .report (beacon 0 ⟨0, 0, 100, 0⟩)] = some s ∧
      s.actualDeviceColor 0 = ⟨0, 0, 100, 0⟩ ∧
      (((s.animationColors 0).channel .blue).toNat : ℤ) =
        ((s.actualDeviceColor 0).channel .blue).toNat * (s.animationState 0).brightness / 100 := by
  let _ : Scaling := .exact
  have hrun : run (step flagApi) idle [.report (beacon 0 ⟨200, 0, 0, 0⟩), .undimTick 0,
      .report (beacon 0 ⟨0, 0, 100, 0⟩)] = some _ := rfl
  obtain ⟨stored, animated⟩ := colors_follow_source hrun 0
  exact ⟨_, hrun, stored, (animated .blue).2.1 cutsOff_exact⟩

end ProximityLed.ColorScan.Cache
