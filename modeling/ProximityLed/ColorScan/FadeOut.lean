/- ProximityLed/ColorScan/FadeOut
   digest: A device that is no longer heard goes dark after at most seven TTL ticks. -/

import ProximityLed.ColorScan.Cache

set_option autoImplicit false
set_option relaxedAutoImplicit false

namespace ProximityLed.ColorScan.FadeOut

open PwmDriver (Color DARKNESS)
open Library.Timer
open Library.Run
open Helpers
open Handlers
open DeviceView
open Soundness
open Cache

def Silent (d : Fin 2) (es : List Event) : Prop := ∀ r, .report r ∈ es → r.acceptedFor ≠ some d

/-- The TTL ticks a device can still take: all seven during a fade-in, which ends at 100 at most,
and otherwise the brightness in steps of 15, rounded up. -/
def ticksLeft (x : Device (FlagTimer (Fin 2))) : ℕ :=
  if x.isUndimming then 7 else ((x.brightness + 14) / 15).toNat

section DeviceRuns

variable [Scaling] {d : Fin 2} {x y : Device (FlagTimer (Fin 2))} {ev : DeviceEvent}
  {evs : List DeviceEvent}

omit [Scaling] in
private theorem ticksLeft_le (h : Sound d x) : ticksLeft x ≤ 7 := by
  have high := h.high
  unfold ticksLeft
  split <;> omega

/-- A TTL tick uses up one of the ticks left, and an undim tick brings none back. -/
theorem ticksLeft_step (h : Sound d x) (unheard : heard ev = none)
    (hstep : deviceStep flagApi d x ev = some y) :
    ticksLeft y + (if ev = .ttlTick then 1 else 0) ≤ ticksLeft x := by
  have high := h.high
  have low := h.low
  rcases deviceStep_cases hstep with ⟨c, rfl, _⟩ | ⟨rfl, running, rfl⟩ | ⟨rfl, running, rfl⟩
  · cases unheard
  · have lit := h.ttl_running.mp running
    cases flag : x.isUndimming with
    | false =>
      simp only [ticksLeft, Device.dim, flag]
      simp
      omega
    | true =>
      have below := (h.fading flag).2.2
      have multiple := h.multiple
      simp only [ticksLeft, Device.dim, flag]
      simp
      omega
  · have flag : x.isUndimming = true := by rw [← h.undim_running]; exact running
    simpa [ticksLeft, flag] using ticksLeft_le (sound_brighten h running)

theorem ticks_bounded (h : Sound d x) (unheard : ∀ ev ∈ evs, heard ev = none)
    (hrun : run (deviceStep flagApi d) x evs = some y) : evs.count .ttlTick ≤ 7 := by
  have paid := run_potential (I := Sound d) ticksLeft (fun ev => ev == .ttlTick)
    (fun _ _ _ _ hm he => sound_step hm he)
    (fun m ev m' mem hm he => by simpa using ticksLeft_step hm (unheard ev mem) he) h hrun
  have start := ticksLeft_le h
  rw [List.count]
  omega

theorem resting_run (h : Sound d x) (rest : x.isUndimming = false)
    (unheard : ∀ ev ∈ evs, heard ev = none)
    (hrun : run (deviceStep flagApi d) x evs = some y) :
    .undimTick ∉ evs ∧ y.isUndimming = false ∧ y.brightness ≤ x.brightness := by
  have whole := run_induction (P := fun evs m => Sound d m ∧ .undimTick ∉ evs ∧
    m.isUndimming = false ∧ m.brightness ≤ x.brightness) ⟨h, by simp, rest, le_rfl⟩ ?_ hrun
  · exact whole.2
  · rintro past ev m m' _ ⟨hm, none, flag, le⟩ pre he
    have sound := sound_step hm he
    have last := unheard ev (pre.subset (by simp))
    rcases deviceStep_cases he with ⟨c, rfl, _⟩ | ⟨rfl, _, rfl⟩ | ⟨rfl, running, _⟩
    · cases last
    · have low := hm.low
      refine ⟨sound, by simpa using none, rfl, ?_⟩
      show max 0 (m.brightness - 15) ≤ x.brightness
      omega
    · have going : m.undim.running = true := running
      rw [hm.undim_running, flag] at going
      cases going

private theorem resting_after_tick (hstep : deviceStep flagApi d x .ttlTick = some y) :
    y.isUndimming = false := by
  rcases deviceStep_cases hstep with ⟨c, e, _⟩ | ⟨_, _, rfl⟩ | ⟨e, _⟩
  · cases e
  · rfl
  · cases e

end DeviceRuns

private theorem unheard_of_silent {d : Fin 2} {es : List Event} (silent : Silent d es) :
    ∀ ev ∈ es.filterMap (forDevice d), heard ev = none := by
  intro ev mem
  rcases List.mem_filterMap.mp mem with ⟨e, he, label⟩
  rcases forDevice_cases label with ⟨r, rfl, accepted, _⟩ | ⟨_, rfl⟩ | ⟨_, rfl⟩
  · exact absurd accepted (silent r he)
  · rfl
  · rfl

theorem Silent.append_right {d : Fin 2} {es fs : List Event} (silent : Silent d (es ++ fs)) :
    Silent d fs :=
  fun r mem => silent r (List.mem_append_right es mem)

private theorem count_ttlTick (d : Fin 2) (es : List Event) :
    (es.filterMap (forDevice d)).count .ttlTick = es.count (.ttlTick d) := by
  induction es with
  | nil => rfl
  | cons e es ih =>
    cases e with
    | report r =>
      by_cases accepted : r.acceptedFor = some d <;> simp [forDevice, accepted, ih]
    | ttlTick c =>
      by_cases own : c = d <;> simp [forDevice, own, ih]
    | undimTick c =>
      by_cases own : c = d <;> simp [forDevice, own, ih]

structure Dark (s : FlagScan) (d : Fin 2) : Prop where
  brightness : (s.animationState d).brightness = 0
  ttl : (s.deviceTtlTimers d).running = false
  undim : (s.deviceUndimTimers d).running = false
  flag : (s.animationState d).isUndimming = false
  black : s.animationColors d = DARKNESS
  combined : calculateCombinedColor s.animationColors = s.animationColors d.rev

section Runs

variable [Scaling] {pre es : List Event} {s t : FlagScan} {d : Fin 2}

private theorem dark_of_brightness (reach : run (step flagApi) idle pre = some s)
    (out : (s.animationState d).brightness = 0) : Dark s d := by
  have sound := idle_sound reach d
  have black : s.animationColors d = DARKNESS := by
    rw [read_animationColors, (idle_cached reach d).1.fresh, ← read_brightness, out,
      makeColorOfBrightness_zero]
  have flag : (s.animationState d).isUndimming = false := by
    by_contra fading
    have lit := (sound.fading (by simpa using fading)).2.1
    rw [← read_brightness, out] at lit
    exact absurd lit (by decide)
  refine ⟨out, ?_, ?_, flag, black, ?_⟩
  · rw [read_deviceTtlTimers, sound.dark out]
    rfl
  · rw [read_deviceUndimTimers, sound.undim_running]
    exact flag
  · apply combined_of_black black
    rw [read_animationColors, (idle_cached reach d.rev).1.fresh]
    rfl

private theorem dark_of_stopped (reach : run (step flagApi) idle pre = some s)
    (stopped : (s.deviceTtlTimers d).running = false) : Dark s d := by
  have sound := idle_sound reach d
  have notLit : ¬ 0 < (device s d).brightness := by
    rw [← sound.ttl_running, ← read_deviceTtlTimers, stopped]
    exact Bool.false_ne_true
  have low := sound.low
  exact dark_of_brightness reach (show (device s d).brightness = 0 by omega)

private theorem resting_scan (reach : run (step flagApi) idle pre = some s)
    (hrun : run (step flagApi) s es = some t) (silent : Silent d es)
    (rest : (s.animationState d).isUndimming = false) :
    .undimTick d ∉ es ∧ (t.animationState d).isUndimming = false ∧
      (t.animationState d).brightness ≤ (s.animationState d).brightness := by
  have own := run_device (id_hom flagApi) (s := s) (fun d => idle_sound reach d) hrun d
  have resting := resting_run (idle_sound reach d) rest (unheard_of_silent silent) own
  refine ⟨fun mem => resting.1 ?_, resting.2⟩
  exact List.mem_filterMap.mpr ⟨_, mem, by simp [forDevice]⟩

private theorem resting_from_tick (reach : run (step flagApi) idle pre = some s)
    {before mid : List Event}
    (silent : Silent d (before ++ .ttlTick d :: mid))
    (hrun : run (step flagApi) s (before ++ .ttlTick d :: mid) = some t) :
    .undimTick d ∉ mid ∧ (t.animationState d).isUndimming = false := by
  rcases run_append_eq_some.mp hrun with ⟨a, ha, rest⟩
  rcases run_cons_eq_some.mp rest with ⟨b, tick, hb⟩
  have reachA := run_append_eq_some.mpr ⟨s, reach, ha⟩
  have reachB := run_append_eq_some.mpr ⟨a, reachA, (run_singleton _ a _).trans tick⟩
  have own := run_device (id_hom flagApi) (s := a) (fun d => idle_sound reachA d)
    ((run_singleton _ a _).trans tick) d
  have atRest : (device b d).isUndimming = false := by
    apply resting_after_tick (d := d) (x := device a d)
    simpa [forDevice] using own
  have silentB : Silent d mid := fun r mem => silent r (by simp [mem])
  have resting := resting_scan reachB hb silentB atRest
  exact ⟨resting.1, resting.2.1⟩

end Runs

/-- From every state that reports and ticks lead to, and whatever the other device does, a device
no further advert of which is accepted takes at most seven TTL ticks.  After the first of them it
takes no undim tick and never gets brighter, and once its TTL timer is stopped it is dark for
good. -/
theorem fade_out_bounded [Scaling] {pre es : List Event} {s t : FlagScan} {d : Fin 2}
    (reach : run (step flagApi) idle pre = some s) (hrun : run (step flagApi) s es = some t)
    (silent : Silent d es) :
    es.count (.ttlTick d) ≤ 7 ∧
    (∀ before after, es = before ++ .ttlTick d :: after → .undimTick d ∉ after) ∧
    (∀ before mid after m, es = before ++ .ttlTick d :: (mid ++ after) →
      run (step flagApi) s (before ++ .ttlTick d :: mid) = some m →
      (t.animationState d).brightness ≤ (m.animationState d).brightness) ∧
    ∀ before after m, es = before ++ after → run (step flagApi) s before = some m →
      (m.deviceTtlTimers d).running = false → Dark m d ∧ Dark t d := by
  refine ⟨?_, ?_, ?_, ?_⟩
  · have own := run_device (id_hom flagApi) (s := s) (fun d => idle_sound reach d) hrun d
    rw [← count_ttlTick]
    exact ticks_bounded (idle_sound reach d) (unheard_of_silent silent) own
  · rintro before after rfl
    exact (resting_from_tick reach silent hrun).1
  · intro before mid after m split hm
    have whole : es = (before ++ .ttlTick d :: mid) ++ after := by simp [split]
    rw [whole] at hrun silent
    rcases run_append_eq_some.mp hrun with ⟨m', hm', rest⟩
    obtain rfl : m = m' := Option.some_inj.mp (hm.symm.trans hm')
    have atRest := (resting_from_tick reach
      (fun r mem => silent r (List.mem_append_left _ mem)) hm).2
    have reachM := run_append_eq_some.mpr ⟨s, reach, hm⟩
    exact (resting_scan reachM rest silent.append_right atRest).2.2
  · rintro before after m rfl hm stopped
    rcases run_append_eq_some.mp hrun with ⟨m', hm', rest⟩
    obtain rfl : m = m' := Option.some_inj.mp (hm.symm.trans hm')
    have reachM := run_append_eq_some.mpr ⟨s, reach, hm⟩
    have dark := dark_of_stopped reachM stopped
    have le := (resting_scan reachM rest silent.append_right dark.flag).2.2
    have reachT := run_append_eq_some.mpr ⟨m, reachM, rest⟩
    have low := (idle_sound reachT d).low
    refine ⟨dark, dark_of_brightness reachT ?_⟩
    have zero := dark.brightness
    simp only [read_brightness] at le zero ⊢
    omega

/-- A beacon heard once, its fade-in cut off by the first TTL tick. -/
theorem fade_out_bounded_beacon :
    ∃ s t, run (step flagApi) idle [.report (beacon 0 ⟨200, 0, 0, 0⟩)] = some s ∧
      run (step flagApi) s [.undimTick 0, .ttlTick 0, .ttlTick 0] = some t ∧
      (t.deviceTtlTimers 0).running = false ∧ Dark t 0 ∧
      [Event.undimTick 0, .ttlTick 0, .ttlTick 0].count (.ttlTick 0) ≤ 7 := by
  have whole : run (step flagApi) idle ([.report (beacon 0 ⟨200, 0, 0, 0⟩)] ++
      [.undimTick 0, .ttlTick 0, .ttlTick 0]) = some _ := rfl
  rcases run_append_eq_some.mp whole with ⟨s, reach, hrun⟩
  have bounded := fade_out_bounded (d := 0) reach hrun (by simp [Silent])
  exact ⟨s, _, reach, hrun, rfl, (bounded.2.2.2 _ [] _ (List.append_nil _).symm hrun rfl).2,
    bounded.1⟩

end ProximityLed.ColorScan.FadeOut
