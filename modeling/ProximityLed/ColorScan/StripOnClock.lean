/- ProximityLed/ColorScan/StripOnClock
   digest: What the strip shows of two beacons, from when they were heard and how often since. -/

import ProximityLed.ColorScan.ClockFree
import ProximityLed.ColorScan.Strip

set_option autoImplicit false
set_option relaxedAutoImplicit false

namespace ProximityLed.ColorScan.StripOnClock

open PwmDriver (Color DARKNESS ledChannel)
open Library.Timer
open Library.Run
open Library.Clock
open Scaling
open Helpers
open Handlers
open DeviceView
open Startup
open Soundness
open Cache
open Presence
open ClockFree
open Strip

/-- How bright a device is by its adverts: near for nine undim periods at least, away for as many
TTL ticks as have come since its last advert, or never heard. -/
inductive Level (ticks : ℕ → ℕ) (d : Fin 2) (es : List (TimedEvent Event)) (z : Timed ClockScan) :
    ℤ → Prop
  | near {pre rest : List (TimedEvent Event)} {r : AdvReport} {t : Timed ClockScan}
      (whole : es = (pre ++ [.act (.report r)]) ++ rest) (accepted : r.acceptedFor = some d)
      (heard : run (timedStep ticks) (timedIdle ticks) (pre ++ [.act (.report r)]) = some t)
      (spaced : Spaced (ticks TTL_MS) t.now (instants (heardBy d) t.now rest ++ [z.now]))
      (late : t.now + 9 * ticks ANIMATION_MS < z.now) : Level ticks d es z 100
  | leaving {pre rest : List (TimedEvent Event)} {r : AdvReport}
      (whole : es = (pre ++ [.act (.report r)]) ++ rest) (accepted : r.acceptedFor = some d)
      (unheard : ∀ e, .act e ∈ rest → heardBy d e = false)
      (ticked : 0 < rest.count (.act (.ttlTick d))) :
      Level ticks d es z (max 0 (100 - 15 * (rest.count (.act (.ttlTick d)) : ℤ)))
  | never (unheard : ∀ e, .act e ∈ es → heardBy d e = false) : Level ticks d es z 0

section Runs

variable {ticks : ℕ → ℕ} {es : List (TimedEvent Event)} {e : Event} {x y z : Timed ClockScan}
  {d : Fin 2}

private theorem head_of_timedStep (h : timedStep ticks x (.act e) = some y)
    (refreshed : refreshes e = true) :
    y.state.pwm.played.head? =
      some (colorFrame (calculateCombinedColor y.state.animationColors)) := by
  obtain ⟨s, moved, rfl⟩ := Option.map_eq_some_iff.mp h
  obtain ⟨s', _, handled⟩ := Option.bind_eq_some_iff.mp moved
  exact head_of_step handled refreshed

private theorem part_of_run (hrun : run (timedStep ticks) (timedIdle ticks) es = some z) (d : Fin 2)
    (ch : PwmDriver.Channel) : (z.state.animationColors d).channel ch =
      scaleFloat ((advertisedColor d (es.filterMap TimedEvent.happening)).channel ch)
        (z.state.animationState d).brightness := by
  obtain ⟨_, cached, stored⟩ := timed_agreement hrun d
  rw [← stored]
  exact cached.channel_eq ch

private theorem advertisedColor_of_unheard (unheard : ∀ e, .act e ∈ es → heardBy d e = false) :
    advertisedColor d (es.filterMap TimedEvent.happening) = DARKNESS := by
  have none_accepted : acceptedReports d (es.filterMap TimedEvent.happening) = [] := by
    rw [acceptedReports, List.filterMap_eq_nil_iff]
    intro e mem
    obtain ⟨timed, here, happens⟩ := List.mem_filterMap.mp mem
    cases timed with
    | delay n => cases happens
    | act e' =>
      obtain rfl := Option.some_inj.mp happens
      have other := unheard e' here
      cases e' with
      | report r => simpa [heardBy] using other
      | ttlTick c => rfl
      | undimTick c => rfl
  rw [advertisedColor, none_accepted]
  rfl

variable (pos : 0 < ticks TTL_MS) (fast : 10 * ticks ANIMATION_MS ≤ ticks TTL_MS)

include pos fast

private theorem part_of_level {b : ℤ} (hrun : run (timedStep ticks) (timedIdle ticks) es = some z)
    (level : Level ticks d es z b) (ch : PwmDriver.Channel) :
    (((z.state.animationColors d).channel ch).toNat : ℤ) =
      ((advertisedColor d (es.filterMap TimedEvent.happening)).channel ch).toNat * b / 100 := by
  rw [part_of_run hrun]
  have leaving (k : ℕ) := toNat_scaleFloat_leaving
    ((advertisedColor d (es.filterMap TimedEvent.happening)).channel ch) k
  cases level with
  | @near pre rest r t whole accepted heard spaced late =>
    rw [whole] at hrun
    obtain ⟨m, reached, after⟩ := run_append_eq_some.mp hrun
    obtain rfl : t = m := Option.some_inj.mp (heard.symm.trans reached)
    have full := (present pos fast heard accepted (run_nil _ t) after spaced).2 late.le
      fun same => absurd same late.ne
    rw [full]
    exact leaving 0
  | @leaving pre rest r whole accepted unheard ticked =>
    rw [whole] at hrun
    obtain ⟨t, heard, after⟩ := run_append_eq_some.mp hrun
    have inPhase := inPhase_run pos fast (inPhase_run pos fast (inPhase_idle _ _) heard) after
    have away := absent_device inPhase (absent pos fast heard accepted after unheard)
    have level : ((max 0 (100 - 15 * rest.count (.act (.ttlTick d))) : ℕ) : ℤ) =
        max 0 (100 - 15 * (rest.count (.act (.ttlTick d)) : ℤ)) := by omega
    rw [away.2.1 ticked, level]
    exact leaving _
  | never unheard =>
    rw [advertisedColor_of_unheard unheard]
    cases ch <;> simp [scaleFloat, DARKNESS, Color.channel]

/-- Whatever is heard of two beacons, and whenever: after an event that refreshes the strip, each of
its LEDs shows their two colours as last heard, added up and no more than 255 on a channel.  A
beacon near for nine undim periods adds all of its colour; one that is gone adds 15 hundredths less
with each TTL tick, and nothing from the seventh on; and one never heard adds nothing. -/
theorem strip_follows_presence (hrun : run (timedStep ticks) (timedIdle ticks) es = some z)
    (last : es.getLast? = some (.act e)) (refreshed : refreshes e = true) {b : Fin 2 → ℤ}
    (levels : ∀ d, Level ticks d es z (b d)) :
    ∃ f, z.state.pwm.played.head? = some f ∧ ∀ led < 30, ∀ ch, ∃ n : ℕ,
      ledChannel f led ch = some n ∧ (n : ℤ) = min 255
        (((advertisedColor 0 (es.filterMap TimedEvent.happening)).channel ch).toNat * b 0 / 100 +
          ((advertisedColor 1 (es.filterMap TimedEvent.happening)).channel ch).toNat * b 1 / 100) := by
  obtain ⟨before, whole⟩ := List.getLast?_eq_some_iff.mp last
  have ends := hrun
  rw [whole] at ends
  obtain ⟨m, _, ends⟩ := run_append_eq_some.mp ends
  rw [run_singleton] at ends
  refine ⟨_, head_of_timedStep ends refreshed, fun led driven ch => ⟨_,
    ledChannel_colorFrame _ driven ch, ?_⟩⟩
  rw [toNat_combined_channel, ← part_of_level pos fast hrun (levels 0),
    ← part_of_level pos fast hrun (levels 1)]
  push_cast
  rfl

end Runs

/-- What follows the first report of a green beacon: its fade-in, and the next report. -/
def stays : List (TimedEvent Event) :=
  (List.replicate 9 (undimPeriod device1)).flatten ++
    [.delay 50, .act (.report (beacon device1 ⟨200, 0, 0, 0⟩))]

theorem strip_follows_presence_green : ∃ z f,
    run (timedStep id) (timedIdle id)
        (([] ++ [.act (.report (beacon 0 ⟨200, 0, 0, 0⟩))]) ++ stays) = some z ∧
      z.state.pwm.played.head? = some f ∧
      ∀ led < 30, ∃ n : ℕ, ledChannel f led .green = some n ∧ (n : ℤ) = min 255 200 := by
  obtain ⟨t, heard, start⟩ : ∃ t, run (timedStep id) (timedIdle id)
    ([] ++ [.act (.report (beacon 0 ⟨200, 0, 0, 0⟩))]) = some t ∧ t.now = 0 := ⟨_, rfl, rfl⟩
  obtain ⟨z, hrun, now⟩ : ∃ z, run (timedStep id) (timedIdle id)
    (([] ++ [.act (.report (beacon 0 ⟨200, 0, 0, 0⟩))]) ++ stays) = some z ∧ z.now = 950 :=
      ⟨_, rfl, rfl⟩
  have green : Level id 0 (([] ++ [.act (.report (beacon 0 ⟨200, 0, 0, 0⟩))]) ++ stays) z 100 := by
    have spaced : Spaced 1500 0 (instants (heardBy 0) 0 stays ++ [950]) := by
      unfold Spaced
      decide
    refine .near rfl (by decide) heard ?_ ?_
    · rw [start, now]
      exact spaced
    · rw [start, now]
      decide
  have dark : Level id 1 (([] ++ [.act (.report (beacon 0 ⟨200, 0, 0, 0⟩))]) ++ stays) z 0 := by
    have other : (beacon 0 ⟨200, 0, 0, 0⟩).acceptedFor ≠ some 1 := by decide
    apply Level.never
    simp [stays, undimPeriod, heardBy, other]
  have levels : ∀ d, Level id d (([] ++ [.act (.report (beacon 0 ⟨200, 0, 0, 0⟩))]) ++ stays) z
      (if d = 0 then 100 else 0) := by
    intro d
    fin_cases d
    · exact green
    · exact dark
  obtain ⟨f, played, shown⟩ := strip_follows_presence (by decide) (by decide) hrun rfl rfl levels
  exact ⟨z, f, hrun, played, fun led driven => shown led driven .green⟩

end ProximityLed.ColorScan.StripOnClock
