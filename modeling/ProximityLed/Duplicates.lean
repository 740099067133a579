/- ProximityLed/Duplicates
   digest: A beacon heard again, before its device has ticked, changes neither device nor strip. -/

import ProximityLed.EndToEnd
import ProximityLed.ColorScan.Independence

set_option autoImplicit false
set_option relaxedAutoImplicit false

namespace ProximityLed.Duplicates

open PwmDriver (Color)
open Library.Timer
open Library.Run
open ColorScan (Scaling)
open ColorScan.Scaling
open ColorScan.Helpers
open ColorScan.Handlers
open ColorScan.DeviceView
open ColorScan.Startup
open ColorScan.Soundness (FlagScan)
open ColorScan.Independence (target forDevice_isSome)
open ColorScan.Strip (head_of_step)
open EndToEnd (Steady steady_step steady_boot)

/-- Brightness, flag and undim timer of a device agree so far that a fade-in begun at rest has not
ended with its first step. -/
structure InStep (x : Device (FlagTimer (Fin 2))) : Prop where
  fading : x.isUndimming = true → x.brightness < 100
  resting : x.isUndimming = false → x.brightness = 100 ∨ x.brightness < 90
  undim : x.undim.running = true → x.undim.created = true ∧ x.isUndimming = true

theorem InStep.low {x : Device (FlagTimer (Fin 2))} (h : InStep x) (rest : x.isUndimming = false)
    (below : x.brightness < 100) : x.brightness < 90 := by
  rcases h.resting rest with full | low
  · omega
  · exact low

theorem InStep.still {x : Device (FlagTimer (Fin 2))} (h : InStep x)
    (missing : x.undim.created = false) : x.undim.running = false := by
  by_contra going
  have created := (h.undim (by simpa using going)).1
  rw [missing] at created
  cases created

section Device

variable [Scaling] {d : Fin 2} {x y : Device (FlagTimer (Fin 2))} {c : Color}

private theorem inStep_dim (h : InStep x) : InStep (x.dim flagApi) := by
  have bound : x.brightness ≤ 100 := by
    cases flag : x.isUndimming with
    | true => exact (h.fading flag).le
    | false => rcases h.resting flag with full | low <;> omega
  have stopped : (flagApi.stop x.undim).running = false := by
    cases created : x.undim.created with
    | true => simp [flagApi, created, FlagTimer.running]
    | false => simpa [flagApi, created] using h.still created
  refine ⟨?_, fun _ => .inr ?_, ?_⟩
  · intro flag
    cases flag
  · show max 0 (x.brightness - 15) < 90
    omega
  · intro running
    change (flagApi.stop x.undim).running = true at running
    rw [stopped] at running
    cases running

private theorem inStep_brighten (h : InStep x) (running : x.undim.running = true) :
    InStep (x.brighten flagApi) := by
  obtain ⟨created, flag⟩ := h.undim running
  have below := h.fading flag
  by_cases full : min 100 (x.brightness + 10) = 100
  · simp only [Device.brighten, full, if_true]
    refine ⟨?_, fun _ => .inl rfl, ?_⟩
    · intro flag
      cases flag
    · intro running
      simp [flagApi, created, FlagTimer.running] at running
  · simp only [Device.brighten, if_neg full]
    refine ⟨?_, ?_, fun _ => ⟨created, flag⟩⟩
    · intro _
      show min 100 (x.brightness + 10) < 100
      omega
    · intro rest
      change x.isUndimming = false at rest
      rw [flag] at rest
      cases rest

private theorem inStep_advert (h : InStep x) : InStep (x.advert flagApi d c) := by
  rcases x.rests_or_busy with ⟨rest, below⟩ | busy
  · have low := h.low rest below
    rw [Device.advert_resting flagApi d c rest (by omega)]
    refine ⟨?_, ?_, fun running => ⟨?_, rfl⟩⟩
    · intro _
      show x.brightness + 10 < 100
      omega
    · intro rest
      cases rest
    · cases created : x.undim.created with
      | true => simp [flagApi, created]
      | false =>
        have going : x.undim.running = true := by simpa [flagApi, created] using running
        rw [h.still created] at going
        cases going
  · rw [Device.advert_busy flagApi d c busy]
    exact ⟨by simpa using h.fading, by simpa using h.resting, by simpa using h.undim⟩

theorem inStep_step (h : InStep x) {ev : DeviceEvent}
    (hstep : deviceStep flagApi d x ev = some y) : InStep y := by
  rcases deviceStep_cases hstep with ⟨c, _, rfl⟩ | ⟨_, _, rfl⟩ | ⟨_, running, rfl⟩
  · exact inStep_advert h
  · exact inStep_dim h
  · exact inStep_brighten h running

private theorem isSameColor_stored : isSameColor (x.store c).actualColor c = true := by
  unfold Device.store
  split
  · assumption
  · simp [isSameColor]

private theorem store_of_same (same : isSameColor x.actualColor c = true) : x.store c = x := by
  rw [Device.store, if_pos same]

omit [Scaling] in
private theorem restart_again (n : ℕ) (t : FlagTimer (Fin 2)) :
    flagApi.start n d (flagApi.stop (flagApi.start n d (flagApi.stop t))) =
      flagApi.start n d (flagApi.stop t) := by
  cases created : t.created <;> simp [flagApi, created]

private theorem advert_fixed (busy : x.isUndimming = true ∨ 100 ≤ x.brightness)
    (same : isSameColor x.actualColor c = true)
    (started : flagApi.start TTL_MS d (flagApi.stop x.ttl) = x.ttl) :
    x.advert flagApi d c = x := by
  rw [Device.advert_busy flagApi d c busy, store_of_same same, started]

/-- In a device in step, hearing a colour again is hearing it once. -/
theorem advert_again (h : InStep x) :
    (x.advert flagApi d c).advert flagApi d c = x.advert flagApi d c := by
  rcases x.rests_or_busy with ⟨rest, below⟩ | busy
  · have low := h.low rest below
    have same : isSameColor (x.store c).actualColor c = true := isSameColor_stored
    rw [Device.advert_resting flagApi d c rest (by omega)]
    exact advert_fixed (.inl rfl) same (restart_again _ _)
  · have busyStill : (x.store c).isUndimming = true ∨ 100 ≤ (x.store c).brightness := by
      simpa using busy
    have same : isSameColor (x.store c).actualColor c = true := isSameColor_stored
    rw [Device.advert_busy flagApi d c busy]
    exact advert_fixed busyStill same (restart_again _ _)

theorem run_adverts (h : InStep x) (n : ℕ) :
    run (deviceStep flagApi d) x (List.replicate (n + 1) (.advert c)) =
      some (x.advert flagApi d c) := by
  induction n with
  | zero => rfl
  | succ n ih =>
    rw [List.replicate_succ', run_append, ih]
    exact congrArg some (advert_again h)

end Device

private theorem inStep_congr {x y : Device (FlagTimer (Fin 2))} (h : InStep x)
    (brightness : y.brightness = x.brightness) (flag : y.isUndimming = x.isUndimming)
    (undim : y.undim = x.undim ∨ y.undim = flagApi.create x.undim) : InStep y := by
  refine ⟨?_, ?_, ?_⟩
  · rw [brightness, flag]
    exact h.fading
  · rw [brightness, flag]
    exact h.resting
  · intro running
    rcases undim with same | fresh
    · rw [same] at running ⊢
      rw [flag]
      exact h.undim running
    · rw [fresh] at running
      cases running

/-- From power-on, with reports and ticks between the statements of the startup or after them, the
devices stay in step. -/
theorem inStep_boot [Scaling] {es : List BootEvent} {b : Boot (FlagTimer (Fin 2))}
    (hrun : run (bootStep flagApi) (powerOn .blank) es = some b) (d : Fin 2) :
    InStep (device b.scan d) := by
  refine run_induction (P := fun _ m => ∀ d, InStep (device m.scan d)) ?_ ?_ hrun d
  · intro d
    refine ⟨?_, fun _ => .inr (show (0 : ℤ) < 90 by decide), ?_⟩
    · intro flag
      cases flag
    · intro running
      cases running
  · intro h e m m' hm inStep _ he d
    rcases bootStep_cases he with ⟨statement, rfl, _, rfl⟩ | ⟨ev, s, rfl, _, moved, rfl⟩
    · cases statement with
      | darkenAnimationColors =>
        apply inStep_congr (inStep d) <;> simp only [execute, device_setAnimationColor] <;>
          fin_cases d <;> simp
      | createTtlTimer c => apply inStep_congr (inStep d) <;> by_cases own : d = c <;>
          simp [execute, own]
      | createUndimTimer c => apply inStep_congr (inStep d) <;> by_cases own : d = c <;>
          simp [execute, own]
      | displayDarkness => simpa [execute] using inStep d
      | scanningStart | pwmInit | appTimerInit => exact inStep d
    · rcases step_device_cases (steady_boot hm).wired moved d with ⟨_, same⟩ | ⟨_, _, own⟩
      · show InStep (device s d)
        rw [same]
        exact inStep d
      · exact inStep_step (inStep d) own

section Runs

variable [Scaling] {s t : FlagScan} {d : Fin 2} {r : AdvReport} {es : List Event}

private theorem steady_device (steady : Steady s) (hrun : run (step flagApi) s es = some t)
    (d : Fin 2) :
    run (deviceStep flagApi d) (device s d) (es.filterMap (forDevice d)) = some (device t d) :=
  run_project (I := Steady) (fun m => device m d) (forDevice d)
    (fun _ _ _ hm he => steady_step hm he) (fun _ _ _ hm he => step_device hm.wired he d)
    steady hrun

omit [Scaling] in
private theorem adverts_of_repeated (accepted : r.acceptedFor = some d) (heard : .report r ∈ es)
    (others : ∀ e ∈ es, e = .report r ∨ target e ≠ some d) :
    ∃ n, es.filterMap (forDevice d) = List.replicate (n + 1) (.advert r.advColor) := by
  have label : forDevice d (.report r) = some (.advert r.advColor) := by
    simp [forDevice, accepted]
  have all : ∀ ev ∈ es.filterMap (forDevice d), ev = .advert r.advColor := by
    intro ev mem
    rcases List.mem_filterMap.mp mem with ⟨e, he, own⟩
    rcases others e he with rfl | foreign
    · exact Option.some_inj.mp (own.symm.trans label)
    · exact absurd ((forDevice_isSome d e).mp (by rw [own]; rfl)) foreign
  have some : 0 < (es.filterMap (forDevice d)).length :=
    List.length_pos_of_mem (List.mem_filterMap.mpr ⟨_, heard, label⟩)
  refine ⟨(es.filterMap (forDevice d)).length - 1, ?_⟩
  rw [Nat.sub_add_cancel some]
  exact List.eq_replicate_of_mem all

private theorem frame_kept {m : FlagScan} (h : step flagApi m (.report r) = some t)
    (accepted : r.acceptedFor = some d)
    (same : (device t d).advert flagApi d r.advColor = device t d) :
    (bleEvtAdvReport flagApi t r).pwm.played.head? = t.pwm.played.head? := by
  have refreshed : refreshes (.report r) = true := by simp [refreshes, accepted]
  have again : step flagApi t (.report r) = some (bleEvtAdvReport flagApi t r) := rfl
  have colors : (bleEvtAdvReport flagApi t r).animationColors = t.animationColors := by
    funext e
    rw [read_animationColors, device_bleEvtAdvReport]
    by_cases own : r.acceptedFor = some e
    · obtain rfl : d = e := Option.some_inj.mp (accepted.symm.trans own)
      rw [if_pos own, same]
      rfl
    · rw [if_neg own]
      rfl
  rw [head_of_step again refreshed, head_of_step h refreshed, colors]

end Runs

/-- From every state that the startup and events lead to, in any order: when a device hears one
report any number of times and has no tick and no other report in between, whatever the other
device does, it ends as after hearing that report once.  Handled again at once, the report leaves
the frame on the strip as it is. -/
theorem duplicates_ignored [Scaling] {pre : List BootEvent} {b : Boot (FlagTimer (Fin 2))}
    (reach : run (bootStep flagApi) (powerOn .blank) pre = some b) {d : Fin 2} {r : AdvReport}
    (accepted : r.acceptedFor = some d) {es : List Event} {t : FlagScan}
    (hrun : run (step flagApi) b.scan es = some t) (heard : .report r ∈ es)
    (others : ∀ e ∈ es, e = .report r ∨ target e ≠ some d) :
    device t d = device (bleEvtAdvReport flagApi b.scan r) d ∧
      ∀ before, es = before ++ [.report r] →
        (bleEvtAdvReport flagApi t r).pwm.played.head? = t.pwm.played.head? := by
  have inStep := inStep_boot reach d
  have own := steady_device (steady_boot reach) hrun d
  rcases adverts_of_repeated accepted heard others with ⟨n, adverts⟩
  rw [adverts, run_adverts inStep n] at own
  have once : device t d = (device b.scan d).advert flagApi d r.advColor :=
    (Option.some_inj.mp own).symm
  refine ⟨?_, ?_⟩
  · rw [once, device_bleEvtAdvReport, if_pos accepted]
  · intro before split
    rw [split] at hrun
    rcases run_append_eq_some.mp hrun with ⟨m, _, last⟩
    rw [run_singleton] at last
    apply frame_kept last accepted
    rw [once, advert_again inStep]

/-- A beacon heard three times during its fade-in, with the other beacon heard in between. -/
theorem duplicates_ignored_beacon :
    ∃ b t, run (bootStep flagApi) (powerOn .blank) (startup.map .main ++
        [.event (.report (beacon 0 ⟨200, 0, 0, 0⟩)), .event (.undimTick 0)]) = some b ∧
      run (step flagApi) b.scan [.report (beacon 0 ⟨0, 90, 0, 0⟩),
        .report (beacon 1 ⟨0, 0, 80, 0⟩), .report (beacon 0 ⟨0, 90, 0, 0⟩),
        .report (beacon 0 ⟨0, 90, 0, 0⟩)] = some t ∧
      device t 0 = device (bleEvtAdvReport flagApi b.scan (beacon 0 ⟨0, 90, 0, 0⟩)) 0 ∧
      (t.animationState 0).brightness = 20 ∧
      (bleEvtAdvReport flagApi t (beacon 0 ⟨0, 90, 0, 0⟩)).pwm.played.head? =
        t.pwm.played.head? := by
  have reach : run (bootStep flagApi) (powerOn .blank) (startup.map .main ++
      [.event (.report (beacon 0 ⟨200, 0, 0, 0⟩)), .event (.undimTick 0)]) = some _ := rfl
  obtain ⟨same, frame⟩ := @duplicates_ignored _ _ _ reach 0 (beacon 0 ⟨0, 90, 0, 0⟩) (by decide)
    [.report (beacon 0 ⟨0, 90, 0, 0⟩), .report (beacon 1 ⟨0, 0, 80, 0⟩),
      .report (beacon 0 ⟨0, 90, 0, 0⟩), .report (beacon 0 ⟨0, 90, 0, 0⟩)] _ rfl (by simp)
    (by decide)
  exact ⟨_, _, reach, rfl, same, rfl, frame [_, _, _] rfl⟩

end ProximityLed.Duplicates
