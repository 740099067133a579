/- ProximityLed/ColorScan/Presence
   digest: The scanner on a clock, its refinement of the phases, and presence and absence. -/

import ProximityLed.ColorScan.Startup
import ProximityLed.ColorScan.Phases

set_option autoImplicit false
set_option relaxedAutoImplicit false

namespace ProximityLed.ColorScan.Presence

open PwmDriver (Color)
open Library.Timer
open Library.Run
open Library.Clock
open Helpers
open Handlers
open DeviceView
open Startup
open Phases

abbrev ClockScan := Scan (ClockTimer (Fin 2))

/-- The timer behind a tick is due, and reloads before its handler runs. -/
def expire (now : ℕ) (s : ClockScan) : Event → Option ClockScan
  | .report _ => some s
  | .ttlTick d =>
    if (s.deviceTtlTimers d).dueAt now then some (s.onTtlTimer d ClockTimer.reload) else none
  | .undimTick d =>
    if (s.deviceUndimTimers d).dueAt now then some (s.onUndimTimer d ClockTimer.reload) else none

def QuietUntil (s : ClockScan) (n : ℕ) : Prop :=
  ∀ d, (s.deviceTtlTimers d).quietUntil n ∧ (s.deviceUndimTimers d).quietUntil n

instance (s : ClockScan) (n : ℕ) : Decidable (QuietUntil s n) :=
  inferInstanceAs (Decidable (∀ d : Fin 2,
    (s.deviceTtlTimers d).quietUntil n ∧ (s.deviceUndimTimers d).quietUntil n))

/-- Time passes up to the next instant a timer is due, and a tick is delivered at that instant.
Each period of the program lasts `ticks` of it. -/
def timedStep [Scaling] (ticks : ℕ → ℕ) (x : Timed ClockScan) :
    TimedEvent Event → Option (Timed ClockScan)
  | .delay n => if QuietUntil x.state (x.now + n) then some ⟨x.now + n, x.state⟩ else none
  | .act e => ((expire x.now x.state e).bind fun s => step (clockApi ticks x.now) s e).map
      fun s => ⟨x.now, s⟩

def timedIdle (ticks : ℕ → ℕ) : Timed ClockScan := ⟨0, afterStartup (clockApi ticks 0) ⟨false, none⟩⟩

abbrev ClockDevice := Device (ClockTimer (Fin 2))

def phase (x : ClockDevice) : Phase :=
  match x.ttl.alarm, x.undim.alarm with
  | none, _ => .dark
  | some v, none => .resting x.brightness v.due
  | some v, some u => .rising x.brightness u.due v.due

/-- The device is what its phase says, with its timers set to the periods `p` and `q`. -/
def Embodies (p q : ℕ) (d : Fin 2) (x : ClockDevice) : Phase → Prop
  | .dark => x.brightness = 0 ∧ x.isUndimming = false ∧ x.ttl = ⟨true, none⟩ ∧ x.undim = ⟨true, none⟩
  | .rising b u v => x.brightness = b ∧ x.isUndimming = true ∧ x.ttl = ⟨true, some ⟨d, v, q⟩⟩ ∧
      x.undim = ⟨true, some ⟨d, u, p⟩⟩
  | .resting b v => x.brightness = b ∧ x.isUndimming = false ∧ x.ttl = ⟨true, some ⟨d, v, q⟩⟩ ∧
      x.undim = ⟨true, none⟩

def deviceExpire (now : ℕ) (x : ClockDevice) : DeviceEvent → Option ClockDevice
  | .advert _ => some x
  | .ttlTick => if x.ttl.dueAt now then some { x with ttl := x.ttl.reload } else none
  | .undimTick => if x.undim.dueAt now then some { x with undim := x.undim.reload } else none

def meaning : DeviceEvent → Signal
  | .advert _ => .advert
  | .ttlTick => .ttlTick
  | .undimTick => .undimTick

section Device

variable {p q now : ℕ} {d : Fin 2} {x y : ClockDevice} {ph : Phase}

private theorem Embodies.phase_eq (h : Embodies p q d x ph) : phase x = ph := by
  cases ph with
  | dark =>
    obtain ⟨_, _, ttl, _⟩ := h
    simp only [phase, ttl]
  | rising b u v =>
    obtain ⟨bright, _, ttl, undim⟩ := h
    simp only [phase, ttl, undim, bright]
  | resting b v =>
    obtain ⟨bright, _, ttl, undim⟩ := h
    simp only [phase, ttl, undim, bright]

private theorem Embodies.brightness_eq (h : Embodies p q d x ph) :
    ph.brightness = x.brightness := by
  cases ph <;> exact h.1.symm

theorem Embodies.wired {ticks : ℕ → ℕ} (h : Embodies p q d x ph) : Wired (clockApi ticks now)
    d x := by
  cases ph <;> obtain ⟨_, _, ttl, undim⟩ := h <;> simp [Wired, clockApi, ttl, undim]

private theorem Embodies.expire_isSome (h : Embodies p q d x ph) (ev : DeviceEvent) :
    (deviceExpire now x ev).isSome = (ph.signal p q now (meaning ev)).isSome := by
  cases ph <;> obtain ⟨_, _, ttl, undim⟩ := h <;> cases ev <;>
    simp [deviceExpire, meaning, Phase.signal, ClockTimer.dueAt, ttl, undim] <;> split <;> rfl

end Device

section Refinement

variable [Scaling] {ticks : ℕ → ℕ} {now : ℕ} {d : Fin 2} {x x' y : ClockDevice} {ph : Phase}

private theorem embodies_advert (c : Color)
    (h : Embodies (ticks ANIMATION_MS) (ticks TTL_MS) d x ph)
    (deadlines : Deadlines (ticks ANIMATION_MS) (ticks TTL_MS) now ph) :
    Embodies (ticks ANIMATION_MS) (ticks TTL_MS) d (x.advert (clockApi ticks now) d c)
      (ph.advert (ticks ANIMATION_MS) (ticks TTL_MS) now) := by
  cases ph with
  | dark =>
    obtain ⟨out, flag, ttl, undim⟩ := h
    rw [Device.advert_resting _ d c flag (by rw [out]; decide)]
    refine ⟨?_, rfl, ?_, ?_⟩
    · simp [out]
    · simp [clockApi, ttl]
    · simp [clockApi, undim]
  | rising b u v =>
    obtain ⟨bright, flag, ttl, undim⟩ := h
    rw [Device.advert_busy _ d c (.inl flag)]
    refine ⟨?_, ?_, ?_, ?_⟩
    · simpa using bright
    · simpa using flag
    · simp [clockApi, ttl]
    · simpa using undim
  | resting b v =>
    obtain ⟨bright, flag, ttl, undim⟩ := h
    obtain ⟨lit, gap, _, _⟩ := deadlines
    rw [Phase.advert]
    split
    · rw [Device.advert_resting _ d c flag (by omega)]
      refine ⟨?_, rfl, ?_, ?_⟩
      · simp [bright]
      · simp [clockApi, ttl]
      · simp [clockApi, undim]
    · rw [Device.advert_busy _ d c (.inr (by omega))]
      refine ⟨?_, ?_, ?_, ?_⟩
      · simpa using bright
      · simpa using flag
      · simp [clockApi, ttl]
      · simpa using undim

private theorem embodies_dim {b : ℤ}
    (h : Embodies (ticks ANIMATION_MS) (ticks TTL_MS) d x (.resting b now)) :
    Embodies (ticks ANIMATION_MS) (ticks TTL_MS) d
      (Device.dim (clockApi ticks now) { x with ttl := x.ttl.reload })
      (Phase.fall (ticks TTL_MS) now b) := by
  obtain ⟨bright, _, ttl, undim⟩ := h
  unfold Phase.fall
  split
  · have out : max 0 (x.brightness - 15) = 0 := by omega
    refine ⟨?_, rfl, ?_, ?_⟩
    · exact out
    · simp [Device.dim, out, clockApi, ttl, ClockTimer.reload]
    · simp [Device.dim, clockApi, undim]
  · have left : max 0 (x.brightness - 15) = b - 15 := by omega
    have lit : b - 15 ≠ 0 := by omega
    refine ⟨?_, rfl, ?_, ?_⟩
    · exact left
    · simp [Device.dim, left, lit, ttl, ClockTimer.reload]
    · simp [Device.dim, clockApi, undim]

private theorem embodies_brighten {b : ℤ} {v : ℕ} (below : b < 100)
    (h : Embodies (ticks ANIMATION_MS) (ticks TTL_MS) d x (.rising b now v)) :
    Embodies (ticks ANIMATION_MS) (ticks TTL_MS) d
      (Device.brighten (clockApi ticks now) { x with undim := x.undim.reload })
      (Phase.climb (ticks ANIMATION_MS) now b v) := by
  obtain ⟨bright, flag, ttl, undim⟩ := h
  unfold Phase.climb
  split
  · have full : min 100 (x.brightness + 10) = 100 := by omega
    refine ⟨full, ?_, ttl, ?_⟩
    · simp [Device.brighten, full]
    · simp [Device.brighten, full, clockApi, undim, ClockTimer.reload]
  · have up : min 100 (x.brightness + 10) = b + 10 := by omega
    have notFull : b + 10 ≠ 100 := by omega
    refine ⟨up, ?_, ttl, ?_⟩
    · simp [Device.brighten, up, notFull, flag]
    · simp [Device.brighten, up, notFull, undim, ClockTimer.reload]

/-- One event of a device, its timer expired first, is one signal of its phase. -/
theorem device_refines {ev : DeviceEvent}
    (h : Embodies (ticks ANIMATION_MS) (ticks TTL_MS) d x ph)
    (deadlines : Deadlines (ticks ANIMATION_MS) (ticks TTL_MS) now ph)
    (expired : deviceExpire now x ev = some x')
    (moved : deviceStep (clockApi ticks now) d x' ev = some y) :
    ∃ ph', ph.signal (ticks ANIMATION_MS) (ticks TTL_MS) now (meaning ev) = some ph' ∧
      Embodies (ticks ANIMATION_MS) (ticks TTL_MS) d y ph' := by
  have due : (deviceExpire now x ev).isSome =
      (ph.signal (ticks ANIMATION_MS) (ticks TTL_MS) now (meaning ev)).isSome := h.expire_isSome ev
  rw [expired] at due
  rcases Option.isSome_iff_exists.mp due.symm with ⟨ph', signal⟩
  refine ⟨ph', signal, ?_⟩
  have stepped : phaseStep (ticks ANIMATION_MS) (ticks TTL_MS) ⟨now, ph⟩ (.act (meaning ev)) =
      some ⟨now, ph'⟩ := by
    simp [phaseStep, signal]
  cases ev with
  | advert c =>
    obtain rfl : x = x' := by simpa [deviceExpire] using expired
    obtain rfl : x.advert (clockApi ticks now) d c = y := by simpa [deviceStep] using moved
    obtain rfl : ph.advert _ _ now = ph' := by simpa [meaning, Phase.signal] using signal
    exact embodies_advert c h deadlines
  | ttlTick =>
    simp only [deviceExpire, Option.ite_none_right_eq_some, Option.some.injEq] at expired
    simp only [deviceStep, Option.ite_none_right_eq_some, Option.some.injEq] at moved
    rcases expired with ⟨_, rfl⟩
    rcases moved with ⟨_, rfl⟩
    rcases phaseStep_cases stepped with ⟨_, e, _⟩ | ⟨e, _⟩ | ⟨b, u, _, rfl, _⟩ |
      ⟨b, _, rfl, after⟩ | ⟨_, _, e, _⟩
    · cases e
    · cases e
    · exact absurd deadlines Deadlines.no_tick_rising
    · obtain rfl : ph' = Phase.fall _ now b := congrArg Timed.state after
      exact embodies_dim h
    · cases e
  | undimTick =>
    simp only [deviceExpire, Option.ite_none_right_eq_some, Option.some.injEq] at expired
    simp only [deviceStep, Option.ite_none_right_eq_some, Option.some.injEq] at moved
    rcases expired with ⟨_, rfl⟩
    rcases moved with ⟨_, rfl⟩
    rcases phaseStep_cases stepped with ⟨_, e, _⟩ | ⟨e, _⟩ | ⟨_, _, e, _⟩ | ⟨_, e, _⟩ |
      ⟨b, v, _, rfl, after⟩
    · cases e
    · cases e
    · cases e
    · cases e
    · obtain rfl : ph' = Phase.climb _ now b v := congrArg Timed.state after
      exact embodies_brighten deadlines.2.1 h

end Refinement

def signalOf (d : Fin 2) (e : Event) : Option Signal := (forDevice d e).map meaning

/-- A device in the phase its timers show, within the deadlines of that phase. -/
structure InPhase (p q : ℕ) (x : Timed ClockScan) (d : Fin 2) : Prop where
  embodies : Embodies p q d (device x.state d) (phase (device x.state d))
  deadlines : Deadlines p q x.now (phase (device x.state d))

def phaseView (d : Fin 2) (x : Timed ClockScan) : Timed Phase := ⟨x.now, phase (device x.state d)⟩

section Scanner

variable {ticks : ℕ → ℕ} {now : ℕ} {s s' : ClockScan} {e : Event}

private theorem expire_device (h : expire now s e = some s') (d : Fin 2) :
    match forDevice d e with
    | none => device s' d = device s d
    | some ev => deviceExpire now (device s d) ev = some (device s' d) := by
  cases e with
  | report r =>
    obtain rfl : s = s' := by simpa [expire] using h
    by_cases accepted : r.acceptedFor = some d <;> simp [forDevice, accepted, deviceExpire]
  | ttlTick c =>
    simp only [expire, Option.ite_none_right_eq_some, Option.some.injEq] at h
    rcases h with ⟨due, rfl⟩
    by_cases own : c = d
    · subst own
      simpa [forDevice, deviceExpire] using due
    · simp [forDevice, own, Ne.symm own]
  | undimTick c =>
    simp only [expire, Option.ite_none_right_eq_some, Option.some.injEq] at h
    rcases h with ⟨due, rfl⟩
    by_cases own : c = d
    · subst own
      simpa [forDevice, deviceExpire] using due
    · simp [forDevice, own, Ne.symm own]

private theorem wired_expire {d : Fin 2} (wired : Wired (clockApi ticks now) d (device s d))
    (h : expire now s e = some s') : Wired (clockApi ticks now) d (device s' d) := by
  have reloads (t : ClockTimer (Fin 2)) :
      (clockApi ticks now).armed t.reload = (clockApi ticks now).armed t := by
    simp [clockApi, ClockTimer.reload, Function.comp_def]
  have own := expire_device h d
  cases label : forDevice d e with
  | none =>
    rw [label] at own
    exact own ▸ wired
  | some ev =>
    rw [label] at own
    cases ev with
    | advert c =>
      have same : device s d = device s' d := Option.some_inj.mp own
      exact same ▸ wired
    | ttlTick =>
      simp only [deviceExpire, Option.ite_none_right_eq_some, Option.some.injEq] at own
      rw [← own.2]
      refine ⟨?_, wired.2⟩
      rw [reloads]
      exact wired.1
    | undimTick =>
      simp only [deviceExpire, Option.ite_none_right_eq_some, Option.some.injEq] at own
      rw [← own.2]
      refine ⟨wired.1, ?_⟩
      rw [reloads]
      exact wired.2

theorem Embodies.quiet {p q n : ℕ} {d : Fin 2} {x : ClockDevice} {ph : Phase}
    (h : Embodies p q d x ph) (quiet : x.ttl.quietUntil n ∧ x.undim.quietUntil n) :
    ph.QuietUntil n := by
  obtain ⟨ttl, undim⟩ := quiet
  cases ph with
  | dark => trivial
  | rising b u v =>
    obtain ⟨_, _, ttlTimer, undimTimer⟩ := h
    exact ⟨undim _ (by rw [undimTimer]; rfl), ttl _ (by rw [ttlTimer]; rfl)⟩
  | resting b v =>
    obtain ⟨_, _, ttlTimer, _⟩ := h
    exact ttl _ (by rw [ttlTimer]; rfl)

variable [Scaling] {x y : Timed ClockScan} {ev : TimedEvent Event} {d : Fin 2}

/-- One timed event is, for the phase of each device, one step of its own or none. -/
theorem step_refines (inPhase : ∀ d, InPhase (ticks ANIMATION_MS) (ticks TTL_MS) x d)
    (hstep : timedStep ticks x ev = some y) (d : Fin 2) :
    run (phaseStep (ticks ANIMATION_MS) (ticks TTL_MS)) (phaseView d x)
        (ev.label (signalOf d)).toList = some (phaseView d y) ∧
      Embodies (ticks ANIMATION_MS) (ticks TTL_MS) d (device y.state d)
        (phase (device y.state d)) := by
  obtain ⟨embodies, deadlines⟩ := inPhase d
  cases ev with
  | delay n =>
    simp only [timedStep, Option.ite_none_right_eq_some, Option.some.injEq] at hstep
    rcases hstep with ⟨quiet, rfl⟩
    refine ⟨?_, embodies⟩
    show run _ _ [TimedEvent.delay n] = _
    rw [run_singleton]
    exact if_pos (embodies.quiet (quiet d))
  | act e =>
    rcases Option.map_eq_some_iff.mp hstep with ⟨s, moved, rfl⟩
    rcases Option.bind_eq_some_iff.mp moved with ⟨s', expired, handled⟩
    have own := expire_device expired d
    have stepped := step_device
      (fun c => wired_expire (inPhase c).embodies.wired expired) handled d
    cases label : forDevice d e with
    | none =>
      rw [label] at own stepped
      have same : device s d = device x.state d := by
        rw [← own]
        exact (Option.some_inj.mp stepped).symm
      refine ⟨?_, ?_⟩
      · simp [TimedEvent.label, signalOf, label, phaseView, same]
      · simpa [same] using embodies
    | some de =>
      rw [label] at own stepped
      rw [Option.toList_some, run_singleton] at stepped
      obtain ⟨ph, signal, next⟩ := device_refines embodies deadlines own stepped
      have reached : phase (device s d) = ph := next.phase_eq
      refine ⟨?_, by rw [reached]; exact next⟩
      simp [TimedEvent.label, signalOf, label, phaseView, reached, phaseStep, signal]

section Law

variable (pos : 0 < ticks TTL_MS) (fast : 10 * ticks ANIMATION_MS ≤ ticks TTL_MS)

include pos fast

theorem inPhase_step (inPhase : ∀ d, InPhase (ticks ANIMATION_MS) (ticks TTL_MS) x d)
    (hstep : timedStep ticks x ev = some y) (d : Fin 2) :
    InPhase (ticks ANIMATION_MS) (ticks TTL_MS) y d := by
  obtain ⟨moved, embodies⟩ := step_refines inPhase hstep d
  exact ⟨embodies, deadlines_run pos fast (x := phaseView d x) (inPhase d).deadlines moved⟩

variable {es : List (TimedEvent Event)}

theorem inPhase_run (inPhase : ∀ d, InPhase (ticks ANIMATION_MS) (ticks TTL_MS) x d)
    (hrun : run (timedStep ticks) x es = some y) :
    ∀ d, InPhase (ticks ANIMATION_MS) (ticks TTL_MS) y d :=
  run_invariant (I := fun m => ∀ d, InPhase _ _ m d)
    (fun _ _ _ _ hm he => inPhase_step pos fast hm he) inPhase hrun

theorem run_refines (inPhase : ∀ d, InPhase (ticks ANIMATION_MS) (ticks TTL_MS) x d)
    (hrun : run (timedStep ticks) x es = some y) (d : Fin 2) :
    run (phaseStep (ticks ANIMATION_MS) (ticks TTL_MS)) (phaseView d x)
      (es.filterMap (TimedEvent.label (signalOf d))) = some (phaseView d y) :=
  run_project (I := fun m => ∀ d, InPhase (ticks ANIMATION_MS) (ticks TTL_MS) m d) (phaseView d)
    (TimedEvent.label (signalOf d)) (fun _ _ _ hm he => inPhase_step pos fast hm he)
    (fun _ _ _ hm he => (step_refines hm he d).1) inPhase hrun

end Law

end Scanner

/-- The event can happen at this instant; for a tick, that it is due. -/
def Due [Scaling] (ticks : ℕ → ℕ) (x : Timed ClockScan) (e : Event) : Prop :=
  (timedStep ticks x (.act e)).isSome = true

def heardBy (d : Fin 2) : Event → Bool
  | .report r => r.acceptedFor == some d
  | _ => false

section Labels

variable (d : Fin 2) (now : ℕ) (es : List (TimedEvent Event))

private theorem instants_heardBy :
    instants Signal.isAdvert now (es.filterMap (TimedEvent.label (signalOf d))) =
      instants (heardBy d) now es := by
  rw [instants_label]
  congr 1
  funext e
  cases e with
  | report r =>
    by_cases accepted : r.acceptedFor = some d <;>
      simp [signalOf, forDevice, accepted, heardBy, meaning, Signal.isAdvert]
  | ttlTick c | undimTick c =>
    by_cases own : c = d <;> simp [signalOf, forDevice, own, heardBy, meaning, Signal.isAdvert]

private theorem signalOf_eq_ttlTick (e : Event) :
    signalOf d e = some .ttlTick ↔ e = .ttlTick d := by
  cases e with
  | report r =>
    by_cases accepted : r.acceptedFor = some d <;> simp [signalOf, forDevice, accepted, meaning]
  | ttlTick c | undimTick c =>
    by_cases own : c = d <;> simp [signalOf, forDevice, own, meaning]

private theorem count_label_ttlTick :
    (es.filterMap (TimedEvent.label (signalOf d))).count (.act .ttlTick) =
      es.count (.act (.ttlTick d)) := by
  rw [List.count, List.count, List.countP_filterMap]
  congr 1
  funext e
  cases e with
  | delay n => simp [TimedEvent.label]
  | act e =>
    have own := signalOf_eq_ttlTick d e
    cases h : signalOf d e with
    | none =>
      have other : e ≠ .ttlTick d := by simpa [h] using own
      simp [TimedEvent.label, h, other]
    | some sig =>
      rw [h, Option.some.injEq] at own
      simp [TimedEvent.label, h, own]

private theorem advert_label_heardBy
    (h : .act .advert ∈ es.filterMap (TimedEvent.label (signalOf d))) :
    ∃ e, .act e ∈ es ∧ heardBy d e = true := by
  rcases List.mem_filterMap.mp h with ⟨te, mem, label⟩
  cases te with
  | delay n => cases label
  | act e =>
    refine ⟨e, mem, ?_⟩
    cases e with
    | report r =>
      by_cases accepted : r.acceptedFor = some d
      · simpa [heardBy] using accepted
      · simp [TimedEvent.label, signalOf, forDevice, accepted] at label
    | ttlTick c | undimTick c =>
      by_cases own : c = d <;> simp [TimedEvent.label, signalOf, forDevice, own, meaning] at label

end Labels

section Due

variable {ticks : ℕ → ℕ} {x : Timed ClockScan} {d : Fin 2}

theorem inPhase_idle (p q : ℕ) (d : Fin 2) : InPhase p q (timedIdle ticks) d := by
  have dark : Embodies p q d (device (timedIdle ticks).state d) .dark := by
    rw [timedIdle, device_afterStartup]
    exact ⟨rfl, rfl, rfl, rfl⟩
  refine ⟨?_, ?_⟩ <;> rw [dark.phase_eq]
  · exact dark
  · trivial

variable [Scaling]

private theorem resting_of_due (inPhase : ∀ d, InPhase (ticks ANIMATION_MS) (ticks TTL_MS) x d)
    (due : Due ticks x (.ttlTick d)) :
    ∃ b, phase (device x.state d) = .resting b x.now := by
  rcases Option.isSome_iff_exists.mp due with ⟨y, hy⟩
  have moved := (step_refines inPhase hy d).1
  have label : (TimedEvent.act (Event.ttlTick d)).label (signalOf d) = some (.act .ttlTick) := by
    simp [TimedEvent.label, signalOf, forDevice, meaning]
  rw [label, Option.toList_some, run_singleton] at moved
  rcases phaseStep_cases moved with ⟨_, e, _⟩ | ⟨e, _⟩ | ⟨b, u, _, rising, _⟩ |
    ⟨b, _, resting, _⟩ | ⟨_, _, e, _⟩
  · cases e
  · cases e
  · have deadlines := (inPhase d).deadlines
    rw [rising] at deadlines
    exact absurd deadlines Deadlines.no_tick_rising
  · exact ⟨b, resting⟩
  · cases e

private theorem due_of_signal (inPhase : InPhase (ticks ANIMATION_MS) (ticks TTL_MS) x d)
    (signal : ((phase (device x.state d)).signal (ticks ANIMATION_MS) (ticks TTL_MS) x.now
      .undimTick).isSome = true) : Due ticks x (.undimTick d) := by
  have embodies := inPhase.embodies
  cases ph : phase (device x.state d) with
  | dark | resting b v =>
    rw [ph] at signal
    cases signal
  | rising b u v =>
    rw [ph] at signal embodies
    obtain ⟨_, _, _, undim⟩ := embodies
    have due : u = x.now := by
      by_contra other
      simp [Phase.signal, other] at signal
    simp [Due, timedStep, expire, step, clockApi, ClockTimer.dueAt, ClockTimer.reload, undim, due]

end Due

section AfterAdvert

variable {ticks : ℕ → ℕ} {d : Fin 2} {pre es fs : List (TimedEvent Event)} {r : AdvReport}
  {t m z : Timed ClockScan} (pos : 0 < ticks TTL_MS)
  (fast : 10 * ticks ANIMATION_MS ≤ ticks TTL_MS)

private theorem InPhase.brightness_eq {p q : ℕ} {x : Timed ClockScan} (h : InPhase p q x d) :
    (phase (device x.state d)).brightness = (x.state.animationState d).brightness :=
  h.embodies.brightness_eq

variable [Scaling]

include pos fast

private theorem phase_after_advert
    (heard : run (timedStep ticks) (timedIdle ticks) (pre ++ [.act (.report r)]) = some t)
    (accepted : r.acceptedFor = some d) :
    ∃ ph, Deadlines (ticks ANIMATION_MS) (ticks TTL_MS) t.now ph ∧
      phase (device t.state d) = ph.advert (ticks ANIMATION_MS) (ticks TTL_MS) t.now := by
  rcases run_append_eq_some.mp heard with ⟨m₀, reach, report⟩
  rw [run_singleton] at report
  have inPhase := inPhase_run pos fast (inPhase_idle _ _) reach
  have moved := (step_refines inPhase report d).1
  have label : (TimedEvent.act (Event.report r)).label (signalOf d) = some (.act .advert) := by
    simp [TimedEvent.label, signalOf, forDevice, meaning, accepted]
  rw [label, Option.toList_some, run_singleton] at moved
  rcases phaseStep_cases moved with ⟨_, e, _⟩ | ⟨_, after⟩ | ⟨_, _, e, _⟩ | ⟨_, e, _⟩ |
    ⟨_, _, e, _⟩
  · cases e
  · have now : (phaseView d t).now = m₀.now := congrArg Timed.now after
    change t.now = m₀.now at now
    rw [now]
    exact ⟨_, (inPhase d).deadlines, congrArg Timed.state after⟩
  · cases e
  · cases e
  · cases e

variable (heard : run (timedStep ticks) (timedIdle ticks) (pre ++ [.act (.report r)]) = some t)
  (accepted : r.acceptedFor = some d) (hrun : run (timedStep ticks) t es = some m)

include heard accepted hrun

private theorem full_at_first_tick (noTick : .act (.ttlTick d) ∉ es)
    (due : Due ticks m (.ttlTick d)) :
    (m.state.animationState d).brightness = 100 := by
  have inPhase := inPhase_run pos fast (inPhase_idle _ _) heard
  have inPhaseM := inPhase_run pos fast inPhase hrun
  rcases phase_after_advert pos fast heard accepted with ⟨ph, deadlines, advert⟩
  have lifted : Lifted (phase (device t.state d)) := by
    rw [advert]
    exact lifted_advert deadlines
  have quiet : .act .ttlTick ∉ es.filterMap (TimedEvent.label (signalOf d)) := by
    rw [← List.count_eq_zero, count_label_ttlTick, List.count_eq_zero]
    exact noTick
  have still := lifted_run pos fast (x := phaseView d t) (inPhase d).deadlines lifted quiet
    (run_refines pos fast inPhase hrun d)
  rcases resting_of_due inPhaseM due with ⟨b, resting⟩
  rw [← (inPhaseM d).brightness_eq, resting]
  rw [phaseView, resting] at still
  exact still

theorem present (rest : run (timedStep ticks) m fs = some z)
    (spaced : Spaced (ticks TTL_MS) t.now
      (instants (heardBy d) t.now (es ++ fs) ++ [z.now])) :
    (m.state.animationState d).brightness ≤ (z.state.animationState d).brightness ∧
      (t.now + 9 * ticks ANIMATION_MS ≤ z.now →
        (t.now + 9 * ticks ANIMATION_MS = z.now → ¬ Due ticks z (.undimTick d)) →
        (z.state.animationState d).brightness = 100) := by
  have inPhase := inPhase_run pos fast (inPhase_idle _ _) heard
  have inPhaseM := inPhase_run pos fast inPhase hrun
  have inPhaseZ := inPhase_run pos fast inPhaseM rest
  rcases phase_after_advert pos fast heard accepted with ⟨ph, deadlines, advert⟩
  have attended : Attended (ticks ANIMATION_MS) (ticks TTL_MS) t.now t.now
      (phase (device t.state d)) := by
    rw [advert]
    exact attended_advert deadlines
  have phaseRun := run_refines pos fast inPhase hrun d
  have phaseRest := run_refines pos fast inPhaseM rest d
  rw [← instants_heardBy, List.filterMap_append] at spaced
  obtain ⟨last, attendedM, spacedM, _⟩ := attended_run pos fast (x := phaseView d t)
    (z := phaseView d z) attended (inPhase d).deadlines spaced phaseRun phaseRest
  rw [← List.append_nil (fs.filterMap _)] at spacedM
  obtain ⟨last', attendedZ, _, le⟩ := attended_run pos fast (x := phaseView d m)
    (z := phaseView d z) attendedM (inPhaseM d).deadlines spacedM phaseRest rfl
  rw [← (inPhaseM d).brightness_eq, ← (inPhaseZ d).brightness_eq]
  refine ⟨le, fun late done => attended_full attendedZ (inPhaseZ d).deadlines late ?_⟩
  intro last
  by_contra signal
  exact done last (due_of_signal (inPhaseZ d) (Option.isSome_iff_ne_none.mpr signal))

theorem absent (unheard : ∀ e, .act e ∈ es → heardBy d e = false) :
    Absent (ticks TTL_MS) t.now (es.count (.act (.ttlTick d))) (phase (device m.state d)) := by
  have inPhase := inPhase_run pos fast (inPhase_idle _ _) heard
  rcases phase_after_advert pos fast heard accepted with ⟨ph, deadlines, advert⟩
  have start : Absent (ticks TTL_MS) t.now 0 (phase (device t.state d)) := by
    rw [advert]
    exact absent_advert deadlines
  have silent : .act .advert ∉ es.filterMap (TimedEvent.label (signalOf d)) := by
    intro mem
    rcases advert_label_heardBy d es mem with ⟨e, he, picked⟩
    rw [unheard e he] at picked
    cases picked
  rw [← count_label_ttlTick]
  exact absent_run pos fast (x := phaseView d t) start (inPhase d).deadlines silent
    (run_refines pos fast inPhase hrun d)

end AfterAdvert

theorem absent_device [Scaling] {ticks : ℕ → ℕ} {d : Fin 2} {m : Timed ClockScan} {t k : ℕ}
    (inPhase : ∀ d, InPhase (ticks ANIMATION_MS) (ticks TTL_MS) m d)
    (h : Absent (ticks TTL_MS) t k (phase (device m.state d))) :
    k ≤ 7 ∧ (0 < k → (m.state.animationState d).brightness = max 0 (100 - 15 * k)) ∧
      (Due ticks m (.ttlTick d) → m.now = t + (k + 1) * ticks TTL_MS) ∧
      (k < 7 → m.now ≤ t + (k + 1) * ticks TTL_MS) ∧
      ((m.state.animationState d).brightness = 0 ∧ (m.state.deviceTtlTimers d).alarm = none ∧
        (m.state.deviceUndimTimers d).alarm = none ↔ k = 7) := by
  obtain ⟨embodies, deadlines⟩ := inPhase d
  have due := resting_of_due inPhase (d := d)
  simp only [read_brightness, read_deviceTtlTimers, read_deviceUndimTimers]
  cases ph : phase (device m.state d) with
  | dark =>
    rw [ph] at h embodies due
    obtain ⟨out, _, ttl, undim⟩ := embodies
    obtain rfl : k = 7 := h
    refine ⟨le_rfl, fun _ => out, ?_, ?_, ?_⟩
    · intro tick
      rcases due tick with ⟨_, other⟩
      cases other
    · intro less
      exact absurd less (lt_irrefl 7)
    · simp [out, ttl, undim]
  | rising b u v =>
    rw [ph] at h embodies due deadlines
    obtain ⟨bright, _, ttl, _⟩ := embodies
    obtain ⟨lit, _, ahead, _, _, inTime⟩ := deadlines
    obtain ⟨rfl, vDue⟩ := h
    refine ⟨by decide, ?_, ?_, ?_, ?_⟩
    · intro none
      exact absurd none (lt_irrefl 0)
    · intro tick
      rcases due tick with ⟨_, other⟩
      cases other
    · intro _
      omega
    · simp [ttl]
  | resting b v =>
    rw [ph] at h embodies due deadlines
    obtain ⟨bright, _, ttl, _⟩ := embodies
    obtain ⟨lit, _, ahead, _⟩ := deadlines
    obtain ⟨few, left, vDue⟩ := h
    refine ⟨few.le, ?_, ?_, ?_, ?_⟩
    · intro _
      omega
    · intro tick
      rcases due tick with ⟨_, other⟩
      cases other
      exact vDue
    · intro _
      omega
    · simp only [ttl]
      constructor
      · rintro ⟨_, running, _⟩
        cases running
      · omega

/-- On a clock, and whatever the other device does: no TTL tick falls into a fade-in, and the
first one after an accepted advert finds the light at 100.  While accepted adverts go on coming
less than a TTL period apart, the light never loses brightness, and is at 100 from nine undim
periods after the first on.  Without a further advert the k-th TTL tick comes k periods after
the last and leaves 100 - 15 k, and the seventh is the last, leaving the device dark with both
its timers stopped. -/
theorem presence_and_absence [Scaling] {ticks : ℕ → ℕ} (pos : 0 < ticks TTL_MS)
    (fast : 10 * ticks ANIMATION_MS ≤ ticks TTL_MS) (d : Fin 2) :
    (∀ es m, run (timedStep ticks) (timedIdle ticks) es = some m → Due ticks m (.ttlTick d) →
      (m.state.deviceUndimTimers d).alarm = none) ∧
    ∀ pre r t es m, run (timedStep ticks) (timedIdle ticks) (pre ++ [.act (.report r)]) = some t →
      r.acceptedFor = some d → run (timedStep ticks) t es = some m →
      (.act (.ttlTick d) ∉ es → Due ticks m (.ttlTick d) →
        (m.state.animationState d).brightness = 100) ∧
      (∀ fs z, run (timedStep ticks) m fs = some z →
        Spaced (ticks TTL_MS) t.now (instants (heardBy d) t.now (es ++ fs) ++ [z.now]) →
        (m.state.animationState d).brightness ≤ (z.state.animationState d).brightness ∧
          (t.now + 9 * ticks ANIMATION_MS ≤ z.now →
            (t.now + 9 * ticks ANIMATION_MS = z.now → ¬ Due ticks z (.undimTick d)) →
            (z.state.animationState d).brightness = 100)) ∧
      ((∀ e, .act e ∈ es → heardBy d e = false) →
        ∃ k : ℕ, k = es.count (.act (.ttlTick d)) ∧ k ≤ 7 ∧
          (0 < k → (m.state.animationState d).brightness = max 0 (100 - 15 * k)) ∧
          (Due ticks m (.ttlTick d) → m.now = t.now + (k + 1) * ticks TTL_MS) ∧
          (k < 7 → m.now ≤ t.now + (k + 1) * ticks TTL_MS) ∧
          ((m.state.animationState d).brightness = 0 ∧
            (m.state.deviceTtlTimers d).alarm = none ∧
            (m.state.deviceUndimTimers d).alarm = none ↔ k = 7)) := by
  refine ⟨?_, fun pre r t es m heard accepted hrun => ⟨?_, ?_, ?_⟩⟩
  · intro es m hrun due
    have inPhase := inPhase_run pos fast (inPhase_idle _ _) hrun
    have embodies := (inPhase d).embodies
    rcases resting_of_due inPhase due with ⟨b, resting⟩
    rw [resting] at embodies
    rw [read_deviceUndimTimers, embodies.2.2.2]
  · exact full_at_first_tick pos fast heard accepted hrun
  · intro fs z rest spaced
    exact present pos fast heard accepted hrun rest spaced
  · intro unheard
    have inPhase := inPhase_run pos fast (inPhase_idle _ _) heard
    have inPhaseM := inPhase_run pos fast inPhase hrun
    exact ⟨_, rfl, absent_device inPhaseM (absent pos fast heard accepted hrun unheard)⟩

def undimPeriod (d : Fin 2) : List (TimedEvent Event) := [.delay 100, .act (.undimTick d)]

/-- A beacon heard once at the periods of the program: the fade-in, and the first TTL tick. -/
theorem presence_and_absence_beacon :
    ∃ t m, run (timedStep id) (timedIdle id) ([] ++ [.act (.report (beacon 0 ⟨200, 0, 0, 0⟩))]) =
        some t ∧
      run (timedStep id) t ((List.replicate 9 (undimPeriod 0)).flatten ++
        [.delay 600, .act (.ttlTick 0)]) = some m ∧
      m.now = 1500 ∧ (m.state.animationState 0).brightness = 85 := by
  have whole : run (timedStep id) (timedIdle id)
      (([] ++ [.act (.report (beacon 0 ⟨200, 0, 0, 0⟩))]) ++
        ((List.replicate 9 (undimPeriod 0)).flatten ++ [.delay 600, .act (.ttlTick 0)])) =
      some _ := rfl
  rcases run_append_eq_some.mp whole with ⟨t, heard, hrun⟩
  have law := (@presence_and_absence _ id (by decide) (by decide) 0).2 _ _ _ _ _ heard
    (by decide) hrun
  have unheard : ∀ e, .act e ∈ (List.replicate 9 (undimPeriod 0)).flatten ++
      [TimedEvent.delay 600, .act (.ttlTick 0)] → heardBy 0 e = false := by
    simp [undimPeriod, heardBy]
  rcases law.2.2 unheard with ⟨k, rfl, _, bright, _⟩
  exact ⟨t, _, heard, hrun, rfl, bright (by decide)⟩

end ProximityLed.ColorScan.Presence
