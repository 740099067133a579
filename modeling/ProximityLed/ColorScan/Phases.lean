/- ProximityLed/ColorScan/Phases
   digest: What a device is for over time, as phases with due times, and the laws of their runs. -/

import ProximityLed.Library.Clock
import Mathlib.Algebra.Order.Ring.Int

set_option autoImplicit false
set_option relaxedAutoImplicit false

namespace ProximityLed.ColorScan.Phases

open Library.Run
open Library.Clock

/-- A device over time, with the instants its timers are due in place of the timers. -/
inductive Phase
  | dark
  | rising (brightness : ℤ) (undimDue ttlDue : ℕ)
  | resting (brightness : ℤ) (ttlDue : ℕ)
  deriving DecidableEq

inductive Signal
  | advert
  | ttlTick
  | undimTick
  deriving DecidableEq

def Signal.isAdvert : Signal → Bool
  | .advert => true
  | _ => false

namespace Phase

def brightness : Phase → ℤ
  | .dark => 0
  | .rising b _ _ => b
  | .resting b _ => b

/-- No tick is due before the instant `n`. -/
def QuietUntil (n : ℕ) : Phase → Prop
  | .dark => True
  | .rising _ u v => n ≤ u ∧ n ≤ v
  | .resting _ v => n ≤ v

instance (n : ℕ) (ph : Phase) : Decidable (ph.QuietUntil n) :=
  match ph with
  | .dark => .isTrue trivial
  | .rising _ _ _ => inferInstanceAs (Decidable (_ ∧ _))
  | .resting _ _ => inferInstanceAs (Decidable (_ ≤ _))

variable (p q now : ℕ)

/-- An advert makes the next TTL tick wait a whole period, and a light at rest rise. -/
def advert : Phase → Phase
  | .dark => .rising 10 (now + p) (now + q)
  | .rising b u _ => .rising b u (now + q)
  | .resting b _ =>
    if b < 100 then .rising (b + 10) (now + p) (now + q) else .resting b (now + q)

def fall (b : ℤ) : Phase := if b ≤ 15 then .dark else .resting (b - 15) (now + q)

def climb (b : ℤ) (ttlDue : ℕ) : Phase :=
  if 90 ≤ b then .resting 100 ttlDue else .rising (b + 10) (now + p) ttlDue

def signal : Signal → Phase → Option Phase
  | .advert, ph => some (ph.advert p q now)
  | .ttlTick, .rising b _ v => if v = now then some (fall q now b) else none
  | .ttlTick, .resting b v => if v = now then some (fall q now b) else none
  | .undimTick, .rising b u v => if u = now then some (climb p now b v) else none
  | _, _ => none

end Phase

/-- Time stands still while a tick is due. -/
def phaseStep (p q : ℕ) (x : Timed Phase) : TimedEvent Signal → Option (Timed Phase)
  | .delay n => if x.state.QuietUntil (x.now + n) then some ⟨x.now + n, x.state⟩ else none
  | .act e => (x.state.signal p q x.now e).map fun ph => ⟨x.now, ph⟩

def ticksUp (b : ℤ) : ℕ := ((99 - b) / 10).toNat

/-- The deadlines of a phase: all ticks lie ahead by a period at most, and the fade-in is over
before the TTL tick. -/
def Deadlines (p q now : ℕ) : Phase → Prop
  | .dark => True
  | .rising b u v => 10 ≤ b ∧ b < 100 ∧ now ≤ u ∧ u ≤ now + p ∧ v ≤ now + q ∧ u + ticksUp b * p < v
  | .resting b v => 0 < b ∧ (b = 100 ∨ b ≤ 85) ∧ now ≤ v ∧ v ≤ now + q

private theorem ticksUp_climb (p : ℕ) {b : ℤ} (low : b < 90) : ticksUp (b + 10)
    * p + p = ticksUp b * p := by
  have next : ticksUp b = ticksUp (b + 10) + 1 := by
    unfold ticksUp
    omega
  rw [next, Nat.succ_mul]

private theorem ticksUp_le (p : ℕ) {b : ℤ} (lit : 10 ≤ b) : ticksUp b * p ≤ 8 * p := by
  apply Nat.mul_le_mul_right
  unfold ticksUp
  omega

private theorem keepsTime (p q : ℕ) : KeepsTime (phaseStep p q) := by
  intro x e y h
  cases e with
  | delay n =>
    simp only [phaseStep, Option.ite_none_right_eq_some, Option.some.injEq] at h
    rw [← h.2]
  | act e =>
    rcases Option.map_eq_some_iff.mp h with ⟨ph, _, rfl⟩
    rfl

theorem phaseStep_cases {p q now : ℕ} {ph : Phase} {y : Timed Phase} {e : TimedEvent Signal}
    (h : phaseStep p q ⟨now, ph⟩ e = some y) :
    (∃ n, e = .delay n ∧ ph.QuietUntil (now + n) ∧ y = ⟨now + n, ph⟩) ∨
    (e = .act .advert ∧ y = ⟨now, ph.advert p q now⟩) ∨
    (∃ b u, e = .act .ttlTick ∧ ph = .rising b u now ∧ y = ⟨now, Phase.fall q now b⟩) ∨
    (∃ b, e = .act .ttlTick ∧ ph = .resting b now ∧ y = ⟨now, Phase.fall q now b⟩) ∨
    ∃ b v, e = .act .undimTick ∧ ph = .rising b now v ∧ y = ⟨now, Phase.climb p now b v⟩ := by
  cases e with
  | delay n =>
    simp only [phaseStep, Option.ite_none_right_eq_some, Option.some.injEq] at h
    exact .inl ⟨n, rfl, h.1, h.2.symm⟩
  | act e =>
    rcases Option.map_eq_some_iff.mp h with ⟨ph', moved, rfl⟩
    cases e with
    | advert =>
      obtain rfl : ph.advert p q now = ph' := by simpa [Phase.signal] using moved
      exact .inr (.inl ⟨rfl, rfl⟩)
    | ttlTick =>
      cases ph with
      | dark => cases moved
      | rising b u v =>
        simp only [Phase.signal, Option.ite_none_right_eq_some, Option.some.injEq] at moved
        rcases moved with ⟨rfl, rfl⟩
        exact .inr (.inr (.inl ⟨b, u, rfl, rfl, rfl⟩))
      | resting b v =>
        simp only [Phase.signal, Option.ite_none_right_eq_some, Option.some.injEq] at moved
        rcases moved with ⟨rfl, rfl⟩
        exact .inr (.inr (.inr (.inl ⟨b, rfl, rfl, rfl⟩)))
    | undimTick =>
      cases ph with
      | dark => cases moved
      | resting b v => cases moved
      | rising b u v =>
        simp only [Phase.signal, Option.ite_none_right_eq_some, Option.some.injEq] at moved
        rcases moved with ⟨rfl, rfl⟩
        exact .inr (.inr (.inr (.inr ⟨b, v, rfl, rfl, rfl⟩)))

section Laws

variable {p q : ℕ} {x y : Timed Phase} {e : TimedEvent Signal} {es : List (TimedEvent Signal)}

/-- A TTL tick never falls into a fade-in. -/
theorem Deadlines.no_tick_rising {now : ℕ} {b : ℤ} {u : ℕ} :
    ¬ Deadlines p q now (.rising b u now) := by
  rintro ⟨_, _, ahead, _, _, inTime⟩
  omega

section Step

variable (pos : 0 < q) (fast : 10 * p ≤ q)

include pos fast

private theorem deadlines_advert {now : ℕ} {ph : Phase} (h : Deadlines p q now ph) :
    Deadlines p q now (ph.advert p q now) := by
  cases ph with
  | dark =>
    have up := ticksUp_le p (b := 10) le_rfl
    refine ⟨le_rfl, by decide, ?_, le_rfl, le_rfl, ?_⟩ <;> omega
  | rising b u v =>
    obtain ⟨lit, below, ahead, near, _, _⟩ := h
    have up := ticksUp_le p lit
    refine ⟨lit, below, ahead, near, le_rfl, ?_⟩
    omega
  | resting b v =>
    obtain ⟨lit, gap, _, _⟩ := h
    rw [Phase.advert]
    split
    · have up := ticksUp_le p (b := b + 10) (by omega)
      refine ⟨?_, ?_, ?_, le_rfl, le_rfl, ?_⟩ <;> omega
    · refine ⟨lit, gap, ?_, le_rfl⟩
      omega

theorem deadlines_step {now : ℕ} {ph : Phase} (h : Deadlines p q now ph)
    (hstep : phaseStep p q ⟨now, ph⟩ e = some y) : Deadlines p q y.now y.state := by
  rcases phaseStep_cases hstep with ⟨n, rfl, quiet, rfl⟩ | ⟨rfl, rfl⟩ | ⟨b, u, rfl, rfl, rfl⟩ |
    ⟨b, rfl, rfl, rfl⟩ | ⟨b, v, rfl, rfl, rfl⟩
  · cases ph with
    | dark => trivial
    | rising b u v =>
      obtain ⟨lit, below, _, near, close, inTime⟩ := h
      obtain ⟨undim, ttl⟩ := quiet
      show Deadlines p q (now + n) (.rising b u v)
      refine ⟨lit, below, undim, ?_, ?_, inTime⟩ <;> omega
    | resting b v =>
      obtain ⟨lit, gap, _, close⟩ := h
      show Deadlines p q (now + n) (.resting b v)
      refine ⟨lit, gap, quiet, ?_⟩
      omega
  · exact deadlines_advert pos fast h
  · exact absurd h Deadlines.no_tick_rising
  · obtain ⟨lit, gap, _, _⟩ := h
    show Deadlines p q now (Phase.fall q now b)
    unfold Phase.fall
    split
    · trivial
    · refine ⟨?_, ?_, ?_, le_rfl⟩ <;> omega
  · obtain ⟨lit, below, _, near, close, inTime⟩ := h
    show Deadlines p q now (Phase.climb p now b v)
    unfold Phase.climb
    split
    · refine ⟨by decide, .inl rfl, ?_, close⟩
      omega
    · have up := ticksUp_climb p (b := b) (by omega)
      refine ⟨?_, ?_, ?_, le_rfl, close, ?_⟩ <;> omega

theorem deadlines_run (h : Deadlines p q x.now x.state) (hrun : run (phaseStep p q) x es = some y) :
    Deadlines p q y.now y.state :=
  run_invariant (I := fun m => Deadlines p q m.now m.state)
    (fun _ _ _ _ hm he => deadlines_step pos fast hm he) h hrun

end Step

theorem Deadlines.high {now : ℕ} {ph : Phase} (h : Deadlines p q now ph) : ph.brightness ≤ 100 := by
  cases ph with
  | dark => decide
  | rising b u v => exact h.2.1.le
  | resting b v =>
    obtain ⟨_, gap, _⟩ := h
    change b ≤ 100
    omega

def Lifted : Phase → Prop
  | .dark => False
  | .rising _ _ _ => True
  | .resting b _ => b = 100

theorem lifted_advert {now : ℕ} {ph : Phase} (h : Deadlines p q now ph) :
    Lifted (ph.advert p q now) := by
  cases ph with
  | dark | rising b u v => trivial
  | resting b v =>
    have high := h.high
    change b ≤ 100 at high
    rw [Phase.advert]
    split
    · trivial
    · show b = 100
      omega

private theorem lifted_step {now : ℕ} {ph : Phase} (h : Deadlines p q now ph) (lifted : Lifted ph)
    (noTick : e ≠ .act .ttlTick) (hstep : phaseStep p q ⟨now, ph⟩ e = some y) :
    Lifted y.state := by
  rcases phaseStep_cases hstep with ⟨n, rfl, _, rfl⟩ | ⟨rfl, rfl⟩ | ⟨b, u, rfl, _, _⟩ |
    ⟨b, rfl, _, _⟩ | ⟨b, v, rfl, _, rfl⟩
  · exact lifted
  · exact lifted_advert h
  · exact absurd rfl noTick
  · exact absurd rfl noTick
  · show Lifted (Phase.climb p now b v)
    unfold Phase.climb
    split
    · rfl
    · trivial

theorem lifted_run (pos : 0 < q) (fast : 10 * p ≤ q) (h : Deadlines p q x.now x.state)
    (lifted : Lifted x.state) (noTick : .act .ttlTick ∉ es)
    (hrun : run (phaseStep p q) x es = some y) : Lifted y.state := by
  have both := run_invariant (I := fun m => Deadlines p q m.now m.state ∧ Lifted m.state) ?_
    ⟨h, lifted⟩ hrun
  · exact both.2
  · rintro m e m' mem ⟨deadlines, lifted⟩ he
    have other : e ≠ .act .ttlTick := fun same => noTick (same ▸ mem)
    exact ⟨deadlines_step pos fast deadlines he, lifted_step deadlines lifted other he⟩

/-- Seen from an advert at `t` with more of them since, the last at `last`: the TTL tick comes a
period after that one, and the fade-in is over nine undim ticks after `t`. -/
def Attended (p q t last : ℕ) : Phase → Prop
  | .dark => False
  | .rising b u v => v = last + q ∧ u + ticksUp b * p ≤ t + 9 * p
  | .resting b v => v = last + q ∧ b = 100

theorem attended_advert {now : ℕ} {ph : Phase} (h : Deadlines p q now ph) :
    Attended p q now now (ph.advert p q now) := by
  cases ph with
  | dark =>
    have up := ticksUp_le p (b := 10) le_rfl
    refine ⟨rfl, ?_⟩
    omega
  | rising b u v =>
    obtain ⟨lit, _, _, near, _, _⟩ := h
    have up := ticksUp_le p lit
    refine ⟨rfl, ?_⟩
    omega
  | resting b v =>
    obtain ⟨lit, gap, _, _⟩ := h
    rw [Phase.advert]
    split
    · have up := ticksUp_le p (b := b + 10) (by omega)
      refine ⟨rfl, ?_⟩
      omega
    · refine ⟨rfl, ?_⟩
      omega

private theorem attended_again {t last now : ℕ} {ph : Phase} (h : Attended p q t last ph) :
    Attended p q t now (ph.advert p q now) ∧ (ph.advert p q now).brightness = ph.brightness := by
  cases ph with
  | dark => cases h
  | rising b u v => exact ⟨⟨rfl, h.2⟩, rfl⟩
  | resting b v =>
    obtain rfl : b = 100 := h.2
    exact ⟨⟨rfl, rfl⟩, rfl⟩

theorem attended_step {t last now : ℕ} {ph : Phase} (h : Attended p q t last ph)
    (deadlines : Deadlines p q now ph) (early : now < last + q)
    (hstep : phaseStep p q ⟨now, ph⟩ e = some y) :
    Attended p q t (if e = .act .advert then now else last) y.state ∧
      ph.brightness ≤ y.state.brightness := by
  rcases phaseStep_cases hstep with ⟨n, rfl, _, rfl⟩ | ⟨rfl, rfl⟩ | ⟨b, u, rfl, rfl, rfl⟩ |
    ⟨b, rfl, rfl, rfl⟩ | ⟨b, v, rfl, rfl, rfl⟩
  · exact ⟨h, le_rfl⟩
  · obtain ⟨again, same⟩ := @attended_again p q t last now ph h
    exact ⟨again, same.ge⟩
  · exact absurd deadlines Deadlines.no_tick_rising
  · have due : now = last + q := h.1
    omega
  · obtain ⟨due, inTime⟩ := h
    have below := deadlines.2.1
    show Attended p q t last (Phase.climb p now b v) ∧ b ≤ (Phase.climb p now b v).brightness
    unfold Phase.climb
    split
    · exact ⟨⟨due, rfl⟩, below.le⟩
    · have up := ticksUp_climb p (b := b) (by omega)
      refine ⟨⟨due, ?_⟩, ?_⟩
      · omega
      · show b ≤ b + 10
        omega

/-- Along a run whose adverts and end are closely spaced, a light stays attended and never loses
brightness. -/
theorem attended_run (pos : 0 < q) (fast : 10 * p ≤ q) {t last : ℕ} {z : Timed Phase}
    {fs : List (TimedEvent Signal)} (h : Attended p q t last x.state)
    (deadlines : Deadlines p q x.now x.state)
    (spaced : Spaced q last (instants Signal.isAdvert x.now (es ++ fs) ++ [z.now]))
    (hrun : run (phaseStep p q) x es = some y) (rest : run (phaseStep p q) y fs = some z) :
    ∃ last', Attended p q t last' y.state ∧
      Spaced q last' (instants Signal.isAdvert y.now fs ++ [z.now]) ∧
      x.state.brightness ≤ y.state.brightness := by
  induction es generalizing x last with
  | nil =>
    obtain rfl : x = y := by simpa using hrun
    exact ⟨last, h, spaced, le_rfl⟩
  | cons e es ih =>
    have whole := run_append_eq_some.mpr ⟨y, hrun, rest⟩
    have early := now_lt_of_spaced (keepsTime p q) whole spaced
    rcases run_cons_eq_some.mp hrun with ⟨m, he, hes⟩
    have time := keepsTime p q x e m he
    obtain ⟨next, le⟩ := attended_step h deadlines early he
    have close : Spaced q (if e = .act .advert then x.now else last)
        (instants Signal.isAdvert m.now (es ++ fs) ++ [z.now]) := by
      rw [time]
      cases e with
      | delay n => exact spaced
      | act e =>
        cases e with
        | advert => exact (spaced_cons.mp spaced).2
        | ttlTick | undimTick => exact spaced
    obtain ⟨last', attended, tail, le'⟩ := ih next (deadlines_step pos fast deadlines he) close hes
    exact ⟨last', attended, tail, le.trans le'⟩

theorem attended_full {t last now : ℕ} {ph : Phase} (h : Attended p q t last ph)
    (deadlines : Deadlines p q now ph) (late : t + 9 * p ≤ now)
    (done : t + 9 * p = now → ph.signal p q now .undimTick = none) : ph.brightness = 100 := by
  cases ph with
  | dark => cases h
  | resting b v => exact h.2
  | rising b u v =>
    exfalso
    obtain ⟨_, inTime⟩ := h
    obtain ⟨_, _, ahead, _, _, _⟩ := deadlines
    have due : u = now := by omega
    have idle := done (by omega)
    simp [Phase.signal, due] at idle

/-- Seen from an advert at `t` with none since, after `k` TTL ticks. -/
def Absent (q t k : ℕ) : Phase → Prop
  | .dark => k = 7
  | .rising _ _ v => k = 0 ∧ v = t + q
  | .resting b v => k < 7 ∧ b = 100 - 15 * k ∧ v = t + (k + 1) * q

theorem absent_advert {now : ℕ} {ph : Phase} (h : Deadlines p q now ph) :
    Absent q now 0 (ph.advert p q now) := by
  cases ph with
  | dark | rising b u v => exact ⟨rfl, rfl⟩
  | resting b v =>
    have high := h.high
    change b ≤ 100 at high
    rw [Phase.advert]
    split
    · exact ⟨rfl, rfl⟩
    · refine ⟨by decide, ?_, by omega⟩
      push_cast
      omega

/-- Unattended, a light changes brightness only with the TTL ticks, which come a period apart. -/
theorem absent_step {t k now : ℕ} {ph : Phase} (h : Absent q t k ph)
    (deadlines : Deadlines p q now ph) (unheard : e ≠ .act .advert)
    (hstep : phaseStep p q ⟨now, ph⟩ e = some y) :
    Absent q t (if e = .act .ttlTick then k + 1 else k) y.state := by
  rcases phaseStep_cases hstep with ⟨n, rfl, _, rfl⟩ | ⟨rfl, rfl⟩ | ⟨b, u, rfl, rfl, rfl⟩ |
    ⟨b, rfl, rfl, rfl⟩ | ⟨b, v, rfl, rfl, rfl⟩
  · exact h
  · exact absurd rfl unheard
  · exact absurd deadlines Deadlines.no_tick_rising
  · obtain ⟨few, left, due⟩ := h
    have next : (k + 1 + 1) * q = (k + 1) * q + q := Nat.succ_mul _ _
    show Absent q t (k + 1) (Phase.fall q now b)
    unfold Phase.fall
    split
    · show k + 1 = 7
      omega
    · refine ⟨?_, ?_, ?_⟩
      · omega
      · push_cast
        omega
      · omega
  · obtain ⟨rfl, due⟩ := h
    show Absent q t 0 (Phase.climb p now b v)
    unfold Phase.climb
    split
    · refine ⟨by decide, rfl, ?_⟩
      omega
    · exact ⟨rfl, due⟩

theorem absent_run (pos : 0 < q) (fast : 10 * p ≤ q) {t : ℕ} (h : Absent q t 0 x.state)
    (deadlines : Deadlines p q x.now x.state) (unheard : .act .advert ∉ es)
    (hrun : run (phaseStep p q) x es = some y) :
    Absent q t (es.count (.act .ttlTick)) y.state := by
  have both := run_induction (P := fun (past : List (TimedEvent Signal)) (m : Timed Phase) =>
    Deadlines p q m.now m.state ∧ Absent q t (past.count (.act .ttlTick)) m.state)
    ⟨deadlines, h⟩ ?_ hrun
  · exact both.2
  · rintro past e m m' _ ⟨deadlines, absent⟩ pre he
    refine ⟨deadlines_step pos fast deadlines he, ?_⟩
    have mem : e ∈ es := pre.subset (by simp)
    have next := absent_step absent deadlines (fun same => unheard (same ▸ mem)) he
    rw [List.count_append, List.count_singleton]
    by_cases tick : e = .act .ttlTick
    · simpa [tick] using next
    · simpa [tick] using next

end Laws

end ProximityLed.ColorScan.Phases
