/- ProximityLed/ColorScan/StartupRace
   digest: Reports between the statements of main, and the ones that leave a device stuck. -/

import ProximityLed.ColorScan.Soundness

set_option autoImplicit false
set_option relaxedAutoImplicit false

namespace ProximityLed.ColorScan.StartupRace

open Library.Timer
open Library.Run
open Helpers
open Handlers
open DeviceView
open Startup

abbrev FlagBoot := Boot (FlagTimer (Fin 2))

/-- What a schedule of the startup is made of: statements and reports, no timer ticks. -/
def untimed : BootEvent → Bool
  | .main _ => true
  | .event (.report _) => true
  | .event _ => false

/-- Every accepted report of the device comes after the creation of its undim timer. -/
def Timely (d : Fin 2) (es : List BootEvent) : Prop :=
  ∀ pre r post, es = pre ++ .event (.report r) :: post → r.acceptedFor = some d →
    .main (.createUndimTimer d) ∈ pre

def executed (es : List BootEvent) : List Statement :=
  es.filterMap fun
    | .main statement => some statement
    | .event _ => none

private theorem mem_executed {es : List BootEvent} {statement : Statement} :
    statement ∈ executed es ↔ .main statement ∈ es := by
  simp only [executed, List.mem_filterMap]
  constructor
  · rintro ⟨e, he, same⟩
    cases e with
    | main other => simpa [← Option.some_inj.mp same] using he
    | event _ => cases same
  · intro h
    exact ⟨_, h, rfl⟩

private theorem timely_concat {d : Fin 2} {es : List BootEvent} {e : BootEvent} :
    Timely d (es ++ [e]) ↔ Timely d es ∧
      ∀ r, e = .event (.report r) → r.acceptedFor = some d →
        .main (.createUndimTimer d) ∈ es := by
  constructor
  · intro h
    refine ⟨?_, ?_⟩
    · intro pre r post split accepted
      exact h pre r (post ++ [e]) (by simp [split]) accepted
    · intro r he accepted
      exact h es r [] (by rw [he]) accepted
  · rintro ⟨before, last⟩ pre r post split accepted
    rcases List.eq_nil_or_concat post with rfl | ⟨post', e', rfl⟩
    · rcases List.append_inj' split rfl with ⟨rfl, he⟩
      exact last r (by simpa using he) accepted
    · have : es ++ [e] = (pre ++ .event (.report r) :: post') ++ [e'] := by simpa using split
      exact before pre r post' (List.append_inj' this rfl).1 accepted

structure Quiet (x : Device (FlagTimer (Fin 2))) : Prop where
  brightness : x.brightness = 0
  flag : x.isUndimming = false
  ttl : x.ttl.running = false
  undim : x.undim.running = false

structure Going (x : Device (FlagTimer (Fin 2))) : Prop where
  flag : x.isUndimming = true
  ttl : x.ttl.running = true
  undim : x.undim.running = true

/-- A device flagged as fading in while nothing makes it do so. -/
structure Stuck (x : Device (FlagTimer (Fin 2))) : Prop where
  brightness : x.brightness = 10
  flag : x.isUndimming = true
  undim : x.undim.running = false

structure Outcome (d : Fin 2) (es : List BootEvent) (x : Device (FlagTimer (Fin 2))) : Prop where
  ttl : x.ttl.created = true ↔ .main (.createTtlTimer d) ∈ es
  undim : x.undim.created = true ↔ .main (.createUndimTimer d) ∈ es
  timely : Timely d es → Quiet x ∨ Going x ∧ .main (.createUndimTimer d) ∈ es
  late : ¬ Timely d es → Stuck x

private theorem executed_append_rest [Scaling] {es : List BootEvent} {b : FlagBoot}
    (hrun : run (bootStep flagApi) (powerOn .blank) es = some b) :
    executed es ++ b.rest = startup := by
  refine run_induction (P := fun h m => executed h ++ m.rest = startup) rfl ?_ hrun
  intro h e m m' _ ih _ he
  rw [← ih, executed, executed, List.filterMap_append, List.append_assoc]
  congr 1
  rcases bootStep_cases he with ⟨statement, rfl, head, rfl⟩ | ⟨ev, s, rfl, _, _, rfl⟩
  · exact List.cons_head?_tail head
  · rfl

private theorem ttl_before_undim [Scaling] {es : List BootEvent} {b : FlagBoot} {d : Fin 2}
    (hrun : run (bootStep flagApi) (powerOn .blank) es = some b)
    (created : .main (.createUndimTimer d) ∈ es) : .main (.createTtlTimer d) ∈ es := by
  have prefixes : ∀ k < 10, ∀ d, Statement.createUndimTimer d ∈ startup.take k →
      Statement.createTtlTimer d ∈ startup.take k := by decide
  have order := executed_append_rest hrun
  have taken : executed es = startup.take (executed es).length := by
    rw [← order, List.take_left']
    rfl
  have short : (executed es).length < 10 := by
    have := congrArg List.length order
    simp [startup] at this
    omega
  rw [← mem_executed] at created ⊢
  rw [taken] at created ⊢
  exact prefixes _ short d created

private theorem head_not_executed [Scaling] {es : List BootEvent} {b : FlagBoot}
    {statement : Statement}
    (hrun : run (bootStep flagApi) (powerOn .blank) es = some b)
    (head : b.rest.head? = some statement) : .main statement ∉ es := by
  have nodup : startup.Nodup := by decide
  rw [← executed_append_rest hrun] at nodup
  rw [← mem_executed]
  intro again
  exact (List.nodup_append.mp nodup).2.2 _ again _ (List.mem_of_mem_head? head) rfl

section Advert

variable [Scaling] {d : Fin 2} {x : Device (FlagTimer (Fin 2))} {c : PwmDriver.Color}

private theorem quiet_advert (quiet : Quiet x) (ttl : x.ttl.created = true)
    (undim : x.undim.created = true) : Going (x.advert flagApi d c) := by
  rw [Device.advert_resting flagApi d c quiet.flag (by simp [quiet.brightness])]
  refine ⟨rfl, ?_, ?_⟩
  · simp [flagApi, ttl, FlagTimer.running]
  · simp [flagApi, undim, FlagTimer.running]

private theorem quiet_advert_early (quiet : Quiet x) (undim : x.undim.created = false) :
    Stuck (x.advert flagApi d c) := by
  rw [Device.advert_resting flagApi d c quiet.flag (by simp [quiet.brightness])]
  refine ⟨by simp [quiet.brightness], rfl, ?_⟩
  simpa [flagApi, undim] using quiet.undim

private theorem going_advert (going : Going x) (ttl : x.ttl.created = true) :
    Going (x.advert flagApi d c) := by
  rw [Device.advert_busy flagApi d c (.inl going.flag)]
  refine ⟨by simpa using going.flag, ?_, by simpa using going.undim⟩
  simp [flagApi, ttl, FlagTimer.running]

private theorem stuck_advert (stuck : Stuck x) : Stuck (x.advert flagApi d c) := by
  rw [Device.advert_busy flagApi d c (.inl stuck.flag)]
  exact ⟨by simpa using stuck.brightness, by simpa using stuck.flag, by simpa using stuck.undim⟩

private theorem advert_created :
    (x.advert flagApi d c).ttl.created = x.ttl.created ∧
      (x.advert flagApi d c).undim.created = x.undim.created := by
  have keeps (n : ℕ) (t : FlagTimer (Fin 2)) :
      (flagApi.start n d t).created = t.created ∧ (flagApi.stop t).created = t.created := by
    cases h : t.created <;> simp [flagApi, h]
  refine ⟨?_, ?_⟩
  · simp only [Device.advert, (keeps _ _).1]
    simp only [Device.begin, Device.brighten, Device.store]
    split <;> split <;> simp [(keeps 0 x.ttl).2]
  · simp only [Device.advert, Device.begin, Device.brighten, Device.store]
    split <;> split <;> (try split) <;> simp [(keeps _ _).1, (keeps 0 _).2]

end Advert

section Step

variable [Scaling] {d : Fin 2} {h : List BootEvent} {m : FlagBoot}

omit [Scaling] in
private theorem outcome_congr {es : List BootEvent} {x y : Device (FlagTimer (Fin 2))}
    (brightness : y.brightness = x.brightness) (flag : y.isUndimming = x.isUndimming)
    (ttl : y.ttl = x.ttl) (undim : y.undim = x.undim) (outcome : Outcome d es x) :
    Outcome d es y := by
  rcases outcome with ⟨ttlCreated, undimCreated, timely, late⟩
  refine ⟨by rwa [ttl], by rwa [undim], ?_, ?_⟩
  · intro onTime
    rcases timely onTime with quiet | ⟨going, created⟩
    · exact .inl ⟨brightness.trans quiet.brightness, flag.trans quiet.flag,
        by rw [ttl, quiet.ttl], by rw [undim, quiet.undim]⟩
    · exact .inr ⟨⟨flag.trans going.flag, by rw [ttl, going.ttl], by rw [undim, going.undim]⟩,
        created⟩
  · intro early
    have stuck := late early
    exact ⟨brightness.trans stuck.brightness, flag.trans stuck.flag, by rw [undim, stuck.undim]⟩

omit [Scaling] in
private theorem outcome_concat {x : Device (FlagTimer (Fin 2))} {e : BootEvent}
    (ttl : e ≠ .main (.createTtlTimer d)) (undim : e ≠ .main (.createUndimTimer d))
    (other : ∀ r, e = .event (.report r) → r.acceptedFor ≠ some d)
    (outcome : Outcome d h x) : Outcome d (h ++ [e]) x := by
  have same : Timely d (h ++ [e]) ↔ Timely d h := by
    rw [timely_concat]
    exact ⟨And.left, fun onTime => ⟨onTime, fun r he accepted => absurd accepted (other r he)⟩⟩
  rcases outcome with ⟨ttlCreated, undimCreated, timely, late⟩
  refine ⟨?_, ?_, ?_, ?_⟩
  · simpa [Ne.symm ttl] using ttlCreated
  · simpa [Ne.symm undim] using undimCreated
  · simpa [same, Ne.symm undim] using timely
  · simpa [same] using late

private theorem outcome_main {statement : Statement}
    (hrun : run (bootStep flagApi) (powerOn .blank) h = some m)
    (outcome : Outcome d h (device m.scan d)) (head : m.rest.head? = some statement) :
    Outcome d (h ++ [.main statement]) (device (execute flagApi m statement).scan d) := by
  have fresh := head_not_executed hrun head
  have onTime : Timely d (h ++ [.main statement]) ↔ Timely d h := by
    rw [timely_concat]
    exact ⟨And.left, fun onTime => ⟨onTime, by simp⟩⟩
  rcases outcome with ⟨ttlCreated, undimCreated, timely, late⟩
  by_cases ttl : statement = .createTtlTimer d
  · subst ttl
    refine ⟨by simp [execute, flagApi], by simpa [execute] using undimCreated, ?_, ?_⟩
    · intro punctual
      rcases timely (onTime.mp punctual) with quiet | ⟨_, created⟩
      · refine .inl ⟨?_, ?_, ?_, ?_⟩ <;> simp [execute, quiet.brightness, quiet.flag, quiet.undim]
        rfl
      · exact absurd (ttl_before_undim hrun created) fresh
    · intro early
      have stuck := late (mt onTime.mpr early)
      refine ⟨?_, ?_, ?_⟩ <;> simp [execute, stuck.brightness, stuck.flag, stuck.undim]
  by_cases undim : statement = .createUndimTimer d
  · subst undim
    refine ⟨by simpa [execute] using ttlCreated, by simp [execute, flagApi], ?_, ?_⟩
    · intro punctual
      rcases timely (onTime.mp punctual) with quiet | ⟨_, created⟩
      · refine .inl ⟨?_, ?_, ?_, ?_⟩ <;> simp [execute, quiet.brightness, quiet.flag, quiet.ttl]
        rfl
      · exact absurd created fresh
    · intro early
      have stuck := late (mt onTime.mpr early)
      refine ⟨?_, ?_, ?_⟩ <;> simp [execute, stuck.brightness, stuck.flag]
      rfl
  · have next : Outcome d (h ++ [.main statement]) (device m.scan d) :=
      outcome_concat (by simpa using ttl) (by simpa using undim) (by simp)
        ⟨ttlCreated, undimCreated, timely, late⟩
    cases statement with
    | darkenAnimationColors =>
      refine outcome_congr ?_ ?_ ?_ ?_ next <;> simp only [execute, device_setAnimationColor] <;>
        fin_cases d <;> simp
    | createTtlTimer e =>
      have apart : d ≠ e := fun same => ttl (by rw [same])
      simpa [execute, apart] using next
    | createUndimTimer e =>
      have apart : d ≠ e := fun same => undim (by rw [same])
      simpa [execute, apart] using next
    | displayDarkness => simpa [execute] using next
    | scanningStart | pwmInit | appTimerInit => exact next

private theorem outcome_report {r : AdvReport}
    (hrun : run (bootStep flagApi) (powerOn .blank) h = some m)
    (outcome : Outcome d h (device m.scan d)) :
    Outcome d (h ++ [.event (.report r)]) (device (bleEvtAdvReport flagApi m.scan r) d) := by
  rw [device_bleEvtAdvReport]
  by_cases accepted : r.acceptedFor = some d
  · rw [if_pos accepted]
    rcases outcome with ⟨ttlCreated, undimCreated, timely, late⟩
    have created := advert_created (d := d) (x := device m.scan d) (c := r.advColor)
    refine ⟨by simpa [created.1] using ttlCreated, by simpa [created.2] using undimCreated, ?_, ?_⟩
    · intro onTime
      rcases timely_concat.mp onTime with ⟨before, last⟩
      have undim := last r rfl accepted
      have ttl := ttlCreated.mpr (ttl_before_undim hrun undim)
      refine .inr ⟨?_, List.mem_append_left _ undim⟩
      rcases timely before with quiet | ⟨going, _⟩
      · exact quiet_advert quiet ttl (undimCreated.mpr undim)
      · exact going_advert going ttl
    · intro early
      by_cases before : Timely d h
      · have missing : .main (.createUndimTimer d) ∉ h := fun undim =>
          early (timely_concat.mpr ⟨before, fun _ _ _ => undim⟩)
        rcases timely before with quiet | ⟨_, undim⟩
        · have blank : (device m.scan d).undim.created = false := by
            simpa using mt undimCreated.mp missing
          exact quiet_advert_early quiet blank
        · exact absurd undim missing
      · exact stuck_advert (late before)
  · rw [if_neg accepted]
    exact outcome_concat (by simp) (by simp) (by simpa using accepted) outcome

end Step

/-- Whatever reports come between the statements, each device is quiet, going or stuck, and it
is stuck exactly when an accepted report came before its undim timer. -/
theorem outcome_of_schedule [Scaling] {es : List BootEvent} {b : FlagBoot}
    (hrun : run (bootStep flagApi) (powerOn .blank) es = some b)
    (schedule : ∀ e ∈ es, untimed e = true) (d : Fin 2) : Outcome d es (device b.scan d) := by
  refine run_induction (P := fun h m => Outcome d h (device m.scan d)) ?_ ?_ hrun
  · refine ⟨?_, ?_, fun _ => .inl ⟨rfl, rfl, rfl, rfl⟩, ?_⟩
    · simp [powerOn, globals, device, FlagTimer.blank]
    · simp [powerOn, globals, device, FlagTimer.blank]
    · intro early
      exact absurd (by simp [Timely]) early
  · intro h e m m' hm outcome pre he
    rcases bootStep_cases he with ⟨statement, rfl, head, rfl⟩ | ⟨ev, s, rfl, _, moved, rfl⟩
    · exact outcome_main hm outcome head
    · cases ev with
      | report r =>
        obtain rfl : bleEvtAdvReport flagApi m.scan r = s := Option.some_inj.mp moved
        exact outcome_report hm outcome
      | ttlTick c | undimTick c =>
        have := schedule _ (pre.subset (List.mem_append_right h List.mem_cons_self))
        cases this

/-- A flag set means a running undim timer, and a lit device has a running TTL timer. -/
def Scheduled (s : Scan (FlagTimer (Fin 2))) (d : Fin 2) : Prop :=
  ((s.animationState d).isUndimming = true → (s.deviceUndimTimers d).running = true) ∧
    (0 < (s.animationState d).brightness → (s.deviceTtlTimers d).running = true)

/-- Wherever the startup has got to, and so in the idle loop, flag, brightness and timers agree
exactly when every accepted report of the device came after the creation of its undim timer. -/
theorem startup_scheduled_iff [Scaling] {es : List BootEvent} {b : FlagBoot}
    (hrun : run (bootStep flagApi) (powerOn .blank) es = some b)
    (schedule : ∀ e ∈ es, untimed e = true) (d : Fin 2) :
    Scheduled b.scan d ↔ Timely d es := by
  have outcome := outcome_of_schedule hrun schedule d
  constructor
  · rintro ⟨flag, _⟩
    by_contra early
    have stuck := outcome.late early
    have running := flag stuck.flag
    rw [read_deviceUndimTimers, stuck.undim] at running
    cases running
  · intro onTime
    rcases outcome.timely onTime with quiet | ⟨going, _⟩
    · refine ⟨?_, ?_⟩
      · intro flag
        rw [read_isUndimming, quiet.flag] at flag
        cases flag
      · intro lit
        rw [read_brightness, quiet.brightness] at lit
        exact absurd lit (by decide)
    · exact ⟨fun _ => going.undim, fun _ => going.ttl⟩

def withReport (k : ℕ) (r : AdvReport) : List BootEvent :=
  (startup.take k).map .main ++ .event (.report r) :: (startup.drop k).map .main

/-- A beacon heard before the last creation of a timer. -/
theorem startup_scheduled_iff_beacon :
    ∃ b, run (bootStep flagApi) (powerOn .blank) (withReport 8 (beacon 0 ⟨200, 0, 0, 0⟩)) =
        some b ∧ b.rest = [] ∧
      (Scheduled b.scan 0 ↔ Timely 0 (withReport 8 (beacon 0 ⟨200, 0, 0, 0⟩))) := by
  have hrun : run (bootStep flagApi) (powerOn .blank)
      (withReport 8 (beacon 0 ⟨200, 0, 0, 0⟩)) = some _ := rfl
  exact ⟨_, hrun, rfl, startup_scheduled_iff hrun (by decide) 0⟩

/-- A beacon heard as soon as scanning has started: in the idle loop the device is flagged as
fading in at brightness 10, and neither of its timers runs. -/
theorem early_report_frozen :
    ∃ b, run (bootStep flagApi) (powerOn .blank) (withReport 2 (beacon 0 ⟨200, 0, 0, 0⟩)) =
        some b ∧ b.rest = [] ∧ ¬ Scheduled b.scan 0 ∧
      (b.scan.animationState 0).isUndimming = true ∧ (b.scan.animationState 0).brightness = 10 ∧
      (b.scan.deviceUndimTimers 0).running = false ∧
      (b.scan.deviceTtlTimers 0).running = false := by
  refine ⟨_, rfl, rfl, ?_, rfl, rfl, rfl, rfl⟩
  intro scheduled
  exact Bool.false_ne_true (scheduled.1 rfl)

end ProximityLed.ColorScan.StartupRace
