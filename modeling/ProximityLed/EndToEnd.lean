/- ProximityLed/EndToEnd
   digest: What the advertiser puts on the air is what the scanner stores, and shows at full light. -/

import ProximityLed.ColorAdv.Selection
import ProximityLed.ColorScan.Strip

set_option autoImplicit false
set_option relaxedAutoImplicit false

namespace ProximityLed.EndToEnd

open PwmDriver (Color Channel DARKNESS Pwm ledWords ledWords_frame colorWords)
open Library.Timer
open Library.Run
open Library.Interrupt (MainLoop Control Move)
open ColorScan (Scaling)
open ColorScan.Scaling
open ColorScan.Helpers
open ColorScan.Handlers
open ColorScan.DeviceView
open ColorScan.Startup
open ColorScan.Soundness (FlagScan)
open ColorScan.Cache
open ColorScan.Strip (head_of_step)
open ColorAdv.Program (Session Button mainLoop started)
open ColorAdv.Selection (Consistent consistent_of_run)

section Air

/-- The parts of a broadcast payload that the BLE library fills in. -/
structure SimpleBle where
  flags : Vector UInt8 3
  length : UInt8
  company : Vector UInt8 2

/-- The payload that `simple_ble_adv_manuf_data` broadcasts for three bytes of data. -/
def SimpleBle.payload (ble : SimpleBle) (data : Vector UInt8 3) : Vector UInt8 10 :=
  #v[ble.flags[0], ble.flags[1], ble.flags[2], ble.length, 0xFF, ble.company[0], ble.company[1],
    data[0], data[1], data[2]]

/-- A strong report of the advertiser `deviceId`: the address begins with the low byte and the high
byte of the id, and the buffer with the payload. -/
structure Received (ble : SimpleBle) (deviceId : UInt16) (data : Vector UInt8 3) (r : AdvReport) :
    Prop where
  address : r.peerAddr.toList.take 2 = [deviceId.toUInt8, (deviceId >>> 8).toUInt8]
  strong : -48 ≤ r.rssi
  payload : r.buffer.toList.take 10 = (ble.payload data).toList

variable {ble : SimpleBle} {deviceId : UInt16} {data : Vector UInt8 3} {r : AdvReport}

theorem Received.advColor (h : Received ble deviceId data r) :
    r.advColor = ⟨data[0], data[1], data[2], 0⟩ := by
  have byte (i : ℕ) (hi : i < 10) : r.buffer.toList[i]? = (ble.payload data).toList[i]? := by
    rw [← h.payload, List.getElem?_take_of_lt hi]
  refine Color.ext ?_ ?_ ?_ rfl
  · simpa [SimpleBle.payload, AdvReport.advColor] using byte 7 (by decide)
  · simpa [SimpleBle.payload, AdvReport.advColor] using byte 8 (by decide)
  · simpa [SimpleBle.payload, AdvReport.advColor] using byte 9 (by decide)

def Known (deviceId : UInt16) (d : Fin 2) : Prop :=
  deviceId = 0xAABB ∧ d = device1 ∨ deviceId = 0xCCDD ∧ d = device2

/-- The scanner puts the two address bytes together in the order in which they were taken apart. -/
theorem Received.acceptedFor {d : Fin 2} (h : Received ble deviceId data r)
    (known : Known deviceId d) : r.acceptedFor = some d := by
  have strong : ¬ r.rssi < -48 := Int8.not_lt.mpr h.strong
  have byte (i : ℕ) (hi : i < 2) :
      r.peerAddr.toList[i]? = [deviceId.toUInt8, (deviceId >>> 8).toUInt8][i]? := by
    rw [← h.address, List.getElem?_take_of_lt hi]
  have low : r.peerAddr[0] = deviceId.toUInt8 := by simpa using byte 0 (by decide)
  have high : r.peerAddr[1] = (deviceId >>> 8).toUInt8 := by simpa using byte 1 (by decide)
  have id : r.advId = deviceId := by
    rw [AdvReport.advId, low, high]
    rcases known with ⟨rfl, _⟩ | ⟨rfl, _⟩ <;> decide
  rw [acceptedFor_eq, if_neg strong, id]
  rcases known with ⟨rfl, rfl⟩ | ⟨rfl, rfl⟩ <;> rfl

end Air

section Scanner

def RunsFor (d : Fin 2) (t : FlagTimer (Fin 2)) : Prop := ∀ c, flagApi.armed t = some c → c = d

variable [Scaling] {d : Fin 2} {t : FlagTimer (Fin 2)} {x y : Device (FlagTimer (Fin 2))}

omit [Scaling] in
private theorem runsFor_start (h : RunsFor d t) (n : ℕ) : RunsFor d (flagApi.start n d t) := by
  intro c armed
  simp only [flagApi] at armed
  split at armed
  · exact (Option.some_inj.mp armed).symm
  · exact h c armed

omit [Scaling] in
private theorem runsFor_stop (h : RunsFor d t) : RunsFor d (flagApi.stop t) := by
  intro c armed
  simp only [flagApi] at armed
  split at armed
  · cases armed
  · exact h c armed

private theorem wired_brighten (h : Wired flagApi d x) : Wired flagApi d (x.brighten flagApi) := by
  refine ⟨h.1, ?_⟩
  show RunsFor d (if _ then flagApi.stop x.undim else x.undim)
  split
  · exact runsFor_stop h.2
  · exact h.2

private theorem wired_advert (h : Wired flagApi d x) (c : Color) :
    Wired flagApi d (x.advert flagApi d c) := by
  have stored : Wired flagApi d (Device.store c { x with ttl := flagApi.stop x.ttl }) := by
    unfold Device.store
    split <;> exact ⟨runsFor_stop h.1, h.2⟩
  have begun : Wired flagApi d
      (Device.begin flagApi d (Device.store c { x with ttl := flagApi.stop x.ttl })) := by
    unfold Device.begin
    split
    · have up := wired_brighten (x := { Device.store c { x with ttl := flagApi.stop x.ttl } with
        isUndimming := true }) stored
      exact ⟨up.1, runsFor_start up.2 ANIMATION_MS⟩
    · exact stored
  exact ⟨runsFor_start begun.1 TTL_MS, begun.2⟩

private theorem wired_dim (h : Wired flagApi d x) : Wired flagApi d (x.dim flagApi) := by
  refine ⟨?_, runsFor_stop h.2⟩
  show RunsFor d (if _ then flagApi.stop x.ttl else x.ttl)
  split
  · exact runsFor_stop h.1
  · exact h.1

private theorem wired_step (h : Wired flagApi d x) {ev : DeviceEvent}
    (hstep : deviceStep flagApi d x ev = some y) : Wired flagApi d y := by
  rcases deviceStep_cases hstep with ⟨c, _, rfl⟩ | ⟨_, _, rfl⟩ | ⟨_, _, rfl⟩
  · exact wired_advert h c
  · exact wired_dim h
  · exact wired_brighten h

/-- What holds of the scanner at any time, in its startup too. -/
structure Steady (s : FlagScan) : Prop where
  wired : ∀ d, Wired flagApi d (device s d)
  cached : ∀ d, Cached (device s d)

theorem steady_step {s s' : FlagScan} {e : Event} (h : Steady s)
    (hstep : step flagApi s e = some s') : Steady s' := by
  refine ⟨?_, fun d => (step_color h.wired (h.cached d) hstep).1⟩
  intro d
  rcases step_device_cases h.wired hstep d with ⟨_, same⟩ | ⟨ev, _, own⟩
  · rw [same]
    exact h.wired d
  · exact wired_step (h.wired d) own

private theorem steady_powerOn : Steady (powerOn FlagTimer.blank).scan := by
  refine ⟨fun d => ⟨?_, ?_⟩, fun d => ⟨rfl, ?_⟩⟩
  · intro c armed
    cases armed
  · intro c armed
    cases armed
  · exact (makeColorOfBrightness_zero DARKNESS).symm

private theorem steady_of_device {s s' : FlagScan} (h : Steady s)
    (same : ∀ d, (device s' d).actualColor = (device s d).actualColor ∧
      (device s' d).animationColor = (device s d).animationColor ∧
      (device s' d).brightness = (device s d).brightness ∧
      ((device s' d).ttl = (device s d).ttl ∨ flagApi.armed (device s' d).ttl = none) ∧
      ((device s' d).undim = (device s d).undim ∨ flagApi.armed (device s' d).undim = none)) :
    Steady s' := by
  refine ⟨fun d => ?_, fun d => ?_⟩ <;> obtain ⟨actual, animation, bright, ttl, undim⟩ := same d
  · refine ⟨?_, ?_⟩
    · intro c armed
      rcases ttl with ttl | none
      · exact (h.wired d).1 c (ttl ▸ armed)
      · rw [none] at armed
        cases armed
    · intro c armed
      rcases undim with undim | none
      · exact (h.wired d).2 c (undim ▸ armed)
      · rw [none] at armed
        cases armed
  · obtain ⟨padding, fresh⟩ := h.cached d
    exact ⟨by rw [actual, padding], by rw [actual, animation, bright, fresh]⟩

private theorem steady_darkened :
    Steady (execute flagApi (powerOn .blank) .darkenAnimationColors).scan := by
  apply steady_of_device steady_powerOn
  intro d
  fin_cases d <;> exact ⟨rfl, rfl, rfl, .inl rfl, .inl rfl⟩

theorem steady_boot {es : List BootEvent} {b : Boot (FlagTimer (Fin 2))}
    (hrun : run (bootStep flagApi) (powerOn .blank) es = some b) : Steady b.scan := by
  have whole : Steady b.scan ∧ (.darkenAnimationColors ∈ b.rest → b = powerOn .blank) := by
    refine run_invariant (I := fun m : Boot (FlagTimer (Fin 2)) => Steady m.scan ∧
      (.darkenAnimationColors ∈ m.rest → m = powerOn .blank)) ?_ ⟨steady_powerOn, fun _ => rfl⟩ hrun
    rintro m e m' _ ⟨steady, untouched⟩ he
    rcases bootStep_cases he with ⟨statement, rfl, head, rfl⟩ | ⟨ev, s, rfl, _, moved, rfl⟩
    · refine ⟨?_, ?_⟩
      · cases statement with
        | darkenAnimationColors =>
          rw [untouched (List.mem_of_mem_head? head)]
          exact steady_darkened
        | createTtlTimer c =>
          exact steady_of_device steady fun d => by
            by_cases own : d = c <;> simp [execute, own, flagApi]
        | createUndimTimer c =>
          exact steady_of_device steady fun d => by
            by_cases own : d = c <;> simp [execute, own, flagApi]
        | displayDarkness => exact steady_of_device steady fun d => by simp [execute]
        | scanningStart | pwmInit | appTimerInit => exact steady
      · intro first
        have start := untouched (List.mem_of_mem_tail first)
        rw [start] at first
        change .darkenAnimationColors ∈ startup.tail at first
        exact absurd first (by decide)
    · refine ⟨steady_step steady moved, ?_⟩
      intro first
      rw [untouched first] at he
      cases ev <;> cases he
  exact whole.1

end Scanner

section Agreement

variable [Scaling] {d : Fin 2} {r : AdvReport}

theorem stored_of_report {s : FlagScan} (steady : Steady s) (accepted : r.acceptedFor = some d) :
    (bleEvtAdvReport flagApi s r).actualDeviceColor d = r.advColor ∧
      (bleEvtAdvReport flagApi s r).actualDeviceColor d.rev = s.actualDeviceColor d.rev := by
  have apart : d ≠ d.rev := by fin_cases d <;> decide
  refine ⟨stored_of_accepted (steady.cached d) accepted, ?_⟩
  simp only [read_actualDeviceColor, device_bleEvtAdvReport, accepted, Option.some.injEq,
    if_neg apart]

/-- A device at full light stays there when it is heard. -/
theorem full_of_report {s : FlagScan} (accepted : r.acceptedFor = some d)
    (full : (s.animationState d).brightness = 100) :
    ((bleEvtAdvReport flagApi s r).animationState d).brightness = 100 := by
  rw [read_brightness, device_bleEvtAdvReport, if_pos accepted,
    Device.advert_busy flagApi d _ (.inr full.ge)]
  exact (Device.store_brightness _ _).trans full

theorem frame_of_report {s : FlagScan} (steady : Steady s) (accepted : r.acceptedFor = some d)
    (full : ((bleEvtAdvReport flagApi s r).animationState d).brightness = 100)
    (black : s.animationColors d.rev = DARKNESS) :
    (bleEvtAdvReport flagApi s r).pwm.played.head? = some (colorFrame r.advColor) := by
  have apart : d ≠ d.rev := by fin_cases d <;> decide
  have next : Steady (bleEvtAdvReport flagApi s r) := steady_step (e := .report r) steady rfl
  have color : (bleEvtAdvReport flagApi s r).animationColors d = r.advColor := by
    have fresh := (next.cached d).fresh
    rw [← read_brightness, full, ← read_actualDeviceColor, (stored_of_report steady accepted).1]
      at fresh
    rw [read_animationColors, fresh]
    refine Color.ext_channel ?_ rfl
    intro ch
    rw [makeColorOfBrightness_channel, scaleChannel_full]
  have other : (bleEvtAdvReport flagApi s r).animationColors d.rev = DARKNESS := by
    rw [read_animationColors, device_bleEvtAdvReport, accepted, if_neg (by simpa using apart)]
    exact black
  have combined : calculateCombinedColor (bleEvtAdvReport flagApi s r).animationColors =
      r.advColor := by
    rw [combined_of_black other (by rw [Fin.rev_rev, color]; rfl), Fin.rev_rev, color]
  have handled : step flagApi s (.report r) = some (bleEvtAdvReport flagApi s r) := rfl
  rw [head_of_step handled (by rw [refreshes, accepted]; rfl), combined]

end Agreement

/-- Whatever buttons the advertiser has seen and whenever it blinked, and whatever the scanner has
been through: a broadcast of the advertiser, received with a strong signal, leaves the selected
colour in store for its device, and the other device's store as it was.  At full light, beside a
black device, each LED of the scanner then holds the words of each LED of the advertiser. -/
theorem broadcast_stored_and_shown [Scaling] {ble : SimpleBle} {deviceId : UInt16} {d : Fin 2}
    (known : Known deviceId d) {es : List (Move Bool)}
    {c : Control Session Button ColorAdv.Program.Statement}
    (advertiser : run mainLoop.move (MainLoop.start started) es = some c)
    (between : c.action = []) {fs : List BootEvent} {b : Boot (FlagTimer (Fin 2))}
    (scanner : run (bootStep flagApi) (powerOn .blank) fs = some b) {data : Vector UInt8 3}
    (onAir : c.state.adv.broadcast = some data) {r : AdvReport}
    (received : Received ble deviceId data r) :
    (∀ ch, ((bleEvtAdvReport flagApi b.scan r).actualDeviceColor d).channel ch =
      (c.state.adv.colorOptions c.state.adv.selected).channel ch) ∧
    (bleEvtAdvReport flagApi b.scan r).actualDeviceColor d.rev =
      b.scan.actualDeviceColor d.rev ∧
    ((b.scan.animationState d).brightness = 100 ∨
        ((bleEvtAdvReport flagApi b.scan r).animationState d).brightness = 100 →
      b.scan.animationColors d.rev = DARKNESS →
      ∃ f, (bleEvtAdvReport flagApi b.scan r).pwm.played.head? = some f ∧
        ∀ led < 30, ∀ led' < 16,
          ledWords f led = ledWords (ColorAdv.Program.colorFrame
            (c.state.adv.colorOptions c.state.adv.selected)) led' ∧
          (c.state.adv.isInSelectMode = false → ∃ g, c.state.adv.pwm.played.head? = some g ∧
            ledWords f led = ledWords g led')) := by
  have consistent := consistent_of_run advertiser between
  have steady := steady_boot scanner
  have accepted := received.acceptedFor known
  have stored := stored_of_report steady accepted
  have bytes : data = ColorAdv.Program.colorBytes c.state.adv.color :=
    Option.some_inj.mp (onAir.symm.trans consistent.settled.onAir)
  have channels (ch : Channel) : r.advColor.channel ch = c.state.adv.color.channel ch := by
    rw [received.advColor, bytes]
    cases ch <;> rfl
  refine ⟨?_, stored.2, ?_⟩
  · intro ch
    rw [stored.1]
    exact channels ch
  · intro full black
    have full : ((bleEvtAdvReport flagApi b.scan r).animationState d).brightness = 100 := by
      rcases full with before | after
      · exact full_of_report accepted before
      · exact after
    refine ⟨_, frame_of_report steady accepted full black, ?_⟩
    intro led driven led' driven'
    have words : ledWords (colorFrame r.advColor) led =
        ledWords (ColorAdv.Program.colorFrame c.state.adv.color) led' := by
      rw [colorFrame, ColorAdv.Program.colorFrame, ledWords_frame _ driven (by decide),
        ledWords_frame _ driven' (by decide), PwmDriver.colorWords_congr channels]
    exact ⟨words, fun mode => ⟨_, consistent.shown mode, words⟩⟩

def litScanner : List BootEvent :=
  startup.map .main ++ .event (.report (beacon device1 ⟨0, 0x8F, 0, 0⟩)) ::
    List.replicate 9 (.event (.undimTick device1))

/-- The advertiser has moved on to orange, and its beacon is heard at full light. -/
theorem broadcast_stored_and_shown_orange :
    ∃ c b f, run mainLoop.move (MainLoop.start started) ColorAdv.Selection.moveOn = some c ∧
      run (bootStep flagApi) (powerOn .blank) litScanner = some b ∧
      ((bleEvtAdvReport flagApi b.scan (beacon 0 ⟨0x40, 0x8F, 0, 0⟩)).actualDeviceColor 0).red =
        0x8F ∧
      (bleEvtAdvReport flagApi b.scan (beacon 0 ⟨0x40, 0x8F, 0, 0⟩)).pwm.played.head? = some f ∧
      ledWords f 29 = ledWords (ColorAdv.Program.colorFrame ColorAdv.Program.ORANGE) 15 := by
  have advertiser : run mainLoop.move (MainLoop.start started) ColorAdv.Selection.moveOn =
      some _ := rfl
  have scanner : run (bootStep flagApi) (powerOn .blank) litScanner = some _ := rfl
  have received : Received ⟨#v[2, 1, 6], 6, #v[0xE0, 2]⟩ 0xAABB #v[0x40, 0x8F, 0]
      (beacon 0 ⟨0x40, 0x8F, 0, 0⟩) := ⟨by decide, by decide, by decide⟩
  obtain ⟨stored, _, shown⟩ := broadcast_stored_and_shown (.inl ⟨rfl, rfl⟩) advertiser rfl scanner
    rfl received
  obtain ⟨f, played, words⟩ := shown (.inl rfl) rfl
  exact ⟨_, _, f, advertiser, scanner, stored .red, played,
    (words 29 (by decide) 15 (by decide)).1⟩

end ProximityLed.EndToEnd
