/- ProximityLed/System
   digest: Two advertisers, the air and the scanner together: whose colours the scanner stores. -/

import ProximityLed.EndToEnd
import ProximityLed.Library.Echo

set_option autoImplicit false
set_option relaxedAutoImplicit false

namespace ProximityLed.System

open PwmDriver (Color DARKNESS)
open Library.Timer
open Library.Run
open Library.Echo
open Library.Interrupt (MainLoop Control Move)
open ColorAdv.Program (Session Button mainLoop started colorBytes palette)
open ColorScan.Helpers
open ColorScan.Handlers (bleEvtAdvReport)
open ColorScan.DeviceView
open ColorScan.Startup
open ColorScan.Soundness (FlagScan)
open EndToEnd (SimpleBle Steady steady_boot stored_of_report)
open Function (update update_self update_of_ne)

/-- The ids that the two advertisers are flashed with. -/
def ids : Fin 2 → UInt16 := ![0xAABB, 0xCCDD]

def colorOf (data : Vector UInt8 3) : Color := ⟨data.getD 0 0, data.getD 1 0, data.getD 2 0, 0⟩

/-- The two advertisers in their main loops, the reports that wait for the scanner's handler, and
the scanner from its power-on.  Beside them a record that no step reads: all that each advertiser
has put on the air, and the colours of its reports that the handler has accepted. -/
structure World where
  advertisers : Fin 2 → Control Session Button ColorAdv.Program.Statement
  pending : List AdvReport
  scanner : Boot (FlagTimer (Fin 2))
  aired : Fin 2 → List (Vector UInt8 3)
  heard : Fin 2 → List Color

def World.broadcast (w : World) (d : Fin 2) : Option (Vector UInt8 3) :=
  (w.advertisers d).state.adv.broadcast

inductive Event
  | advertiser (d : Fin 2) (m : Move Bool)
  | reception (r : AdvReport)
  | scanner (e : BootEvent)

/-- A report with the id of an advertiser holds what this advertiser has on the air. -/
def Genuine (ble : Fin 2 → SimpleBle) (w : World) (r : AdvReport) : Prop :=
  ∀ d, r.advId = ids d → ((w.broadcast d).any fun data =>
    r.buffer.toList.take 10 == ((ble d).payload data).toList) = true

instance (ble : Fin 2 → SimpleBle) (w : World) (r : AdvReport) : Decidable (Genuine ble w r) :=
  inferInstanceAs (Decidable (∀ _, _))

def newlyAired (before after : Option (Vector UInt8 3)) : List (Vector UInt8 3) :=
  if after = before then [] else after.toList

/-- What the handler makes of a report, for the record. -/
def noted (r : AdvReport) (d : Fin 2) : List Color :=
  if r.acceptedFor = some d then [r.advColor] else []

/-- One step of one of the parties.  The radio may hear a broadcast any number of times, or never;
reports wait in the order in which they were heard. -/
def step (ble : Fin 2 → SimpleBle) (w : World) : Event → Option World
  | .advertiser d m => (mainLoop.move (w.advertisers d) m).map fun c =>
    { w with
      advertisers := update w.advertisers d c
      aired := update w.aired d
        (w.aired d ++ newlyAired (w.broadcast d) c.state.adv.broadcast) }
  | .reception r =>
    if w.scanner.scanning ∧ Genuine ble w r then some { w with pending := w.pending ++ [r] }
    else none
  | .scanner (.event (.report r)) =>
    if w.pending.head? = some r then
      (bootStep flagApi w.scanner (.event (.report r))).map fun b =>
        { w with
          scanner := b
          pending := w.pending.tail
          heard := fun d => w.heard d ++ noted r d }
    else none
  | .scanner e => (bootStep flagApi w.scanner e).map fun b => { w with scanner := b }

def switchedOn : World where
  advertisers _ := MainLoop.start started
  pending := []
  scanner := powerOn .blank
  aired _ := started.adv.broadcast.toList
  heard _ := []

section Palette

/-- All bytes that an advertiser has at hand are those of a colour of its palette. -/
structure Painted (s : ColorAdv.Program.Adv) : Prop where
  options : s.colorOptions = palette
  next : ∃ i, s.newColor = colorBytes (palette i)
  onAir : ∀ data, s.broadcast = some data → ∃ i, data = colorBytes (palette i)

private theorem painted_execute {s : ColorAdv.Program.Adv} (h : Painted s)
    (statement : ColorAdv.Program.Statement) : Painted (ColorAdv.Program.execute statement s) := by
  obtain ⟨options, next, onAir⟩ := h
  cases statement with
  | setColorOptions => exact ⟨rfl, next, onAir⟩
  | advertisingStop => exact ⟨options, next, fun _ none => nomatch none⟩
  | readNewColor =>
    refine ⟨options, ⟨s.selected, ?_⟩, onAir⟩
    rw [← options]
    rfl
  | advManufData =>
    refine ⟨options, next, ?_⟩
    intro data now
    obtain rfl := Option.some_inj.mp now
    exact next
  | displayDarkness | displaySelected | displayOptions =>
    dsimp only [ColorAdv.Program.execute]
    exact ⟨options, next, onAir⟩
  | _ => exact ⟨options, next, onAir⟩

private theorem painted_blink {s : ColorAdv.Program.Adv} (h : Painted s) :
    Painted (ColorAdv.Program.blinkAnimation s) := by
  obtain ⟨options, _, _, _, newColor, broadcast⟩ := ColorAdv.Selection.blinkAnimation_frame s
  exact ⟨options.trans h.options, newColor ▸ h.next, broadcast ▸ h.onAir⟩

private theorem painted_move {c c' : Control Session Button ColorAdv.Program.Statement}
    {m : Move Bool}
    (h : Painted c.state.adv) (hm : mainLoop.move c m = some c') : Painted c'.state.adv := by
  obtain ⟨action, polls, s⟩ := c
  cases m with
  | main input =>
    cases action with
    | cons statement rest =>
      obtain rfl := Option.some_inj.mp hm
      exact painted_execute h statement
    | nil =>
      cases polls with
      | nil =>
        obtain rfl := Option.some_inj.mp hm
        exact h
      | cons button polls =>
        obtain rfl := Option.some_inj.mp hm
        rw [← ColorAdv.Program.poll_adv button input s] at h
        exact h
  | interrupt =>
    obtain ⟨t, handled, rfl⟩ := Option.map_eq_some_iff.mp hm
    obtain ⟨_, rfl⟩ := ColorAdv.Selection.handler_eq_some handled
    exact painted_blink h

private theorem painted_started : Painted started.adv :=
  ⟨rfl, ⟨0, rfl⟩, fun _ first => ⟨0, (Option.some_inj.mp first).symm⟩⟩

end Palette

section Scanner

variable {b b' : Boot (FlagTimer (Fin 2))} {d : Fin 2} {r : AdvReport}

private theorem advId_of_accepted (accepted : r.acceptedFor = some d) : r.advId = ids d := by
  rw [acceptedFor_eq] at accepted
  split at accepted
  · cases accepted
  · unfold getDeviceIndex at accepted
    split at accepted
    · obtain rfl := Option.some_inj.mp accepted
      assumption
    · split at accepted
      · obtain rfl := Option.some_inj.mp accepted
        assumption
      · cases accepted

private theorem advColor_of_payload {ble : SimpleBle} {data : Vector UInt8 3}
    (payload : r.buffer.toList.take 10 = (ble.payload data).toList) :
    r.advColor = colorOf data := by
  have byte (i : ℕ) (hi : i < 10) : r.buffer.toList[i]? = (ble.payload data).toList[i]? := by
    rw [← payload, List.getElem?_take_of_lt hi]
  have whole : colorOf data = ⟨data[0], data[1], data[2], 0⟩ := by
    simp [colorOf, Vector.getD, Array.getD]
  rw [whole]
  refine Color.ext ?_ ?_ ?_ rfl
  · simpa [SimpleBle.payload, AdvReport.advColor] using byte 7 (by decide)
  · simpa [SimpleBle.payload, AdvReport.advColor] using byte 8 (by decide)
  · simpa [SimpleBle.payload, AdvReport.advColor] using byte 9 (by decide)

private theorem stored_report (steady : Steady b.scan)
    (h : bootStep flagApi b (.event (.report r)) = some b') :
    b'.scan.actualDeviceColor d =
      (noted r d).getLast?.getD (b.scan.actualDeviceColor d) := by
  simp only [bootStep, Option.ite_none_right_eq_some, Option.some.injEq] at h
  obtain ⟨_, rfl⟩ := h
  by_cases accepted : r.acceptedFor = some d
  · rw [(stored_of_report steady accepted).1, noted, if_pos accepted]
    rfl
  · rw [noted, if_neg accepted]
    simp only [read_actualDeviceColor, device_bleEvtAdvReport, if_neg accepted]
    rfl

private theorem stored_other {e : BootEvent} (steady : Steady b.scan)
    (h : bootStep flagApi b e = some b')
    (silent : ∀ r, e ≠ .event (.report r)) :
    b'.scan.actualDeviceColor d = b.scan.actualDeviceColor d := by
  obtain ⟨statement, rfl, _, rfl⟩ | ⟨ev, s, rfl, _, handled, rfl⟩ := bootStep_cases h
  · cases statement <;> rfl
  · have color := (ColorScan.Cache.step_color (d := d) steady.wired (steady.cached d) handled).2
    rw [read_actualDeviceColor, color, ← read_actualDeviceColor]
    cases ev with
    | report r => exact absurd rfl (silent r)
    | ttlTick c | undimTick c =>
      by_cases own : c = d <;> simp [forDevice, ColorScan.Cache.heard, own]

end Scanner

variable {ble : Fin 2 → SimpleBle} {w w' : World}

inductive Moved (ble : Fin 2 → SimpleBle) (w : World) : Event → World → Prop
  | advertiser {d : Fin 2} {m : Move Bool} {c : Control Session Button ColorAdv.Program.Statement} :
      mainLoop.move (w.advertisers d) m = some c →
      Moved ble w (.advertiser d m)
        { w with
          advertisers := update w.advertisers d c
          aired := update w.aired d
            (w.aired d ++ newlyAired (w.broadcast d) c.state.adv.broadcast) }
  | reception {r : AdvReport} : w.scanner.scanning = true → Genuine ble w r →
      Moved ble w (.reception r) { w with pending := w.pending ++ [r] }
  | report {r : AdvReport} {rest : List AdvReport} {b : Boot (FlagTimer (Fin 2))} :
      w.pending = r :: rest → bootStep flagApi w.scanner (.event (.report r)) = some b →
      Moved ble w (.scanner (.event (.report r)))
        { w with scanner := b, pending := rest, heard := fun d => w.heard d ++ noted r d }
  | other {e : BootEvent} {b : Boot (FlagTimer (Fin 2))} : (∀ r, e ≠ .event (.report r)) →
      bootStep flagApi w.scanner e = some b → Moved ble w (.scanner e) { w with scanner := b }

theorem moved_of_step {e : Event} (h : step ble w e = some w') : Moved ble w e w' := by
  cases e with
  | advertiser d m =>
    obtain ⟨c, moved, rfl⟩ := Option.map_eq_some_iff.mp h
    exact .advertiser moved
  | reception r =>
    simp only [step, Option.ite_none_right_eq_some, Option.some.injEq] at h
    obtain ⟨⟨scanning, genuine⟩, rfl⟩ := h
    exact .reception scanning genuine
  | scanner e =>
    have other (silent : ∀ r, e ≠ .event (.report r))
        (h : (bootStep flagApi w.scanner e).map (fun b => { w with scanner := b }) = some w') :
        Moved ble w (.scanner e) w' := by
      obtain ⟨b, moved, rfl⟩ := Option.map_eq_some_iff.mp h
      exact .other silent moved
    cases e with
    | main statement => exact other (fun _ same => nomatch same) h
    | event ev =>
      cases ev with
      | report r =>
        simp only [step, Option.ite_none_right_eq_some] at h
        obtain ⟨first, h⟩ := h
        obtain ⟨b, moved, rfl⟩ := Option.map_eq_some_iff.mp h
        obtain ⟨rest, waiting⟩ := List.head?_eq_some_iff.mp first
        rw [waiting]
        exact .report waiting moved
      | ttlTick d => exact other (fun _ same => nomatch same) h
      | undimTick d => exact other (fun _ same => nomatch same) h

structure Linked (w : World) (d : Fin 2) : Prop where
  loop : ∃ es, run mainLoop.move (MainLoop.start started) es = some (w.advertisers d)
  painted : Painted (w.advertisers d).state.adv
  current : ∀ data, w.broadcast d = some data → (w.aired d).getLast? = some data
  palette : ∀ data ∈ w.aired d, ∃ i, data = colorBytes (palette i)
  echo : Echoes (w.heard d ++ w.pending.flatMap (noted · d)) ((w.aired d).map colorOf)
  stored : w.scanner.scan.actualDeviceColor d = (w.heard d).getLast?.getD DARKNESS

def Booted (w : World) : Prop := ∃ fs, run (bootStep flagApi) (powerOn .blank) fs = some w.scanner

private theorem linked_switchedOn (d : Fin 2) : Linked switchedOn d where
  loop := ⟨[], rfl⟩
  painted := painted_started
  current data first := by
    show started.adv.broadcast.toList.getLast? = some data
    rw [show started.adv.broadcast = some data from first]
    rfl
  palette data first := painted_started.onAir data (Option.mem_toList.mp first)
  echo := Echoes.silence.send _
  stored := by fin_cases d <;> rfl

private theorem booted_step {e : Event} (h : Booted w) (moved : Moved ble w e w') : Booted w' := by
  obtain ⟨fs, before⟩ := h
  have next {e : BootEvent} {b : Boot (FlagTimer (Fin 2))}
      (hb : bootStep flagApi w.scanner e = some b) :
      ∃ fs, run (bootStep flagApi) (powerOn .blank) fs = some b :=
    ⟨fs ++ [e], run_append_eq_some.mpr ⟨_, before, by rw [run_singleton, hb]⟩⟩
  cases moved with
  | advertiser _ => exact ⟨fs, before⟩
  | reception _ _ => exact ⟨fs, before⟩
  | report _ hb => exact next hb
  | other _ hb => exact next hb

private theorem linked_advertiser {d : Fin 2} {m : Move Bool}
    {c : Control Session Button ColorAdv.Program.Statement} (h : Linked w d)
    (hm : mainLoop.move (w.advertisers d) m = some c) :
    Linked { w with
      advertisers := update w.advertisers d c
      aired := update w.aired d
        (w.aired d ++ newlyAired (w.broadcast d) c.state.adv.broadcast) } d := by
  have painted := painted_move h.painted hm
  obtain ⟨es, before⟩ := h.loop
  have loop : run mainLoop.move (MainLoop.start started) (es ++ [m]) = some c :=
    run_append_eq_some.mpr ⟨_, before, by rw [run_singleton, hm]⟩
  refine ⟨⟨es ++ [m], ?_⟩, ?_, ?_, ?_, ?_, h.stored⟩ <;>
    simp only [World.broadcast, update_self]
  · exact loop
  · exact painted
  · intro data now
    rw [newlyAired, now]
    split
    · rename_i same
      rw [List.append_nil]
      exact h.current data same.symm
    · simp
  · intro data mem
    rcases List.mem_append.mp mem with old | new
    · exact h.palette data old
    · unfold newlyAired at new
      split at new
      · cases new
      · exact painted.onAir data (Option.mem_toList.mp new)
  · rw [List.map_append]
    unfold newlyAired
    split
    · rw [List.map_nil, List.append_nil]
      exact h.echo
    · cases c.state.adv.broadcast with
      | none =>
        rw [Option.toList_none, List.map_nil, List.append_nil]
        exact h.echo
      | some data => exact h.echo.send (colorOf data)

private theorem last_of_genuine {d : Fin 2} {r : AdvReport}
    (current : ∀ data, w.broadcast d = some data → (w.aired d).getLast? = some data)
    (genuine : Genuine ble w r) (accepted : r.acceptedFor = some d) :
    ((w.aired d).map colorOf).getLast? = some r.advColor := by
  have payload := genuine d (advId_of_accepted accepted)
  rw [Option.any_eq_true] at payload
  obtain ⟨data, now, same⟩ := payload
  rw [List.getLast?_map, current data now, Option.map_some,
    advColor_of_payload (beq_iff_eq.mp same)]

private theorem getLast?_getD_append (front back : List Color) (c : Color) :
    (front ++ back).getLast?.getD c = back.getLast?.getD (front.getLast?.getD c) := by
  rw [List.getLast?_append]
  cases back.getLast? <;> rfl

theorem linked_step {e : Event} {d : Fin 2} (booted : Booted w) (h : Linked w d)
    (moved : Moved ble w e w') : Linked w' d := by
  obtain ⟨fs, before⟩ := booted
  have steady := steady_boot before
  cases moved with
  | @advertiser c m loop hm =>
    by_cases own : d = c
    · subst own
      exact linked_advertiser h hm
    · refine ⟨?_, ?_, ?_, ?_, ?_, h.stored⟩ <;>
        simp only [World.broadcast, update_of_ne own]
      · exact h.loop
      · exact h.painted
      · exact h.current
      · exact h.palette
      · exact h.echo
  | @reception r _ genuine =>
    refine ⟨h.loop, h.painted, h.current, h.palette, ?_, h.stored⟩
    rw [List.flatMap_append, List.flatMap_singleton, ← List.append_assoc]
    by_cases accepted : r.acceptedFor = some d
    · rw [noted, if_pos accepted]
      exact h.echo.hear_last (last_of_genuine h.current genuine accepted)
    · rw [noted, if_neg accepted, List.append_nil]
      exact h.echo
  | @report r rest b waiting hb =>
    refine ⟨h.loop, h.painted, h.current, h.palette, ?_, ?_⟩
    · have echo := h.echo
      rw [waiting, List.flatMap_cons, ← List.append_assoc] at echo
      exact echo
    · rw [stored_report steady hb, h.stored]
      exact (getLast?_getD_append _ _ _).symm
  | @other e b silent hb =>
    refine ⟨h.loop, h.painted, h.current, h.palette, h.echo, ?_⟩
    rw [stored_other steady hb silent]
    exact h.stored

section Runs

variable {es fs : List Event} {d : Fin 2}

theorem linked_of_run (h : run (step ble) switchedOn es = some w) (d : Fin 2) :
    Booted w ∧ Linked w d := by
  refine run_invariant (I := fun w => Booted w ∧ Linked w d) ?_
    ⟨⟨[], rfl⟩, linked_switchedOn d⟩ h
  intro m e m' _ ⟨booted, linked⟩ he
  have moved := moved_of_step he
  exact ⟨booted_step booted moved, linked_step booted linked moved⟩

private theorem colorOf_colorBytes (i : Fin 8) : colorOf (colorBytes (palette i)) = palette i := by
  fin_cases i <;> rfl

/-- What has happened between two worlds to the record of a device: as long as the advertiser has
put nothing new on the air, all that was heard since, or waits, is what it sends. -/
def Since (w m : World) (d : Fin 2) : Prop :=
  ∃ later mine, m.aired d = w.aired d ++ later ∧ m.heard d = w.heard d ++ mine ∧
    (later = [] → ∀ c ∈ mine ++ m.pending.flatMap (noted · d),
      ((m.aired d).map colorOf).getLast? = some c)

private theorem since_step {m m' : World} {e : Event} (linked : Linked m d) (h : Since w m d)
    (moved : Moved ble m e m') : Since w m' d := by
  obtain ⟨later, mine, aired, heard, same⟩ := h
  cases moved with
  | @advertiser a move c hm =>
    by_cases own : d = a
    · subst own
      refine ⟨later ++ newlyAired (m.broadcast d) c.state.adv.broadcast, mine, ?_, heard, ?_⟩
      · simp only [update_self, aired, List.append_assoc]
      · intro nothing
        obtain ⟨none_before, none_now⟩ := List.append_eq_nil_iff.mp nothing
        simp only [update_self, none_now, List.append_nil]
        exact same none_before
    · refine ⟨later, mine, ?_, heard, ?_⟩ <;> simp only [update_of_ne own]
      · exact aired
      · exact same
  | @reception r _ genuine =>
    refine ⟨later, mine, aired, heard, ?_⟩
    intro nothing c mem
    simp only [List.flatMap_append, List.flatMap_singleton, ← List.append_assoc] at mem
    rcases List.mem_append.mp mem with old | new
    · exact same nothing c old
    · unfold noted at new
      split at new
      · rename_i accepted
        rw [List.mem_singleton.mp new]
        exact last_of_genuine linked.current genuine accepted
      · cases new
  | @report r rest b waiting _ =>
    refine ⟨later, mine ++ noted r d, aired, ?_, ?_⟩
    · simp only [heard, List.append_assoc]
    · intro nothing c mem
      apply same nothing c
      rw [waiting, List.flatMap_cons, ← List.append_assoc]
      exact mem
  | other _ _ => exact ⟨later, mine, aired, heard, same⟩

/-- Whatever the three parties do, in whatever order, and whatever the radio hears or misses: the
scanner stores for each device the colour it accepted last, black at first; all it has accepted is
what this device's advertiser has put on the air, each broadcast some number of times and in this
order; and so a stored colour is black or a colour of the palette that this advertiser, not the
other, has had on the air. -/
theorem stored_colors_aired (h : run (step ble) switchedOn es = some w) (d : Fin 2) :
    w.scanner.scan.actualDeviceColor d = (w.heard d).getLast?.getD DARKNESS ∧
    (∃ n, w.heard d = repeated n ((w.aired d).map colorOf)) ∧
    (w.scanner.scan.actualDeviceColor d = DARKNESS ∨ ∃ i, colorBytes (palette i) ∈ w.aired d ∧
      w.scanner.scan.actualDeviceColor d = palette i) := by
  obtain ⟨_, linked⟩ := linked_of_run h d
  obtain ⟨n, copies⟩ := linked.echo.of_append.exists_repeated
  refine ⟨linked.stored, ⟨n, copies⟩, ?_⟩
  cases last : (w.heard d).getLast? with
  | none =>
    left
    rw [linked.stored, last]
    rfl
  | some c =>
    right
    have mem : c ∈ repeated n ((w.aired d).map colorOf) := copies ▸ List.mem_of_getLast? last
    obtain ⟨data, aired, rfl⟩ := List.mem_map.mp (mem_of_mem_repeated mem)
    obtain ⟨i, rfl⟩ := linked.palette data aired
    refine ⟨i, aired, ?_⟩
    rw [linked.stored, last, ← colorOf_colorBytes i]
    rfl

/-- Once a colour has stayed on the air, and no older report of its device waits any more, one
accepted report is enough: from then on, and until the advertiser sends something else, the scanner
stores the colour that is selected there. -/
theorem agreement_once_heard (before : run (step ble) switchedOn es = some w)
    (after : run (step ble) w fs = some w') (drained : ∀ r ∈ w.pending, r.acceptedFor ≠ some d)
    (unchanged : w'.aired d = w.aired d) (heard : w'.heard d ≠ w.heard d)
    (between : (w'.advertisers d).action = []) :
    w'.scanner.scan.actualDeviceColor d = (w'.advertisers d).state.adv.color := by
  have whole := run_append_eq_some.mpr ⟨w, before, after⟩
  obtain ⟨_, linked⟩ := linked_of_run whole d
  have since : Since w w' d := by
    have nothing : w.pending.flatMap (noted · d) = [] := by
      rw [List.flatMap_eq_nil_iff]
      intro r waiting
      exact if_neg (drained r waiting)
    refine (run_invariant (I := fun m => (Booted m ∧ Linked m d) ∧ Since w m d) ?_
      ⟨linked_of_run before d, [], [], by simp, by simp, ?_⟩ after).2
    · intro m e m' _ ⟨⟨booted, linked⟩, since⟩ he
      have moved := moved_of_step he
      exact ⟨⟨booted_step booted moved, linked_step booted linked moved⟩,
        since_step linked since moved⟩
    · intro _ c mem
      rw [nothing] at mem
      cases mem
  obtain ⟨later, mine, aired, heard_since, same⟩ := since
  have nothing_new : later = [] := by
    rw [unchanged] at aired
    exact List.append_right_eq_self.mp aired.symm
  have some_heard : mine ≠ [] := by
    rintro rfl
    rw [List.append_nil] at heard_since
    exact heard heard_since
  obtain ⟨loop, run_loop⟩ := linked.loop
  have onAir := (ColorAdv.Selection.consistent_of_run run_loop between).settled.onAir
  have last := linked.current _ onAir
  obtain ⟨c, mine_last⟩ := Option.isSome_iff_exists.mp
    (List.getLast?_isSome.mpr some_heard)
  have stored := same nothing_new c (List.mem_append_left _ (List.mem_of_getLast? mine_last))
  rw [List.getLast?_map, last] at stored
  have color : c = (w'.advertisers d).state.adv.color := by
    rw [← Option.some_inj.mp stored, ColorAdv.Program.Adv.color, linked.painted.options]
    exact colorOf_colorBytes _
  rw [linked.stored, heard_since, getLast?_getD_append, mine_last, ← color]
  rfl

def bothAlike (_ : Fin 2) : SimpleBle := ⟨#v[2, 1, 6], 6, #v[0xE0, 2]⟩

def hearTwice (c : Color) : List Event :=
  startup.map (fun statement => .scanner (.main statement)) ++
    [.reception (beacon device1 c), .reception (beacon device1 c),
      .scanner (.event (.report (beacon device1 c))),
      .scanner (.event (.report (beacon device1 c)))]

theorem stored_colors_aired_red :
    ∃ w n, run (step bothAlike) switchedOn (hearTwice ColorAdv.Program.RED) = some w ∧
      w.heard 0 = repeated n ((w.aired 0).map colorOf) ∧ (w.heard 0).length = 2 := by
  have hrun : run (step bothAlike) switchedOn (hearTwice ColorAdv.Program.RED) = some _ := rfl
  obtain ⟨_, ⟨n, copies⟩, _⟩ := stored_colors_aired hrun 0
  exact ⟨_, n, hrun, copies, rfl⟩

def movedOn : World :=
  (run (step bothAlike) switchedOn
    (ColorAdv.Selection.moveOn.map (.advertiser device1))).getD switchedOn

theorem agreement_once_heard_orange :
    ∃ w, run (step bothAlike) switchedOn (ColorAdv.Selection.moveOn.map (.advertiser 0)) =
        some movedOn ∧
      run (step bothAlike) movedOn (hearTwice ColorAdv.Program.ORANGE) = some w ∧
      w.scanner.scan.actualDeviceColor 0 = (w.advertisers 0).state.adv.color := by
  have before : run (step bothAlike) switchedOn
    (ColorAdv.Selection.moveOn.map (.advertiser 0)) = some movedOn := rfl
  have after : run (step bothAlike) movedOn (hearTwice ColorAdv.Program.ORANGE) = some _ := rfl
  refine ⟨_, before, after, agreement_once_heard before after ?_ rfl ?_ rfl⟩
  · intro r waiting
    cases waiting
  · intro nothing
    cases nothing

end Runs

end ProximityLed.System
