/- ProximityLed/ColorAdv/Selection
   digest: Between the actions of the loop, index, broadcast, mode, timer and strip agree. -/

import ProximityLed.ColorAdv.Program

set_option autoImplicit false
set_option relaxedAutoImplicit false

namespace ProximityLed.ColorAdv.Selection

open PwmDriver (Color Channel DARKNESS ledChannel ledChannel_frame displayLeds_played)
open Library.Interrupt
open Library.Run
open Library.Timer (FlagTimer flagApi)
open Program
open Function (update)

def Counted (s : Session) : Prop := s.adv.colorIndex = ((s.pressed2 : ℤ) - s.pressed1) % 8

def OnAir (s : Adv) : Prop := s.broadcast = some (colorBytes s.color)

def Entry (s : Adv) (j : Fin 8) : Prop :=
  s.displayedColors j = s.colorOptions j ∨ s.displayedColors j = DARKNESS

structure Settled (s : Session) : Prop where
  palette : s.adv.colorOptions = palette
  counted : Counted s
  onAir : OnAir s.adv
  others : ∀ j, j ≠ s.adv.selected → s.adv.displayedColors j = s.adv.colorOptions j
  own : Entry s.adv s.adv.selected

def Timer (s : Adv) (running : Bool) : Prop :=
  s.blinkingTimer = ⟨true, if running then some () else none⟩

structure Consistent (s : Session) : Prop where
  settled : Settled s
  timer : Timer s.adv s.adv.isInSelectMode
  shown : s.adv.isInSelectMode = false → s.adv.pwm.played.head? = some (colorFrame s.adv.color)

structure Selecting (s : Session) : Prop where
  palette : s.adv.colorOptions = palette
  mode : s.adv.isInSelectMode = true
  timer : Timer s.adv true
  entries : ∀ j, Entry s.adv j

/-- The blink timer stands still in a mode that is about to change, or has just changed. -/
structure Halted (mode : Bool) (s : Session) : Prop where
  settled : Settled s
  timer : Timer s.adv false
  mode : s.adv.isInSelectMode = mode

section Blink

variable (s : Adv)

theorem blinkAnimation_frame :
    (blinkAnimation s).colorOptions = s.colorOptions ∧
      (blinkAnimation s).colorIndex = s.colorIndex ∧
      (blinkAnimation s).isInSelectMode = s.isInSelectMode ∧
      (blinkAnimation s).blinkingTimer = s.blinkingTimer ∧
      (blinkAnimation s).newColor = s.newColor ∧ (blinkAnimation s).broadcast = s.broadcast := by
  unfold blinkAnimation
  dsimp only
  split <;> exact ⟨rfl, rfl, rfl, rfl, rfl, rfl⟩

theorem blinkAnimation_selected : (blinkAnimation s).selected = s.selected := by
  simp only [Adv.selected, (blinkAnimation_frame s).2.1]

private theorem blinkAnimation_color : (blinkAnimation s).color = s.color := by
  rw [Adv.color, Adv.color, blinkAnimation_selected, (blinkAnimation_frame s).1]

theorem blinkAnimation_of_ne {j : Fin 8} (other : j ≠ s.selected) :
    (blinkAnimation s).displayedColors j = s.displayedColors j := by
  unfold blinkAnimation
  dsimp only
  split <;> exact Function.update_of_ne other _ _

theorem blinkAnimation_entry (j : Fin 8) (h : Entry s j) : Entry (blinkAnimation s) j := by
  by_cases own : j = s.selected
  · subst own
    unfold Entry blinkAnimation
    dsimp only
    split
    · exact .inl (Function.update_self _ _ _)
    · exact .inr (Function.update_self _ _ _)
  · rw [Entry, blinkAnimation_of_ne s own, (blinkAnimation_frame s).1]
    exact h

end Blink

section Stable

theorem handler_eq_some {s t : Session} (h : mainLoop.handler s = some t) :
    s.adv.blinkingTimer.running = true ∧ t = { s with adv := blinkAnimation s.adv } := by
  simp only [mainLoop, Option.ite_none_right_eq_some, Option.some.injEq] at h
  exact ⟨h.1, h.2.symm⟩

private theorem stable_of_blink {P : Session → Prop}
    (keeps : ∀ s, P s → s.adv.blinkingTimer.running = true →
      P { s with adv := blinkAnimation s.adv }) : mainLoop.Stable P := by
  intro s t holds h
  rcases handler_eq_some h with ⟨running, rfl⟩
  exact keeps s holds running

private theorem counted_blink {s : Session} (h : Counted s) :
    Counted { s with adv := blinkAnimation s.adv } := by
  rw [Counted, (blinkAnimation_frame s.adv).2.1]
  exact h

private theorem onAir_blink {s : Adv} (h : OnAir s) : OnAir (blinkAnimation s) := by
  rw [OnAir, blinkAnimation_color, (blinkAnimation_frame s).2.2.2.2.2]
  exact h

private theorem timer_blink {s : Adv} {running : Bool} (h : Timer s running) :
    Timer (blinkAnimation s) running := by
  rw [Timer, (blinkAnimation_frame s).2.2.2.1]
  exact h

private theorem settled_blink {s : Session} (h : Settled s) :
    Settled { s with adv := blinkAnimation s.adv } := by
  refine ⟨?_, counted_blink h.counted, onAir_blink h.onAir, ?_, ?_⟩
  · rw [(blinkAnimation_frame s.adv).1, h.palette]
  · intro j other
    rw [blinkAnimation_selected] at other
    rw [blinkAnimation_of_ne s.adv other, (blinkAnimation_frame s.adv).1]
    exact h.others j other
  · rw [blinkAnimation_selected]
    exact blinkAnimation_entry s.adv _ h.own

private theorem selecting_blink {s : Session} (h : Selecting s) :
    Selecting { s with adv := blinkAnimation s.adv } := by
  refine ⟨?_, ?_, timer_blink h.timer, fun j => blinkAnimation_entry s.adv j (h.entries j)⟩
  · rw [(blinkAnimation_frame s.adv).1, h.palette]
  · rw [(blinkAnimation_frame s.adv).2.2.1, h.mode]

private theorem stable_consistent : mainLoop.Stable Consistent := by
  apply stable_of_blink
  intro s h running
  have select : s.adv.isInSelectMode = true := by
    cases mode : s.adv.isInSelectMode
    · rw [h.timer, mode] at running
      cases running
    · rfl
  refine ⟨settled_blink h.settled, ?_, ?_⟩
  · rw [(blinkAnimation_frame s.adv).2.2.1]
    exact timer_blink h.timer
  · intro left
    rw [(blinkAnimation_frame s.adv).2.2.1, select] at left
    cases left

private theorem stable_halted (mode : Bool) : mainLoop.Stable (Halted mode) := by
  apply stable_of_blink
  intro s h running
  rw [h.timer] at running
  cases running

end Stable

section ChangeColor

def Changed (s : Session) : Prop := Selecting s ∧ Counted s

def Read (s : Session) : Prop := Changed s ∧ s.adv.newColor = colorBytes s.adv.color

/-- The selected colour is on the air, and the first `k` entries are reset. -/
def Reset (k : ℕ) (s : Session) : Prop :=
  Changed s ∧ OnAir s.adv ∧
    ∀ j : Fin 8, j.val < k → j ≠ s.adv.selected → s.adv.displayedColors j = s.adv.colorOptions j

private theorem changed_blink {s : Session} (h : Changed s) :
    Changed { s with adv := blinkAnimation s.adv } :=
  ⟨selecting_blink h.1, counted_blink h.2⟩

private theorem stable_changed : mainLoop.Stable Changed :=
  stable_of_blink fun _ h _ => changed_blink h

private theorem stable_read : mainLoop.Stable Read := by
  apply stable_of_blink
  intro s h _
  refine ⟨changed_blink h.1, ?_⟩
  rw [blinkAnimation_color, (blinkAnimation_frame s.adv).2.2.2.2.1]
  exact h.2

private theorem stable_reset (k : ℕ) : mainLoop.Stable (Reset k) := by
  apply stable_of_blink
  rintro s ⟨changed, onAir, done⟩ _
  refine ⟨changed_blink changed, onAir_blink onAir, ?_⟩
  intro j before other
  rw [blinkAnimation_selected] at other
  rw [blinkAnimation_of_ne s.adv other, (blinkAnimation_frame s.adv).1]
  exact done j before other

private theorem reset_pass (i : Fin 8) {s : Session} (h : Reset i.val s) :
    Reset (i.val + 1) { s with adv := execute (.resetDisplayed i) s.adv } := by
  obtain ⟨⟨⟨palette, mode, timer, entries⟩, counted⟩, onAir, done⟩ := h
  have set : update s.adv.displayedColors i (s.adv.colorOptions i) i = s.adv.colorOptions i :=
    Function.update_self _ _ _
  refine ⟨⟨⟨palette, mode, timer, ?_⟩, counted⟩, onAir, ?_⟩
  · intro j
    by_cases here : j = i
    · subst here
      exact .inl set
    · show update s.adv.displayedColors i _ j = _ ∨ update s.adv.displayedColors i _ j = _
      rw [Function.update_of_ne here]
      exact entries j
  · intro j before other
    show update s.adv.displayedColors i _ j = s.adv.colorOptions j
    by_cases here : j = i
    · subst here
      exact set
    · rw [Function.update_of_ne here]
      have apart : j.val ≠ i.val := fun same => here (Fin.ext same)
      exact done j (by omega) other

theorem Reset.consistent {s : Session} (h : Reset 8 s) : Consistent s := by
  obtain ⟨⟨⟨palette, mode, timer, entries⟩, counted⟩, onAir, done⟩ := h
  refine ⟨⟨palette, counted, onAir, fun j other => done j j.isLt other, entries _⟩, ?_, ?_⟩
  · rw [mode]
    exact timer
  · intro left
    rw [mode] at left
    cases left

private theorem outline_reset : mainLoop.Outline (Reset 8) resetDisplayedColors (Reset 0) :=
  MainLoop.Outline.counted Statement.resetDisplayed Reset stable_reset fun i _ h => reset_pass i h

private theorem outline_recolor :
    mainLoop.Outline Consistent (updateColor ++ (resetDisplayedColors ++ [.delayMs 500]))
      Changed := by
  refine .next stable_changed (R := Changed) ?_ ?_
  · intro s h
    exact ⟨⟨h.1.palette, h.1.mode, h.1.timer, h.1.entries⟩, h.2⟩
  refine .next stable_changed (R := Read) ?_ ?_
  · intro s h
    exact ⟨⟨⟨h.1.palette, h.1.mode, h.1.timer, h.1.entries⟩, h.2⟩, rfl⟩
  refine .next stable_read (R := Reset 0) ?_ ?_
  · intro s h
    obtain ⟨⟨⟨palette, mode, timer, entries⟩, counted⟩, bytes⟩ := h
    exact ⟨⟨⟨palette, mode, timer, entries⟩, counted⟩, congrArg some bytes,
      fun j before => absurd before (Nat.not_lt_zero _)⟩
  apply outline_reset.append
  exact .next (stable_reset 8) (fun s h => h.consistent) .done

/-- Selecting with an index that the change of the action, `f`, makes right. -/
def Turning (f : ℤ → ℤ) (s : Session) : Prop :=
  Selecting s ∧ f s.adv.colorIndex = ((s.pressed2 : ℤ) - s.pressed1) % 8

private theorem stable_turning (f : ℤ → ℤ) : mainLoop.Stable (Turning f) := by
  apply stable_of_blink
  intro s h _
  refine ⟨selecting_blink h.1, ?_⟩
  rw [(blinkAnimation_frame s.adv).2.1]
  exact h.2

private theorem outline_decrement :
    mainLoop.Outline Consistent (changeColor .decrementIndex) (Turning decrementColorIndex) :=
  .next (stable_turning _)
    (fun _ h => ⟨⟨h.1.palette, h.1.mode, h.1.timer, h.1.entries⟩, h.2⟩) outline_recolor

private theorem outline_increment :
    mainLoop.Outline Consistent (changeColor .incrementIndex) (Turning incrementColorIndex) :=
  .next (stable_turning _)
    (fun _ h => ⟨⟨h.1.palette, h.1.mode, h.1.timer, h.1.entries⟩, h.2⟩) outline_recolor

private theorem Consistent.selecting {s : Session} (h : Consistent s)
    (mode : s.adv.isInSelectMode = true) : Selecting s := by
  refine ⟨h.settled.palette, mode, ?_, ?_⟩
  · rw [← mode]
    exact h.timer
  · intro j
    by_cases own : j = s.adv.selected
    · rw [own]
      exact h.settled.own
    · exact .inl (h.settled.others j own)

end ChangeColor

section SelectMode

def InMode (mode : Bool) (s : Session) : Prop := Consistent s ∧ s.adv.isInSelectMode = mode

private theorem stable_inMode (mode : Bool) : mainLoop.Stable (InMode mode) := by
  intro s t h handled
  refine ⟨stable_consistent s t h.1 handled, ?_⟩
  rcases handler_eq_some handled with ⟨_, rfl⟩
  exact (blinkAnimation_frame s.adv).2.2.1.trans h.2

theorem played_displayColor (c : Color) (p : PwmDriver.Pwm LED_DUTY_CYCLE_ARRAY_LENGTH) :
    (displayColor c p).played = colorFrame c :: p.played :=
  displayLeds_played _ p rfl

private theorem settled_congr {s t : Session} (h : Settled s) (presses1 : t.pressed1 = s.pressed1)
    (presses2 : t.pressed2 = s.pressed2) (options : t.adv.colorOptions = s.adv.colorOptions)
    (displayed : t.adv.displayedColors = s.adv.displayedColors)
    (index : t.adv.colorIndex = s.adv.colorIndex) (air : t.adv.broadcast = s.adv.broadcast) :
    Settled t := by
  have selected : t.adv.selected = s.adv.selected := by simp only [Adv.selected, index]
  obtain ⟨palette, counted, onAir, others, own⟩ := h
  refine ⟨options.trans palette, ?_, ?_, ?_, ?_⟩
  · rw [Counted, index, presses1, presses2]
    exact counted
  · rw [OnAir, air, Adv.color, options, selected]
    exact onAir
  · rw [selected, displayed, options]
    exact others
  · rw [selected, Entry, displayed, options]
    exact own

private theorem halted_display {mode : Bool} {s : Session} (h : Halted mode s)
    (pwm : PwmDriver.Pwm LED_DUTY_CYCLE_ARRAY_LENGTH) :
    Halted mode { s with adv := { s.adv with pwm := pwm } } :=
  ⟨settled_congr h.settled rfl rfl rfl rfl rfl rfl, h.timer, h.mode⟩

private theorem outline_leave : mainLoop.Outline Consistent leaveSelection (InMode true) := by
  refine .next (stable_inMode true) (R := Halted true) ?_ ?_
  · intro s h
    refine ⟨settled_congr h.1.settled rfl rfl rfl rfl rfl rfl, ?_, h.2⟩
    have timer := h.1.timer
    show flagApi.stop s.adv.blinkingTimer = _
    rw [timer]
    rfl
  refine .next (stable_halted true) (R := Halted false) ?_ ?_
  · intro s h
    exact ⟨settled_congr h.settled rfl rfl rfl rfl rfl rfl, h.timer, rfl⟩
  refine .next (stable_halted false) (R := Halted false) (fun s h => halted_display h _) ?_
  refine .next (stable_halted false) (R := Halted false) (fun s h => h) ?_
  refine .next (stable_halted false) (R := Consistent) ?_ ?_
  · intro s h
    have halted := halted_display h (displayColor s.adv.color s.adv.pwm)
    have timer := halted.timer
    rw [← halted.mode] at timer
    refine ⟨halted.settled, timer, ?_⟩
    intro _
    simp only [mainLoop, execute, played_displayColor, List.head?_cons, Adv.color, Adv.selected]
  exact .next stable_consistent (fun s h => h) .done

private theorem outline_enter : mainLoop.Outline Consistent enterSelection (InMode false) := by
  refine .next (stable_inMode false) (R := Halted true) ?_ ?_
  · intro s h
    refine ⟨settled_congr h.1.settled rfl rfl rfl rfl rfl rfl, ?_, rfl⟩
    have timer := h.1.timer
    rw [h.2] at timer
    exact timer
  refine .next (stable_halted true) (R := Halted true) (fun s h => halted_display h _) ?_
  refine .next (stable_halted true) (R := Halted true) (fun s h => h) ?_
  refine .next (stable_halted true) (R := Halted true) (fun s h => halted_display h _) ?_
  refine .next (stable_halted true) (R := Consistent) ?_ ?_
  · intro s h
    refine ⟨settled_congr h.settled rfl rfl rfl rfl rfl rfl, ?_, ?_⟩
    · show flagApi.start 750 () s.adv.blinkingTimer = ⟨true, if s.adv.isInSelectMode then _ else _⟩
      rw [h.timer, h.mode]
      rfl
    · intro left
      change s.adv.isInSelectMode = false at left
      rw [h.mode] at left
      cases left
  exact .next stable_consistent (fun s h => h) .done

end SelectMode

/-- Every poll keeps the loop consistent, or begins an action that makes it so again. -/
theorem poll_begins (button : Button) (held : Bool) (s : Session) (h : Consistent s) :
    ∃ P, P (poll button held s).2 ∧ mainLoop.Outline Consistent (poll button held s).1 P := by
  have index := s.adv.index_mem
  have counted : s.adv.colorIndex = ((s.pressed2 : ℤ) - s.pressed1) % 8 := h.settled.counted
  cases button with
  | button1 =>
    simp only [poll, Bool.and_eq_true]
    split
    · rename_i pressed
      have selecting := h.selecting pressed.2
      refine ⟨_, ⟨⟨selecting.palette, selecting.mode, selecting.timer, selecting.entries⟩, ?_⟩,
        outline_decrement⟩
      rw [decrementColorIndex_eq index]
      push_cast
      omega
    · exact ⟨_, h, .done⟩
  | button2 =>
    simp only [poll, Bool.and_eq_true]
    split
    · rename_i pressed
      have selecting := h.selecting pressed.2
      refine ⟨_, ⟨⟨selecting.palette, selecting.mode, selecting.timer, selecting.entries⟩, ?_⟩,
        outline_increment⟩
      rw [incrementColorIndex_eq index]
      push_cast
      omega
    · exact ⟨_, h, .done⟩
  | button3 =>
    cases held
    · exact ⟨_, h, .done⟩
    · cases mode : s.adv.isInSelectMode
      · refine ⟨InMode false, ⟨h, mode⟩, ?_⟩
        simpa [poll, mode] using outline_enter
      · refine ⟨InMode true, ⟨h, mode⟩, ?_⟩
        simpa [poll, mode] using outline_leave

theorem consistent_started : Consistent started := by
  have entries : ∀ j, started.adv.displayedColors j = started.adv.colorOptions j := by decide
  have startup : startup = .setColorOptions :: resetDisplayedColors ++
    [.displaySelected, .createBlinkingTimer, .readNewColor, .advManufData] := rfl
  refine ⟨⟨rfl, rfl, rfl, fun j _ => entries j, .inl (entries _)⟩, rfl, ?_⟩
  intro _
  simp only [started, startup, List.foldl_append, List.foldl_cons, List.foldl_nil, execute,
    played_displayColor, List.head?_cons, Adv.color, Adv.selected]

/-- Between its actions the loop is consistent, whatever has been pressed and whenever it blinked. -/
theorem consistent_of_run {es : List (Move Bool)} {c : Control Session Button Statement}
    (hrun : run mainLoop.move (MainLoop.start started) es = some c) (between : c.action = []) :
    Consistent c.state :=
  MainLoop.holds_between_actions stable_consistent poll_begins consistent_started hrun between

/-- Whatever buttons are held at the polls, and wherever blinks of a running timer fall between
the statements: between the actions of the loop, and so at the end of every iteration, the index
is in range and counts the presses acted on, the selected colour is on the air, the mode agrees
with the timer, the strip shows the selected colour outside select mode, and only the selected
entry may be blank. -/
theorem selection_consistent {es : List (Move Bool)} {c : Control Session Button Statement}
    (hrun : run mainLoop.move (MainLoop.start started) es = some c) (between : c.action = []) :
    (0 ≤ c.state.adv.colorIndex ∧ c.state.adv.colorIndex ≤ 7 ∧
      c.state.adv.colorIndex = ((c.state.pressed2 : ℤ) - c.state.pressed1) % 8) ∧
    c.state.adv.broadcast = some #v[c.state.adv.color.green, c.state.adv.color.red,
      c.state.adv.color.blue] ∧
    (c.state.adv.isInSelectMode = true ↔ c.state.adv.blinkingTimer.running = true) ∧
    (c.state.adv.isInSelectMode = false → ∃ f, c.state.adv.pwm.played.head? = some f ∧
      ∀ led < 16, ∀ ch, ledChannel f led ch = some (c.state.adv.color.channel ch).toNat) ∧
    (∀ j, j ≠ c.state.adv.selected →
      c.state.adv.displayedColors j = c.state.adv.colorOptions j) ∧
    (c.state.adv.displayedColors c.state.adv.selected = c.state.adv.color ∨
      c.state.adv.displayedColors c.state.adv.selected = DARKNESS) := by
  have h := consistent_of_run hrun between
  have index := c.state.adv.index_mem
  refine ⟨⟨index.1, index.2, h.settled.counted⟩, h.settled.onAir, ?_, ?_,
    h.settled.others, h.settled.own⟩
  · rw [h.timer]
    cases c.state.adv.isInSelectMode <;> simp [FlagTimer.running]
  · intro mode
    exact ⟨_, h.shown mode, fun led driven ch => ledChannel_frame _ ch driven (by decide)⟩

/-- Two iterations: the third button begins the selection, and the second moves it on, with a
blink right after the change of the index. -/
def moveOn : List (Move Bool) :=
  [.main false, .main false, .main false, .main true] ++ List.replicate 6 (.main false) ++
    [.interrupt, .main false, .main false, .main true, .main false, .interrupt] ++
    List.replicate 13 (.main false)

theorem selection_consistent_moveOn :
    ∃ c, run mainLoop.move (MainLoop.start started) moveOn = some c ∧ c.action = [] ∧
      c.polls = [] ∧ c.state.adv.colorIndex = 1 ∧ c.state.adv.broadcast = some #v[0x40, 0x8F, 0] ∧
      ∀ j, j ≠ c.state.adv.selected →
        c.state.adv.displayedColors j = c.state.adv.colorOptions j := by
  have hrun : run mainLoop.move (MainLoop.start started) moveOn = some _ := rfl
  obtain ⟨index, onAir, _, _, others, _⟩ := selection_consistent hrun rfl
  exact ⟨_, hrun, rfl, rfl, index.2.2, onAir, others⟩

end ProximityLed.ColorAdv.Selection
