/- ProximityLed/ColorAdv/Blinking
   digest: The frames of the options, and the blinks that darken two of them at once. -/

import ProximityLed.ColorAdv.Selection

set_option autoImplicit false
set_option relaxedAutoImplicit false

namespace ProximityLed.ColorAdv.Blinking

open PwmDriver (Color Channel DARKNESS frame ledChannel ledChannel_frame frame_tail
  displayLeds_played)
open Library.Interrupt
open Library.Run
open Program
open Selection
open Function (update)

abbrev Point := Control Session Button Statement

/-- A frame of the options: each entry but the selected one shows its option, the selected one
shows its option or is dark, and the words of the LEDs behind the eight are 0. -/
structure ShowsOptions (s : Adv) (f : Vector UInt16 LED_DUTY_CYCLE_ARRAY_LENGTH) : Prop where
  others : ∀ j : Fin 8, j ≠ s.selected → ∀ ch,
    ledChannel f j ch = some ((s.colorOptions j).channel ch).toNat
  selected : (∀ ch, ledChannel f s.selected ch = some (s.color.channel ch).toNat) ∨
    ∀ ch, ledChannel f s.selected ch = some 0
  behind : ∀ k, 8 * 24 ≤ k → k < LED_DUTY_CYCLE_ARRAY_LENGTH → f[k]? = some 0

/-- The moves that call `display_color_options`: a blink, and its statement in the loop. -/
def displaysOptions (c : Point) : Move Bool → Bool
  | .interrupt => true
  | .main _ => c.action.head? = some .displayOptions

def Shown (c : Point) (e : Move Bool) : Prop :=
  displaysOptions c e = true → ∀ c', mainLoop.move c e = some c' →
    ∃ f, c'.state.adv.pwm.played.head? = some f ∧ ShowsOptions c'.state.adv f

/-- The moves that find no dark entry, apart from the selected one, still to be reset: all but a
blink between the change of the index and the reset of the entry selected before, while that entry
is dark. -/
def Timely (c : Point) : Move Bool → Prop
  | .interrupt => ∀ j, .resetDisplayed j ∈ c.action → j ≠ c.state.adv.selected →
      c.state.adv.displayedColors j ≠ DARKNESS
  | .main _ => True

/-- In an action every change of the index comes before a reset of each entry, and the options are
displayed after the last reset. -/
def Ordered : List Statement → Prop
  | [] => True
  | statement :: rest =>
    ((statement = .decrementIndex ∨ statement = .incrementIndex) →
        ∀ j, .resetDisplayed j ∈ rest) ∧
      (statement = .displayOptions → ∀ j, .resetDisplayed j ∉ rest) ∧ Ordered rest

/-- What holds between any two statements: an entry that does not show its option is dark, and is
the selected one or still to be reset. -/
structure Tidy (c : Point) : Prop where
  palette : c.state.adv.colorOptions = palette
  entries : ∀ j, Entry c.state.adv j
  others : ∀ j, j ≠ c.state.adv.selected →
    c.state.adv.displayedColors j = c.state.adv.colorOptions j ∨ .resetDisplayed j ∈ c.action
  ordered : Ordered c.action

section Frames

variable (colors : Palette)

private theorem played_displayColorOptions (p : PwmDriver.Pwm LED_DUTY_CYCLE_ARRAY_LENGTH) :
    (displayColorOptions colors p).played =
      frame LED_DUTY_CYCLE_ARRAY_LENGTH 8 colors.led :: p.played :=
  displayLeds_played _ p rfl

private theorem ledChannel_options (j : Fin 8) (ch : Channel) :
    ledChannel (frame LED_DUTY_CYCLE_ARRAY_LENGTH 8 colors.led) j ch =
      some ((colors j).channel ch).toNat := by
  rw [ledChannel_frame _ ch j.isLt (by decide), Palette.led, dif_pos j.isLt]

private theorem palette_lit : ∀ j, palette j ≠ DARKNESS := by decide

private theorem lit_of_shown {s : Adv} {j : Fin 8} (fixed : s.colorOptions = palette)
    (shown : s.displayedColors j = s.colorOptions j) : s.displayedColors j ≠ DARKNESS := by
  rw [shown, fixed]
  exact palette_lit j

/-- A frame of entries that are their options or dark shows the options exactly when no other
entry than the selected one is dark. -/
theorem showsOptions_iff {s : Adv} (fixed : s.colorOptions = palette) (entries : ∀ j, Entry s j) :
    ShowsOptions s (frame LED_DUTY_CYCLE_ARRAY_LENGTH 8 s.displayedColors.led) ↔
      ∀ j, j ≠ s.selected → s.displayedColors j ≠ DARKNESS := by
  constructor
  · intro shows j other dark
    have channels (ch : Channel) : (s.colorOptions j).channel ch = DARKNESS.channel ch := by
      have shown := shows.others j other ch
      rw [ledChannel_options, dark] at shown
      exact (UInt8.toNat_inj.mp (Option.some_inj.mp shown)).symm
    have padding : ∀ j, (palette j).padding = 0 := by decide
    rw [fixed] at channels
    exact palette_lit j (PwmDriver.Color.ext_channel channels (padding j))
  · intro noneDark
    refine ⟨?_, ?_, fun k behind inside => frame_tail _ behind inside⟩
    · intro j other ch
      rw [ledChannel_options]
      rcases entries j with shown | dark
      · rw [shown]
      · exact absurd dark (noneDark j other)
    · simp only [ledChannel_options]
      rcases entries s.selected with shown | dark
      · left
        intro ch
        rw [shown]
        rfl
      · right
        intro ch
        rw [dark]
        cases ch <;> rfl

end Frames

section Order

def decidableOrdered : (action : List Statement) → Decidable (Ordered action)
  | [] => .isTrue trivial
  | _ :: rest =>
    have := decidableOrdered rest
    inferInstanceAs (Decidable (_ ∧ _ ∧ Ordered rest))

instance : DecidablePred Ordered := decidableOrdered

theorem poll_ordered (button : Button) (held : Bool) (s : Session) :
    Ordered (poll button held s).1 := by
  have actions : Ordered (changeColor .decrementIndex) ∧ Ordered (changeColor .incrementIndex) ∧
      Ordered leaveSelection ∧ Ordered enterSelection := by decide
  obtain ⟨decrement, increment, leave, enter⟩ := actions
  cases button with
  | button1 =>
    simp only [poll]
    split
    · exact decrement
    · trivial
  | button2 =>
    simp only [poll]
    split
    · exact increment
    · trivial
  | button3 =>
    simp only [poll]
    split
    · split
      · exact leave
      · exact enter
    · trivial

end Order

section Invariant

variable {action rest : List Statement} {polls : List Button} {s : Session}

private theorem tidy_poll {button : Button} (held : Bool) (h : Tidy ⟨[], button :: polls, s⟩) :
    Tidy ⟨(poll button held s).1, polls, (poll button held s).2⟩ := by
  have adv := poll_adv button held s
  obtain ⟨fixed, entries, others, _⟩ := h
  refine ⟨?_, ?_, fun j other => .inl ?_, poll_ordered button held s⟩
  · show (poll button held s).2.adv.colorOptions = _
    rw [adv, fixed]
  · show ∀ j, Entry (poll button held s).2.adv j
    rw [adv]
    exact entries
  · show (poll button held s).2.adv.displayedColors j = (poll button held s).2.adv.colorOptions j
    change j ≠ (poll button held s).2.adv.selected at other
    rw [adv] at other ⊢
    rcases others j other with shown | pending
    · exact shown
    · cases pending

private theorem tidy_blink (h : Tidy ⟨action, polls, s⟩) :
    Tidy ⟨action, polls, { s with adv := blinkAnimation s.adv }⟩ := by
  obtain ⟨fixed, entries, others, ordered⟩ := h
  refine ⟨?_, fun j => blinkAnimation_entry s.adv j (entries j), ?_, ordered⟩
  · exact (blinkAnimation_frame s.adv).1.trans fixed
  · intro j other
    change j ≠ (blinkAnimation s.adv).selected at other
    rw [blinkAnimation_selected] at other
    show (blinkAnimation s.adv).displayedColors j = (blinkAnimation s.adv).colorOptions j ∨ _
    rw [blinkAnimation_of_ne s.adv other, (blinkAnimation_frame s.adv).1]
    exact others j other

private theorem tidy_reset {i : Fin 8} (h : Tidy ⟨.resetDisplayed i :: rest, polls, s⟩) :
    Tidy ⟨rest, polls, { s with adv := execute (.resetDisplayed i) s.adv }⟩ := by
  obtain ⟨fixed, entries, others, ordered⟩ := h
  have own : update s.adv.displayedColors i (s.adv.colorOptions i) i = s.adv.colorOptions i :=
    Function.update_self _ _ _
  refine ⟨fixed, ?_, ?_, ordered.2.2⟩
  · intro j
    show update s.adv.displayedColors i _ j = _ ∨ update s.adv.displayedColors i _ j = _
    by_cases here : j = i
    · subst here
      exact .inl own
    · rw [Function.update_of_ne here]
      exact entries j
  · intro j other
    show update s.adv.displayedColors i _ j = _ ∨ _
    by_cases here : j = i
    · subst here
      exact .inl own
    · rw [Function.update_of_ne here]
      rcases others j other with shown | pending
      · exact .inl shown
      · have apart : Statement.resetDisplayed j ≠ .resetDisplayed i := by simpa using here
        exact .inr (List.mem_of_ne_of_mem apart pending)

private theorem tidy_of_pending {adv : Adv} (pending : ∀ j, .resetDisplayed j ∈ rest)
    (fixed : adv.colorOptions = palette) (entries : ∀ j, Entry adv j) (ordered : Ordered rest) :
    Tidy ⟨rest, polls, { s with adv := adv }⟩ :=
  ⟨fixed, entries, fun j _ => .inr (pending j), ordered⟩

private theorem tidy_congr {statement : Statement} {adv : Adv}
    (h : Tidy ⟨statement :: rest, polls, s⟩)
    (apart : ∀ j, Statement.resetDisplayed j ≠ statement)
    (options : adv.colorOptions = s.adv.colorOptions)
    (displayed : adv.displayedColors = s.adv.displayedColors)
    (index : adv.colorIndex = s.adv.colorIndex) : Tidy ⟨rest, polls, { s with adv := adv }⟩ := by
  have selected : adv.selected = s.adv.selected := by simp only [Adv.selected, index]
  refine ⟨options.trans h.palette, ?_, ?_, h.ordered.2.2⟩
  · intro j
    show adv.displayedColors j = adv.colorOptions j ∨ adv.displayedColors j = DARKNESS
    rw [options, displayed]
    exact h.entries j
  · intro j other
    change j ≠ adv.selected at other
    show adv.displayedColors j = adv.colorOptions j ∨ _
    rw [options, displayed]
    rw [selected] at other
    rcases h.others j other with shown | pending
    · exact .inl shown
    · exact .inr (List.mem_of_ne_of_mem (apart j) pending)

private theorem tidy_execute {statement : Statement} (h : Tidy ⟨statement :: rest, polls, s⟩) :
    Tidy ⟨rest, polls, { s with adv := execute statement s.adv }⟩ := by
  cases statement with
  | resetDisplayed i => exact tidy_reset h
  | decrementIndex =>
    exact tidy_of_pending (h.ordered.1 (.inl rfl)) h.palette h.entries h.ordered.2.2
  | incrementIndex =>
    exact tidy_of_pending (h.ordered.1 (.inr rfl)) h.palette h.entries h.ordered.2.2
  | setColorOptions => exact tidy_congr h (by simp) h.palette.symm rfl rfl
  | _ =>
    refine tidy_congr h (by simp) ?_ ?_ ?_ <;> simp only [execute]

theorem tidy_move {c c' : Point} {e : Move Bool} (h : Tidy c) (he : mainLoop.move c e = some c') :
    Tidy c' := by
  obtain ⟨action, polls, s⟩ := c
  cases e with
  | main held =>
    cases action with
    | cons statement rest =>
      obtain rfl := Option.some_inj.mp he
      exact tidy_execute h
    | nil =>
      cases polls with
      | cons button polls =>
        obtain rfl := Option.some_inj.mp he
        exact tidy_poll held h
      | nil =>
        obtain rfl := Option.some_inj.mp he
        exact ⟨h.palette, h.entries, h.others, h.ordered⟩
  | interrupt =>
    rcases Option.map_eq_some_iff.mp he with ⟨t, handled, rfl⟩
    rcases handler_eq_some handled with ⟨_, rfl⟩
    exact tidy_blink h

private theorem tidy_started : Tidy (MainLoop.start started) := by
  have shown : ∀ j, started.adv.displayedColors j = started.adv.colorOptions j := by decide
  exact ⟨rfl, fun j => .inl (shown j), fun j _ => .inl (shown j), trivial⟩

end Invariant

section Displays

variable {action : List Statement} {polls : List Button} {s : Session}

private theorem blinkAnimation_played (s : Adv) :
    (blinkAnimation s).pwm.played.head? =
      some (frame LED_DUTY_CYCLE_ARRAY_LENGTH 8 (blinkAnimation s).displayedColors.led) := by
  unfold blinkAnimation
  dsimp only
  rw [played_displayColorOptions]
  rfl

private theorem shown_main {statement : Statement} {held : Bool}
    (h : Tidy ⟨statement :: action, polls, s⟩) :
    Shown ⟨statement :: action, polls, s⟩ (.main held) := by
  intro displays c' he
  obtain rfl : statement = .displayOptions := by simpa [displaysOptions] using displays
  obtain rfl := Option.some_inj.mp he
  have noneDark : ∀ j, j ≠ s.adv.selected → s.adv.displayedColors j ≠ DARKNESS := by
    intro j other
    rcases h.others j other with shown | pending
    · exact lit_of_shown (s := s.adv) h.palette shown
    · rcases List.mem_cons.mp pending with now | later
      · cases now
      · exact absurd later (h.ordered.2.1 rfl j)
  have shows (pwm : PwmDriver.Pwm LED_DUTY_CYCLE_ARRAY_LENGTH) :
      ShowsOptions { s.adv with pwm := pwm }
        (frame LED_DUTY_CYCLE_ARRAY_LENGTH 8 s.adv.displayedColors.led) :=
    (showsOptions_iff (s := { s.adv with pwm := pwm }) h.palette h.entries).mpr noneDark
  exact ⟨_, congrArg List.head? (played_displayColorOptions _ s.adv.pwm), shows _⟩

/-- A blink plays a right frame exactly when it finds no dark entry that is still to be reset. -/
private theorem shown_interrupt {c' : Point} (h : Tidy ⟨action, polls, s⟩)
    (he : mainLoop.move ⟨action, polls, s⟩ .interrupt = some c') :
    Shown ⟨action, polls, s⟩ .interrupt ↔ Timely ⟨action, polls, s⟩ .interrupt := by
  rcases Option.map_eq_some_iff.mp he with ⟨t, handled, rfl⟩
  rcases handler_eq_some handled with ⟨_, rfl⟩
  have blinked := tidy_blink h
  have shows := showsOptions_iff (s := blinkAnimation s.adv) blinked.palette blinked.entries
  have still (j : Fin 8) (other : j ≠ s.adv.selected) :
      (blinkAnimation s.adv).displayedColors j = s.adv.displayedColors j :=
    blinkAnimation_of_ne s.adv other
  rw [blinkAnimation_selected] at shows
  constructor
  · intro shown j _ other
    rcases shown rfl _ he with ⟨f, played, right⟩
    obtain rfl := Option.some_inj.mp ((blinkAnimation_played s.adv).symm.trans played)
    rw [← still j other]
    exact shows.mp right j other
  · intro timely _ c'' he'
    obtain rfl := Option.some_inj.mp (he.symm.trans he')
    refine ⟨_, blinkAnimation_played s.adv, shows.mpr ?_⟩
    intro j other
    rw [still j other]
    rcases h.others j other with shown | pending
    · exact lit_of_shown (s := s.adv) h.palette shown
    · exact timely j pending other

theorem shown_iff {c c' : Point} {e : Move Bool} (h : Tidy c)
    (he : mainLoop.move c e = some c') : Shown c e ↔ Timely c e := by
  obtain ⟨action, polls, s⟩ := c
  cases e with
  | main held =>
    refine ⟨fun _ => trivial, ?_⟩
    intro _
    cases action with
    | nil =>
      intro displays
      cases displays
    | cons statement action => exact shown_main h
  | interrupt => exact shown_interrupt h he

end Displays

/-- In every run of the loop, with blinks of the running timer anywhere between its statements:
every frame of the options is right, with no other entry dark than the selected one, exactly when
every blink of the run finds no other dark entry that is still to be reset. -/
theorem options_shown_iff (es : List (Move Bool)) :
    (∀ p ∈ moves mainLoop.move (MainLoop.start started) es, Shown p.1 p.2) ↔
      ∀ p ∈ moves mainLoop.move (MainLoop.start started) es, Timely p.1 p.2 := by
  have keeps (c : Point) (e : Move Bool) (c' : Point) (h : Tidy c)
      (he : mainLoop.move c e = some c') : Tidy c' := tidy_move h he
  apply forall₂_congr
  intro p mem
  rcases moves_invariant keeps tidy_started es p mem with ⟨tidy, c', he⟩
  exact shown_iff tidy he

/-- The selection is entered, the first option blinks dark, and the second button has just changed
the index. -/
def beforeBlink : List (Move Bool) :=
  [.main false, .main false, .main false, .main true] ++ List.replicate 6 (.main false) ++
    [.interrupt, .main false, .main false, .main true, .main false]

/-- A blink at that point leaves the first two LEDs dark, of which only the second is selected. -/
theorem early_blink_darkens_two :
    ¬ (∀ p ∈ moves mainLoop.move (MainLoop.start started) (beforeBlink ++ [.interrupt]),
        Shown p.1 p.2) ∧
      ∃ c f, run mainLoop.move (MainLoop.start started) (beforeBlink ++ [.interrupt]) = some c ∧
        c.state.adv.colorIndex = 1 ∧ c.state.adv.pwm.played.head? = some f ∧
        ∀ ch, ledChannel f 0 ch = some 0 ∧ ledChannel f 1 ch = some 0 := by
  constructor
  · intro shown
    obtain ⟨c, pre, waiting, other, dark, c', last⟩ : ∃ c : Point,
        run mainLoop.move (MainLoop.start started) beforeBlink = some c ∧
          .resetDisplayed 0 ∈ c.action ∧ 0 ≠ c.state.adv.selected ∧
          c.state.adv.displayedColors 0 = DARKNESS ∧
          ∃ c', mainLoop.move c .interrupt = some c' :=
      ⟨_, rfl, by decide, by decide, rfl, _, rfl⟩
    have mem := mem_moves_of_run pre last
    have tidy := run_invariant (I := Tidy) (fun _ _ _ _ hm he => tidy_move hm he) tidy_started pre
    exact (shown_iff tidy last).mp (shown _ mem) 0 waiting other dark
  · refine ⟨_, _, rfl, rfl, blinkAnimation_played _, fun ch => ⟨?_, ?_⟩⟩
    · apply (ledChannel_options _ 0 ch).trans
      cases ch <;> rfl
    · apply (ledChannel_options _ 1 ch).trans
      cases ch <;> rfl

end ProximityLed.ColorAdv.Blinking
