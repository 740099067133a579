/- ProximityLed/Sniffer/CaptureFilter
   digest: The text of a capture filter, and the packets that its threshold lets through. -/

import ProximityLed.Sniffer.Pipeline
import ProximityLed.Sniffer.Toolbar

set_option autoImplicit false
set_option relaxedAutoImplicit false

namespace ProximityLed.Sniffer.CaptureFilter

open Library.Text
open Capture (Time)
open Pipeline (Sent faint)
open SnifferCollector
open ThreadRuns (recordOf_isSome whole_of_ofList)
open Toolbar (isWideSpace)

def isBlank (c : Char) : Bool := isWideSpace c || (0x1C ≤ c.toNat ∧ c.toNat ≤ 0x1F)

/-- The letters of `rssi` when case is ignored; U+017F is a small s, and the last two are i's. -/
def rssi : List (List Char) :=
  [['r', 'R'], ['s', 'S', Char.ofNat 0x17F], ['s', 'S', Char.ofNat 0x17F],
    ['i', 'I', Char.ofNat 0x130, Char.ofNat 0x131]]

def readWord : List (List Char) → List Char → Option (List Char)
  | [], text => some text
  | _ :: _, [] => none
  | letters :: word, c :: text => if c ∈ letters then readWord word text else none

def readSign : List Char → Bool × List Char
  | '-' :: text => (true, text)
  | text => (false, text)

def signed (minus : Bool) (digits : List Char) : ℤ :=
  if minus then -(Nat.ofDigitChars 10 digits 0 : ℕ) else (Nat.ofDigitChars 10 digits 0 : ℕ)

/-- `\s*(-?[0-9]+)\s*$` -/
def readNumber (text : List Char) : Option ℤ :=
  let (minus, text) := readSign (text.dropWhile isBlank)
  let digits := text.takeWhile Char.isDigit
  if digits ≠ [] ∧ (text.dropWhile Char.isDigit).all isBlank then some (signed minus digits)
  else none

/-- The threshold for `>`; none when the text is no filter.  Thresholds that are called illegal are
used all the same. -/
def parseCaptureFilter (captureFilter : List Char) : Option ℤ :=
  match readWord rssi (captureFilter.dropWhile isBlank) with
  | none => none
  | some text =>
    match text.dropWhile isBlank with
    | '>' :: '=' :: text => (readNumber text).map (· - 1)
    | '>' :: text => readNumber text
    | _ => none

def rssiFilter (captureFilter : List Char) : ℤ := (parseCaptureFilter captureFilter).getD 0

def sign (minus : Bool) : List Char := if minus then ['-'] else []

def Blank (text : List Char) : Prop := ∀ c ∈ text, isBlank c = true

/-- A filter: a bound on the strength of packets, and how it is written. -/
structure Filter where
  before : List Char
  word : List Char
  gap : List Char
  orEqual : Bool
  space : List Char
  minus : Bool
  digits : List Char
  after : List Char
  blank : Blank before ∧ Blank gap ∧ Blank space ∧ Blank after
  spelled : List.Forall₂ (fun letters c => c ∈ letters) rssi word
  number : digits ≠ [] ∧ ∀ c ∈ digits, c.isDigit = true

namespace Filter

def text (f : Filter) : List Char :=
  f.before ++ (f.word ++ (f.gap ++ (['>'] ++ (if f.orEqual then ['='] else []) ++
    (f.space ++ (sign f.minus ++ (f.digits ++ f.after))))))

def bound (f : Filter) : ℤ := signed f.minus f.digits

def Allows (f : Filter) (rssi : ℤ) : Prop :=
  if f.orEqual then rssi ≥ f.bound else rssi > f.bound

def threshold (f : Filter) : ℤ := if f.orEqual then f.bound - 1 else f.bound

theorem allows_iff (f : Filter) (rssi : ℤ) : f.Allows rssi ↔ rssi > f.threshold := by
  unfold Allows threshold
  split <;> omega

end Filter

section Reading

variable {text rest : List Char}

private theorem readWord_iff {word : List (List Char)} : readWord word text = some rest ↔
    ∃ spelling, text = spelling ++ rest ∧
      List.Forall₂ (fun letters c => c ∈ letters) word spelling := by
  induction word generalizing text with
  | nil =>
    rw [readWord, Option.some_inj]
    constructor
    · rintro rfl
      exact ⟨[], rfl, .nil⟩
    · rintro ⟨_, rfl, ⟨⟩⟩
      rfl
  | cons letters word ih =>
    cases text with
    | nil =>
      constructor
      · intro h
        cases h
      · rintro ⟨_, same, ⟨⟩⟩
        cases same
    | cons c text =>
      rw [readWord, Option.ite_none_right_eq_some, ih]
      constructor
      · rintro ⟨first, spelling, rfl, spelled⟩
        exact ⟨c :: spelling, rfl, .cons first spelled⟩
      · rintro ⟨_, same, first | ⟨first, spelled⟩⟩
        obtain ⟨rfl, rfl⟩ := List.cons.inj same
        exact ⟨first, _, rfl, spelled⟩

private theorem isBlank_of_isDigit {c : Char} (digit : c.isDigit = true) : isBlank c = false := by
  obtain ⟨d, small, rfl⟩ := Library.Text.exists_digitChar digit
  revert d
  decide

private theorem readSign_eq (text : List Char) :
    sign (readSign text).1 ++ (readSign text).2 = text := by
  unfold readSign
  split <;> rfl

private theorem readSign_sign {c : Char} (digit : c.isDigit = true) (minus : Bool) :
    readSign (sign minus ++ c :: text) = (minus, c :: text) := by
  cases minus with
  | true => rfl
  | false =>
    change readSign (c :: text) = _
    unfold readSign
    split
    · rename_i same
      rw [(List.cons.inj same).1] at digit
      cases digit
    · rfl

private theorem digits_of_blank {digits after : List Char} (each : ∀ c ∈ digits, c.isDigit = true)
    (blank : Blank after) : (digits ++ after).takeWhile Char.isDigit = digits ∧
      (digits ++ after).dropWhile Char.isDigit = after := by
  have dropped : (digits ++ after).dropWhile Char.isDigit = after := by
    refine dropWhile_eq_iff.mpr ⟨digits, rfl, each, ?_⟩
    intro c first
    rw [Bool.eq_false_iff]
    intro digit
    have spaced := blank c (List.mem_of_head? first)
    rw [isBlank_of_isDigit digit] at spaced
    cases spaced
  refine ⟨?_, dropped⟩
  have whole := List.takeWhile_append_dropWhile (p := Char.isDigit) (l := digits ++ after)
  rw [dropped] at whole
  exact List.append_cancel_right whole

private theorem readNumber_iff {n : ℤ} : readNumber text = some n ↔
    ∃ space minus digits after, text = space ++ (sign minus ++ (digits ++ after)) ∧
      Blank space ∧ Blank after ∧ digits ≠ [] ∧ (∀ c ∈ digits, c.isDigit = true) ∧
      signed minus digits = n := by
  constructor
  · intro h
    simp only [readNumber, Option.ite_none_right_eq_some, Option.some_inj] at h
    obtain ⟨⟨some_digit, after⟩, value⟩ := h
    obtain ⟨space, whole, blank, _⟩ := dropWhile_eq_iff.mp (rfl : text.dropWhile isBlank = _)
    refine ⟨space, _, _, _, ?_, blank, List.all_eq_true.mp after, some_digit, ?_, value⟩
    · rw [List.takeWhile_append_dropWhile, readSign_eq]
      exact whole
    · intro c mem
      exact List.mem_takeWhile_imp mem
  · rintro ⟨space, minus, digits, after, rfl, blank, behind, some_digit, each, rfl⟩
    obtain ⟨taken, left⟩ := digits_of_blank each behind
    cases digits with
    | nil => exact absurd rfl some_digit
    | cons c digits =>
      have first := each c List.mem_cons_self
      have stop : ∀ c' ∈ (sign minus ++ (c :: digits ++ after)).head?, isBlank c' = false := by
        cases minus with
        | true =>
          rintro c' ⟨⟩
          decide
        | false =>
          rintro c' ⟨⟩
          exact isBlank_of_isDigit first
      have skipped : (space ++ (sign minus ++ (c :: digits ++ after))).dropWhile isBlank =
          sign minus ++ (c :: digits ++ after) := dropWhile_eq_iff.mpr ⟨space, rfl, blank, stop⟩
      have read : readSign (sign minus ++ (c :: digits ++ after)) = (minus, c :: digits ++ after) :=
        readSign_sign first minus
      unfold readNumber
      rw [skipped, read]
      dsimp only
      rw [taken, left, if_pos ⟨some_digit, List.all_eq_true.mpr behind⟩]

private theorem Filter.number_ne_equal (f : Filter) :
    (f.space ++ (sign f.minus ++ (f.digits ++ f.after))).head? ≠ some '=' := by
  obtain ⟨_, _, blank, _⟩ := f.blank
  obtain ⟨some_digit, each⟩ := f.number
  cases space : f.space with
  | cons c space =>
    rintro ⟨⟩
    have spaced := blank '=' (by rw [space]; exact List.mem_cons_self)
    revert spaced
    decide
  | nil =>
    cases f.minus with
    | true => rintro ⟨⟩
    | false =>
      cases digits : f.digits with
      | nil => exact absurd digits some_digit
      | cons c digits' =>
        rintro ⟨⟩
        have digit := each '=' (by rw [digits]; exact List.mem_cons_self)
        cases digit

private theorem Filter.word_not_blank (f : Filter) (rest : List Char) :
    ∀ c ∈ (f.word ++ rest).head?, isBlank c = false := by
  have spelled := f.spelled
  unfold rssi at spelled
  cases word : f.word with
  | nil =>
    rw [word] at spelled
    cases spelled
  | cons c word' =>
    rw [word] at spelled
    have first : c ∈ ['r', 'R'] := (List.forall₂_cons.mp spelled).1
    rintro c' ⟨⟩
    rcases List.mem_cons.mp first with rfl | second
    · decide
    · rw [List.mem_singleton.mp second]
      decide

/-- Filters are read as they are written, and nothing else is. -/
theorem parseCaptureFilter_iff {threshold : ℤ} : parseCaptureFilter text = some threshold ↔
    ∃ f : Filter, f.text = text ∧ f.threshold = threshold := by
  constructor
  · intro h
    unfold parseCaptureFilter at h
    split at h
    · cases h
    · rename_i text₁ word
      obtain ⟨before, whole, blank, _⟩ := dropWhile_eq_iff.mp (rfl : text.dropWhile isBlank = _)
      obtain ⟨spelling, spelled, letters⟩ := readWord_iff.mp word
      split at h
      · rename_i text₂ operator
        obtain ⟨gap, middle, blank', _⟩ := dropWhile_eq_iff.mp operator
        obtain ⟨n, read, rfl⟩ := Option.map_eq_some_iff.mp h
        obtain ⟨space, minus, digits, after, rfl, blanks, behind, some_digit, each, rfl⟩ :=
          readNumber_iff.mp read
        refine ⟨⟨before, spelling, gap, true, space, minus, digits, after,
          ⟨blank, blank', blanks, behind⟩, letters, some_digit, each⟩, ?_, rfl⟩
        rw [whole, spelled, middle]
        rfl
      · rename_i text₂ operator
        obtain ⟨gap, middle, blank', _⟩ := dropWhile_eq_iff.mp operator
        obtain ⟨space, minus, digits, after, rfl, blanks, behind, some_digit, each, rfl⟩ :=
          readNumber_iff.mp h
        refine ⟨⟨before, spelling, gap, false, space, minus, digits, after,
          ⟨blank, blank', blanks, behind⟩, letters, some_digit, each⟩, ?_, rfl⟩
        rw [whole, spelled, middle]
        rfl
      · cases h
  · rintro ⟨f, rfl, rfl⟩
    obtain ⟨before, gap, space, after⟩ := f.blank
    have number : readNumber (f.space ++ (sign f.minus ++ (f.digits ++ f.after))) = some f.bound :=
      readNumber_iff.mpr ⟨f.space, f.minus, f.digits, f.after, rfl, space, after, f.number.1,
        f.number.2, rfl⟩
    have start := dropWhile_eq_iff.mpr ⟨f.before, rfl, before, f.word_not_blank
      (f.gap ++ (['>'] ++ (if f.orEqual then ['='] else []) ++
        (f.space ++ (sign f.minus ++ (f.digits ++ f.after)))))⟩
    have word (rest : List Char) : readWord rssi (f.word ++ rest) = some rest :=
      readWord_iff.mpr ⟨f.word, rfl, f.spelled⟩
    have operator (rest : List Char) : (f.gap ++ '>' :: rest).dropWhile isBlank = '>' :: rest := by
      refine dropWhile_eq_iff.mpr ⟨f.gap, rfl, gap, ?_⟩
      rintro c ⟨⟩
      decide
    have plain := f.number_ne_equal
    unfold parseCaptureFilter Filter.text Filter.threshold
    rw [start, word]
    dsimp only
    generalize f.space ++ (sign f.minus ++ (f.digits ++ f.after)) = text at number plain
    cases f.orEqual with
    | true =>
      have shape : f.gap ++ ((['>'] ++ if true = true then ['='] else []) ++ text) =
        f.gap ++ '>' :: '=' :: text := rfl
      rw [shape, operator]
      change (readNumber text).map (· - 1) = _
      rw [number]
      rfl
    | false =>
      have shape : f.gap ++ ((['>'] ++ if false = true then ['='] else []) ++ text) =
        f.gap ++ '>' :: text := rfl
      rw [shape, operator]
      split
      · rename_i same
        rw [(List.cons.inj same).2] at plain
        exact absurd rfl plain
      · rename_i same
        rw [← (List.cons.inj same).2, number]
        rfl
      · rename_i other
        exact absurd rfl (other text)

end Reading

/-- The callback's globals outside of follow mode, when packets are written. -/
def capturing (captureFilter : List Char) (controlOut : Bool) (capture : List UInt8) : Extcap :=
  ⟨true, rssiFilter captureFilter, false, controlOut, capture⟩

def Passes (x : Extcap) (boardId : ℕ) (p : Processed) : Prop :=
  ∃ r, recordOf boardId p = some r ∧
    newPacket x boardId p = some { x with capture := x.capture ++ r.write }

section Passing

variable {x : Extcap} {boardId : ℕ} {p : Processed}

theorem passes_iff (recorded : (recordOf boardId p).isSome = true) :
    Passes x boardId p ↔ x.wants p = true := by
  constructor
  · rintro ⟨r, _, written⟩
    rcases newPacket_some written with ⟨wants, _⟩ | ⟨_, same⟩
    · exact wants
    · have length := congrArg (fun x => x.capture.length) same
      simp [Capture.Record.write] at length
  · intro wants
    cases told : newPacket x boardId p with
    | none =>
      rcases newPacket_none told with ⟨_, no_record⟩ | ⟨_, filter, free, no_signal⟩
      · rw [no_record] at recorded
        cases recorded
      · simp [Extcap.wants, overFilter, filter, free, no_signal] at wants
    | some x' =>
      rcases newPacket_some told with ⟨_, r, made, rfl⟩ | ⟨unwanted, _⟩
      · exact ⟨r, made, told⟩
      · rw [wants] at unwanted
        cases unwanted

private theorem recorded_faint (byte : boardId < 256) (rawRSSI : UInt8) (counter : ℕ) :
    (recordOf boardId ⟨(faint rawRSSI counter).packet, ⟨100, 0⟩⟩).isSome = true := by
  have made := (faint rawRSSI counter).heard.ofList_list (faint rawRSSI counter).fits counter
  have fits : Time.Fits ⟨100, 0⟩ := ⟨by decide, by decide⟩
  exact recordOf_isSome byte fits (whole_of_ofList made _)

/-- Outside of follow mode, a filter lets through what it says, of all packets that have a signal
and a record, unless its threshold is zero: `rssi > 0` and `rssi >= 1` let everything through, and so
does a text that is no filter. -/
theorem filter_as_written (byte : boardId < 256) (text : List Char) (controlOut : Bool)
    (capture : List UInt8) :
    (∀ f : Filter, f.text = text →
      ((∀ (p : Processed) (rssi : ℤ), p.packet.rssi = some rssi →
          (recordOf boardId p).isSome = true →
          (Passes (capturing text controlOut capture) boardId p ↔ f.Allows rssi)) ↔
        f.threshold ≠ 0) ∧
      (f.threshold = 0 → ∀ p, (recordOf boardId p).isSome = true →
        Passes (capturing text controlOut capture) boardId p)) ∧
    ((∀ f : Filter, f.text ≠ text) → ∀ p, (recordOf boardId p).isSome = true →
      Passes (capturing text controlOut capture) boardId p) := by
  have everything (zero : rssiFilter text = 0) (p : Processed)
      (recorded : (recordOf boardId p).isSome = true) :
      Passes (capturing text controlOut capture) boardId p :=
    (passes_iff recorded).mpr (by simp [capturing, Extcap.wants, overFilter, zero])
  constructor
  · intro f written
    have read : rssiFilter text = f.threshold := by
      rw [rssiFilter, parseCaptureFilter_iff.mpr ⟨f, written, rfl⟩]
      rfl
    refine ⟨⟨?_, ?_⟩, fun zero => everything (read.trans zero)⟩
    · intro same zero
      have recorded := recorded_faint byte 40 0
      have allowed := (same _ _ rfl recorded).mp (everything (read.trans zero) _ recorded)
      rw [f.allows_iff, zero] at allowed
      exact absurd allowed (by decide)
    · intro bound p rssi signal recorded
      rw [passes_iff recorded, f.allows_iff, ← read]
      rw [← read] at bound
      simp [capturing, Extcap.wants, overFilter, bound, signal]
  · intro other
    apply everything
    have none_read : parseCaptureFilter text = none := by
      rw [Option.eq_none_iff_forall_ne_some]
      intro threshold read
      obtain ⟨f, written, _⟩ := parseCaptureFilter_iff.mp read
      exact other f written
    rw [rssiFilter, none_read]
    rfl

/-- `rssi >= -50` -/
def fifty : Filter where
  before := []
  word := "rssi".toList
  gap := [' ']
  orEqual := true
  space := [' ']
  minus := true
  digits := "50".toList
  after := []
  blank := by simp [Blank]; decide
  spelled := by simp [rssi]
  number := by simp

theorem filter_as_written_fifty :
    Passes (capturing fifty.text true []) 3 ⟨(faint 50 0).packet, ⟨100, 0⟩⟩ ∧
      ¬Passes (capturing fifty.text true []) 3 ⟨(faint 51 1).packet, ⟨100, 0⟩⟩ := by
  have byte : 3 < 256 := by decide
  have filters := ((filter_as_written byte fifty.text true []).1 fifty rfl).1.mpr (by decide)
  have strong : fifty.Allows (-50) := (fifty.allows_iff _).mpr (by decide)
  have weak : ¬fifty.Allows (-51) := (fifty.allows_iff _).not.mpr (by decide)
  exact ⟨(filters _ (-50) rfl (recorded_faint byte 50 0)).mpr strong,
    fun passed => weak ((filters _ (-51) rfl (recorded_faint byte 51 1)).mp passed)⟩

end Passing

end ProximityLed.Sniffer.CaptureFilter
