/- ProximityLed/Library/Text
   digest: Text as bytes of UTF-8, and whole numbers in decimal digits. -/

import Mathlib.Algebra.Group.Nat.Defs
import Mathlib.Data.Int.Notation
import Mathlib.Data.List.DropRight
import Mathlib.Data.Nat.Notation

set_option autoImplicit false
set_option relaxedAutoImplicit false

namespace ProximityLed.Library.Text

def encode (text : List Char) : List UInt8 := text.flatMap String.utf8EncodeChar

def decode (bytes : List UInt8) : Option (List Char) :=
  bytes.toByteArray.utf8Decode?.map Array.toList

def Ascii (text : List Char) : Prop := ∀ c ∈ text, c.toNat < 128

instance (text : List Char) : Decidable (Ascii text) :=
  List.decidableBAll (fun c : Char => c.toNat < 128) text

def latin1 (bytes : List UInt8) : List Char := bytes.map fun b => Char.ofNat b.toNat

section Encoding

variable {text : List Char} {c : Char}

theorem decode_encode (text : List Char) : decode (encode text) = some text := by
  have whole : (encode text).toByteArray = text.utf8Encode := rfl
  rw [decode, whole, List.utf8Decode?_utf8Encode]
  rfl

theorem encode_append (text text' : List Char) : encode (text ++ text')
    = encode text ++ encode text' :=
  List.flatMap_append

private theorem encode_cons (c : Char) (text : List Char) :
    encode (c :: text) = String.utf8EncodeChar c ++ encode text :=
  List.flatMap_cons

theorem ascii_cons : Ascii (c :: text) ↔ c.toNat < 128 ∧ Ascii text := List.forall_mem_cons

theorem ascii_append {text' : List Char} : Ascii (text ++ text') ↔ Ascii text ∧ Ascii text' :=
  List.forall_mem_append

private theorem length_utf8EncodeChar (c : Char) : 1 ≤ (String.utf8EncodeChar c).length ∧
    ((String.utf8EncodeChar c).length = 1 ↔ c.toNat < 128) := by
  rw [String.length_utf8EncodeChar, Char.utf8Size_eq_one_iff, UInt32.le_iff_toNat_le]
  exact ⟨c.utf8Size_pos, Nat.lt_succ_iff.symm⟩

private theorem utf8EncodeChar_of_ascii (ascii : c.toNat < 128) :
    String.utf8EncodeChar c = [UInt8.ofNat c.toNat] := by
  have below : c.val.toNat ≤ 0x7f := Nat.le_of_lt_succ ascii
  unfold String.utf8EncodeChar
  exact if_pos below

theorem length_le_length_encode (text : List Char) : text.length ≤ (encode text).length := by
  induction text with
  | nil => exact Nat.le_refl _
  | cons c text ih =>
    have one := (length_utf8EncodeChar c).1
    rw [encode_cons, List.length_cons, List.length_append]
    omega

theorem encode_of_decode {bytes : List UInt8} (h : decode bytes = some text) :
    encode text = bytes := by
  obtain ⟨chars, valid, rfl⟩ := Option.map_eq_some_iff.mp h
  have found : bytes.toByteArray.utf8Decode?.isSome := by
    rw [valid]
    rfl
  have whole : chars.toList.utf8Encode = bytes.toByteArray := by
    have same := ByteArray.utf8Encode_get_utf8Decode? (h := found)
    simpa only [valid, Option.get_some] using same
  exact List.toByteArray_inj.mp whole

theorem length_encode_eq_iff : (encode text).length = text.length ↔ Ascii text := by
  induction text with
  | nil => simp [encode, Ascii]
  | cons c text ih =>
    have rest := length_le_length_encode text
    obtain ⟨one, only⟩ := length_utf8EncodeChar c
    rw [encode_cons, List.length_cons, List.length_append, ascii_cons, ← ih, ← only]
    omega

theorem encode_of_ascii (ascii : Ascii text) :
    encode text = text.map fun c => UInt8.ofNat c.toNat := by
  induction text with
  | nil => rfl
  | cons c text ih =>
    obtain ⟨first, rest⟩ := ascii_cons.mp ascii
    rw [encode_cons, utf8EncodeChar_of_ascii first, ih rest]
    rfl

theorem forall_mem_intercalate {α : Type} {P : α → Prop} {separator : List α} {ls : List (List α)}
    (between : ∀ a ∈ separator, P a) (each : ∀ l ∈ ls, ∀ a ∈ l, P a) :
    ∀ a ∈ separator.intercalate ls, P a := by
  induction ls with
  | nil => exact List.forall_mem_nil P
  | cons l ls ih =>
    obtain ⟨first, rest⟩ := List.forall_mem_cons.mp each
    cases ls with
    | nil =>
      rw [List.intercalate_singleton]
      exact first
    | cons l' ls =>
      rw [List.intercalate_cons_cons]
      exact List.forall_mem_append.mpr ⟨List.forall_mem_append.mpr ⟨first, between⟩, ih rest⟩

theorem encode_intercalate (separator : List Char) (texts : List (List Char)) :
    encode (separator.intercalate texts) = (encode separator).intercalate (texts.map encode) := by
  induction texts with
  | nil => rfl
  | cons text texts ih =>
    cases texts with
    | nil => simp only [List.map_cons, List.map_nil, List.intercalate_singleton]
    | cons text' texts =>
      rw [List.intercalate_cons_cons, encode_append, encode_append, ih]
      simp only [List.map_cons, List.intercalate_cons_cons]

theorem intercalate_two {α : Type} (a b : α) (l : List α) (ls : List (List α)) :
    [a, b].intercalate (l :: ls) = [a].intercalate (l :: ls.map (b :: ·)) := by
  induction ls generalizing l with
  | nil => simp only [List.map_nil, List.intercalate_singleton]
  | cons l' ls ih =>
    rw [List.intercalate_cons_cons, ih, List.map_cons, List.intercalate_cons_cons]
    cases ls with
    | nil => simp
    | cons l'' ls => simp [List.intercalate_cons_cons]

theorem ascii_digitChar : ∀ d < 16, (Nat.digitChar d).toNat < 128 := by decide

theorem ascii_toDigits (n : ℕ) : Ascii (Nat.toDigits 10 n) := by
  intro c mem
  have digit := Nat.isDigit_of_mem_toDigits (by decide) (by decide) mem
  have bounds : 48 ≤ c.toNat ∧ c.toNat ≤ 57 := by
    simp only [Char.isDigit, Bool.and_eq_true, decide_eq_true_eq] at digit
    exact digit
  omega

theorem latin1_encode (ascii : Ascii text) : latin1 (encode text) = text := by
  rw [encode_of_ascii ascii, latin1, List.map_map]
  conv_rhs => rw [← List.map_id text]
  apply List.map_congr_left
  intro c mem
  have below := ascii c mem
  have byte : (UInt8.ofNat c.toNat).toNat = c.toNat := by
    rw [UInt8.toNat_ofNat']
    omega
  rw [Function.comp_apply, byte, Char.ofNat_toNat, id]

theorem dropWhile_eq_iff {α : Type} {p : α → Bool} {l rest : List α} :
    l.dropWhile p = rest ↔
      ∃ before, l = before ++ rest ∧ (∀ a ∈ before, p a = true) ∧ ∀ a ∈ rest.head?, p a = false := by
  constructor
  · rintro rfl
    refine ⟨l.takeWhile p, List.takeWhile_append_dropWhile.symm, ?_, ?_⟩
    · intro a mem
      exact List.mem_takeWhile_imp mem
    · have head := List.head?_dropWhile_not p l
      intro a mem
      rw [Option.mem_def.mp mem] at head
      exact head
  · rintro ⟨before, rfl, skipped, stop⟩
    rw [List.dropWhile_append_of_pos skipped]
    cases rest with
    | nil => rfl
    | cons a rest =>
      have found : ¬p a = true := by
        rw [stop a rfl]
        decide
      exact List.dropWhile_cons_of_neg found

end Encoding

section Numbers

variable (space : Char → Bool) (digit : Char → Option ℕ)

/-- The digits behind a first one; single underscores may stand between digits. -/
def readDigits (value : ℕ) : List Char → Option ℕ
  | [] => some value
  | '_' :: c :: text => (digit c).bind fun d => readDigits (10 * value + d) text
  | c :: text => (digit c).bind fun d => readDigits (10 * value + d) text

def readNat : List Char → Option ℕ
  | [] => none
  | c :: text => (digit c).bind fun d => readDigits digit d text

/-- A whole number in decimal digits, with an optional sign, between spaces. -/
def readInt (text : List Char) : Option ℤ :=
  match (text.dropWhile space).rdropWhile space with
  | '-' :: text => (readNat digit text).map fun n => -(n : ℤ)
  | '+' :: text => (readNat digit text).map fun n => (n : ℤ)
  | text => (readNat digit text).map fun n => (n : ℤ)

/-- The digits mean what they usually mean. -/
def Usual : Prop := ∀ d, d < 10 → digit d.digitChar = some d ∧ space d.digitChar = false

variable {space digit}

theorem exists_digitChar {c : Char} (h : c.isDigit = true) : ∃ d, d < 10 ∧ c = d.digitChar := by
  have bounds : 48 ≤ c.toNat ∧ c.toNat ≤ 57 := by
    simp only [Char.isDigit, Bool.and_eq_true, decide_eq_true_eq] at h
    exact h
  refine ⟨c.toNat - 48, by omega, ?_⟩
  apply Char.toNat_inj.mp
  rw [Nat.toNat_digitChar_of_lt_ten (by omega)]
  omega

theorem ofDigitChars_lt {text : List Char} (digits : ∀ c ∈ text, c.isDigit = true) :
    Nat.ofDigitChars 10 text 0 < 10 ^ text.length := by
  induction text with
  | nil => decide
  | cons c text ih =>
    obtain ⟨first, rest⟩ := List.forall_mem_cons.mp digits
    obtain ⟨d, small, rfl⟩ := exists_digitChar first
    have below := ih rest
    rw [Nat.ofDigitChars_cons_digitChar_of_lt_ten small, Nat.mul_zero, Nat.zero_add,
      Nat.ofDigitChars_eq_ofDigitChars_zero, List.length_cons, Nat.pow_succ]
    calc 10 ^ text.length * d + Nat.ofDigitChars 10 text 0
        < 10 ^ text.length * d + 10 ^ text.length := Nat.add_lt_add_left below _
      _ = 10 ^ text.length * (d + 1) := (Nat.mul_succ _ _).symm
      _ ≤ 10 ^ text.length * 10 := Nat.mul_le_mul_left _ small

private theorem readDigits_of_isDigit (usual : Usual space digit) {text : List Char}
    (digits : ∀ c ∈ text, c.isDigit = true) (value : ℕ) :
    readDigits digit value text = some (Nat.ofDigitChars 10 text value) := by
  induction text generalizing value with
  | nil => rw [readDigits, Nat.ofDigitChars_nil]
  | cons c text ih =>
    obtain ⟨first, rest⟩ := List.forall_mem_cons.mp digits
    obtain ⟨d, small, rfl⟩ := exists_digitChar first
    have plain : d.digitChar ≠ '_' := by
      intro same
      rw [same] at first
      cases first
    rw [readDigits, (usual d small).1, Option.bind_some, ih rest,
      Nat.ofDigitChars_cons_digitChar_of_lt_ten small]
    intro c text same
    exact absurd same plain

private theorem readNat_of_isDigit (usual : Usual space digit) {text : List Char}
    (some_digit : text ≠ [])
    (digits : ∀ c ∈ text, c.isDigit = true) :
    readNat digit text = some (Nat.ofDigitChars 10 text 0) := by
  cases text with
  | nil => exact absurd rfl some_digit
  | cons c text =>
    obtain ⟨first, rest⟩ := List.forall_mem_cons.mp digits
    obtain ⟨d, small, rfl⟩ := exists_digitChar first
    rw [readNat, (usual d small).1, Option.bind_some, readDigits_of_isDigit usual rest,
      Nat.ofDigitChars_cons_digitChar_of_lt_ten small, Nat.mul_zero, Nat.zero_add]

theorem readInt_of_isDigit (usual : Usual space digit) {before text : List Char}
    (blank : ∀ c ∈ before, space c = true) (some_digit : text ≠ [])
    (digits : ∀ c ∈ text, c.isDigit = true) :
    readInt space digit (before ++ text) = some ((Nat.ofDigitChars 10 text 0 : ℕ) : ℤ) := by
  have solid : ∀ c ∈ text, ¬space c = true := by
    intro c mem
    obtain ⟨d, small, rfl⟩ := exists_digitChar (digits c mem)
    rw [(usual d small).2]
    decide
  have stripped : ((before ++ text).dropWhile space).rdropWhile space = text := by
    have front : (before ++ text).dropWhile space = text := by
      rw [List.dropWhile_append_of_pos blank, List.dropWhile_eq_self_iff]
      intro some_digit
      exact solid _ (List.getElem_mem some_digit)
    rw [front, List.rdropWhile_eq_self_iff]
    intro some_digit
    exact solid _ (List.getLast_mem some_digit)
  have read := readNat_of_isDigit usual some_digit digits
  rw [readInt, stripped]
  cases text with
  | nil => exact absurd rfl some_digit
  | cons c text =>
    have first := digits c List.mem_cons_self
    have not_minus : c ≠ '-' := by
      rintro rfl
      cases first
    have not_plus : c ≠ '+' := by
      rintro rfl
      cases first
    split
    · rename_i same
      exact absurd (List.cons.inj same).1 not_minus
    · rename_i same
      exact absurd (List.cons.inj same).1 not_plus
    · rw [read]
      rfl

theorem readInt_toDigits (usual : Usual space digit) {before : List Char}
    (blank : ∀ c ∈ before, space c = true) (n : ℕ) :
    readInt space digit (before ++ Nat.toDigits 10 n) = some (n : ℤ) := by
  have digits : ∀ c ∈ Nat.toDigits 10 n, c.isDigit = true := fun c mem =>
    Nat.isDigit_of_mem_toDigits (by decide) (by decide) mem
  rw [readInt_of_isDigit usual blank Nat.toDigits_ne_nil digits, Nat.ofDigitChars_ten_toDigits]

end Numbers

end ProximityLed.Library.Text
