/- ProximityLed/Sniffer/Commands
   digest: What the toolbar's keys and devices put on the wire, against what they stand for. -/

import ProximityLed.Sniffer.Toolbar

set_option autoImplicit false
set_option relaxedAutoImplicit false

namespace ProximityLed.Sniffer.Commands

open Library.Endian
open Library.Text
open ControlChannel
open OnAir (Address)
open Packets (head)
open Requests
open Slip (encodeToSLIP)
open Toolbar

def readOn (n : ℕ) (digits : List ℕ) : ℕ := digits.foldl (fun n d => 16 * n + d) n

/-- A key's text, and the number that it stands for: six decimal digits, or hexadecimal ones. -/
inductive Means : List Char → ℕ → Prop
  | passkey {text : List Char} (six : text.length = 6) (digits : ∀ c ∈ text, c.isDigit = true) :
    Means text (Nat.ofDigitChars 10 text 0)
  | oob {x : Char} {text : List Char} {digits : List ℕ} (mark : x = 'x' ∨ x = 'X')
    (room : 1 ≤ text.length ∧ text.length ≤ 32) (read : text.mapM hexDigit = some digits) :
    Means ('0' :: x :: text) (readOn 0 digits)

def packed : List ℕ → List UInt8
  | [] => []
  | [d] => [UInt8.ofNat d]
  | d :: d' :: digits => UInt8.ofNat (16 * d + d') :: packed digits

section Hexadecimal

variable {c c' : Char} {d d' : ℕ} {text : List Char} {digits : List ℕ}

theorem between (c low high : Char) : low ≤ c ∧ c ≤ high ↔
    low.toNat ≤ c.toNat ∧ c.toNat ≤ high.toNat := Iff.rfl

private theorem hexDigit_cases (h : hexDigit c = some d) : d < 16 ∧
    (48 ≤ c.toNat ∧ c.toNat ≤ 57 ∨ 97 ≤ c.toNat ∧ c.toNat ≤ 102 ∨
      65 ≤ c.toNat ∧ c.toNat ≤ 70) := by
  simp only [hexDigit, between, Char.reduceToNat] at h
  split at h
  · obtain rfl := Option.some_inj.mp h
    omega
  · split at h
    · obtain rfl := Option.some_inj.mp h
      omega
    · split at h
      · obtain rfl := Option.some_inj.mp h
        omega
      · cases h

private theorem not_isSpace (h : hexDigit c = some d) : ¬isSpace c = true := by
  obtain ⟨_, bounds⟩ := hexDigit_cases h
  simp only [isSpace, List.mem_cons, List.not_mem_nil, or_false, decide_eq_true_eq]
  omega

private theorem isAlphanumeric_of_hexDigit (h : hexDigit c = some d) : isAlphanumeric c = true := by
  obtain ⟨_, bounds⟩ := hexDigit_cases h
  simp only [isAlphanumeric, Char.isDigit, Bool.or_eq_true, Bool.and_eq_true, decide_eq_true_eq]
  change (('0' ≤ c ∧ c ≤ '9') ∨ 'A' ≤ c ∧ c ≤ 'Z') ∨ 'a' ≤ c ∧ c ≤ 'z'
  simp only [between, Char.reduceToNat]
  omega

private theorem readHex_pair (h : hexDigit c = some d) (h' : hexDigit c' = some d') :
    readHex [c, c'] = some ((16 * d + d' : ℕ) : ℤ) := by
  have stripped : (([c, c'] : List Char).dropWhile isSpace).rdropWhile isSpace = [c, c'] := by
    rw [List.dropWhile_cons_of_neg (not_isSpace h), List.rdropWhile_eq_self_iff]
    intro _
    exact not_isSpace h'
  rw [readHex, stripped]
  dsimp only
  rw [h, h']
  rfl

private theorem mapM_cons_eq {f : Char → Option ℕ} (h : (c :: text).mapM f = some digits) :
    ∃ d digits', f c = some d ∧ text.mapM f = some digits' ∧ digits = d :: digits' := by
  rw [List.mapM_cons] at h
  obtain ⟨d, first, h⟩ := Option.bind_eq_some_iff.mp h
  obtain ⟨digits', rest, h⟩ := Option.bind_eq_some_iff.mp h
  exact ⟨d, digits', first, rest, (Option.some_inj.mp h).symm⟩

private theorem mapM_pairs (text : List Char) :
    ∀ {digits : List ℕ}, text.mapM hexDigit = some digits →
    (pairs text).mapM readHex = some (numbers (packed digits)) := by
  induction text using pairs.induct with
  | case1 =>
    intro digits read
    obtain rfl := Option.some_inj.mp read
    rfl
  | case2 c =>
    intro digits read
    obtain ⟨d, _, first, rest, rfl⟩ := mapM_cons_eq read
    obtain rfl := Option.some_inj.mp rest
    obtain ⟨small, _⟩ := hexDigit_cases first
    have zero : hexDigit '0' = some 0 := rfl
    have byte : (UInt8.ofNat d).toNat = d := by
      rw [UInt8.toNat_ofNat']
      omega
    rw [pairs, List.mapM_cons, readHex_pair zero first, List.reverse_nil, packed, numbers,
      List.map_cons, byte, Nat.mul_zero, Nat.zero_add]
    rfl
  | case3 c c' text ih =>
    intro digits read
    obtain ⟨d, _, high, tail, rfl⟩ := mapM_cons_eq read
    obtain ⟨d', digits, low, rest, rfl⟩ := mapM_cons_eq tail
    obtain ⟨small, _⟩ := hexDigit_cases high
    obtain ⟨small', _⟩ := hexDigit_cases low
    have byte : (UInt8.ofNat (16 * d + d')).toNat = 16 * d + d' := by
      rw [UInt8.toNat_ofNat']
      omega
    have whole : numbers (packed (d :: d' :: digits)) =
        ((16 * d + d' : ℕ) : ℤ) :: numbers (packed digits) := by
      rw [packed, numbers, List.map_cons, byte, numbers]
    rw [pairs, List.mapM_cons, readHex_pair high low, ih rest, whole]
    rfl

private theorem foldl_packed (digits : List ℕ) (small : ∀ d ∈ digits, d < 16) (n : ℕ) :
    (packed digits).foldl (fun n b => 256 * n + b.toNat) n =
      if digits.length % 2 = 0 then readOn n digits
      else 256 * (readOn n digits / 16) + readOn n digits % 16 := by
  induction digits using packed.induct generalizing n with
  | case1 => rfl
  | case2 d =>
    have last := small d List.mem_cons_self
    have byte : (UInt8.ofNat d).toNat = d := by
      rw [UInt8.toNat_ofNat']
      omega
    simp only [packed, readOn, List.foldl_cons, List.foldl_nil, List.length_cons, List.length_nil,
      byte]
    rw [if_neg (by decide)]
    omega
  | case3 d d' digits ih =>
    have rest : ∀ d ∈ digits, d < 16 := by
      intro d mem
      exact small d (List.mem_cons_of_mem _ (List.mem_cons_of_mem _ mem))
    have high := small d List.mem_cons_self
    have low := small d' (List.mem_cons_of_mem _ List.mem_cons_self)
    have byte : (UInt8.ofNat (16 * d + d')).toNat = 16 * d + d' := by
      rw [UInt8.toNat_ofNat']
      omega
    have two : readOn n (d :: d' :: digits) = readOn (256 * n + (16 * d + d')) digits := by
      have shift : 16 * (16 * n + d) + d' = 256 * n + (16 * d + d') := by omega
      simp only [readOn, List.foldl_cons, shift]
    have parity : (d :: d' :: digits).length % 2 = digits.length % 2 := by
      simp only [List.length_cons]
      omega
    rw [packed, List.foldl_cons, byte, ih rest, two, parity]

private theorem length_packed (digits : List ℕ) : (packed digits).length = (digits.length + 1)
    / 2 := by
  induction digits using packed.induct with
  | case1 => rfl
  | case2 d => simp [packed]
  | case3 d d' digits ih =>
    rw [packed, List.length_cons, ih]
    simp only [List.length_cons]
    omega

private theorem length_of_mapM (h : text.mapM hexDigit = some digits) :
    digits.length = text.length := by
  induction text generalizing digits with
  | nil =>
    obtain rfl := Option.some_inj.mp h
    rfl
  | cons c text ih =>
    obtain ⟨d, digits', _, rest, rfl⟩ := mapM_cons_eq h
    rw [List.length_cons, List.length_cons, ih rest]

private theorem forall_of_mapM (h : text.mapM hexDigit = some digits) :
    (∀ d ∈ digits, d < 16) ∧ ∀ c ∈ text, isAlphanumeric c = true ∧ c ≠ '\n' := by
  induction text generalizing digits with
  | nil =>
    obtain rfl := Option.some_inj.mp h
    exact ⟨fun _ mem => (nomatch mem), fun _ mem => nomatch mem⟩
  | cons c text ih =>
    obtain ⟨d, digits', first, rest, rfl⟩ := mapM_cons_eq h
    obtain ⟨small, each⟩ := ih rest
    have line : c ≠ '\n' := by
      rintro rfl
      cases first
    exact ⟨List.forall_mem_cons.mpr ⟨(hexDigit_cases first).1, small⟩,
      List.forall_mem_cons.mpr ⟨⟨isAlphanumeric_of_hexDigit first, line⟩, each⟩⟩

end Hexadecimal

section Wire

variable {w : Program} {text : List Char} {n : ℕ}

private theorem ask_sends (w : Program) {c : Call} {id : UInt8} {bytes : List UInt8}
    (asks : c.request = some (id, numbers bytes)) (fits : bytes.length < 256) :
    (w.ask c).phase = w.phase ∧ (w.ask c).reader.written = w.reader.written ++
      encodeToSLIP (head .v1 bytes.length w.reader.packetCounter id ++ bytes) := by
  have length : (numbers bytes).length = bytes.length := List.length_map _
  have packet : packetOf w.reader.packetCounter id (numbers bytes) =
      some (head .v1 bytes.length w.reader.packetCounter id ++ bytes) := by
    rw [packetOf, length, if_pos fits, toBytes_numbers]
    rfl
  have sent : call w.reader c = (⟨w.reader.packetCounter + 1, w.reader.written ++
      encodeToSLIP (head .v1 bytes.length w.reader.packetCounter id ++ bytes)⟩, .ok ()) := by
    rw [call_eq, asks]
    dsimp only
    unfold sendPacket
    dsimp only
    rw [toBytes_requestList, packet]
  unfold Program.ask
  rw [sent]
  exact ⟨rfl, rfl⟩

private theorem exists_key {bytes : List UInt8} (room : bytes.length ≤ 16) :
    ∃ key : List UInt8, key.length = 16 ∧ padTK (numbers bytes) = numbers key ∧
      value key.reverse = bytes.foldl (fun n b => 256 * n + b.toNat) 0 := by
  have length : (numbers bytes).length = bytes.length := List.length_map _
  have zeros (k : ℕ) :
      (List.replicate k (0 : UInt8)).foldl (fun n b => 256 * n + b.toNat) 0 = 0 := by
    induction k with
    | zero => rfl
    | succ k ih =>
      rw [List.replicate_succ, List.foldl_cons]
      exact ih
  refine ⟨List.replicate (16 - bytes.length) 0 ++ bytes, ?_, ?_, ?_⟩
  · rw [List.length_append, List.length_replicate]
    omega
  · unfold padTK
    rw [length]
    split
    · simp [numbers]
    · have none_missing : 16 - bytes.length = 0 := by omega
      rw [none_missing, List.take_of_length_le (by omega)]
      rfl
  · rw [value_reverse, List.foldl_append, zeros]

private theorem chomp_of_ne (h : ∀ c ∈ text, c ≠ '\n') : chomp text = text := by
  unfold chomp
  split
  · rename_i last
    exact absurd rfl (h '\n' (List.mem_of_getLast? last))
  · rfl

theorem usual : Usual isWideSpace wideDigit := by
  unfold Usual
  decide

private theorem passkeyList_eq (below : n < 10 ^ 6) : ∃ bytes : List UInt8, bytes.length = 3 ∧
    passkeyList n = numbers bytes ∧ bytes.foldl (fun n b => 256 * n + b.toNat) 0 = n := by
  refine ⟨[UInt8.ofNat (n / 2 ^ 16), UInt8.ofNat (n / 2 ^ 8), UInt8.ofNat n], rfl, ?_, ?_⟩
  · simp [passkeyList, numbers, UInt8.toNat_ofNat']
  · simp only [List.foldl_cons, List.foldl_nil, UInt8.toNat_ofNat']
    omega

private theorem isPasskey_of_isDigit (six : text.length = 6) (digits : ∀ c ∈ text, c.isDigit = true)
    :
    isPasskey text = true := by
  have line : ∀ c ∈ text, c ≠ '\n' := by
    rintro c mem rfl
    cases digits _ mem
  rw [isPasskey, chomp_of_ne line, decide_eq_true_eq, List.all_eq_true]
  exact ⟨six, digits⟩

private theorem of_oob {x : Char} {digits : List ℕ} (mark : x = 'x' ∨ x = 'X')
    (room : 1 ≤ text.length ∧ text.length ≤ 32) (read : text.mapM hexDigit = some digits) :
    isPasskey ('0' :: x :: text) = false ∧ isOOB ('0' :: x :: text) = true := by
  obtain ⟨_, each⟩ := forall_of_mapM read
  have line : ∀ c ∈ '0' :: x :: text, c ≠ '\n' := by
    intro c mem
    rcases List.mem_cons.mp mem with rfl | mem
    · decide
    · rcases List.mem_cons.mp mem with rfl | mem
      · rcases mark with rfl | rfl <;> decide
      · exact (each c mem).2
  constructor
  · rw [isPasskey, chomp_of_ne line]
    rcases mark with rfl | rfl <;> simp [Char.isDigit]
  · have all : text.all isAlphanumeric = true := by
      rw [List.all_eq_true]
      exact fun c mem => (each c mem).1
    have whole := chomp_of_ne line
    rcases mark with rfl | rfl <;> simp [isOOB, whole, all, room]

/-- A key's text leaves the program running, and bytes that make up the key. -/
theorem setPasskeyOrOOB_means (w : Program) (means : Means text n) :
    ∃ bytes : List UInt8, bytes.length ≤ 16 ∧
      setPasskeyOrOOB w (encode text) =
        Program.ask { w with lastUsedKey := .bytes (encode text) } (.sendTK (numbers bytes)) ∧
      (bytes.foldl (fun n b => 256 * n + b.toNat) 0 = n ↔ text.length % 2 = 0 ∨ n < 16) := by
  cases means with
  | passkey six digits =>
    have below := ofDigitChars_lt digits
    rw [six] at below
    obtain ⟨bytes, three, list, same⟩ := passkeyList_eq below
    have some_digit : text ≠ [] := by
      rintro rfl
      cases six
    have read : readInt isWideSpace wideDigit text =
      some ((Nat.ofDigitChars 10 text 0 : ℕ) : ℤ) :=
        readInt_of_isDigit usual (List.forall_mem_nil _) some_digit digits
    refine ⟨bytes, by omega, ?_, iff_of_true same (.inl (by rw [six]))⟩
    unfold setPasskeyOrOOB
    rw [decode_encode]
    dsimp only
    rw [if_pos (isPasskey_of_isDigit six digits)]
    unfold setPasskey
    rw [read]
    dsimp only
    rw [if_pos six.ge, list]
  | @oob x text digits mark room read =>
    obtain ⟨not_passkey, oob⟩ := of_oob mark room read
    obtain ⟨small, _⟩ := forall_of_mapM read
    have length := length_of_mapM read
    refine ⟨packed digits, ?_, ?_, ?_⟩
    · rw [length_packed, length]
      omega
    · unfold setPasskeyOrOOB
      rw [decode_encode]
      dsimp only
      rw [if_neg (Bool.eq_false_iff.mp not_passkey), if_pos oob]
      unfold setOOB
      rw [List.drop_succ_cons, List.drop_succ_cons, List.drop_zero, mapM_pairs text read]
    · rw [foldl_packed digits small, length]
      simp only [List.length_cons]
      split
      · omega
      · omega

/-- A key's text puts a key of sixteen bytes on the wire, most significant byte first, and it is
the number of the text exactly when the text has an even length or its number is a single digit: of
an odd number of hexadecimal digits, the last one is filled up instead of the first. -/
theorem key_sent_iff (w : Program) (means : Means text n) :
    ∃ key : List UInt8, key.length = 16 ∧
      (handleControlCommand w CTRL_ARG_KEY (encode text)).phase = w.phase ∧
      (handleControlCommand w CTRL_ARG_KEY (encode text)).reader.written =
        w.reader.written ++
          encodeToSLIP (head .v1 16 w.reader.packetCounter SET_TEMPORARY_KEY ++ key) ∧
      (value key.reverse = n ↔ text.length % 2 = 0 ∨ n < 16) := by
  obtain ⟨bytes, room, handled, same⟩ := setPasskeyOrOOB_means w means
  obtain ⟨key, sixteen, padded, number⟩ := exists_key room
  have command : handleControlCommand w CTRL_ARG_KEY (encode text) =
      setPasskeyOrOOB w (encode text) := by
    unfold handleControlCommand
    rw [if_neg (by decide), if_pos rfl]
  have asks : (Call.sendTK (numbers bytes)).request = some (SET_TEMPORARY_KEY, numbers key) := by
    rw [Call.request, padded]
  obtain ⟨phase, written⟩ := ask_sends { w with lastUsedKey := .bytes (encode text) } asks (by omega)
  rw [command, handled]
  rw [sixteen] at written
  exact ⟨key, sixteen, phase, written, by rw [number, same]⟩

/-- Of an odd number of digits, the last one is filled up. -/
theorem key_sent_iff_odd : ∃ key : List UInt8,
    (handleControlCommand (begun false) CTRL_ARG_KEY (encode "0x123".toList)).reader.written =
      (begun false).reader.written ++
        encodeToSLIP (head .v1 16 (begun false).reader.packetCounter SET_TEMPORARY_KEY ++ key) ∧
      value key.reverse ≠ 0x123 := by
  have means : Means ('0' :: 'x' :: "123".toList) (readOn 0 [1, 2, 3]) :=
    .oob (.inl rfl) (by decide) rfl
  obtain ⟨key, _, _, written, same⟩ := key_sent_iff (begun false) means
  exact ⟨key, written, fun right => absurd (same.mp right) (by decide)⟩

end Wire

/-- The value of a message about a device; the toolbar sends it back when the device is chosen. -/
def chosen (message : List Char) : List Char := message.takeWhile (· ≠ Char.ofNat 0)

section Devices

variable {w : Program} {address : Address} {item : List Char} {rest : List (List Char)}

private theorem isAlphanumeric_of_items (mem : item ∈ items address) :
    ∀ c ∈ item, isAlphanumeric c = true := by
  rcases List.mem_append.mp mem with byte | type
  · obtain ⟨b, _, rfl⟩ := List.mem_map.mp byte
    intro c mem
    have digit := Nat.isDigit_of_mem_toDigits (by decide) (by decide) mem
    simp [isAlphanumeric, digit]
  · rw [List.mem_singleton.mp type, ← List.all_eq_true]
    cases address.addrType <;> decide

private theorem mem_encode_item (here : item ∈ items address) :
    ∀ b ∈ encode item, b ≠ 91 ∧ b ≠ 93 ∧ b ≠ 44 ∧ b ≠ 32 := by
  intro b mem
  rw [encode_of_ascii (ascii_items here)] at mem
  obtain ⟨c, char, rfl⟩ := List.mem_map.mp mem
  have plain := isAlphanumeric_of_items here c char
  simp only [isAlphanumeric, Char.isDigit, Bool.or_eq_true, Bool.and_eq_true, decide_eq_true_eq]
    at plain
  change (('0' ≤ c ∧ c ≤ '9') ∨ 'A' ≤ c ∧ c ≤ 'Z') ∨ 'a' ≤ c ∧ c ≤ 'z' at plain
  simp only [between, Char.reduceToNat] at plain
  have byte : (UInt8.ofNat c.toNat).toNat = c.toNat := by
    rw [UInt8.toNat_ofNat']
    omega
  simp only [ne_eq, ← UInt8.toNat_inj, byte]
  refine ⟨?_, ?_, ?_, ?_⟩ <;> intro same <;> simp at same <;> omega

private theorem splitOn_strAddress (h : items address = item :: rest) :
    ((encode (strAddress address)).filter (· ≠ 91) |>.filter (· ≠ 93)).splitOn 44 =
      encode item :: rest.map fun item => 32 :: encode item := by
  have plain : ∀ l ∈ (items address).map encode, ∀ b ∈ l, b ≠ 91 ∧ b ≠ 93 ∧ b ≠ 44 ∧ b ≠ 32 := by
    intro l mem
    obtain ⟨item, here, rfl⟩ := List.mem_map.mp mem
    exact mem_encode_item here
  have brackets : ∀ b ∈ ([44, 32] : List UInt8).intercalate ((items address).map encode),
      b ≠ 91 ∧ b ≠ 93 :=
    forall_mem_intercalate (by simp) fun l mem b here =>
      ⟨(plain l mem b here).1, (plain l mem b here).2.1⟩
  have whole : encode (strAddress address) =
      91 :: (([44, 32] : List UInt8).intercalate ((items address).map encode) ++ [93]) := by
    rw [strAddress, encode_append, encode_append, encode_intercalate]
    rfl
  have first : (encode (strAddress address)).filter (· ≠ 91) =
      ([44, 32] : List UInt8).intercalate ((items address).map encode) ++ [93] := by
    rw [whole, List.filter_cons_of_neg (by decide), List.filter_append,
      List.filter_eq_self.mpr fun b mem => decide_eq_true (brackets b mem).1]
    rfl
  have second : ((encode (strAddress address)).filter (· ≠ 91)).filter (· ≠ 93) =
      ([44, 32] : List UInt8).intercalate ((items address).map encode) := by
    rw [first, List.filter_append,
      List.filter_eq_self.mpr fun b mem => decide_eq_true (brackets b mem).2]
    exact List.append_nil _
  have commas : ∀ l ∈ encode item :: (rest.map encode).map (32 :: ·), (44 : UInt8) ∉ l := by
    rw [h, List.map_cons, List.forall_mem_cons] at plain
    rw [List.forall_mem_cons]
    refine ⟨fun mem => (plain.1 44 mem).2.2.1 rfl, ?_⟩
    intro l mem here
    obtain ⟨l', item_mem, rfl⟩ := List.mem_map.mp mem
    rcases List.mem_cons.mp here with same | here
    · cases same
    · exact (plain.2 l' item_mem 44 here).2.2.1 rfl
  rw [second, h, List.map_cons, intercalate_two, List.splitOn_intercalate 44 commas (by simp),
    List.map_map]
  rfl

private theorem readInt_item {before : List Char} (blank : ∀ c ∈ before, isSpace c = true)
    (ascii : Ascii before) (b : UInt8) :
    readInt isSpace digit (latin1 (encode (before ++ Nat.toDigits 10 b.toNat))) =
      some (b.toNat : ℤ) := by
  have usual : Usual isSpace digit := by
    unfold Usual
    decide
  rw [latin1_encode (ascii_append.mpr ⟨ascii, ascii_toDigits _⟩), readInt_toDigits usual blank]

/-- A device is chosen as it is shown. -/
theorem parseDevice_strAddress (six : address.bytes.length = 6) :
    parseDevice (encode (strAddress address)) =
      some (numbers address.bytes ++ [if address.addrType then 1 else 0]) := by
  obtain ⟨bytes, type⟩ := address
  obtain ⟨b₀, b₁, b₂, b₃, b₄, b₅, rfl⟩ : ∃ b₀ b₁ b₂ b₃ b₄ b₅, bytes = [b₀, b₁, b₂, b₃, b₄, b₅] := by
    match bytes, six with
    | [b₀, b₁, b₂, b₃, b₄, b₅], _ => exact ⟨b₀, b₁, b₂, b₃, b₄, b₅, rfl⟩
  have first (b : UInt8) : readInt isSpace digit (latin1 (encode (Nat.toDigits 10 b.toNat))) =
      some (b.toNat : ℤ) := readInt_item (List.forall_mem_nil _) (List.forall_mem_nil _) b
  have later (b : UInt8) :
      readInt isSpace digit (latin1 (32 :: encode (Nat.toDigits 10 b.toNat))) =
        some (b.toNat : ℤ) := by
    have blank : ∀ c ∈ [' '], isSpace c = true := List.all_eq_true.mp (by decide)
    have ascii : Ascii [' '] := by decide
    exact readInt_item blank ascii b
  have last : (if (32 : UInt8) :: encode (if type then "True".toList else "False".toList) =
      encode " True".toList then (1 : ℤ) else 0) = if type then 1 else 0 := by
    cases type <;> decide
  have parts : items ⟨[b₀, b₁, b₂, b₃, b₄, b₅], type⟩ = Nat.toDigits 10 b₀.toNat ::
      [Nat.toDigits 10 b₁.toNat, Nat.toDigits 10 b₂.toNat, Nat.toDigits 10 b₃.toNat,
        Nat.toDigits 10 b₄.toNat, Nat.toDigits 10 b₅.toNat,
        if type then "True".toList else "False".toList] := rfl
  unfold parseDevice
  dsimp only
  rw [splitOn_strAddress parts]
  simp only [List.map_cons, List.map_nil, List.mapM_cons, List.mapM_nil, first, later, last]
  rfl

private theorem chosen_post {rssiFilter : ℤ} {device : Devices.Device} {p : Post}
    (shown : post rssiFilter device = some p) : chosen p.message = strAddress device.address := by
  obtain ⟨_, _, added⟩ := of_post shown
  have solid : ∀ c ∈ strAddress device.address, c ≠ Char.ofNat 0 := by
    have each : ∀ item ∈ items device.address, ∀ c ∈ item, c ≠ Char.ofNat 0 := by
      rintro item mem c here rfl
      cases isAlphanumeric_of_items mem _ here
    have between : ∀ c ∈ [',', ' '], c ≠ Char.ofNat 0 := by simp
    have brackets : (∀ c ∈ ['['], c ≠ Char.ofNat 0) ∧ ∀ c ∈ [']'], c ≠ Char.ofNat 0 := by simp
    exact List.forall_mem_append.mpr ⟨List.forall_mem_append.mpr
      ⟨brackets.1, forall_mem_intercalate between each⟩, brackets.2⟩
  simp only [deviceAdded] at added
  split at added
  · obtain ⟨address, _, message⟩ := Option.map_eq_some_iff.mp added
    rw [← Option.some_inj.mp message, chosen, List.append_assoc,
      List.takeWhile_append_of_pos fun c mem => decide_eq_true (solid c mem)]
    exact List.append_nil _
  · cases added

/-- A device that is chosen as it is shown is followed: the firmware is asked for its address and
type, and the filter is off from then on. -/
theorem device_followed {rssiFilter : ℤ} {device : Devices.Device} {p : Post}
    (shown : post rssiFilter device = some p) (six : device.address.bytes.length = 6)
    (alive : w.phase ≠ .ended) :
    (handleControlCommand w CTRL_ARG_DEVICE (encode (chosen p.message))).phase = w.phase ∧
      (handleControlCommand w CTRL_ARG_DEVICE (encode (chosen p.message))).state = .following ∧
      (handleControlCommand w CTRL_ARG_DEVICE (encode (chosen p.message))).inFollowMode = true ∧
      (handleControlCommand w CTRL_ARG_DEVICE (encode (chosen p.message))).reader.written =
        w.reader.written ++ encodeToSLIP (head .v1 8 w.reader.packetCounter REQ_FOLLOW ++
          (device.address.bytes ++ [if device.address.addrType then 1 else 0,
            if w.captureOnlyAdvertising then 1 else 0])) := by
  rw [chosen_post shown]
  generalize device.address = address at six
  have bracket : encode (strAddress address) ≠ [32] := by
    rw [strAddress, encode_append, encode_append]
    intro same
    cases (List.cons.inj same).1
  have asks : (Call.sendFollow (numbers address.bytes ++ [if address.addrType then 1 else 0])
      w.captureOnlyAdvertising).request = some (REQ_FOLLOW, numbers (address.bytes ++
        [if address.addrType then 1 else 0, if w.captureOnlyAdvertising then 1 else 0])) := by
    cases address.addrType <;> cases w.captureOnlyAdvertising <;>
      simp [Call.request, numbers]
  have eight : (address.bytes ++ [if address.addrType then (1 : UInt8) else 0,
      if w.captureOnlyAdvertising then 1 else 0]).length = 8 := by
    rw [List.length_append, six]
    rfl
  obtain ⟨phase, written⟩ := ask_sends w asks (by omega)
  rw [eight] at written
  generalize sent : w.ask (.sendFollow (numbers address.bytes ++
    [if address.addrType then 1 else 0]) w.captureOnlyAdvertising) = w₁ at phase written
  have follow : handleControlCommand w CTRL_ARG_DEVICE (encode (strAddress address)) =
      { w₁ with state := .following, inFollowMode := true } := by
    unfold handleControlCommand
    rw [if_pos rfl, if_neg bracket]
    unfold followDevice
    rw [parseDevice_strAddress six]
    dsimp only
    unfold Program.andThen
    rw [sent, if_neg (by rw [phase]; exact alive)]
  rw [follow]
  exact ⟨phase, rfl, rfl, written⟩

def shownDevice : Devices.Device := ⟨⟨[192, 0, 0, 0, 1, 2], true⟩, "LED".toList, -60, 64⟩

theorem device_followed_shown : ∃ p, post (-90) shownDevice = some p ∧
    (handleControlCommand (begun true) CTRL_ARG_DEVICE (encode (chosen p.message))).state =
      .following ∧
    (handleControlCommand (begun true) CTRL_ARG_DEVICE (encode (chosen p.message))).reader.written =
      (begun true).reader.written ++ encodeToSLIP
        (head .v1 8 (begun true).reader.packetCounter REQ_FOLLOW ++ [192, 0, 0, 0, 1, 2, 1, 1]) := by
  obtain ⟨p, shown⟩ : ∃ p, post (-90) shownDevice = some p :=
    Option.isSome_iff_exists.mp (by decide)
  have alive : (begun true).phase ≠ .ended := by decide
  obtain ⟨_, state, _, written⟩ := device_followed shown rfl alive
  exact ⟨p, shown, state, written⟩

end Devices

end ProximityLed.Sniffer.Commands
