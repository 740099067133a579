/- ProximityLed/Sniffer/Slip
   digest: The serial link of the sniffer: packets in SLIP frames, and the reader with its deadline. -/

import ProximityLed.Library.Framing
import ProximityLed.Library.Records

set_option autoImplicit false
set_option relaxedAutoImplicit false

namespace ProximityLed.Sniffer.Slip

open Library.Framing
open Library.Records (Format)

def SLIP_START : UInt8 := 0xAB
def SLIP_END : UInt8 := 0xBC
def SLIP_ESC : UInt8 := 0xCD
def SLIP_ESC_START : UInt8 := SLIP_START + 1
def SLIP_ESC_END : UInt8 := SLIP_END + 1
def SLIP_ESC_ESC : UInt8 := SLIP_ESC + 1

/-- What the loop of `encode_to_SLIP` appends for a byte. -/
def encodeByte (i : UInt8) : List UInt8 :=
  if i = SLIP_START then [SLIP_ESC, SLIP_ESC_START]
  else if i = SLIP_END then [SLIP_ESC, SLIP_ESC_END]
  else if i = SLIP_ESC then [SLIP_ESC, SLIP_ESC_ESC]
  else [i]

def encodeToSLIP (byteList : List UInt8) : List UInt8 :=
  [SLIP_START] ++ byteList.flatMap encodeByte ++ [SLIP_END]

/-- What the reader appends for the byte behind an escape. -/
def decodeEscaped (serialByte : UInt8) : UInt8 :=
  if serialByte = SLIP_ESC_START then SLIP_START
  else if serialByte = SLIP_ESC_END then SLIP_END
  else if serialByte = SLIP_ESC_ESC then SLIP_ESC
  else SLIP_END

inductive Error
  | snifferTimeout
  | uartPacketError
  deriving DecidableEq

/-- How many more tests of a loop's head find the deadline in the future; none without a deadline.
A clock runs forward, so once a test has failed all later ones do. -/
abbrev Deadline := Option ℕ

def Deadline.expired (d : Deadline) : Bool := d == some 0

def Deadline.pass (d : Deadline) : Deadline := d.map Nat.pred

@[simp] theorem expired_none : Deadline.expired none = false := rfl

/-- The second loop of `decode_from_SLIP`, on the bytes that arrive in time. -/
def readFrame (deadline : Deadline) (dataBuffer : List UInt8) :
    List UInt8 → Except Error (List UInt8) × List UInt8
  | [] => (.error (if deadline.expired then .uartPacketError else .snifferTimeout), [])
  | serialByte :: serial =>
    if deadline.expired then (.error .uartPacketError, serialByte :: serial)
    else if serialByte = SLIP_END then (.ok dataBuffer, serial)
    else if serialByte = SLIP_ESC then
      match serial with
      | [] => (.error .snifferTimeout, [])
      | serialByte :: serial =>
        readFrame deadline.pass (dataBuffer ++ [decodeEscaped serialByte]) serial
    else readFrame deadline.pass (dataBuffer ++ [serialByte]) serial

/-- The first loop of `decode_from_SLIP`: everything in front of a start is dropped. -/
def awaitStart (deadline : Deadline) : List UInt8 → Except Error (List UInt8) × List UInt8
  | [] => (.error (if deadline.expired then .uartPacketError else .snifferTimeout), [])
  | res :: serial =>
    if deadline.expired then (.error .uartPacketError, res :: serial)
    else if res = SLIP_START then readFrame deadline.pass [] serial
    else awaitStart deadline.pass serial

/-- One packet from the bytes that arrive in time, and the bytes left for the next. -/
def decodeFromSLIP (completeTimeout : Deadline) (serial : List UInt8) :
    Except Error (List UInt8) × List UInt8 :=
  awaitStart completeTimeout serial

def slip : Escaping UInt8 where
  start := SLIP_START
  stop := SLIP_END
  escape := SLIP_ESC
  guard a :=
    if a = SLIP_START then SLIP_ESC_START
    else if a = SLIP_END then SLIP_ESC_END
    else SLIP_ESC_ESC
  unescape := decodeEscaped
  start_ne_stop := by decide
  start_ne_escape := by decide
  stop_ne_escape := by decide
  unescape_guard := by
    rintro a (rfl | rfl | rfl) <;> decide
  guard_ne_start := by
    rintro a (rfl | rfl | rfl) <;> decide

@[simp] theorem slip_start : slip.start = SLIP_START := rfl

@[simp] theorem slip_stop : slip.stop = SLIP_END := rfl

@[simp] theorem slip_escape : slip.escape = SLIP_ESC := rfl

section Refinement

private theorem encodeByte_eq (i : UInt8) : encodeByte i = slip.stuff i := by
  unfold encodeByte Escaping.stuff
  by_cases start : i = SLIP_START
  · simp [slip, Escaping.Special, start]
  by_cases stop : i = SLIP_END
  · simp [slip, Escaping.Special, stop, show SLIP_END ≠ SLIP_START by decide]
  by_cases esc : i = SLIP_ESC
  · simp [slip, Escaping.Special, esc, show SLIP_ESC ≠ SLIP_START by decide,
      show SLIP_ESC ≠ SLIP_END by decide]
  · simp [slip, Escaping.Special, start, stop, esc]

theorem encodeToSLIP_eq (byteList : List UInt8) : encodeToSLIP byteList = slip.encode byteList := by
  have bytes : encodeByte = slip.stuff := funext encodeByte_eq
  rw [encodeToSLIP, Escaping.encode, bytes]
  rfl

/-- What the reader answers when it has found a packet, or run out of bytes. -/
def answer : Option (List UInt8 × List UInt8) → Except Error (List UInt8) × List UInt8
  | none => (.error .snifferTimeout, [])
  | some (packet, rest) => (.ok packet, rest)

private theorem readFrame_cons (deadline : Deadline) (dataBuffer : List UInt8) (serialByte : UInt8)
    (serial : List UInt8) :
    readFrame deadline dataBuffer (serialByte :: serial) =
      if deadline.expired then (.error .uartPacketError, serialByte :: serial)
      else if serialByte = SLIP_END then (.ok dataBuffer, serial)
      else if serialByte = SLIP_ESC then
        match serial with
        | [] => (.error .snifferTimeout, [])
        | second :: serial =>
          readFrame deadline.pass (dataBuffer ++ [decodeEscaped second]) serial
      else readFrame deadline.pass (dataBuffer ++ [serialByte]) serial := by
  rw [readFrame.eq_def]

private theorem readFrame_eq (dataBuffer serial : List UInt8) :
    readFrame none dataBuffer serial = answer (slip.scan (.inFrame dataBuffer) serial) := by
  induction hn : serial.length using Nat.strongRecOn generalizing serial dataBuffer with
  | ind n ih =>
    cases serial with
    | nil => rfl
    | cons serialByte serial =>
      simp only [List.length_cons] at hn
      rw [readFrame_cons, if_neg (by decide), Escaping.scan, Escaping.next, slip_stop, slip_escape]
      by_cases stop : serialByte = SLIP_END
      · simp only [if_pos stop]
        rfl
      by_cases esc : serialByte = SLIP_ESC
      · simp only [if_neg stop, if_pos esc]
        cases serial with
        | nil => rfl
        | cons second serial =>
          exact ih serial.length (by simp only [List.length_cons] at hn; omega)
            (dataBuffer ++ [decodeEscaped second]) serial rfl
      · simp only [if_neg stop, if_neg esc]
        exact ih serial.length (by omega) (dataBuffer ++ [serialByte]) serial rfl

/-- Without a deadline the reader finds the first packet of the framing. -/
theorem decodeFromSLIP_eq (serial : List UInt8) :
    decodeFromSLIP none serial = answer (slip.scan .hunting serial) := by
  unfold decodeFromSLIP
  induction serial with
  | nil => rfl
  | cons res serial ih =>
    rw [awaitStart, if_neg (by decide), Escaping.scan, Escaping.next, slip_start]
    by_cases start : res = SLIP_START
    · simp only [if_pos start]
      exact readFrame_eq [] serial
    · simp only [if_neg start]
      exact ih

end Refinement

def readPacket (serial : List UInt8) : Option (List UInt8 × List UInt8) :=
  match decodeFromSLIP none serial with
  | (.ok packet, rest) => some (packet, rest)
  | (.error _, _) => none

private theorem readPacket_eq (serial : List UInt8) :
    readPacket serial = slip.scan .hunting serial := by
  rw [readPacket, decodeFromSLIP_eq]
  cases slip.scan .hunting serial <;> rfl

def link : Format (List UInt8) UInt8 where
  write := encodeToSLIP
  read := readPacket
  read_write packet rest := by
    rw [readPacket_eq, encodeToSLIP_eq]
    exact Escaping.scan_encode (show slip.start ∉ [] by simp) packet rest
  shrinks serial packet rest h := by
    rw [readPacket_eq] at h
    obtain ⟨noise, body, rfl, _⟩ := Escaping.scan_hunting.mp h
    simp only [List.length_append, List.length_cons]
    omega

/-- The packets that one call after the other gets, from bytes without a pause in between. -/
def receive (serial : List UInt8) : List (List UInt8) := (link.readAll serial).1

/-- A pause as long as the timeout ends a call; the next one starts from nothing. -/
def receiveAll (bursts : List (List UInt8)) : List (List UInt8) := bursts.flatMap receive

theorem receive_eq (serial : List UInt8) : receive serial = (slip.feed .hunting serial).2 := by
  induction hn : serial.length using Nat.strongRecOn generalizing serial with
  | ind n ih =>
    rw [Escaping.feed_eq_scan]
    cases h : slip.scan .hunting serial with
    | none =>
      have nothing : link.read serial = none := (readPacket_eq serial).trans h
      cases serial with
      | nil => rfl
      | cons b serial => simp [receive, Format.readAll, Format.readUpTo, nothing]
    | some found =>
      have first : link.read serial = some found := (readPacket_eq serial).trans h
      have shorter := link.shrinks serial found.1 found.2 first
      rw [receive, Format.readAll_of_read first]
      exact congrArg (found.1 :: ·) (ih found.2.length (by omega) found.2 rfl)

/-- Whatever bytes the packets hold, and whatever noise without a start stands between them: the
reader gets exactly these packets, in order.  Behind any garbage only the first can come out wrong. -/
theorem received_as_sent {serial : List UInt8} {packets : List (List UInt8)}
    (h : slip.Carries serial packets) :
    receive serial = packets ∧
      ∀ garbage packet rest, packets = packet :: rest →
        ∃ junk read, receive (garbage ++ serial) = junk ++ read :: rest := by
  constructor
  · rw [receive_eq, Escaping.feed_carries h]
  · rintro garbage packet rest rfl
    obtain ⟨junk, read, ends⟩ := Escaping.feed_garbage garbage h
    refine ⟨junk, read, ?_⟩
    rw [receive_eq, ends]

/-- Wherever the reader times out, each pause loses at most the packet it falls into; all others are
got as they were sent, in order. -/
theorem pauses_lose_one_each {bursts : List (List UInt8)} {packets : List (List UInt8)}
    (h : slip.Carries bursts.flatten packets) :
    (receiveAll bursts).Sublist packets ∧
      packets.length ≤ (receiveAll bursts).length + (bursts.length - 1) := by
  induction bursts generalizing packets with
  | nil =>
    have nothing := Escaping.feed_carries h
    obtain rfl : [] = packets := (Prod.mk.inj nothing).2
    exact ⟨List.Sublist.refl _, Nat.zero_le _⟩
  | cons burst bursts ih =>
    rw [List.flatten_cons] at h
    have split : receiveAll (burst :: bursts) = receive burst ++ receiveAll bursts := rfl
    cases bursts with
    | nil =>
      rw [List.flatten_nil, List.append_nil] at h
      have all := (received_as_sent h).1
      rw [split, all]
      simp [receiveAll]
    | cons next bursts =>
      obtain ⟨before, after, fed, carried, lost⟩ := h.cut
      obtain ⟨rest, few⟩ := ih carried
      rw [split, receive_eq, fed]
      simp only [List.length_cons, Nat.add_sub_cancel, List.length_append] at few ⊢
      rcases lost with rfl | ⟨packet, rfl⟩
      · refine ⟨rest.append_left before, ?_⟩
        rw [List.length_append]
        omega
      · refine ⟨List.Sublist.append_left (rest.cons packet) before, ?_⟩
        rw [List.length_append, List.length_cons]
        omega

section Deadline

variable {deadline : Deadline}

private theorem not_expired_pass {n : ℕ} (running : deadline.expired = false)
    (passed : deadline.pass = some n) : deadline = some (n + 1) := by
  cases deadline with
  | none => cases passed
  | some m =>
    cases m with
    | zero => cases running
    | succ m => simpa [Deadline.pass] using passed

/-- The call ends with the deadline's error: it was too short for the bytes there were. -/
def TooShort (deadline : Deadline) (serial : List UInt8)
    (result : Except Error (List UInt8) × List UInt8) : Prop :=
  ∃ n rest, deadline = some n ∧ n ≤ serial.length ∧ rest <:+ serial ∧
    result = (.error .uartPacketError, rest)

private theorem tooShort_expired (expired : deadline.expired = true) (serial : List UInt8) :
    TooShort deadline serial (.error .uartPacketError, serial) := by
  have ran_out : deadline = some 0 := by simpa [Deadline.expired] using expired
  exact ⟨0, serial, ran_out, Nat.zero_le _, List.suffix_refl serial, rfl⟩

private theorem TooShort.pass {result : Except Error (List UInt8) × List UInt8}
    {serial : List UInt8}
    (taken : List UInt8) (running : deadline.expired = false) (one : 1 ≤ taken.length)
    (h : TooShort deadline.pass serial result) : TooShort deadline (taken ++ serial) result := by
  obtain ⟨n, rest, passed, short, back, rfl⟩ := h
  refine ⟨n + 1, rest, not_expired_pass running passed, ?_, ?_, rfl⟩
  · rw [List.length_append]
    omega
  · exact back.trans (List.suffix_append taken serial)

private theorem readFrame_deadline (deadline : Deadline) (dataBuffer serial : List UInt8) :
    readFrame deadline dataBuffer serial = readFrame none dataBuffer serial ∨
      TooShort deadline serial (readFrame deadline dataBuffer serial) := by
  induction hn : serial.length using Nat.strongRecOn generalizing serial dataBuffer deadline with
  | ind n ih =>
    cases expired : deadline.expired with
    | true =>
      right
      cases serial with
      | nil =>
        rw [readFrame, if_pos expired]
        exact tooShort_expired expired []
      | cons serialByte serial =>
        rw [readFrame_cons, if_pos expired]
        exact tooShort_expired expired _
    | false =>
      cases serial with
      | nil =>
        left
        simp only [readFrame, expired, expired_none, Bool.false_eq_true, if_false]
      | cons serialByte serial =>
        simp only [List.length_cons] at hn
        rw [readFrame_cons, readFrame_cons]
        simp only [expired, expired_none, Bool.false_eq_true, if_false]
        by_cases stop : serialByte = SLIP_END
        · exact .inl (by simp only [if_pos stop])
        by_cases esc : serialByte = SLIP_ESC
        · simp only [if_neg stop, if_pos esc]
          cases serial with
          | nil => exact .inl rfl
          | cons second serial =>
            simp only [List.length_cons] at hn
            rcases ih serial.length (by omega) deadline.pass
              (dataBuffer ++ [decodeEscaped second]) serial rfl with same | short
            · exact .inl same
            · exact .inr (TooShort.pass [serialByte, second] expired (by simp) short)
        · simp only [if_neg stop, if_neg esc]
          rcases ih serial.length (by omega) deadline.pass
            (dataBuffer ++ [serialByte]) serial rfl with same | short
          · exact .inl same
          · exact .inr (TooShort.pass [serialByte] expired (by simp) short)

theorem decodeFromSLIP_deadline (deadline : Deadline) (serial : List UInt8) :
    decodeFromSLIP deadline serial = decodeFromSLIP none serial ∨
      TooShort deadline serial (decodeFromSLIP deadline serial) := by
  unfold decodeFromSLIP
  induction serial generalizing deadline with
  | nil =>
    cases expired : deadline.expired with
    | true =>
      right
      rw [awaitStart, if_pos expired]
      exact tooShort_expired expired []
    | false =>
      left
      simp only [awaitStart, expired, expired_none, Bool.false_eq_true, if_false]
  | cons res serial ih =>
    cases expired : deadline.expired with
    | true =>
      right
      rw [awaitStart, if_pos expired]
      exact tooShort_expired expired _
    | false =>
      rw [awaitStart, awaitStart]
      simp only [expired, expired_none, Bool.false_eq_true, if_false]
      by_cases start : res = SLIP_START
      · simp only [if_pos start]
        rcases readFrame_deadline deadline.pass [] serial with same | short
        · exact .inl same
        · exact .inr (TooShort.pass [res] expired (by simp) short)
      · simp only [if_neg start]
        rcases ih deadline.pass with same | short
        · exact .inl same
        · exact .inr (TooShort.pass [res] expired (by simp) short)

end Deadline

/-- With any deadline: a packet that is returned stands in the bytes, behind noise and between a
start and a stop, and is the one found without a deadline; a call that times out has found the bytes
to hold no packet; and only a deadline within the length of the bytes ends a call by itself. -/
theorem deadline_sound (deadline : Deadline) (serial : List UInt8) :
    (∀ packet rest, decodeFromSLIP deadline serial = (.ok packet, rest) →
      decodeFromSLIP none serial = (.ok packet, rest) ∧
      ∃ noise body, serial = noise ++ SLIP_START :: (body ++ SLIP_END :: rest) ∧
        SLIP_START ∉ noise ∧ slip.Reads body packet) ∧
    (∀ rest, decodeFromSLIP deadline serial = (.error .snifferTimeout, rest) →
      rest = [] ∧ receive serial = []) ∧
    ∀ rest, decodeFromSLIP deadline serial = (.error .uartPacketError, rest) →
      rest <:+ serial ∧ ∃ n ≤ serial.length, deadline = some n := by
  have free := decodeFromSLIP_eq serial
  rcases decodeFromSLIP_deadline deadline serial with same | short
  · rw [same, free]
    cases found : slip.scan .hunting serial with
    | none =>
      refine ⟨?_, fun rest h => ⟨?_, ?_⟩, ?_⟩
      · intro packet rest h
        cases h
      · exact (Prod.mk.inj h).2.symm
      · rw [receive_eq, Escaping.feed_eq_scan, found]
      · intro rest h
        cases h
    | some read =>
      refine ⟨fun packet rest h => ⟨h, ?_⟩, ?_, ?_⟩
      · obtain ⟨packet_eq, rest_eq⟩ := Prod.mk.inj h
        obtain rfl : read = (packet, rest) :=
          Prod.ext (Except.ok.inj packet_eq) rest_eq
        exact Escaping.scan_hunting.mp found
      · intro rest h
        cases h
      · intro rest h
        cases h
  · obtain ⟨n, left, rfl, fits, back, ends⟩ := short
    rw [ends]
    refine ⟨?_, ?_, ?_⟩
    · intro packet rest h
      cases h
    · intro rest h
      cases h
    · intro rest h
      obtain rfl := (Prod.mk.inj h).2
      exact ⟨back, n, fits, rfl⟩

end ProximityLed.Sniffer.Slip
