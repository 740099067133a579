/- ProximityLed/Sniffer/ControlChannel
   digest: Messages between the capture program and the toolbar, and the devices that they show. -/

import ProximityLed.Library.Endian
import ProximityLed.Library.Records
import ProximityLed.Library.Text
import ProximityLed.Sniffer.Devices

set_option autoImplicit false
set_option relaxedAutoImplicit false

namespace ProximityLed.Sniffer.ControlChannel

open Library.Endian
open Library.Records (Format)
open Library.Text
open OnAir (Address)
open Devices (Device Notification)

def CTRL_CMD_INIT : UInt8 := 0
def CTRL_CMD_SET : UInt8 := 1
def CTRL_CMD_ADD : UInt8 := 2

def CTRL_ARG_DEVICE : UInt8 := 0
def CTRL_ARG_KEY : UInt8 := 1
def CTRL_ARG_ADVHOP : UInt8 := 2

/-- Six bytes in front of a message: `T`, zero, a length with the last two of the six, most
significant byte first, and these two. -/
def header (length : ℕ) (arg typ : UInt8) : List UInt8 :=
  [84, 0] ++ (bytesOf 2 (length + 2)).reverse ++ [arg, typ]

/-- The length counts the characters of the message.  None when it has no room. -/
def controlWrite (arg typ : UInt8) (message : List Char) : Option (List UInt8) :=
  if message.length + 2 < 256 ^ 2 then some (header message.length arg typ ++ encode message)
  else none

structure Message where
  arg : UInt8
  typ : UInt8
  payload : List UInt8
  short : payload.length + 2 < 256 ^ 2

def Message.write (m : Message) : List UInt8 := header m.payload.length m.arg m.typ ++ m.payload

/-- The payload is what the length says, or what there is. -/
def messageOf (arg typ : UInt8) (length : ℕ) (room : length < 256 ^ 2) (stream : List UInt8) :
    Message where
  arg := arg
  typ := typ
  payload := stream.take (length - 2)
  short := by
    rw [List.length_take]
    omega

/-- One message, and what is behind it.  None at the end of the stream, and for a header that is
not all there, which raises. -/
def controlRead : List UInt8 → Option (Message × List UInt8)
  | _ :: _ :: high :: low :: arg :: typ :: stream =>
    let length := value [low, high]
    some (messageOf arg typ length (value_lt [low, high]) stream, stream.drop (length - 2))
  | _ => none

section Format

private theorem controlRead_header {length : ℕ} (arg typ : UInt8) (short : length + 2 < 256 ^ 2)
    (stream : List UInt8) : controlRead (header length arg typ ++ stream) =
      some (messageOf arg typ (length + 2) short stream, stream.drop length) := by
  have count : value [UInt8.ofNat ((length + 2) % 256), UInt8.ofNat ((length + 2) / 256 % 256)] =
      length + 2 := by
    rw [← bytesOf_two, value_bytesOf_of_lt short]
  have whole : header length arg typ ++ stream =
      84 :: 0 :: UInt8.ofNat ((length + 2) / 256 % 256) :: UInt8.ofNat ((length + 2) % 256) ::
        arg :: typ :: stream := by
    simp [header, bytesOf_two]
  rw [whole, controlRead]
  simp only [count, Nat.add_sub_cancel]

theorem controlRead_write (m : Message) (rest : List UInt8) :
    controlRead (m.write ++ rest) = some (m, rest) := by
  rw [Message.write, List.append_assoc, controlRead_header m.arg m.typ m.short, List.drop_left]
  simp only [messageOf, Nat.add_sub_cancel, List.take_left]

private theorem controlRead_shrinks (stream : List UInt8) (m : Message) (rest : List UInt8)
    (h : controlRead stream = some (m, rest)) : rest.length < stream.length := by
  unfold controlRead at h
  split at h
  · rename_i high low arg typ stream
    obtain ⟨rfl, rfl⟩ := Prod.mk.inj (Option.some_inj.mp h)
    simp only [List.length_drop, List.length_cons]
    omega
  · cases h

def messages : Format Message UInt8 where
  write := Message.write
  read := controlRead
  read_write := controlRead_write
  shrinks := controlRead_shrinks

end Format

structure Post where
  arg : UInt8
  typ : UInt8
  message : List Char
  bytes : List UInt8
  wrote : controlWrite arg typ message = some bytes

section Posts

private theorem Post.wrote_eq (p : Post) : p.message.length + 2 < 256 ^ 2 ∧
    p.bytes = header p.message.length p.arg p.typ ++ encode p.message := by
  have wrote := p.wrote
  simp only [controlWrite, Option.ite_none_right_eq_some, Option.some_inj] at wrote
  exact ⟨wrote.1, wrote.2.symm⟩

private theorem Post.exists_message (p : Post) (ascii : Ascii p.message) :
    ∃ m : Message, m.arg = p.arg ∧ m.typ = p.typ ∧ m.payload = encode p.message ∧
      p.bytes = m.write := by
  obtain ⟨short, bytes⟩ := p.wrote_eq
  have length := length_encode_eq_iff.mpr ascii
  refine ⟨⟨p.arg, p.typ, encode p.message, by rw [length]; exact short⟩, rfl, rfl, rfl, ?_⟩
  change p.bytes = header (encode p.message).length p.arg p.typ ++ encode p.message
  rw [bytes, length]

private theorem Post.read_short (p : Post) (other : ¬Ascii p.message) (rest : List UInt8) :
    ∃ m left, controlRead (p.bytes ++ rest) = some (m, left) ∧ m.payload ≠ encode p.message := by
  obtain ⟨short, bytes⟩ := p.wrote_eq
  have longer : p.message.length < (encode p.message).length :=
    lt_of_le_of_ne (length_le_length_encode _) fun same => other (length_encode_eq_iff.mp same.symm)
  refine ⟨messageOf p.arg p.typ (p.message.length + 2) short (encode p.message ++ rest),
    (encode p.message ++ rest).drop p.message.length, ?_, ?_⟩
  · rw [bytes, List.append_assoc, controlRead_header _ _ short]
  · intro same
    have length := congrArg List.length same
    simp only [messageOf, Nat.add_sub_cancel, List.length_take, List.length_append] at length
    omega

def found (stream : List UInt8) : List (UInt8 × UInt8 × List UInt8) :=
  (messages.readAll stream).1.map fun m => (m.arg, m.typ, m.payload)

private theorem found_cons {stream rest : List UInt8} {m : Message}
    (read : controlRead stream = some (m, rest)) :
    found stream = (m.arg, m.typ, m.payload) :: found rest := by
  have first : messages.read stream = some (m, rest) := read
  rw [found, Format.readAll_of_read first]
  rfl

private theorem found_nil : found [] = [] := rfl

/-- Messages are read as they were written exactly when all their characters are ASCII: the length
counts characters, and behind one that takes two bytes the reader is out of step. -/
theorem posts_arrive_iff (posts : List Post) :
    found (posts.flatMap Post.bytes) = posts.map (fun p => (p.arg, p.typ, encode p.message)) ↔
      ∀ p ∈ posts, Ascii p.message := by
  induction posts with
  | nil => simp [found_nil]
  | cons p posts ih =>
    rw [List.flatMap_cons, List.map_cons, List.forall_mem_cons]
    by_cases ascii : Ascii p.message
    · obtain ⟨m, arg, typ, payload, bytes⟩ := p.exists_message ascii
      rw [bytes, found_cons (controlRead_write m _), arg, typ, payload, List.cons_inj_right, ih]
      exact (and_iff_right ascii).symm
    · obtain ⟨m, left, read, wrong⟩ := p.read_short ascii (posts.flatMap Post.bytes)
      rw [found_cons read]
      constructor
      · intro same
        have payload := (Prod.mk.inj (Prod.mk.inj (List.cons.inj same).1).2).2
        exact absurd payload wrong
      · rintro ⟨first, _⟩
        exact absurd first ascii

end Posts

def hexByte (b : UInt8) : List Char := [(b.toNat / 16).digitChar, (b.toNat % 16).digitChar]

/-- Six bytes of an address and the item behind them; none for a shorter one. -/
def stringAddress (address : Address) : Option (List Char) :=
  if address.bytes.length + 1 < 7 then none
  else
    some ([':'].intercalate ((address.bytes.take 6).map hexByte) ++ [' '] ++
      if (address.bytes.map (fun b => decide (b ≠ 0)) ++ [address.addrType]).getD 6 false then
        " random ".toList
      else " public ".toList)

def decimal (n : ℤ) : List Char :=
  if n < 0 then '-' :: Nat.toDigits 10 n.natAbs else Nat.toDigits 10 n.natAbs

def items (address : Address) : List (List Char) :=
  address.bytes.map (fun b => Nat.toDigits 10 b.toNat) ++
    [if address.addrType then "True".toList else "False".toList]

def strAddress (address : Address) : List Char :=
  ['['] ++ [',', ' '].intercalate (items address) ++ [']']

/-- The message about a device, when the filter lets it through; none when it raises. -/
def deviceAdded (rssiFilter : ℤ) (device : Device) : Option (Option (List Char)) :=
  if rssiFilter = 0 ∨ device.rssi > rssiFilter then
    (stringAddress device.address).map fun address =>
      some (strAddress device.address ++ [Char.ofNat 0] ++ (device.name ++ "  ".toList ++
        decimal device.rssi ++ " dBm  ".toList ++ address))
  else some none

/-- What a device that is added or updated puts on the channel.  Exceptions end in the thread's
handler for them, and nothing is written. -/
def post (rssiFilter : ℤ) (device : Device) : Option Post :=
  (deviceAdded rssiFilter device).join.bind fun message =>
    match wrote : controlWrite CTRL_ARG_DEVICE CTRL_CMD_ADD message with
    | none => none
    | some bytes => some ⟨CTRL_ARG_DEVICE, CTRL_CMD_ADD, message, bytes, wrote⟩

section Shown

variable {rssiFilter : ℤ} {device : Device}

theorem ascii_items {address : Address} {item : List Char} (mem : item ∈ items address) :
    Ascii item := by
  rcases List.mem_append.mp mem with byte | type
  · obtain ⟨b, _, rfl⟩ := List.mem_map.mp byte
    exact ascii_toDigits _
  · rw [List.mem_singleton.mp type]
    cases address.addrType <;> decide

private theorem ascii_strAddress (address : Address) : Ascii (strAddress address) := by
  have each : ∀ item ∈ items address, Ascii item := fun _ mem => ascii_items mem
  have between : Ascii [',', ' '] := by decide
  have first : Ascii ['['] := by decide
  have last : Ascii [']'] := by decide
  exact ascii_append.mpr ⟨ascii_append.mpr ⟨first, forall_mem_intercalate between each⟩, last⟩

private theorem ascii_stringAddress {address : Address} {text : List Char}
    (h : stringAddress address = some text) : Ascii text := by
  simp only [stringAddress, Option.ite_none_left_eq_some, Option.some_inj] at h
  obtain ⟨_, rfl⟩ := h
  have each : ∀ pair ∈ (address.bytes.take 6).map hexByte, Ascii pair := by
    intro pair mem
    obtain ⟨b, _, rfl⟩ := List.mem_map.mp mem
    have byte := b.toNat_lt
    have high := ascii_digitChar (b.toNat / 16) (by omega)
    have low := ascii_digitChar (b.toNat % 16) (by omega)
    exact ascii_cons.mpr ⟨high, ascii_cons.mpr ⟨low, fun _ mem => nomatch mem⟩⟩
  have between : Ascii [':'] := by decide
  have blank : Ascii [' '] := by decide
  refine ascii_append.mpr ⟨ascii_append.mpr ⟨forall_mem_intercalate between each, blank⟩, ?_⟩
  split <;> decide

private theorem ascii_decimal (n : ℤ) : Ascii (decimal n) := by
  unfold decimal
  split
  · exact ascii_cons.mpr ⟨by decide, ascii_toDigits _⟩
  · exact ascii_toDigits _

theorem of_post {p : Post} (h : post rssiFilter device = some p) :
    p.arg = CTRL_ARG_DEVICE ∧ p.typ = CTRL_CMD_ADD ∧
      deviceAdded rssiFilter device = some (some p.message) := by
  obtain ⟨message, told, h⟩ := Option.bind_eq_some_iff.mp h
  rw [Option.join_eq_some_iff] at told
  split at h
  · cases h
  · obtain rfl := Option.some_inj.mp h
    exact ⟨rfl, rfl, told⟩

private theorem ascii_post {p : Post} (h : post rssiFilter device = some p) :
    Ascii p.message ↔ Ascii device.name := by
  obtain ⟨_, _, told⟩ := of_post h
  unfold deviceAdded at told
  split at told
  · obtain ⟨address, written, told⟩ := Option.map_eq_some_iff.mp told
    rw [← Option.some_inj.mp told]
    have blanks : Ascii "  ".toList := by decide
    have unit : Ascii " dBm  ".toList := by decide
    have zero : Ascii [Char.ofNat 0] := by decide
    simp only [ascii_append, ascii_strAddress, ascii_decimal, ascii_stringAddress written, blanks,
      unit, zero, true_and, and_true]
  · cases told

/-- However the list of devices changes: the toolbar reads the messages about devices as they were
meant exactly when the names in them are all ASCII. -/
theorem toolbar_in_step_iff (rssiFilter : ℤ) (devices : List Device) :
    found ((devices.filterMap (post rssiFilter)).flatMap Post.bytes) =
        (devices.filterMap (post rssiFilter)).map
          (fun p => (CTRL_ARG_DEVICE, CTRL_CMD_ADD, encode p.message)) ↔
      ∀ device ∈ devices, (post rssiFilter device).isSome → Ascii device.name := by
  have kinds : (devices.filterMap (post rssiFilter)).map
        (fun p => (CTRL_ARG_DEVICE, CTRL_CMD_ADD, encode p.message)) =
      (devices.filterMap (post rssiFilter)).map (fun p => (p.arg, p.typ, encode p.message)) := by
    apply List.map_congr_left
    intro p mem
    obtain ⟨device, _, written⟩ := List.mem_filterMap.mp mem
    obtain ⟨arg, typ, _⟩ := of_post written
    rw [arg, typ]
  rw [kinds, posts_arrive_iff]
  constructor
  · intro all device mem written
    obtain ⟨p, written⟩ := Option.isSome_iff_exists.mp written
    exact (ascii_post written).mp (all p (List.mem_filterMap.mpr ⟨device, mem, written⟩))
  · intro all p mem
    obtain ⟨device, here, written⟩ := List.mem_filterMap.mp mem
    exact (ascii_post written).mpr (all device here (by rw [written]; rfl))

end Shown

end ProximityLed.Sniffer.ControlChannel
