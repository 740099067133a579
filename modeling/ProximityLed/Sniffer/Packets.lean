/- ProximityLed/Sniffer/Packets
   digest: Packets of the sniffer's firmware: their header, what is read of them, and their padding. -/

import ProximityLed.Sniffer.OnAir
import ProximityLed.Library.Endian

set_option autoImplicit false
set_option relaxedAutoImplicit false

namespace ProximityLed.Sniffer.Packets

open Library.Endian
open OnAir (BlePacket slice)

def PROTOVER_V1 : UInt8 := 1
def PROTOVER_V2 : UInt8 := 2

def EVENT_PACKET : UInt8 := 0x06
def PING_RESP : UInt8 := 0x0E
def SWITCH_BAUD_RATE_REQ : UInt8 := 0x13
def SWITCH_BAUD_RATE_RESP : UInt8 := 0x14

def PAYLOAD_LEN_POS_V1 : ℕ := 1
def PAYLOAD_LEN_POS : ℕ := 0
def PROTOVER_POS : ℕ := PAYLOAD_LEN_POS + 2
def PACKETCOUNTER_POS : ℕ := PROTOVER_POS + 1
def ID_POS : ℕ := PACKETCOUNTER_POS + 2
def BLE_HEADER_LEN_POS : ℕ := ID_POS + 1
def FLAGS_POS : ℕ := BLE_HEADER_LEN_POS + 1
def CHANNEL_POS : ℕ := FLAGS_POS + 1
def RSSI_POS : ℕ := CHANNEL_POS + 1
def EVENTCOUNTER_POS : ℕ := RSSI_POS + 1
def TIMESTAMP_POS : ℕ := EVENTCOUNTER_POS + 2
def BLEPACKET_POS : ℕ := TIMESTAMP_POS + 4
def TXADD_POS : ℕ := BLEPACKET_POS + 4
def TXADD_MSK : UInt8 := 0x40
def PAYLOAD_POS : ℕ := BLE_HEADER_LEN_POS
def HEADER_LENGTH : ℕ := 6
def BLE_HEADER_LENGTH : UInt8 := 10

def parseLittleEndian (list : List UInt8) : ℕ :=
  list.zipIdx.foldl (fun total item => total + item.1.toNat <<< (8 * item.2)) 0

def toLittleEndian (value size : ℕ) : List UInt8 :=
  (List.range size).map fun i => UInt8.ofNat ((value >>> (i * 8)) % 256)

structure Header where
  protover : UInt8
  packetCounter : ℕ
  id : UInt8
  payloadLength : ℕ
  deriving DecidableEq

structure Flags where
  crcOK : Bool
  direction : Bool
  encrypted : Bool
  micOK : Bool
  phy : ℕ
  deriving DecidableEq

def readFlags (flags : UInt8) : Flags where
  crcOK := flags &&& 1 ≠ 0
  direction := flags &&& 2 ≠ 0
  encrypted := flags &&& 4 ≠ 0
  micOK := flags &&& 8 ≠ 0
  phy := (flags >>> 4 &&& 7).toNat

def Flags.ok (f : Flags) : Bool := f.crcOK && (f.micOK || !f.encrypted)

structure BleEvent where
  flags : Flags
  channel : UInt8
  rawRSSI : UInt8
  txAdd : UInt8
  eventCounter : ℕ
  timestamp : ℕ
  deriving DecidableEq

/-- A valid packet.  Attributes that only some packets have are none for the others. -/
structure Packet extends Header where
  packetList : List UInt8
  payload : List UInt8
  ok : Bool
  rssi : Option ℤ
  event : Option BleEvent
  blePacket : Option BlePacket
  version : Option ℕ
  baudRate : Option ℕ
  deriving DecidableEq

/-- The first half of the constructor. -/
def readHeader (packetList : List UInt8) : Option Header := do
  let protover ← packetList[PROTOVER_POS]?
  let packetCounter := parseLittleEndian (slice packetList PACKETCOUNTER_POS (PACKETCOUNTER_POS + 2))
  let id ← packetList[ID_POS]?
  if protover = PROTOVER_V1 then
    let payloadLength ← packetList[PAYLOAD_LEN_POS_V1]?
    some ⟨protover, packetCounter, id, payloadLength.toNat⟩
  else if protover = PROTOVER_V2 then
    let payloadLength := parseLittleEndian (slice packetList PAYLOAD_LEN_POS (PAYLOAD_LEN_POS + 2))
    some ⟨protover, packetCounter, id, payloadLength⟩
  else none

def validatePacketList (header : Header) (packetList : List UInt8) : Bool :=
  header.payloadLength + HEADER_LENGTH == packetList.length

/-- What is read of an event up to the removal of its padding byte; none when a byte is missing. -/
def readEvent (packetList : List UInt8) : Option BleEvent := do
  let flags ← packetList[FLAGS_POS]?
  let channel ← packetList[CHANNEL_POS]?
  let rawRSSI ← packetList[RSSI_POS]?
  let txAdd ← packetList[TXADD_POS]?
  let _ ← packetList[BLEPACKET_POS + 6]?
  some {
    flags := readFlags flags
    channel := channel
    rawRSSI := rawRSSI
    txAdd := txAdd &&& TXADD_MSK
    eventCounter := parseLittleEndian (slice packetList EVENTCOUNTER_POS (EVENTCOUNTER_POS + 2))
    timestamp := parseLittleEndian (slice packetList TIMESTAMP_POS (TIMESTAMP_POS + 4)) }

/-- The list without the padding byte, and with the length of its payload written back. -/
def removePadding (protover : UInt8) (payloadLength : ℕ) (packetList : List UInt8) : List UInt8 :=
  let packetList := packetList.eraseIdx (BLEPACKET_POS + 6)
  if protover ≥ PROTOVER_V2 then
    let payloadLength := toLittleEndian payloadLength 2
    (packetList.set PAYLOAD_LEN_POS (payloadLength.getD 0 0)).set (PAYLOAD_LEN_POS + 1)
      (payloadLength.getD 1 0)
  else packetList.set PAYLOAD_LEN_POS_V1 (UInt8.ofNat payloadLength)

def bare (header : Header) (packetList : List UInt8) : Packet where
  toHeader := header
  packetList := packetList
  payload := slice packetList PAYLOAD_POS (PAYLOAD_POS + header.payloadLength)
  ok := false
  rssi := none
  event := none
  blePacket := none
  version := none
  baudRate := none

/-- The branch of `read_payload` for events.  A missing byte leaves a packet that is not OK. -/
def readEventPayload (header : Header) (packetList : List UInt8) : Packet :=
  let packet := bare header packetList
  if packetList[BLE_HEADER_LEN_POS]? = some BLE_HEADER_LENGTH then
    let packet := { packet with rssi := packetList[RSSI_POS]?.map fun rawRSSI => -(rawRSSI.toNat : ℤ) }
    match readEvent packetList with
    | none => packet
    | some event =>
      let payloadLength := header.payloadLength - 1
      let packetList := removePadding header.protover payloadLength packetList
      { packet with
        payloadLength := payloadLength
        packetList := packetList
        ok := event.flags.ok
        event := some event
        blePacket :=
          if event.flags.ok then BlePacket.ofList (packetList.drop BLEPACKET_POS) else none }
  else packet

/-- The second half of the constructor; none when the packet is not valid.  For all other ids the
source compares with `TEST_RESULT_ID`, a name that is defined nowhere: the `NameError` ends in the
constructor's last handler, which makes the packet invalid. -/
def readPayload (header : Header) (packetList : List UInt8) : Option Packet :=
  if validatePacketList header packetList then
    if header.id = EVENT_PACKET then some (readEventPayload header packetList)
    else if header.id = PING_RESP then
      some { bare header packetList with
        version := some (parseLittleEndian (slice packetList PAYLOAD_POS (PAYLOAD_POS + 2))) }
    else if header.id = SWITCH_BAUD_RATE_RESP ∨ header.id = SWITCH_BAUD_RATE_REQ then
      some { bare header packetList with
        baudRate := some (parseLittleEndian (slice packetList PAYLOAD_POS (PAYLOAD_POS + 4))) }
    else none
  else none

def Packet.ofList (packetList : List UInt8) : Option Packet :=
  (readHeader packetList).bind fun header => readPayload header packetList

section Endian

private theorem parseLittleEndian_eq (list : List UInt8) : parseLittleEndian list = value list := by
  have key : ∀ (l : List UInt8) (i total : ℕ),
      (l.zipIdx i).foldl (fun total item => total + item.1.toNat <<< (8 * item.2)) total =
        total + 256 ^ i * value l := by
    intro l
    induction l with
    | nil => intro i total; simp
    | cons b l ih =>
      intro i total
      have shift : b.toNat <<< (8 * i) = b.toNat * 256 ^ i := by
        rw [Nat.shiftLeft_eq, pow_mul]
        rfl
      rw [List.zipIdx_cons, List.foldl_cons, ih, shift, value_cons, pow_succ]
      ring
  have whole := key list 0 0
  simpa [parseLittleEndian] using whole

theorem toLittleEndian_eq (n size : ℕ) : toLittleEndian n size = bytesOf size n := by
  have shift (i : ℕ) : n >>> (i * 8) = n / 256 ^ i := by
    rw [Nat.shiftRight_eq_div_pow, Nat.mul_comm, pow_mul]
    rfl
  simp only [toLittleEndian, bytesOf, shift]

end Endian

section Header

variable {packetList : List UInt8} {header : Header} {b₀ b₁ b₂ b₃ b₄ b₅ : UInt8}
  {rest : List UInt8}

theorem readHeader_cons :
    readHeader (b₀ :: b₁ :: b₂ :: b₃ :: b₄ :: b₅ :: rest) =
      if b₂ = PROTOVER_V1 then some ⟨b₂, value [b₃, b₄], b₅, b₁.toNat⟩
      else if b₂ = PROTOVER_V2 then some ⟨b₂, value [b₃, b₄], b₅, value [b₀, b₁]⟩
      else none := by
  simp [readHeader, slice, parseLittleEndian_eq, PROTOVER_POS, PACKETCOUNTER_POS, ID_POS,
    PAYLOAD_LEN_POS, PAYLOAD_LEN_POS_V1]

theorem exists_six (h : readHeader packetList = some header) :
    ∃ b₀ b₁ b₂ b₃ b₄ b₅ rest, packetList = b₀ :: b₁ :: b₂ :: b₃ :: b₄ :: b₅ :: rest := by
  have long : 6 ≤ packetList.length := by
    by_contra short
    have missing : packetList[ID_POS]? = none := by
      apply List.getElem?_eq_none
      simp only [ID_POS, PACKETCOUNTER_POS, PROTOVER_POS, PAYLOAD_LEN_POS]
      omega
    simp [readHeader, missing] at h
  match packetList, long with
  | b₀ :: b₁ :: b₂ :: b₃ :: b₄ :: b₅ :: rest, _ => exact ⟨b₀, b₁, b₂, b₃, b₄, b₅, rest, rfl⟩

theorem payloadLength_lt (h : readHeader packetList = some header) :
    header.payloadLength < 256 ^ 2 := by
  obtain ⟨b₀, b₁, b₂, b₃, b₄, b₅, rest, rfl⟩ := exists_six h
  rw [readHeader_cons] at h
  split at h
  · rw [← Option.some_inj.mp h]
    exact b₁.toNat_lt.trans (by decide)
  · split at h
    · rw [← Option.some_inj.mp h]
      exact value_lt [b₀, b₁]
    · cases h

private theorem removePadding_cons (n : ℕ) :
    removePadding b₂ n (b₀ :: b₁ :: b₂ :: b₃ :: b₄ :: b₅ :: rest) =
      if b₂ ≥ PROTOVER_V2 then
        UInt8.ofNat (n % 256) :: UInt8.ofNat (n / 256 % 256) :: b₂ :: b₃ :: b₄ :: b₅ ::
          rest.eraseIdx 16
      else b₀ :: UInt8.ofNat n :: b₂ :: b₃ :: b₄ :: b₅ :: rest.eraseIdx 16 := by
  simp [removePadding, toLittleEndian_eq, bytesOf_two, BLEPACKET_POS, TIMESTAMP_POS,
    EVENTCOUNTER_POS, RSSI_POS, CHANNEL_POS, FLAGS_POS, BLE_HEADER_LEN_POS, ID_POS,
    PACKETCOUNTER_POS, PROTOVER_POS, PAYLOAD_LEN_POS, PAYLOAD_LEN_POS_V1, List.eraseIdx]

theorem readHeader_removePadding {n : ℕ} (h : readHeader packetList = some header)
    (shorter : n ≤ header.payloadLength) :
    readHeader (removePadding header.protover n packetList) =
      some { header with payloadLength := n } := by
  obtain ⟨b₀, b₁, b₂, b₃, b₄, b₅, rest, rfl⟩ := exists_six h
  rw [readHeader_cons] at h
  split at h
  · rename_i v1
    obtain rfl := Option.some_inj.mp h
    have below : n < 256 := shorter.trans_lt b₁.toNat_lt
    have older : ¬b₂ ≥ PROTOVER_V2 := by rw [v1]; decide
    dsimp only
    rw [removePadding_cons, if_neg older, readHeader_cons, if_pos v1, UInt8.toNat_ofNat',
      Nat.mod_eq_of_lt below]
  · rename_i not_v1
    split at h
    · rename_i v2
      obtain rfl := Option.some_inj.mp h
      have below : n < 256 ^ 2 := shorter.trans_lt (value_lt [b₀, b₁])
      have newer : b₂ ≥ PROTOVER_V2 := by rw [v2]; decide
      have written : value [UInt8.ofNat (n % 256), UInt8.ofNat (n / 256 % 256)] = n := by
        rw [← bytesOf_two, value_bytesOf_of_lt below]
      dsimp only
      rw [removePadding_cons, if_pos newer, readHeader_cons, if_neg not_v1, if_pos v2, written]
    · cases h

private theorem length_removePadding (protover : UInt8) (n : ℕ)
    (long : BLEPACKET_POS + 6 < packetList.length) :
    (removePadding protover n packetList).length = packetList.length - 1 := by
  unfold removePadding
  dsimp only
  split <;> simp only [List.length_set, List.length_eraseIdx, if_pos long]

private theorem drop_removePadding {n : ℕ} (h : readHeader packetList = some header) :
    (removePadding header.protover n packetList).drop HEADER_LENGTH =
      (packetList.drop HEADER_LENGTH).eraseIdx 16 := by
  obtain ⟨b₀, b₁, b₂, b₃, b₄, b₅, rest, rfl⟩ := exists_six h
  have version : header.protover = b₂ := by
    rw [readHeader_cons] at h
    split at h
    · rw [← Option.some_inj.mp h]
    · split at h
      · rw [← Option.some_inj.mp h]
      · cases h
  rw [version, removePadding_cons]
  split <;> rfl

end Header

section Valid

variable {packetList : List UInt8} {header : Header} {packet : Packet}

private theorem length_of_readEvent {event : BleEvent} (h : readEvent packetList = some event) :
    BLEPACKET_POS + 6 < packetList.length := by
  by_contra short
  have missing : packetList[BLEPACKET_POS + 6]? = none :=
    List.getElem?_eq_none (Nat.not_lt.mp short)
  simp only [readEvent, missing] at h
  revert h
  cases packetList[FLAGS_POS]? <;> cases packetList[CHANNEL_POS]? <;>
    cases packetList[RSSI_POS]? <;> cases packetList[TXADD_POS]? <;> simp

/-- What the two branches for events leave: a list as it was received in a packet that is not OK,
or one without its padding. -/
private theorem readEventPayload_cases (header : Header) (packetList : List UInt8) :
    (∃ rssi, readEventPayload header packetList = { bare header packetList with rssi := rssi }) ∨
      ∃ event rawRSSI, readEvent packetList = some event ∧
        packetList[BLE_HEADER_LEN_POS]? = some BLE_HEADER_LENGTH ∧
        packetList[RSSI_POS]? = some rawRSSI ∧
        readEventPayload header packetList =
          { bare header packetList with
            payloadLength := header.payloadLength - 1
            packetList := removePadding header.protover (header.payloadLength - 1) packetList
            ok := event.flags.ok
            rssi := some (-(rawRSSI.toNat : ℤ))
            event := some event
            blePacket :=
              if event.flags.ok then
                BlePacket.ofList
                  ((removePadding header.protover (header.payloadLength - 1) packetList).drop
                    BLEPACKET_POS)
              else none } := by
  unfold readEventPayload
  split
  · rename_i ten
    cases read : readEvent packetList with
    | none => exact .inl ⟨_, rfl⟩
    | some event =>
      right
      have long : RSSI_POS < packetList.length :=
        (by decide : RSSI_POS ≤ BLEPACKET_POS + 6).trans_lt (length_of_readEvent read)
      have rssi : packetList[RSSI_POS]? = some packetList[RSSI_POS] :=
        List.getElem?_eq_getElem _
      refine ⟨event, packetList[RSSI_POS], rfl, ten, rssi, ?_⟩
      simp only [rssi, Option.map_some]
  · exact .inl ⟨none, rfl⟩

/-- Only lists as long as their header says, with one of four ids, make a packet. -/
theorem ofList_cases (h : Packet.ofList packetList = some packet) :
    ∃ header, readHeader packetList = some header ∧
      validatePacketList header packetList = true ∧
      (header.id = EVENT_PACKET ∧ packet = readEventPayload header packetList ∨
        (header.id = PING_RESP ∨ header.id = SWITCH_BAUD_RATE_RESP ∨
            header.id = SWITCH_BAUD_RATE_REQ) ∧
          ∃ version baudRate, packet =
            { bare header packetList with version := version, baudRate := baudRate }) := by
  obtain ⟨header, read, h⟩ := Option.bind_eq_some_iff.mp h
  refine ⟨header, read, ?_⟩
  unfold readPayload at h
  split at h
  · rename_i valid
    refine ⟨valid, ?_⟩
    split at h
    · rename_i isEvent
      exact .inl ⟨isEvent, (Option.some_inj.mp h).symm⟩
    · split at h
      · rename_i ping
        exact .inr ⟨.inl ping, _, none, (Option.some_inj.mp h).symm⟩
      · split at h
        · rename_i rate
          exact .inr ⟨.inr rate, none, _, (Option.some_inj.mp h).symm⟩
        · cases h
  · cases h

/-- What all users of a valid packet rely on: its list has the length that its own header says, and
the header that the packet says; only an event has lost a byte, the padding; and an event that is OK
has its RSSI and the packet that was on the air. -/
structure Consistent (packetList : List UInt8) (packet : Packet) : Prop where
  id : packet.id = EVENT_PACKET ∨ packet.id = PING_RESP ∨ packet.id = SWITCH_BAUD_RATE_RESP ∨
    packet.id = SWITCH_BAUD_RATE_REQ
  header : readHeader packet.packetList = some packet.toHeader
  length : validatePacketList packet.toHeader packet.packetList = true
  kept : packet.event = none → packet.packetList = packetList
  erased : packet.event ≠ none → packet.id = EVENT_PACKET ∧
    packet.packetList.drop HEADER_LENGTH = (packetList.drop HEADER_LENGTH).eraseIdx 16
  ok : packet.ok = true → packet.rssi.isSome = true ∧ packet.event.isSome = true ∧
    ∃ blePacket, packet.blePacket = some blePacket ∧
      BlePacket.ofList (packet.packetList.drop BLEPACKET_POS) = some blePacket

private theorem consistent_bare {rssi : Option ℤ} {version baudRate : Option ℕ}
    (read : readHeader packetList = some header)
    (valid : validatePacketList header packetList = true)
    (id : header.id = EVENT_PACKET ∨ header.id = PING_RESP ∨ header.id = SWITCH_BAUD_RATE_RESP ∨
      header.id = SWITCH_BAUD_RATE_REQ) :
    Consistent packetList
      { bare header packetList with rssi := rssi, version := version, baudRate := baudRate } where
  id := id
  header := read
  length := valid
  kept _ := rfl
  erased some_event := absurd rfl some_event
  ok not_ok := nomatch not_ok

theorem consistent_of_ofList (h : Packet.ofList packetList = some packet) :
    Consistent packetList packet := by
  obtain ⟨header, read, valid, ⟨isEvent, rfl⟩ | ⟨other, version, baudRate, rfl⟩⟩ := ofList_cases h
  · rcases readEventPayload_cases header packetList with ⟨rssi, bare⟩ | full
    · rw [bare]
      exact consistent_bare read valid (.inl isEvent)
    · obtain ⟨event, rawRSSI, found, ten, rssi, full⟩ := full
      have long := length_of_readEvent found
      have size : header.payloadLength + HEADER_LENGTH = packetList.length := by
        simpa [validatePacketList] using valid
      have header' := readHeader_removePadding (n := header.payloadLength - 1) read
        (Nat.sub_le _ _)
      have erased := drop_removePadding (n := header.payloadLength - 1) read
      have length := length_removePadding header.protover (header.payloadLength - 1) long
      have room : BLEPACKET_POS + 6 = 22 := rfl
      have six : HEADER_LENGTH = 6 := rfl
      rw [full]
      refine ⟨.inl isEvent, header', ?_, ?_, ?_, ?_⟩
      · simp only [validatePacketList, length, beq_iff_eq]
        omega
      · intro no_event
        cases no_event
      · intro _
        exact ⟨isEvent, erased⟩
      · intro ok
        have enough : (BlePacket.ofList ((removePadding header.protover (header.payloadLength - 1)
            packetList).drop BLEPACKET_POS)).isSome := by
          rw [OnAir.ofList_isSome, List.length_drop, length]
          omega
        obtain ⟨blePacket, made⟩ := Option.isSome_iff_exists.mp enough
        refine ⟨rfl, rfl, blePacket, ?_, made⟩
        dsimp only at ok ⊢
        rw [if_pos ok, made]
  · exact consistent_bare read valid (.inr other)

end Valid

inductive Version
  | v1
  | v2
  deriving DecidableEq

def Version.protover : Version → UInt8
  | .v1 => PROTOVER_V1
  | .v2 => PROTOVER_V2

/-- The lengths that the version's header has room for. -/
def Version.room : Version → ℕ
  | .v1 => 256
  | .v2 => 256 ^ 2

def head (version : Version) (payloadLength counter : ℕ) (id : UInt8) : List UInt8 :=
  match version with
  | .v1 =>
    [UInt8.ofNat HEADER_LENGTH, UInt8.ofNat payloadLength, PROTOVER_V1] ++ bytesOf 2 counter ++ [id]
  | .v2 => bytesOf 2 payloadLength ++ [PROTOVER_V2] ++ bytesOf 2 counter ++ [id]

/-- Something heard on the air, with what the firmware adds to it.  The access address, header and
length of a packet stand in front of the padding. -/
structure Heard where
  flags : UInt8
  channel : UInt8
  rawRSSI : UInt8
  eventCounter : ℕ
  timestamp : ℕ
  front : List UInt8
  padding : UInt8
  body : List UInt8
  six : front.length = 6

namespace Heard

variable (e : Heard)

def around (air : List UInt8) : List UInt8 :=
  [BLE_HEADER_LENGTH, e.flags, e.channel, e.rawRSSI] ++ bytesOf 2 e.eventCounter ++
    bytesOf 4 e.timestamp ++ air

def padded : List UInt8 := e.around (e.front ++ e.padding :: e.body)

def air : List UInt8 := e.front ++ e.body

def list (version : Version) (counter : ℕ) : List UInt8 :=
  head version e.padded.length counter EVENT_PACKET ++ e.padded

def trimmed (version : Version) (counter : ℕ) : List UInt8 :=
  head version (e.around e.air).length counter EVENT_PACKET ++ e.around e.air

def event : BleEvent where
  flags := readFlags e.flags
  channel := e.channel
  rawRSSI := e.rawRSSI
  txAdd := e.front.getD 4 0 &&& TXADD_MSK
  eventCounter := e.eventCounter % 256 ^ 2
  timestamp := e.timestamp % 256 ^ 4

def packet (version : Version) (counter : ℕ) : Packet where
  protover := version.protover
  packetCounter := counter % 256 ^ 2
  id := EVENT_PACKET
  payloadLength := (e.around e.air).length
  packetList := e.trimmed version counter
  payload := e.padded
  ok := (readFlags e.flags).ok
  rssi := some (-(e.rawRSSI.toNat : ℤ))
  event := some e.event
  blePacket := if (readFlags e.flags).ok then BlePacket.ofList e.air else none
  version := none
  baudRate := none

end Heard

section Sent

theorem readHeader_head {version : Version} {n : ℕ} (fits : n < version.room) (counter : ℕ)
    (id : UInt8) (rest : List UInt8) :
    readHeader (head version n counter id ++ rest) =
      some ⟨version.protover, counter % 256 ^ 2, id, n⟩ := by
  cases version with
  | v1 =>
    have below : n < 256 := fits
    simp only [head, bytesOf_two, List.cons_append, List.nil_append, readHeader_cons, if_true]
    rw [← bytesOf_two, value_bytesOf, UInt8.toNat_ofNat', Nat.mod_eq_of_lt below]
    rfl
  | v2 =>
    have older : PROTOVER_V2 ≠ PROTOVER_V1 := by decide
    simp only [head, bytesOf_two, List.cons_append, List.nil_append, readHeader_cons, if_neg older,
      if_true]
    rw [← bytesOf_two, ← bytesOf_two, value_bytesOf, value_bytesOf_of_lt fits]
    rfl

private theorem removePadding_head (version : Version) (n m counter : ℕ) (id : UInt8)
    (rest : List UInt8) :
    removePadding version.protover n (head version m counter id ++ rest) =
      head version n counter id ++ rest.eraseIdx 16 := by
  cases version with
  | v1 =>
    have older : ¬PROTOVER_V1 ≥ PROTOVER_V2 := by decide
    simp only [head, bytesOf_two, List.cons_append, List.nil_append, Version.protover,
      removePadding_cons, if_neg older]
  | v2 =>
    have newer : PROTOVER_V2 ≥ PROTOVER_V2 := by decide
    simp only [head, bytesOf_two, List.cons_append, List.nil_append, Version.protover,
      removePadding_cons, if_pos newer]

theorem length_head (version : Version) (n counter : ℕ) (id : UInt8) :
    (head version n counter id).length = HEADER_LENGTH := by
  cases version <;> simp [head, HEADER_LENGTH]

variable (e : Heard)

private theorem Heard.eraseIdx_padded : e.padded.eraseIdx 16 = e.around e.air := by
  have size : ([BLE_HEADER_LENGTH, e.flags, e.channel, e.rawRSSI] ++ bytesOf 2 e.eventCounter ++
      bytesOf 4 e.timestamp ++ e.front).length = 16 := by
    simp [e.six]
  rw [Heard.padded, Heard.around, ← List.append_assoc, List.eraseIdx_append_of_length_le size.le,
    size]
  simp [Heard.around, Heard.air]

private theorem Heard.length_padded : e.padded.length = (e.around e.air).length + 1 := by
  simp only [Heard.padded, Heard.around, Heard.air, List.length_append, List.length_cons]
  omega

private theorem Heard.readEvent_padded {header : List UInt8} (six : header.length = HEADER_LENGTH) :
    readEvent (header ++ e.padded) = some e.event := by
  obtain ⟨flags, channel, rawRSSI, eventCounter, timestamp, front, padding, body, length⟩ := e
  obtain ⟨c₀, c₁, counter⟩ := List.length_eq_two.mp (length_bytesOf 2 eventCounter)
  obtain ⟨t₀, t₁, t₂, t₃, time⟩ : ∃ t₀ t₁ t₂ t₃, bytesOf 4 timestamp = [t₀, t₁, t₂, t₃] := by
    rw [bytesOf_succ, bytesOf_succ, bytesOf_two]
    exact ⟨_, _, _, _, rfl⟩
  match header, six, front, length with
  | [h₀, h₁, h₂, h₃, h₄, h₅], _, [f₀, f₁, f₂, f₃, f₄, f₅], _ =>
    simp only [Heard.padded, Heard.around, Heard.event, ← value_bytesOf, counter, time,
      ← parseLittleEndian_eq]
    rfl

/-- An event of the firmware is read as it was sent, in both versions of the header; its list then
has one byte less. -/
theorem Heard.ofList_list {version : Version} (fits : e.padded.length < version.room)
    (counter : ℕ) : Packet.ofList (e.list version counter) = some (e.packet version counter) := by
  have six := length_head version e.padded.length counter EVENT_PACKET
  have header := readHeader_head fits counter EVENT_PACKET e.padded
  have valid : validatePacketList ⟨version.protover, counter % 256 ^ 2, EVENT_PACKET,
      e.padded.length⟩ (e.list version counter) = true := by
    simp only [validatePacketList, Heard.list, List.length_append, six, beq_iff_eq]
    omega
  have event : readEvent (e.list version counter) = some e.event := e.readEvent_padded six
  have ten : (e.list version counter)[BLE_HEADER_LEN_POS]? = some BLE_HEADER_LENGTH := by
    rw [Heard.list, List.getElem?_append_right (by rw [six]; decide), six]
    rfl
  have rssi : (e.list version counter)[RSSI_POS]? = some e.rawRSSI := by
    rw [Heard.list, List.getElem?_append_right (by rw [six]; decide), six]
    rfl
  have trimmed : removePadding version.protover (e.padded.length - 1) (e.list version counter) =
      e.trimmed version counter := by
    rw [Heard.list, removePadding_head, e.eraseIdx_padded, e.length_padded, Nat.add_sub_cancel]
    rfl
  have payload : slice (e.list version counter) PAYLOAD_POS (PAYLOAD_POS + e.padded.length) =
      e.padded := by
    have start : PAYLOAD_POS = (head version e.padded.length counter EVENT_PACKET).length := by
      rw [six]
      rfl
    rw [slice, Heard.list, start, ← List.length_append, List.take_length, List.drop_left]
  have air : (e.trimmed version counter).drop BLEPACKET_POS = e.air := by
    rw [Heard.trimmed, Heard.around, ← List.append_assoc]
    exact List.drop_left' (by simp [length_head, HEADER_LENGTH, BLEPACKET_POS, TIMESTAMP_POS,
      EVENTCOUNTER_POS, RSSI_POS, CHANNEL_POS, FLAGS_POS, BLE_HEADER_LEN_POS, ID_POS,
      PACKETCOUNTER_POS, PROTOVER_POS, PAYLOAD_LEN_POS])
  have read : readHeader (e.list version counter) = some ⟨version.protover, counter % 256 ^ 2,
      EVENT_PACKET, e.padded.length⟩ := header
  rw [Packet.ofList, read, Option.bind_some, readPayload, if_pos valid, if_pos rfl]
  simp only [readEventPayload, if_pos ten, rssi, Option.map_some, event, bare, payload, trimmed,
    air]
  rw [e.length_padded, Nat.add_sub_cancel]
  rfl

end Sent

end ProximityLed.Sniffer.Packets
