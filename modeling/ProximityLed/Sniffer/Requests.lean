/- ProximityLed/Sniffer/Requests
   digest: What the host asks of the sniffer's firmware: requests, their counter, and the wire. -/

import ProximityLed.Sniffer.Packets
import ProximityLed.Sniffer.Slip

set_option autoImplicit false
set_option relaxedAutoImplicit false

namespace ProximityLed.Sniffer.Requests

open Library.Endian
open Library.Framing
open Packets
open Slip

def REQ_FOLLOW : UInt8 := 0x00
def REQ_SCAN_CONT : UInt8 := 0x07
def SET_TEMPORARY_KEY : UInt8 := 0x0C
def PING_REQ : UInt8 := 0x0D
def SET_ADV_CHANNEL_HOP_SEQ : UInt8 := 0x17
def GO_IDLE : UInt8 := 0xFE

def VALID_ADV_CHANS : List ℤ := [37, 38, 39]

/-- `bytearray` of a list, which the serial driver sends.  It raises for a number that is no byte. -/
def toBytes : List ℤ → Option (List UInt8)
  | [] => some []
  | i :: array =>
    if 0 ≤ i ∧ i < 256 then (toBytes array).map (UInt8.ofNat i.toNat :: ·) else none

/-- The reader's counter of the requests made so far, and all bytes written to the serial port. -/
structure PacketReader where
  packetCounter : ℕ
  written : List UInt8
  deriving DecidableEq

/-- The exception for other channels is missing, and naming it raises an `AttributeError`. -/
inductive Error
  | valueError
  | attributeError
  deriving DecidableEq

def numbers (bytes : List UInt8) : List ℤ := bytes.map fun b => (b.toNat : ℤ)

def requestList (packetCounter : ℕ) (id : UInt8) (payload : List ℤ) : List ℤ :=
  [(HEADER_LENGTH : ℤ)] ++ [(payload.length : ℤ)] ++ [(PROTOVER_V1.toNat : ℤ)] ++
    numbers (toLittleEndian packetCounter 2) ++ [(id.toNat : ℤ)] ++ payload

/-- The counter counts requests that the driver refuses too.  Encoding leaves numbers that are not
bytes as they are, so the driver refuses a list when it would refuse it unencoded. -/
def sendPacket (reader : PacketReader) (id : UInt8) (payload : List ℤ) :
    PacketReader × Except Error Unit :=
  let packetList := requestList reader.packetCounter id payload
  let reader := { reader with packetCounter := reader.packetCounter + 1 }
  match toBytes packetList with
  | none => (reader, .error .valueError)
  | some packetList => ({ reader with written := reader.written ++ encodeToSLIP packetList }, .ok ())

def sendScan (reader : PacketReader) : PacketReader × Except Error Unit :=
  sendPacket reader REQ_SCAN_CONT []

def sendFollow (reader : PacketReader) (addr : List ℤ) (followOnlyAdvertisements : Bool) :
    PacketReader × Except Error Unit :=
  sendPacket reader REQ_FOLLOW (addr ++ [if followOnlyAdvertisements then 1 else 0])

def sendPingReq (reader : PacketReader) : PacketReader × Except Error Unit :=
  sendPacket reader PING_REQ []

/-- The key filled up in front to 16 bytes, or cut down to 16 bytes. -/
def padTK (TK : List ℤ) : List ℤ :=
  if TK.length < 16 then List.replicate (16 - TK.length) 0 ++ TK else TK.take 16

def sendTK (reader : PacketReader) (TK : List ℤ) : PacketReader × Except Error Unit :=
  sendPacket reader SET_TEMPORARY_KEY (padTK TK)

def sendSwitchBaudRate (reader : PacketReader) (newBaudRate : ℕ) :
    PacketReader × Except Error Unit :=
  sendPacket reader SWITCH_BAUD_RATE_REQ (numbers (toLittleEndian newBaudRate 4))

def sendHopSequence (reader : PacketReader) (hopSequence : List ℤ) :
    PacketReader × Except Error Unit :=
  if hopSequence.any (· ∉ VALID_ADV_CHANS) then (reader, .error .attributeError)
  else
    sendPacket reader SET_ADV_CHANNEL_HOP_SEQ ([(hopSequence.length : ℤ)] ++ hopSequence ++
      List.replicate (3 - hopSequence.length) 37)

def sendGoIdle (reader : PacketReader) : PacketReader × Except Error Unit :=
  sendPacket reader GO_IDLE []

inductive Call
  | sendScan
  | sendFollow (addr : List ℤ) (followOnlyAdvertisements : Bool)
  | sendPingReq
  | sendTK (TK : List ℤ)
  | sendSwitchBaudRate (newBaudRate : ℕ)
  | sendHopSequence (hopSequence : List ℤ)
  | sendGoIdle

def call (reader : PacketReader) : Call → PacketReader × Except Error Unit
  | .sendScan => sendScan reader
  | .sendFollow addr followOnlyAdvertisements => sendFollow reader addr followOnlyAdvertisements
  | .sendPingReq => sendPingReq reader
  | .sendTK TK => sendTK reader TK
  | .sendSwitchBaudRate newBaudRate => sendSwitchBaudRate reader newBaudRate
  | .sendHopSequence hopSequence => sendHopSequence reader hopSequence
  | .sendGoIdle => sendGoIdle reader

def calls (reader : PacketReader) (cs : List Call) : PacketReader :=
  cs.foldl (fun reader c => (call reader c).1) reader

def opened : PacketReader := ⟨0, []⟩

/-- What a call asks for, an id and a payload; none when it stops before it has asked. -/
def Call.request : Call → Option (UInt8 × List ℤ)
  | .sendScan => some (REQ_SCAN_CONT, [])
  | .sendFollow addr followOnlyAdvertisements =>
    some (REQ_FOLLOW, addr ++ [if followOnlyAdvertisements then 1 else 0])
  | .sendPingReq => some (PING_REQ, [])
  | .sendTK TK => some (SET_TEMPORARY_KEY, padTK TK)
  | .sendSwitchBaudRate newBaudRate =>
    some (SWITCH_BAUD_RATE_REQ, numbers (toLittleEndian newBaudRate 4))
  | .sendHopSequence hopSequence =>
    if hopSequence.any (· ∉ VALID_ADV_CHANS) then none
    else some (SET_ADV_CHANNEL_HOP_SEQ, [(hopSequence.length : ℤ)] ++ hopSequence ++
      List.replicate (3 - hopSequence.length) 37)
  | .sendGoIdle => some (GO_IDLE, [])

/-- A request as a packet of the first version, when its length and its payload are bytes. -/
def packetOf (counter : ℕ) (id : UInt8) (payload : List ℤ) : Option (List UInt8) :=
  if payload.length < 256 then
    (toBytes payload).map fun bytes => head .v1 payload.length counter id ++ bytes
  else none

/-- Each call asked for something, and each request was made into the packet with its counter. -/
def AllSent (cs : List Call) (packets : List (List UInt8)) : Prop :=
  ∃ requests : List (UInt8 × List ℤ), cs.map Call.request = requests.map some ∧
    requests.zipIdx.map (fun p => packetOf p.2 p.1.1 p.1.2) = packets.map some

section Driver

private theorem toBytes_append (array array' : List ℤ) :
    toBytes (array ++ array') =
      (toBytes array).bind fun bytes => (toBytes array').map (bytes ++ ·) := by
  induction array with
  | nil => cases h : toBytes array' <;> simp [toBytes, h]
  | cons i array ih =>
    rw [List.cons_append, toBytes, toBytes, ih]
    split
    · cases toBytes array <;> cases toBytes array' <;> rfl
    · rfl

theorem toBytes_numbers (bytes : List UInt8) : toBytes (numbers bytes) = some bytes := by
  induction bytes with
  | nil => rfl
  | cons b bytes ih =>
    have bound := b.toNat_lt
    have byte : (0 : ℤ) ≤ b.toNat ∧ (b.toNat : ℤ) < 256 := by omega
    rw [numbers, List.map_cons, toBytes, if_pos byte, ← numbers, ih]
    simp

theorem toBytes_requestList (counter : ℕ) (id : UInt8) (payload : List ℤ) :
    toBytes (requestList counter id payload) = packetOf counter id payload := by
  have shape : requestList counter id payload = (6 : ℤ) :: (payload.length : ℤ) ::
      (numbers (PROTOVER_V1 :: bytesOf 2 counter ++ [id]) ++ payload) := by
    simp [requestList, numbers, toLittleEndian_eq, HEADER_LENGTH]
  rw [shape, toBytes, if_pos (by decide), toBytes, toBytes_append, toBytes_numbers, packetOf]
  by_cases fits : payload.length < 256
  · have byte : (0 : ℤ) ≤ payload.length ∧ (payload.length : ℤ) < 256 := by omega
    rw [if_pos byte, if_pos fits]
    cases toBytes payload with
    | none => rfl
    | some bytes => simp [head, HEADER_LENGTH]
  · have long : ¬((0 : ℤ) ≤ payload.length ∧ (payload.length : ℤ) < 256) := by omega
    rw [if_neg long, if_neg fits]
    rfl

end Driver

section Wire

variable {packet : List UInt8} {counter : ℕ} {id : UInt8} {payload : List ℤ}

private theorem numbers_of_toBytes {array : List ℤ} {bytes : List UInt8}
    (h : toBytes array = some bytes) :
    numbers bytes = array := by
  induction array generalizing bytes with
  | nil =>
    obtain rfl := Option.some_inj.mp h
    rfl
  | cons i array ih =>
    simp only [toBytes, Option.ite_none_right_eq_some] at h
    obtain ⟨⟨low, high⟩, h⟩ := h
    obtain ⟨rest, read, rfl⟩ := Option.map_eq_some_iff.mp h
    have same : ((UInt8.ofNat i.toNat).toNat : ℤ) = i := by
      rw [UInt8.toNat_ofNat']
      omega
    rw [numbers, List.map_cons, same, ← numbers, ih read]

theorem toBytes_isSome (array : List ℤ) :
    (toBytes array).isSome ↔ ∀ i ∈ array, 0 ≤ i ∧ i < 256 := by
  induction array with
  | nil => simp [toBytes]
  | cons i array ih =>
    rw [toBytes, List.forall_mem_cons]
    split
    · rename_i byte
      simp [ih, byte]
    · rename_i no_byte
      simp [no_byte]

private theorem read_packetOf (h : packetOf counter id payload = some packet) :
    readHeader packet = some ⟨PROTOVER_V1, counter % 256 ^ 2, id, payload.length⟩ ∧
      validatePacketList ⟨PROTOVER_V1, counter % 256 ^ 2, id, payload.length⟩ packet = true ∧
      numbers (packet.drop HEADER_LENGTH) = payload := by
  simp only [packetOf, Option.ite_none_right_eq_some] at h
  obtain ⟨fits, h⟩ := h
  obtain ⟨bytes, read, rfl⟩ := Option.map_eq_some_iff.mp h
  have same := numbers_of_toBytes read
  have length : bytes.length = payload.length := by
    rw [← same, numbers, List.length_map]
  have six := length_head .v1 payload.length counter id
  have below : payload.length < Version.v1.room := fits
  refine ⟨readHeader_head below counter id bytes, ?_, ?_⟩
  · simp only [validatePacketList, List.length_append, six, length, beq_iff_eq]
    omega
  · rw [List.drop_left' six, same]

theorem packetOf_isSome : (packetOf counter id payload).isSome ↔
    payload.length < 256 ∧ ∀ i ∈ payload, 0 ≤ i ∧ i < 256 := by
  unfold packetOf
  split <;> simp_all [toBytes_isSome]

theorem sendPacket_reader (reader : PacketReader) (id : UInt8) (payload : List ℤ) :
    (sendPacket reader id payload).1 = ⟨reader.packetCounter + 1, reader.written ++
      (packetOf reader.packetCounter id payload).toList.flatMap encodeToSLIP⟩ := by
  unfold sendPacket
  dsimp only
  rw [toBytes_requestList]
  cases packetOf reader.packetCounter id payload <;> simp

private theorem sendPacket_raises (reader : PacketReader) (id : UInt8) (payload : List ℤ) :
    (sendPacket reader id payload).2 ≠ .ok () ↔
      (sendPacket reader id payload).1.written = reader.written := by
  unfold sendPacket
  dsimp only
  rw [toBytes_requestList]
  cases packetOf reader.packetCounter id payload <;> simp [encodeToSLIP]

theorem sendPacket_ok (reader : PacketReader) (id : UInt8) (payload : List ℤ) :
    (sendPacket reader id payload).2 = .ok () ↔
      (packetOf reader.packetCounter id payload).isSome = true := by
  unfold sendPacket
  dsimp only
  rw [toBytes_requestList]
  cases packetOf reader.packetCounter id payload <;> simp

/-- A call that asks for nothing leaves the reader alone, and all others send their request. -/
theorem call_eq (reader : PacketReader) (c : Call) :
    call reader c = match c.request with
      | none => (reader, .error .attributeError)
      | some (id, payload) => sendPacket reader id payload := by
  cases c with
  | sendHopSequence hopSequence =>
    simp only [call, sendHopSequence, Call.request]
    split <;> rfl
  | _ => rfl

private theorem call_raises (reader : PacketReader) (c : Call) :
    (call reader c).2 ≠ .ok () ↔ (call reader c).1.written = reader.written := by
  rw [call_eq]
  cases c.request with
  | none => simp
  | some request =>
    obtain ⟨id, payload⟩ := request
    dsimp only
    exact sendPacket_raises reader id payload

/-- The packets of requests, the first of them with the given counter. -/
def packetsOf (counter : ℕ) (requests : List (UInt8 × List ℤ)) : List (List UInt8) :=
  (requests.zipIdx counter).filterMap fun p => packetOf p.2 p.1.1 p.1.2

theorem calls_eq (reader : PacketReader) (cs : List Call) :
    calls reader cs =
      ⟨reader.packetCounter + (cs.filterMap Call.request).length, reader.written ++
        (packetsOf reader.packetCounter (cs.filterMap Call.request)).flatMap encodeToSLIP⟩ := by
  induction cs generalizing reader with
  | nil => simp [calls, packetsOf]
  | cons c cs ih =>
    have next : calls reader (c :: cs) = calls (call reader c).1 cs := rfl
    rw [next, ih, call_eq]
    cases asked : c.request with
    | none => simp [asked]
    | some request =>
      obtain ⟨id, payload⟩ := request
      simp only [sendPacket_reader, List.filterMap_cons, asked, List.length_cons, packetsOf,
        List.zipIdx_cons]
      cases packetOf reader.packetCounter id payload <;>
        simp only [Option.toList_none, Option.toList_some, List.flatMap_nil, List.flatMap_cons,
          List.append_nil, List.append_assoc, Nat.add_right_comm, Nat.add_assoc]

private theorem filterMap_of_map {α β : Type} {f : α → Option β} {l : List α} {l' : List β}
    (h : l.map f = l'.map some) : l.filterMap f = l' := by
  have ids := congrArg (List.filterMap id) h
  simpa [List.filterMap_map, Function.comp_def] using ids

theorem packetsOf_of_allSent {cs : List Call} {packets : List (List UInt8)}
    (h : AllSent cs packets) : packetsOf 0 (cs.filterMap Call.request) = packets := by
  obtain ⟨requests, asked, made⟩ := h
  rw [filterMap_of_map asked, packetsOf, filterMap_of_map made]

theorem exists_allSent_concat {cs : List Call} {packets : List (List UInt8)} {c : Call}
    (h : AllSent cs packets) (sent : (call (calls opened cs) c).2 = .ok ()) :
    ∃ packet, AllSent (cs ++ [c]) (packets ++ [packet]) := by
  obtain ⟨requests, asked, made⟩ := h
  have counter : (calls opened cs).packetCounter = requests.length := by
    rw [calls_eq, filterMap_of_map asked]
    exact Nat.zero_add _
  cases request : c.request with
  | none => simp [call_eq, request] at sent
  | some r =>
    obtain ⟨id, payload⟩ := r
    rw [call_eq, request] at sent
    obtain ⟨packet, made'⟩ := Option.isSome_iff_exists.mp ((sendPacket_ok _ _ _).mp sent)
    rw [counter] at made'
    refine ⟨packet, requests ++ [(id, payload)], ?_, ?_⟩
    · rw [List.map_append, asked, List.map_append, List.map_singleton, request, List.map_singleton]
    · rw [List.zipIdx_append, List.map_append, made, List.map_append]
      simp [made']

/-- Whatever is called, with whatever arguments, and whichever calls raise: the serial port has been
given the requests of the calls in order, each in a frame of its own, except those with a number
that is no byte or with too long a payload, and these are the calls that raise.  The counter of a
request is the number of requests asked for before it, these included, up to 2¹⁶; and it has the
header of a packet, its id and its payload. -/
theorem requests_on_wire (cs : List Call) :
    (∀ reader c, (call reader c).2 ≠ .ok () ↔ (call reader c).1.written = reader.written) ∧
    (calls opened cs).packetCounter = (cs.filterMap Call.request).length ∧
    slip.Carries (calls opened cs).written (packetsOf 0 (cs.filterMap Call.request)) ∧
    ∀ i id payload, (cs.filterMap Call.request)[i]? = some (id, payload) →
      ((packetOf i id payload).isSome ↔
        payload.length < 256 ∧ ∀ x ∈ payload, 0 ≤ x ∧ x < 256) ∧
      ∀ packet, packetOf i id payload = some packet →
        readHeader packet = some ⟨PROTOVER_V1, i % 256 ^ 2, id, payload.length⟩ ∧
        validatePacketList ⟨PROTOVER_V1, i % 256 ^ 2, id, payload.length⟩ packet = true ∧
        numbers (packet.drop HEADER_LENGTH) = payload := by
  refine ⟨fun reader c => call_raises reader c, ?_⟩
  rw [calls_eq]
  refine ⟨Nat.zero_add _, ?_, fun i id payload _ => ⟨packetOf_isSome, fun packet sent =>
    read_packetOf sent⟩⟩
  have encoded : encodeToSLIP = slip.encode := funext encodeToSLIP_eq
  rw [encoded]
  exact Escaping.carries_flatMap _

end Wire

end ProximityLed.Sniffer.Requests
