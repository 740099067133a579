/- ProximityLed/Sniffer/SnifferCollector
   digest: The sniffer's thread between the calls of other threads: buffer, files, devices, capture. -/

import ProximityLed.Library.Shedding
import ProximityLed.Sniffer.Capture
import ProximityLed.Sniffer.Devices
import ProximityLed.Sniffer.PacketLog

set_option autoImplicit false
set_option relaxedAutoImplicit false

namespace ProximityLed.Sniffer.SnifferCollector

open Library.Run
open Library.Shedding (Accounts accounts_nil)
open Packets
open PacketLog (taken lastPacket lastPacket_concat)
open Capture (Time Record Files fileOf getGlobalHeader captured createPacket records)
open Devices (Device DeviceList)
open OnAir (Address Advertisement)

def EVENT_FOLLOW : UInt8 := 0x01
def EVENT_CONNECT : UInt8 := 0x05
def EVENT_DISCONNECT : UInt8 := 0x09

inductive State
  | initializing
  | scanning
  | following
  deriving DecidableEq

structure Processed where
  packet : Packet
  time : Time
  deriving DecidableEq

/-- The attributes of a collector that its thread works on. -/
structure Collector where
  state : State
  boardId : ℕ
  packets : List Processed
  devices : DeviceList
  files : Files
  connectionAccessAddress : Option (List UInt8)
  connectEventPacketCounterValue : Option ℕ
  packetsInLastConnection : Option ℤ
  inConnection : Bool
  currentConnectRequest : Option Processed
  switchingBaudRate : Bool
  nProcessedPackets : ℕ

/-- The globals of the capture program that its callback for packets reads, whether the log goes to
the toolbar, and the capture pipe. -/
structure Extcap where
  writeNewPackets : Bool
  rssiFilter : ℤ
  inFollowMode : Bool
  controlOut : Bool
  capture : List UInt8

def appendPacket (packets : List Processed) (p : Processed) : List Processed :=
  Library.Shedding.push 100000 20000 packets p

/-- Where `[0:number]` ends and `[number:]` begins; a negative number counts from the end. -/
def cut (packets : List Processed) (number : ℤ) : ℕ :=
  if 0 ≤ number then number.toNat else packets.length - number.natAbs

def getPackets (packets : List Processed) (number : ℤ) : List Processed × List Processed :=
  (packets.take (cut packets number), packets.drop (cut packets number))

def findPacketByPacketCounter (packets : List Processed) (packetCounterValue : ℤ) :
    Option Processed :=
  packets.reverse.find? fun p => (p.packet.packetCounter : ℤ) = packetCounterValue

def captureWrite (x : Extcap) (boardId : ℕ) (p : Processed) : Option Extcap :=
  ((captured boardId p.packet.packetList).bind fun packet => createPacket packet p.time).map
    fun bytes => { x with capture := x.capture ++ bytes }

/-- The callback for new packets; none when it raises.  An event with another length of its header
than the usual one has no RSSI to compare with the filter. -/
def newPacket (x : Extcap) (boardId : ℕ) (p : Processed) : Option Extcap :=
  if x.writeNewPackets then
    if x.rssiFilter = 0 ∨ x.inFollowMode then captureWrite x boardId p
    else
      match p.packet.rssi with
      | none => none
      | some rssi => if rssi > x.rssiFilter then captureWrite x boardId p else some x
  else some x

def deviceOf (packet : Packet) : Option Device := do
  let blePacket ← packet.blePacket
  let advertisement ← blePacket.advertisement
  let address ← advertisement.advAddress
  let rssi ← packet.rssi
  let event ← packet.event
  some ⟨address, advertisement.name, rssi, event.txAdd⟩

/-- The type of an OK packet with the access address of advertisements. -/
def advTypeOf (packet : Packet) : Option UInt8 :=
  if packet.ok then
    packet.blePacket.bind fun blePacket => blePacket.advertisement.map Advertisement.advType
  else none

def appendOrUpdate (c : Collector) (packet : Packet) : Collector :=
  match deviceOf packet with
  | none => c
  | some newDevice => { c with devices := Devices.call c.devices (.appendOrUpdate newDevice) }

def noteConnection (c : Collector) (packet : Packet) : Collector :=
  if c.state = .following ∧ advTypeOf packet = some 5 then
    { c with connectionAccessAddress := packet.blePacket.map OnAir.BlePacket.accessAddress }
  else c

def whileFollowing (c : Collector) (packet : Packet) : Collector :=
  if c.state = .following ∧ advTypeOf packet = some 4 then appendOrUpdate c packet else c

/-- The types that a scanning collector lists devices for. -/
def listedTypes : List UInt8 := [0, 1, 2, 4, 6]

/-- The checksum is right, and the packet was not sent by a master. -/
def fromAdvertiser (packet : Packet) : Bool :=
  packet.event.any fun event => event.flags.crcOK && !event.flags.direction

def whileScanning (c : Collector) (packet : Packet) : Collector :=
  if c.state = .scanning ∧ (advTypeOf packet).any (· ∈ listedTypes) ∧ fromAdvertiser packet then
    appendOrUpdate c packet
  else c

/-- What the thread does next: wait for a packet, or go on with the one it processes.  A packet that
raises an exception ends the thread, and so does a list that cannot be logged. -/
inductive Worker
  | waiting
  | unlogged (list : List UInt8)
  | appended (p : Processed)
  | notified (p : Processed)
  | written (p : Processed)
  | followed (p : Processed)
  | crashed (p : Processed)
  deriving DecidableEq

/-- The thread, what it and its reader work on, and beside them a record that nothing reads: the
events it has processed, the packets others have fetched, and how often the buffer was cut down. -/
structure World where
  collector : Collector
  lastReceivedPacket : Option Packet
  extcap : Extcap
  worker : Worker
  processed : List Processed
  fetched : List Processed
  sheds : ℕ

def World.append (w : World) (p : Processed) : World :=
  { w with
    collector := { w.collector with packets := appendPacket w.collector.packets p }
    worker := .appended p
    processed := w.processed ++ [p]
    sheds := w.sheds + if w.collector.packets.length > 100000 then 1 else 0 }

/-- The branches for a valid packet.  The last compares with an attribute that packets do not have,
and the exception ends the thread. -/
def dispatch (w : World) (p : Processed) : World :=
  if p.packet.id = EVENT_PACKET then w.append p
  else if p.packet.id = EVENT_FOLLOW then w
  else if p.packet.id = EVENT_CONNECT then
    { w with
      collector := { w.collector with
        connectEventPacketCounterValue := some p.packet.packetCounter
        inConnection := true
        currentConnectRequest :=
          findPacketByPacketCounter w.collector.packets (p.packet.packetCounter - 1) } }
  else if p.packet.id = EVENT_DISCONNECT then
    if w.collector.inConnection then
      { w with
        collector := { w.collector with
          packetsInLastConnection := w.collector.connectEventPacketCounterValue.map
            fun value => p.packet.packetCounter - value
          inConnection := false } }
    else w
  else if p.packet.id = SWITCH_BAUD_RATE_RESP ∧ w.collector.switchingBaudRate then
    { w with collector := { w.collector with switchingBaudRate := false }, worker := .crashed p }
  else w

def Processed.forFile (p : Processed) (boardId : ℕ) : Capture.Packet :=
  ⟨boardId, p.packet.packetList, p.time⟩

def proceed (w : World) : Option World :=
  match w.worker with
  | .appended p =>
    match newPacket w.extcap w.collector.boardId p with
    | none => some { w with worker := .crashed p }
    | some x => some { w with extcap := x, worker := .notified p }
  | .notified p =>
    if (p.forFile w.collector.boardId).record.isSome then
      some { w with
        collector := { w.collector with
          files := Capture.writePacket (p.forFile w.collector.boardId) w.collector.files
          nProcessedPackets := w.collector.nProcessedPackets + 1 }
        worker := .written p }
    else some { w with worker := .crashed p }
  | .written p =>
    some { w with
      collector := whileFollowing (noteConnection w.collector p.packet) p.packet
      worker := .followed p }
  | .followed p =>
    some { w with collector := whileScanning w.collector p.packet, worker := .waiting }
  | .waiting | .unlogged _ | .crashed _ => none

/-- The reader's log gets through with a list. -/
def World.logs (w : World) (list : List UInt8) : Bool :=
  !w.extcap.controlOut || taken w.lastReceivedPacket list

/-- What happens: a list comes in from the reader, or raises an exception there; the thread goes on;
another thread calls. -/
inductive Event
  | receive (list : List UInt8) (time : Time)
  | raise (list : List UInt8)
  | proceed
  | startScanning
  | startFollowing
  | getPackets (number : ℤ)
  | setInFollowMode (b : Bool)
  | setWriteNewPackets (b : Bool)

def step (w : World) : Event → Option World
  | .receive list time =>
    if w.worker = .waiting ∧ w.logs list then
      match Packet.ofList list with
      | none => some w
      | some packet => some (dispatch { w with lastReceivedPacket := some packet } ⟨packet, time⟩)
    else none
  | .raise list =>
    if w.worker = .waiting ∧ ¬w.logs list then some { w with worker := .unlogged list } else none
  | .proceed => proceed w
  | .startScanning => some { w with collector := { w.collector with state := .scanning } }
  | .startFollowing => some { w with collector := { w.collector with state := .following } }
  | .getPackets number => some { w with
      collector := { w.collector with packets := (getPackets w.collector.packets number).2 }
      fetched := w.fetched ++ (getPackets w.collector.packets number).1 }
  | .setInFollowMode b => some { w with extcap := { w.extcap with inFollowMode := b } }
  | .setWriteNewPackets b => some { w with extcap := { w.extcap with writeNewPackets := b } }

def started (boardId : ℕ) (rssiFilter : ℤ) (writeNewPackets controlOut : Bool) (files : Files) :
    World where
  collector := {
    state := .initializing
    boardId := boardId
    packets := []
    devices := ⟨[], []⟩
    files := Capture.openHandler false files
    connectionAccessAddress := none
    connectEventPacketCounterValue := none
    packetsInLastConnection := none
    inConnection := false
    currentConnectRequest := none
    switchingBaudRate := false
    nProcessedPackets := 0 }
  lastReceivedPacket := none
  extcap := ⟨writeNewPackets, rssiFilter, false, controlOut, getGlobalHeader⟩
  worker := .waiting
  processed := []
  fetched := []
  sheds := 0

def Event.list : Event → Option (List UInt8)
  | .receive list _ | .raise list => some list
  | _ => none

def Event.arrival : Event → Option Processed
  | .receive list time =>
    (Packet.ofList list).bind fun packet =>
      if packet.id = EVENT_PACKET then some ⟨packet, time⟩ else none
  | _ => none

def recordOf (boardId : ℕ) (p : Processed) : Option Record := (p.forFile boardId).record

def overFilter (rssiFilter : ℤ) (p : Processed) : Bool :=
  rssiFilter = 0 ∨ p.packet.rssi.any (· > rssiFilter)

def Extcap.wants (x : Extcap) (p : Processed) : Bool :=
  x.writeNewPackets && (x.inFollowMode || overFilter x.rssiFilter p)

/-- What an event becomes in the list of devices while a device is followed. -/
def followed (packet : Packet) : Option Device :=
  if advTypeOf packet = some 4 then deviceOf packet else none

/-- What an event becomes in the list of devices while the collector scans. -/
def scanned (packet : Packet) : Option Device :=
  if (advTypeOf packet).any (· ∈ listedTypes) ∧ fromAdvertiser packet then deviceOf packet else none

def sighted (devices : DeviceList) (sighting : Option Device) : DeviceList :=
  sighting.toList.foldl (fun devices d => Devices.call devices (.appendOrUpdate d)) devices

section Steps

variable {x x' : Extcap} {boardId : ℕ} {p : Processed} {packet : Packet} {c : Collector}
  {w w' : World} {e : Event}

private theorem captureWrite_eq (x : Extcap) (boardId : ℕ) (p : Processed) :
    captureWrite x boardId p =
      (recordOf boardId p).map fun r => { x with capture := x.capture ++ r.write } := by
  unfold captureWrite recordOf Capture.Packet.record createPacket Processed.forFile
  cases captured boardId p.packet.packetList with
  | none => rfl
  | some packet =>
    simp only [Option.bind_some, Option.map_map]
    rfl

/-- The callback adds the record of what it wants, and nothing else. -/
theorem newPacket_some (h : newPacket x boardId p = some x') :
    x.wants p = true ∧ (∃ r, recordOf boardId p = some r ∧
        x' = { x with capture := x.capture ++ r.write }) ∨
      x.wants p = false ∧ x' = x := by
  unfold newPacket at h
  by_cases writes : x.writeNewPackets
  · rw [if_pos writes] at h
    by_cases all : x.rssiFilter = 0 ∨ x.inFollowMode
    · left
      rw [if_pos all, captureWrite_eq] at h
      obtain ⟨r, made, rfl⟩ := Option.map_eq_some_iff.mp h
      refine ⟨?_, r, made, rfl⟩
      rcases all with no_filter | follow <;> simp [Extcap.wants, overFilter, *]
    · rw [if_neg all] at h
      obtain ⟨filter, free⟩ := not_or.mp all
      cases signal : p.packet.rssi with
      | none =>
        rw [signal] at h
        cases h
      | some rssi =>
        simp only [signal] at h
        by_cases strong : rssi > x.rssiFilter
        · left
          rw [if_pos strong, captureWrite_eq] at h
          obtain ⟨r, made, rfl⟩ := Option.map_eq_some_iff.mp h
          refine ⟨?_, r, made, rfl⟩
          simp [Extcap.wants, overFilter, writes, signal, strong]
        · right
          rw [if_neg strong] at h
          refine ⟨?_, (Option.some_inj.mp h).symm⟩
          simp [Extcap.wants, overFilter, free, filter, signal, strong]
  · right
    rw [if_neg writes] at h
    refine ⟨?_, (Option.some_inj.mp h).symm⟩
    simp [Extcap.wants, writes]

/-- What the callback can stumble over: an event with no record, or one with no RSSI. -/
theorem newPacket_none (h : newPacket x boardId p = none) :
    x.wants p = true ∧ recordOf boardId p = none ∨
      x.writeNewPackets = true ∧ x.rssiFilter ≠ 0 ∧ x.inFollowMode = false ∧
        p.packet.rssi = none := by
  unfold newPacket at h
  by_cases writes : x.writeNewPackets
  · rw [if_pos writes] at h
    by_cases all : x.rssiFilter = 0 ∨ x.inFollowMode
    · left
      rw [if_pos all, captureWrite_eq] at h
      refine ⟨?_, Option.map_eq_none_iff.mp h⟩
      rcases all with no_filter | follow <;> simp [Extcap.wants, overFilter, *]
    · rw [if_neg all] at h
      obtain ⟨filter, free⟩ := not_or.mp all
      cases signal : p.packet.rssi with
      | none => exact .inr ⟨writes, filter, by simpa using free, rfl⟩
      | some rssi =>
        simp only [signal] at h
        by_cases strong : rssi > x.rssiFilter
        · left
          rw [if_pos strong, captureWrite_eq] at h
          refine ⟨?_, Option.map_eq_none_iff.mp h⟩
          simp [Extcap.wants, overFilter, writes, signal, strong]
        · rw [if_neg strong] at h
          cases h
  · rw [if_neg writes] at h
    cases h

private theorem appendOrUpdate_eq (c : Collector) (packet : Packet) :
    appendOrUpdate c packet = { c with devices := sighted c.devices (deviceOf packet) } := by
  unfold appendOrUpdate sighted
  cases deviceOf packet <;> rfl

private theorem noteConnection_eq (c : Collector) (packet : Packet) :
    ∃ a, noteConnection c packet = { c with connectionAccessAddress := a } := by
  unfold noteConnection
  split
  · exact ⟨_, rfl⟩
  · exact ⟨c.connectionAccessAddress, rfl⟩

private theorem whileFollowing_eq (c : Collector) (packet : Packet) :
    whileFollowing c packet =
      { c with
        devices := sighted c.devices (if c.state = .following then followed packet else none) } := by
  unfold whileFollowing
  by_cases following : c.state = .following
  · rw [if_pos following, followed]
    by_cases four : advTypeOf packet = some 4
    · rw [if_pos ⟨following, four⟩, if_pos four, appendOrUpdate_eq]
    · rw [if_neg (fun h => four h.2), if_neg four]
      rfl
  · rw [if_neg (fun h => following h.1), if_neg following]
    rfl

private theorem whileScanning_eq (c : Collector) (packet : Packet) :
    whileScanning c packet =
      { c with
        devices := sighted c.devices (if c.state = .scanning then scanned packet else none) } := by
  unfold whileScanning
  by_cases scanning : c.state = .scanning
  · rw [if_pos scanning, scanned]
    by_cases listed : (advTypeOf packet).any (· ∈ listedTypes) ∧ fromAdvertiser packet
    · rw [if_pos ⟨scanning, listed⟩, if_pos listed, appendOrUpdate_eq]
    · rw [if_neg (fun h => listed h.2), if_neg listed]
      rfl
  · rw [if_neg (fun h => scanning h.1), if_neg scanning]
    rfl

/-- The four ids of valid packets: only events reach a branch that does anything. -/
theorem dispatch_eq {list : List UInt8} (made : Packet.ofList list = some packet) (time : Time)
    (steady : w.collector.switchingBaudRate = false) :
    dispatch w ⟨packet, time⟩ =
      if packet.id = EVENT_PACKET then w.append ⟨packet, time⟩ else w := by
  unfold dispatch
  rcases (consistent_of_ofList made).id with h | h | h | h <;>
    simp [h, steady, EVENT_PACKET, PING_RESP, SWITCH_BAUD_RATE_RESP, SWITCH_BAUD_RATE_REQ,
      EVENT_FOLLOW, EVENT_CONNECT, EVENT_DISCONNECT]

theorem step_receive {list : List UInt8} (made : Packet.ofList list = some packet)
    (isEvent : packet.id = EVENT_PACKET) (waiting : w.worker = .waiting) (logs : w.logs list)
    (time : Time) : step w (.receive list time) =
      some ({ w with lastReceivedPacket := some packet }.append ⟨packet, time⟩) := by
  rw [step, if_pos ⟨waiting, logs⟩, made]
  exact congrArg some (if_pos isEvent)

/-- What one step can do while no switch of the baud rate is under way. -/
inductive Moved (w : World) : Event → World → Prop
  | skip {list : List UInt8} {time : Time} : w.worker = .waiting → w.logs list = true →
      (Event.receive list time).arrival = none →
      Moved w (.receive list time)
        { w with lastReceivedPacket := (Packet.ofList list).or w.lastReceivedPacket }
  | append {list : List UInt8} {time : Time} {p : Processed} : w.worker = .waiting →
      w.logs list = true → (Event.receive list time).arrival = some p →
      Moved w (.receive list time)
        ({ w with lastReceivedPacket := (Packet.ofList list).or w.lastReceivedPacket }.append p)
  | fail {list : List UInt8} : w.worker = .waiting → w.logs list = false →
      Moved w (.raise list) { w with worker := .unlogged list }
  | notify {p : Processed} {x : Extcap} : w.worker = .appended p →
      newPacket w.extcap w.collector.boardId p = some x →
      Moved w .proceed { w with extcap := x, worker := .notified p }
  | raise {p : Processed} : w.worker = .appended p →
      newPacket w.extcap w.collector.boardId p = none →
      Moved w .proceed { w with worker := .crashed p }
  | write {p : Processed} {r : Record} : w.worker = .notified p →
      recordOf w.collector.boardId p = some r →
      Moved w .proceed { w with
        collector := { w.collector with
          files := { w.collector.files with
            capture := some (w.collector.files.capture.getD [] ++ r.write) }
          nProcessedPackets := w.collector.nProcessedPackets + 1 }
        worker := .written p }
  | refuse {p : Processed} : w.worker = .notified p → recordOf w.collector.boardId p = none →
      Moved w .proceed { w with worker := .crashed p }
  | follow {p : Processed} (a : Option (List UInt8)) : w.worker = .written p →
      Moved w .proceed { w with
        collector := { w.collector with
          connectionAccessAddress := a
          devices := sighted w.collector.devices
            (if w.collector.state = .following then followed p.packet else none) }
        worker := .followed p }
  | list {p : Processed} : w.worker = .followed p →
      Moved w .proceed { w with
        collector := { w.collector with
          devices := sighted w.collector.devices
            (if w.collector.state = .scanning then scanned p.packet else none) }
        worker := .waiting }
  | startScanning : Moved w .startScanning
      { w with collector := { w.collector with state := .scanning } }
  | startFollowing : Moved w .startFollowing
      { w with collector := { w.collector with state := .following } }
  | getPackets (number : ℤ) : Moved w (.getPackets number) { w with
      collector := { w.collector with
        packets := w.collector.packets.drop (cut w.collector.packets number) }
      fetched := w.fetched ++ w.collector.packets.take (cut w.collector.packets number) }
  | setInFollowMode (b : Bool) : Moved w (.setInFollowMode b)
      { w with extcap := { w.extcap with inFollowMode := b } }
  | setWriteNewPackets (b : Bool) : Moved w (.setWriteNewPackets b)
      { w with extcap := { w.extcap with writeNewPackets := b } }

theorem moved_of_step (steady : w.collector.switchingBaudRate = false)
    (he : step w e = some w') : Moved w e w' := by
  cases e with
  | receive list time =>
    simp only [step, Option.ite_none_right_eq_some] at he
    obtain ⟨⟨waiting, logs⟩, he⟩ := he
    cases made : Packet.ofList list with
    | none =>
      simp only [made, Option.some_inj] at he
      have skipped : Moved w (.receive list time)
          { w with lastReceivedPacket := (Packet.ofList list).or w.lastReceivedPacket } :=
        .skip waiting logs (by simp [Event.arrival, made])
      rw [made, Option.none_or] at skipped
      rw [← he]
      exact skipped
    | some packet =>
      have noted : ({ w with lastReceivedPacket := some packet } : World) =
          { w with lastReceivedPacket := (Packet.ofList list).or w.lastReceivedPacket } := by
        rw [made, Option.some_or]
      simp only [made, Option.some_inj] at he
      rw [dispatch_eq made time (by exact steady), noted] at he
      subst he
      by_cases isEvent : packet.id = EVENT_PACKET
      · rw [if_pos isEvent]
        exact .append waiting logs (by simp [Event.arrival, made, isEvent])
      · rw [if_neg isEvent]
        exact .skip waiting logs (by simp [Event.arrival, made, isEvent])
  | raise list =>
    simp only [step, Option.ite_none_right_eq_some, Option.some_inj, Bool.not_eq_true] at he
    obtain ⟨⟨waiting, lost⟩, rfl⟩ := he
    exact .fail waiting lost
  | proceed =>
    simp only [step, proceed] at he
    cases at_ : w.worker with
    | waiting | unlogged | crashed =>
      rw [at_] at he
      cases he
    | appended p =>
      simp only [at_] at he
      cases told : newPacket w.extcap w.collector.boardId p with
      | none =>
        simp only [told, Option.some_inj] at he
        subst he
        exact .raise at_ told
      | some x =>
        simp only [told, Option.some_inj] at he
        subst he
        exact .notify at_ told
    | notified p =>
      simp only [at_] at he
      cases made : (p.forFile w.collector.boardId).record with
      | none =>
        simp only [made, Option.isSome_none, Bool.false_eq_true, if_false, Option.some_inj] at he
        subst he
        exact .refuse at_ made
      | some r =>
        simp only [made, Option.isSome_some, if_true, Option.some_inj, Capture.writePacket_eq] at he
        subst he
        exact .write at_ made
    | written p =>
      obtain ⟨a, noted⟩ := noteConnection_eq w.collector p.packet
      simp only [at_, noted, whileFollowing_eq, Option.some_inj] at he
      subst he
      exact .follow a at_
    | followed p =>
      simp only [at_, whileScanning_eq, Option.some_inj] at he
      subst he
      exact .list at_
  | startScanning =>
    obtain rfl := Option.some_inj.mp he
    exact .startScanning
  | startFollowing =>
    obtain rfl := Option.some_inj.mp he
    exact .startFollowing
  | getPackets number =>
    obtain rfl := Option.some_inj.mp he
    exact .getPackets number
  | setInFollowMode b =>
    obtain rfl := Option.some_inj.mp he
    exact .setInFollowMode b
  | setWriteNewPackets b =>
    obtain rfl := Option.some_inj.mp he
    exact .setWriteNewPackets b

def Worker.ended : Worker → Bool
  | .unlogged _ | .crashed _ => true
  | .waiting | .appended _ | .notified _ | .written _ | .followed _ => false

/-- By itself the thread comes to wait again, or to its end. -/
def ComesBack (w : World) : Prop :=
  ∃ n w', run step w (List.replicate n .proceed) = some w' ∧
    (w'.worker = .waiting ∨ w'.worker.ended = true)

private theorem comesBack_of_step (he : step w .proceed = some w') (h : ComesBack w') :
    ComesBack w := by
  obtain ⟨n, w'', rest, ends⟩ := h
  refine ⟨n + 1, w'', ?_, ends⟩
  rw [List.replicate_succ, run_cons_eq_some]
  exact ⟨w', he, rest⟩

private theorem comesBack_of_ended (ended : w.worker.ended = true) : ComesBack w :=
  ⟨0, w, rfl, .inr ended⟩

theorem comes_back (w : World) : ComesBack w := by
  have listed {w : World} {p : Processed} (at_ : w.worker = .followed p) : ComesBack w := by
    have he : step w .proceed = some { w with
        collector := whileScanning w.collector p.packet
        worker := .waiting } := by
      rw [step, proceed, at_]
    exact comesBack_of_step he ⟨0, _, rfl, .inl rfl⟩
  have written {w : World} {p : Processed} (at_ : w.worker = .written p) : ComesBack w := by
    have he : step w .proceed = some { w with
        collector := whileFollowing (noteConnection w.collector p.packet) p.packet
        worker := .followed p } := by
      rw [step, proceed, at_]
    exact comesBack_of_step he (listed rfl)
  have notified {w : World} {p : Processed} (at_ : w.worker = .notified p) : ComesBack w := by
    by_cases made : (p.forFile w.collector.boardId).record.isSome
    · have he : step w .proceed = some { w with
          collector := { w.collector with
            files := Capture.writePacket (p.forFile w.collector.boardId) w.collector.files
            nProcessedPackets := w.collector.nProcessedPackets + 1 }
          worker := .written p } := by
        simp only [step, proceed, at_, if_pos made]
      exact comesBack_of_step he (written rfl)
    · have he : step w .proceed = some { w with worker := .crashed p } := by
        simp only [step, proceed, at_, if_neg made]
      exact comesBack_of_step he (comesBack_of_ended rfl)
  cases at_ : w.worker with
  | waiting => exact ⟨0, w, rfl, .inl at_⟩
  | unlogged | crashed => exact comesBack_of_ended (by rw [at_]; rfl)
  | appended p =>
    cases told : newPacket w.extcap w.collector.boardId p with
    | none =>
      have he : step w .proceed = some { w with worker := .crashed p } := by
        simp only [step, proceed, at_, told]
      exact comesBack_of_step he (comesBack_of_ended rfl)
    | some x =>
      have he : step w .proceed = some { w with extcap := x, worker := .notified p } := by
        simp only [step, proceed, at_, told]
      exact comesBack_of_step he (notified rfl)
  | notified p => exact notified at_
  | written p => exact written at_
  | followed p => exact listed at_

end Steps

def Worker.atHand : Worker → Option Processed
  | .waiting | .unlogged _ => none
  | .appended p | .notified p | .written p | .followed p | .crashed p => some p

theorem Worker.eq_waiting {k : Worker} (free : k.atHand = none) (alive : k.ended = false) :
    k = .waiting := by
  cases k with
  | waiting => rfl
  | unlogged => cases alive
  | appended | notified | written | followed | crashed => cases free

def Worker.untold : Worker → List Processed
  | .appended p | .crashed p => [p]
  | .waiting | .unlogged _ | .notified _ | .written _ | .followed _ => []

def Worker.unwritten : Worker → List Processed
  | .appended p | .notified p | .crashed p => [p]
  | .waiting | .unlogged _ | .written _ | .followed _ => []

/-- Nothing has been heard of a connection or a new baud rate. -/
structure Collector.Unconnected (c : Collector) : Prop where
  inConnection : c.inConnection = false
  switchingBaudRate : c.switchingBaudRate = false
  counterValue : c.connectEventPacketCounterValue = none
  packetsInLast : c.packetsInLastConnection = none
  connectRequest : c.currentConnectRequest = none

/-- What holds whenever the thread has been started: it processes what comes in. -/
structure Base (boardId : ℕ) (rssiFilter : ℤ) (es : List Event) (w : World) : Prop where
  unconnected : w.collector.Unconnected
  boardId : w.collector.boardId = boardId
  rssiFilter : w.extcap.rssiFilter = rssiFilter
  processed : w.processed = es.filterMap Event.arrival
  atHand : ∀ p, w.worker.atHand = some p → ∃ before, w.processed = before ++ [p]

section Runs

variable {boardId : ℕ} {rssiFilter : ℤ} {writeNewPackets controlOut : Bool} {files : Files}
  {es : List Event} {w w' : World} {e : Event}

theorem base_step (h : Base boardId rssiFilter es w) (he : Moved w e w') :
    Base boardId rssiFilter (es ++ [e]) w' := by
  obtain ⟨unconnected, board, filter, processed, atHand⟩ := h
  have same (silent : e.arrival = none) : w.processed = (es ++ [e]).filterMap Event.arrival := by
    rw [List.filterMap_append, ← processed]
    simp [silent]
  cases he with
  | skip waiting logs silent => exact ⟨unconnected, board, filter, same silent, atHand⟩
  | fail => exact ⟨unconnected, board, filter, same rfl, fun q here => nomatch here⟩
  | @append list time p waiting logs arrived =>
    refine ⟨⟨unconnected.1, unconnected.2, unconnected.3, unconnected.4, unconnected.5⟩, board,
      filter, ?_, fun q here => ⟨w.processed, ?_⟩⟩
    · rw [World.append, List.filterMap_append, ← processed]
      simp [arrived]
    · obtain rfl := Option.some_inj.mp here
      rfl
  | notify at_ told =>
    refine ⟨unconnected, board, ?_, same rfl, fun q here => atHand q (by rw [at_]; exact here)⟩
    rcases newPacket_some told with ⟨_, _, _, rfl⟩ | ⟨_, rfl⟩
    · exact filter
    · exact filter
  | raise at_ told =>
    exact ⟨unconnected, board, filter, same rfl, fun q here => atHand q (by rw [at_]; exact here)⟩
  | write at_ made =>
    exact ⟨⟨unconnected.1, unconnected.2, unconnected.3, unconnected.4, unconnected.5⟩, board,
      filter, same rfl, fun q here => atHand q (by rw [at_]; exact here)⟩
  | refuse at_ made =>
    exact ⟨unconnected, board, filter, same rfl, fun q here => atHand q (by rw [at_]; exact here)⟩
  | follow a at_ =>
    exact ⟨⟨unconnected.1, unconnected.2, unconnected.3, unconnected.4, unconnected.5⟩, board,
      filter, same rfl, fun q here => atHand q (by rw [at_]; exact here)⟩
  | list at_ =>
    exact ⟨⟨unconnected.1, unconnected.2, unconnected.3, unconnected.4, unconnected.5⟩, board,
      filter, same rfl, fun q here => nomatch here⟩
  | startScanning | startFollowing | getPackets =>
    exact ⟨⟨unconnected.1, unconnected.2, unconnected.3, unconnected.4, unconnected.5⟩, board,
      filter, same rfl, atHand⟩
  | setInFollowMode | setWriteNewPackets =>
    exact ⟨unconnected, board, filter, same rfl, atHand⟩

theorem base_of_run {m : World} {before : List Event} (h : Base boardId rssiFilter before m)
    (hrun : run step m es = some w) : Base boardId rssiFilter (before ++ es) w := by
  refine run_induction (P := fun es => Base boardId rssiFilter (before ++ es)) ?_ ?_ hrun
  · rw [List.append_nil]
    exact h
  · intro es e w w' _ base _ he
    rw [← List.append_assoc]
    exact base_step base (moved_of_step base.unconnected.switchingBaudRate he)

theorem base_started :
    Base boardId rssiFilter [] (started boardId rssiFilter writeNewPackets controlOut files) :=
  ⟨⟨rfl, rfl, rfl, rfl, rfl⟩, rfl, rfl, rfl, fun _ here => nomatch here⟩

theorem base_run
    (hrun : run step (started boardId rssiFilter writeNewPackets controlOut files) es = some w) :
    Base boardId rssiFilter es w := base_of_run base_started hrun

theorem run_moved {P : List Event → World → Prop}
    (start : P [] (started boardId rssiFilter writeNewPackets controlOut files))
    (grow : ∀ es w e w', Base boardId rssiFilter es w → P es w → Moved w e w' → P (es ++ [e]) w')
    (hrun : run step (started boardId rssiFilter writeNewPackets controlOut files) es = some w) :
    P es w := by
  refine run_induction (P := P) start ?_ hrun
  intro es e w w' before h _ he
  have base := base_run before
  exact grow es w e w' base h (moved_of_step base.unconnected.switchingBaudRate he)

/-- Whatever bytes come in, and whatever other threads do: the collector never learns of a
connection, and never switches its baud rate. -/
theorem never_connected
    (hrun : run step (started boardId rssiFilter writeNewPackets controlOut files) es = some w) :
    w.collector.Unconnected :=
  (base_run hrun).unconnected

def eventList (headerLength : UInt8) : List UInt8 :=
  [6, 17, 1, 0, 0, 6, headerLength, 0, 37, 40, 0, 0, 0, 0, 0, 0, 0xD6, 0xBE, 0x89, 0x8E, 0, 0, 0]

def oneEvent (headerLength : UInt8) (steps : ℕ) : List Event :=
  .receive (eventList headerLength) ⟨100, 0⟩ :: List.replicate steps .proceed

/-- The firmware's own event for a connection, and an event behind it. -/
def connectFirst : List Event := .receive [6, 0, 1, 0, 0, 5] ⟨99, 0⟩ :: oneEvent 10 4

theorem never_connected_first : ∃ w,
    run step (started 3 0 true false Capture.noFiles) connectFirst = some w ∧
      w.collector.Unconnected := by
  have hrun : run step (started 3 0 true false Capture.noFiles) connectFirst = some _ := rfl
  exact ⟨_, hrun, never_connected hrun⟩

end Runs

end ProximityLed.Sniffer.SnifferCollector
