/- ProximityLed/Sniffer/Pipeline
   digest: From the air to the capture pipe: firmware, serial line, queue, frames, packets, thread. -/

import ProximityLed.Sniffer.ReadQueue
import ProximityLed.Sniffer.ThreadRuns

set_option autoImplicit false
set_option relaxedAutoImplicit false

namespace ProximityLed.Sniffer.Pipeline

open Library.Run
open Packets
open Slip (slip receiveAll pauses_lose_one_each)
open ReadQueue (Uart bursts bursts_flatten length_bursts)
open Capture (Record Files records)
open OnAir (Address AdStructure Named Ends chars lastName quoted broadcast)
open Devices (Device Tells find)
open SnifferCollector ThreadRuns

structure Sent where
  heard : Heard
  version : Version
  counter : ℕ
  fits : heard.padded.length < version.room

def Sent.list (s : Sent) : List UInt8 := s.heard.list s.version s.counter

def Sent.packet (s : Sent) : Packet := s.heard.packet s.version s.counter

def Sent.trimmed (s : Sent) : List UInt8 := s.heard.trimmed s.version s.counter

def Sent.strong (rssiFilter : ℤ) (s : Sent) : Bool :=
  rssiFilter = 0 ∨ -(s.heard.rawRSSI.toNat : ℤ) > rssiFilter

def Stamped (es : List Event) : Prop := ∀ list time, .receive list time ∈ es → time.Fits

/-- What was sent has come in over the serial line, gone through the queue to the last byte, and its
frames have come to the thread, whatever stood between them on the line. -/
structure Delivered (sent : List Sent) (qs : List ReadQueue.Event) (s : Uart) (es : List Event) :
    Prop where
  queue : run ReadQueue.step ReadQueue.opened qs = some s
  carried : slip.Carries s.received (sent.map Sent.list)
  empty : s.readQueue = []
  calls : s.consumer = .waiting
  lists : es.filterMap Event.list = receiveAll (bursts s.returned)

/-- How often a call for a byte came back without one. -/
def pauses (s : Uart) : ℕ := s.returned.count .timedOut + s.returned.count .indexError

section Delivery

variable {sent got : List Sent} {qs : List ReadQueue.Event} {s : Uart} {es : List Event}

/-- Each pause costs at most one of the things sent, and the others come in as they were sent. -/
theorem Delivered.exists_got (h : Delivered sent qs s es) :
    ∃ got : List Sent, got.Sublist sent ∧ sent.length ≤ got.length + pauses s ∧
      es.filterMap Event.list = got.map Sent.list := by
  have inOrder := (ReadQueue.sound_run h.queue).inOrder
  have all : (bursts s.returned).flatten = s.received := by
    rw [bursts_flatten, ← inOrder, h.empty, h.calls]
    simp [Uart.delivered, ReadQueue.Consumer.inHand]
  have carried := h.carried
  rw [← all] at carried
  obtain ⟨order, few⟩ := pauses_lose_one_each carried
  rw [← h.lists] at order few
  obtain ⟨got, part, lists⟩ := List.sublist_map_iff.mp order
  refine ⟨got, part, ?_, lists⟩
  rw [lists, List.length_map, List.length_map, length_bursts] at few
  exact few

private theorem packets_of_lists (lists : es.filterMap Event.list = got.map Sent.list)
    (whole : ∀ list, Event.raise list ∉ es) :
    (es.filterMap Event.arrival).map Processed.packet = got.map Sent.packet := by
  induction es generalizing got with
  | nil =>
    obtain rfl := List.map_eq_nil_iff.mp lists.symm
    rfl
  | cons e es ih =>
    have later : ∀ list, Event.raise list ∉ es := fun list mem =>
      whole list (List.mem_cons_of_mem _ mem)
    cases e with
    | receive list time =>
      cases got with
      | nil => cases lists
      | cons s got =>
        obtain ⟨first, rest⟩ := List.cons.inj lists
        have made : Packet.ofList list = some s.packet := by
          rw [show list = s.list from first]
          exact s.heard.ofList_list s.fits s.counter
        have arrived : (Event.receive list time).arrival = some ⟨s.packet, time⟩ := by
          rw [Event.arrival, made]
          rfl
        rw [List.filterMap_cons_some arrived, List.map_cons, List.map_cons, ih rest later]
    | raise list => exact absurd List.mem_cons_self (whole list)
    | proceed | startScanning | startFollowing | getPackets | setInFollowMode |
      setWriteNewPackets => exact ih lists later

private theorem rssi_of_lists (lists : es.filterMap Event.list = got.map Sent.list)
    (whole : ∀ list, Event.raise list ∉ es) {p : Processed}
    (arrived : p ∈ es.filterMap Event.arrival) :
    ∃ s ∈ got, p.packet = s.packet ∧ p.packet.rssi = some (-(s.heard.rawRSSI.toNat : ℤ)) := by
  have mem : p.packet ∈ (es.filterMap Event.arrival).map Processed.packet :=
    List.mem_map_of_mem arrived
  rw [packets_of_lists lists whole] at mem
  obtain ⟨s, here, same⟩ := List.mem_map.mp mem
  refine ⟨s, here, same.symm, ?_⟩
  rw [← same]
  rfl

private theorem fits_of_stamped (stamped : Stamped es) {p : Processed}
    (arrived : p ∈ es.filterMap Event.arrival) : p.time.Fits := by
  obtain ⟨e, mem, came⟩ := List.mem_filterMap.mp arrived
  obtain ⟨list, rfl, _⟩ := of_arrival came
  exact stamped list p.time mem

private theorem overFilter_of_packet {p : Processed} {s : Sent} (same : p.packet = s.packet)
    (rssiFilter : ℤ) : overFilter rssiFilter p = s.strong rssiFilter := by
  simp [overFilter, Sent.strong, same, Sent.packet, Heard.packet]

private theorem lists_of_wanted {x : Extcap} {ps : List Processed}
    (writes : x.writeNewPackets = true) (same : ps.map Processed.packet = got.map Sent.packet) :
    (ps.filter x.wants).map (fun p => p.packet.packetList) =
      (got.filter fun s => x.inFollowMode || s.strong x.rssiFilter).map Sent.trimmed := by
  induction ps generalizing got with
  | nil =>
    obtain rfl := List.map_eq_nil_iff.mp same.symm
    rfl
  | cons p ps ih =>
    cases got with
    | nil => cases same
    | cons s got =>
      obtain ⟨first, rest⟩ := List.cons.inj same
      have decided : x.wants p = (x.inFollowMode || s.strong x.rssiFilter) := by
        rw [Extcap.wants, writes, overFilter_of_packet first, Bool.true_and]
      have list : p.packet.packetList = s.trimmed := by
        rw [first]
        rfl
      simp only [List.filter_cons, decided]
      split
      · rw [List.map_cons, List.map_cons, ih rest, list]
      · exact ih rest

private theorem exists_delivered (lists : es.filterMap Event.list = sent.map Sent.list) :
    ∃ qs s, Delivered sent qs s es ∧ pauses s = 0 := by
  generalize line : (sent.map Sent.list).flatMap slip.encode = bytes
  have carried : slip.Carries bytes (sent.map Sent.list) := by
    rw [← line]
    exact Library.Framing.Escaping.carries_flatMap _
  have received : Slip.receive bytes = sent.map Sent.list := by
    rw [Slip.receive_eq, Library.Framing.Escaping.feed_carries carried]
  cases bytes with
  | nil =>
    refine ⟨[], ReadQueue.opened, ⟨rfl, carried, rfl, rfl, ?_⟩, rfl⟩
    rw [lists, ← received]
    exact (List.append_nil _).symm
  | cons b bytes =>
    have begun : run ReadQueue.step ReadQueue.opened [.read (b :: bytes), .setHasData] =
        some ⟨b :: bytes, true, .reading, .waiting, [], b :: bytes⟩ := rfl
    obtain ⟨fs, t, _, calls, returned, empty, waiting⟩ := ReadQueue.run_calls
      (s := ⟨b :: bytes, true, .reading, .waiting, [], b :: bytes⟩) rfl fun _ => rfl
    have queue := run_append_eq_some.mpr ⟨_, begun, calls⟩
    have all := (ReadQueue.sound_run queue).inOrder
    have one : t.returned = (b :: bytes).map .data := by
      rw [returned]
      exact List.nil_append _
    have whole : t.received = b :: bytes := by
      rw [← all, empty, waiting]
      simp [Uart.delivered, one, ReadQueue.Consumer.inHand, List.filterMap_map,
        Function.comp_def, ReadQueue.Outcome.value]
    have burst : bursts t.returned = [b :: bytes] := by
      rw [one]
      exact ReadQueue.bursts_data _
    refine ⟨_, t, ⟨queue, ?_, empty, waiting, ?_⟩, ?_⟩
    · rw [whole]
      exact carried
    · rw [lists, burst, ← received]
      exact (List.append_nil _).symm
    · rw [pauses, one]
      simp [List.count_eq_zero]

end Delivery

section Capture

variable {boardId : ℕ} {rssiFilter : ℤ} {writeNewPackets controlOut : Bool} {files : Files}
  {sent got : List Sent} {qs : List ReadQueue.Event} {s : Uart} {past es : List Event} {m w : World}

private theorem not_ended (lists : es.filterMap Event.list = got.map Sent.list)
    (byte : boardId < 256)
    (stamped : Stamped es) (short : controlOut = true → ∀ s ∈ got, s.list.length ≤ 6500)
    (hrun : run step (started boardId rssiFilter writeNewPackets controlOut files) es = some w) :
    w.worker.ended = false := by
  have survey := survey_run hrun
  have logged (list : List UInt8) : w.worker ≠ .unlogged list := by
    intro at_
    have lost := survey.lost list at_
    refine not_lost_of_short ?_ lost
    intro list mem
    rw [lists] at mem
    obtain ⟨s, here, rfl⟩ := List.mem_map.mp mem
    exact short (survey.controlOut.symm.trans lost.1) s here
  cases at_ : w.worker with
  | waiting | appended | notified | written | followed => rfl
  | unlogged list => exact absurd at_ (logged list)
  | crashed p =>
    obtain ⟨told, shown, piped⟩ := piped_run hrun
    have arrived := arrived_of_crashed hrun at_
    obtain ⟨s, _, _, signal⟩ := rssi_of_lists lists (survey.logged logged).whole arrived
    have recorded :=
      recordOf_isSome byte (fits_of_stamped stamped arrived) (whole_of_arrival arrived)
    rcases piped.cause p at_ with no_record | ⟨_, no_signal⟩
    · rw [no_record] at recorded
      cases recorded
    · rw [signal] at no_signal
      cases no_signal

private theorem exists_waiting (lists : es.filterMap Event.list = got.map Sent.list)
    (byte : boardId < 256)
    (stamped : Stamped es) (short : controlOut = true → ∀ s ∈ got, s.list.length ≤ 6500)
    (hrun : run step (started boardId rssiFilter writeNewPackets controlOut files) es = some w) :
    ∃ n w', run step w (List.replicate n .proceed) = some w' ∧ w'.worker = .waiting := by
  obtain ⟨n, w', rest, ends⟩ := comes_back w
  refine ⟨n, w', rest, ends.resolve_right (Bool.not_eq_true _ ▸ ?_)⟩
  have same : (es ++ List.replicate n Event.proceed).filterMap Event.list = got.map Sent.list := by
    rw [List.filterMap_append, lists]
    simp [List.filterMap_replicate, Event.list]
  have stamped' : Stamped (es ++ List.replicate n .proceed) := by
    intro list time mem
    rcases List.mem_append.mp mem with before | after
    · exact stamped list time before
    · cases List.eq_of_mem_replicate after
  exact not_ended same byte stamped' short (run_append_eq_some.mpr ⟨w, hrun, rest⟩)

/-- What the firmware hears and sends comes to the capture pipe.  From any point on at which packets
are written, and as long as no setting changes: the thread comes to wait again, and then a reader of
the pipe finds, behind what was in it, the number of the board in front of each list without its
padding, for all that the callback had not been told of at that point and that is strong enough for
the filter, or all of it while a device is followed, in the order in which it was heard.  Each call
that came back without a byte costs at most one of the things sent. -/
theorem air_to_pipe (h : Delivered sent qs s (past ++ es)) (byte : boardId < 256)
    (stamped : Stamped (past ++ es))
    (reached : run step (started boardId rssiFilter writeNewPackets controlOut files) past = some m)
    (writes : m.extcap.writeNewPackets = true) (steady : Steady es)
    (hrun : run step m es = some w) :
    ((controlOut = true → ∀ e ∈ sent, e.list.length ≤ 6500) →
      ∃ n w', run step w (List.replicate n .proceed) = some w' ∧ w'.worker = .waiting) ∧
    (w.worker = .waiting → ∃ (earlier got : List Sent) (rs₀ rs : List Record),
      (earlier ++ got).Sublist sent ∧ sent.length ≤ earlier.length + got.length + pauses s ∧
      m.processed.map Processed.packet =
        earlier.map Sent.packet ++ m.worker.untold.map Processed.packet ∧
      records.readAll (m.extcap.capture.drop 24) = (rs₀, []) ∧
      records.readAll (w.extcap.capture.drop 24) = (rs₀ ++ rs, []) ∧
      rs.map Record.packet =
        (got.filter fun e => m.extcap.inFollowMode || e.strong rssiFilter).map
          (UInt8.ofNat boardId :: ·.trimmed)) := by
  obtain ⟨all, order, few, lists⟩ := h.exists_got
  have whole := run_append_eq_some.mpr ⟨m, reached, hrun⟩
  refine ⟨?_, ?_⟩
  · intro short
    exact exists_waiting lists byte stamped
      (fun log e mem => short log e (order.subset mem)) whole
  intro waiting
  have base := base_run reached
  obtain ⟨told₀, shown₀, piped⟩ := piped_run reached
  obtain ⟨told, left, between⟩ := between_of_run base hrun steady
  have arrived : (past ++ es).filterMap Event.arrival = told₀ ++ told := by
    have later := between.arrived
    rw [between.left_eq_nil waiting, List.append_nil] at later
    rw [List.filterMap_append, ← base.processed, piped.split, List.append_assoc, later]
  have packets := packets_of_lists lists ((survey_run whole).logged (by simp [waiting])).whole
  rw [arrived, List.map_append] at packets
  obtain ⟨earlier, got, rfl, same₀, same⟩ := List.append_eq_map_iff.mp packets
  have filter : m.extcap.rssiFilter = rssiFilter := base.rssiFilter
  refine ⟨earlier, got, shown₀.filterMap (recordOf boardId),
    (told.filter m.extcap.wants).filterMap (recordOf boardId), order, ?_, ?_, ?_, ?_, ?_⟩
  · rwa [List.length_append] at few
  · rw [piped.split, List.map_append, same₀]
  · rw [piped.capture]
    exact (Capture.read_fileOf _).2
  · have capture := congrArg Extcap.capture between.extcap
    rw [capture, piped.capture, ← Capture.fileOf_append]
    exact (Capture.read_fileOf _).2
  · have pairs := congrArg (List.map Prod.fst) (map_recordOf between.recorded)
    have wanted := lists_of_wanted writes same.symm
    rw [filter] at wanted
    have tagged := congrArg (List.map (UInt8.ofNat boardId :: ·)) wanted
    simp only [List.map_map] at pairs tagged
    exact pairs.trans tagged

/-- A packet without content and with a wrong checksum. -/
def faint (rawRSSI : UInt8) (counter : ℕ) : Sent where
  heard := ⟨0, 37, rawRSSI, 0, 0, [0xD6, 0xBE, 0x89, 0x8E, 0, 0], 0, [], rfl⟩
  version := .v1
  counter := counter
  fits := (by decide : 17 < 256)

def faintComeIn : List Event :=
  .receive (faint 40 0).list ⟨100, 0⟩ :: List.replicate 4 .proceed ++
    .receive (faint 90 1).list ⟨100, 5⟩ :: List.replicate 4 .proceed

/-- The filter is at -50 dBm, and packets are written from the start of the control loop on. -/
theorem air_to_pipe_faint : ∃ (m w : World) (rs : List Record),
    run step (started 3 (-50) false true Capture.noFiles) [.setWriteNewPackets true] = some m ∧
      run step m faintComeIn = some w ∧
      records.readAll (w.extcap.capture.drop 24) = (rs, []) ∧
      rs.map Record.packet = [3 :: (faint 40 0).trimmed] := by
  have reached : run step (started 3 (-50) false true Capture.noFiles) [.setWriteNewPackets true] =
    some (started 3 (-50) true true Capture.noFiles) := rfl
  have hrun : run step (started 3 (-50) true true Capture.noFiles) faintComeIn = some _ := rfl
  have lists : (Event.setWriteNewPackets true :: faintComeIn).filterMap Event.list =
      [faint 40 0, faint 90 1].map Sent.list := rfl
  obtain ⟨qs, s, delivered, no_pause⟩ := exists_delivered lists
  have steady : Steady faintComeIn := by
    simp [Steady, faintComeIn, changesSettings]
  have stamped : Stamped (Event.setWriteNewPackets true :: faintComeIn) := by
    intro list time mem
    have times : time = ⟨100, 0⟩ ∨ time = ⟨100, 5⟩ := by
      simp [faintComeIn] at mem
      rcases mem with ⟨_, same⟩ | ⟨_, same⟩
      · exact .inl same
      · exact .inr same
    rcases times with rfl | rfl <;> exact ⟨by decide, by decide⟩
  obtain ⟨earlier, got, rs₀, rs, order, few, none_earlier, before, after, same⟩ :=
    (air_to_pipe delivered (by decide) stamped reached rfl steady hrun).2 rfl
  obtain rfl : earlier = [] := by
    have none_told := (List.append_eq_nil_iff.mp none_earlier.symm).1
    exact List.map_eq_nil_iff.mp none_told
  obtain rfl : got = [faint 40 0, faint 90 1] := by
    apply order.eq_of_length_le
    rw [no_pause] at few
    simpa using few
  have empty : records.readAll (Capture.getGlobalHeader.drop 24) = ([], []) :=
    (Capture.fileOf_nil ▸ Capture.read_fileOf []).2
  obtain rfl : rs₀ = [] := (Prod.mk.inj (before.symm.trans empty)).1
  exact ⟨_, _, rs, reached, hrun, after, same⟩

end Capture

structure Broadcast where
  header : UInt8
  length : UInt8
  address : List UInt8
  ads : List AdStructure
  tail : List UInt8
  named : Named (header &&& 15)
  six : address.length = 6
  ends : Ends tail

namespace Broadcast

variable (b : Broadcast)

def bytes : List UInt8 :=
  broadcast b.header b.length b.address (b.ads.flatMap AdStructure.bytes ++ b.tail)

def sender : Address := ⟨b.address, b.header &&& 64 ≠ 0⟩

def device (rawRSSI : UInt8) : Device :=
  ⟨b.sender, quoted (lastName [] b.ads), -(rawRSSI.toNat : ℤ), b.header &&& 64⟩

end Broadcast

def Good (e : Heard) : Prop :=
  (readFlags e.flags).ok = true ∧ (readFlags e.flags).direction = false

section Listing

variable {boardId : ℕ} {rssiFilter : ℤ} {writeNewPackets controlOut : Bool} {files : Files}
  {sent : List Sent} {qs : List ReadQueue.Event} {s : Uart} {es : List Event} {w : World}

private theorem header_of_air {e : Heard} {b : Broadcast} (air : e.air = b.bytes) :
    e.front.getD 4 0 = b.header := by
  have parts : e.front ++ e.body = (OnAir.ADV_ACCESS_ADDRESS ++ [b.header, b.length]) ++
      (b.address.reverse ++ (b.ads.flatMap AdStructure.bytes ++ b.tail)) := by
    rw [← List.append_assoc]
    exact air
  have front := (List.append_inj parts (by rw [e.six]; rfl)).1
  rw [front]
  rfl

/-- An advertisement with a right checksum is a device with its sender's address and name. -/
theorem scanned_broadcast {e : Sent} {b : Broadcast} (air : e.heard.air = b.bytes)
    (good : Good e.heard) : scanned e.packet = some (b.device e.heard.rawRSSI) := by
  obtain ⟨ok, fromSlave⟩ := good
  have read : e.packet.blePacket = some ⟨OnAir.ADV_ACCESS_ADDRESS,
      some ⟨b.header &&& 15, some b.sender, quoted (lastName [] b.ads)⟩, b.length,
      b.address.reverse ++ (b.ads.flatMap AdStructure.bytes ++ b.tail)⟩ := by
    simp only [Sent.packet, Heard.packet, ok, if_true, air, Broadcast.bytes]
    exact OnAir.ofList_broadcast b.named b.six b.ends
  have type : advTypeOf e.packet = some (b.header &&& 15) := by
    have isOk : e.packet.ok = true := ok
    rw [advTypeOf, if_pos isOk, read]
    rfl
  have crc : (readFlags e.heard.flags).crcOK = true := (Bool.and_eq_true_iff.mp ok).1
  have advertiser : fromAdvertiser e.packet = true := by
    simp [fromAdvertiser, Sent.packet, Heard.packet, Heard.event, crc, fromSlave]
  have listed : (advTypeOf e.packet).any (· ∈ listedTypes) = true := by
    rw [type]
    rcases b.named with h | h | h | h <;> simp [h, listedTypes]
  have told : deviceOf e.packet = some ⟨b.sender, quoted (lastName [] b.ads),
      -(e.heard.rawRSSI.toNat : ℤ), e.heard.front.getD 4 0 &&& TXADD_MSK⟩ := by
    simp only [deviceOf, read, Option.bind_eq_bind, Option.bind_some]
    rfl
  rw [scanned, if_pos ⟨listed, advertiser⟩, told, header_of_air air]
  rfl

/-- While the collector scans and the thread waits, each sender of an advertisement that came through
is in the list of devices, with a name when one of its advertisements had one; and all that is in
the list tells of what was heard. -/
theorem air_to_devices (h : Delivered sent qs s es)
    (hrun : run step (started boardId rssiFilter writeNewPackets controlOut files)
      (.startScanning :: es) = some w)
    (stays : Event.startFollowing ∉ es) (waiting : w.worker = .waiting) :
    ∃ got : List Sent, got.Sublist sent ∧ sent.length ≤ got.length + pauses s ∧
      (∀ address, Tells
        ((got.filterMap fun e => scanned e.packet).filter (·.address = address))
        (find w.collector.devices.devices address)) ∧
      ∀ e ∈ got, ∀ b : Broadcast, e.heard.air = b.bytes → Good e.heard →
        ∃ device, find w.collector.devices.devices b.sender = some device ∧
          (lastName [] b.ads ≠ [] → device.name ≠ Devices.noName) := by
  obtain ⟨got, order, few, lists⟩ := h.exists_got
  have tells (address : Address) : Tells
      ((got.filterMap fun e => scanned e.packet).filter (·.address = address))
      (find w.collector.devices.devices address) := by
    have told := (right_of_scanning hrun stays waiting).tells address
    rw [Devices.heard_sightings] at told
    have same : (es.filterMap Event.arrival).filterMap (fun p => scanned p.packet) =
        got.filterMap fun e => scanned e.packet := by
      have whole := ((survey_run hrun).logged (by simp [waiting])).whole
      have packets := congrArg (List.filterMap scanned)
        (packets_of_lists lists fun list mem => whole list (List.mem_cons_of_mem _ mem))
      rw [List.filterMap_map, List.filterMap_map] at packets
      exact packets
    rw [same] at told
    exact told
  refine ⟨got, order, few, tells, ?_⟩
  intro e mem b air good
  have sighting := scanned_broadcast air good
  have heard : b.device e.heard.rawRSSI ∈
      (got.filterMap fun e => scanned e.packet).filter (·.address = b.sender) := by
    rw [List.mem_filter]
    exact ⟨List.mem_filterMap.mpr ⟨e, mem, sighting⟩, decide_eq_true rfl⟩
  have told := tells b.sender
  cases known : find w.collector.devices.devices b.sender with
  | none =>
    rw [known] at told
    rw [show _ = [] from told] at heard
    cases heard
  | some device =>
    refine ⟨device, rfl, ?_⟩
    intro proper
    rw [known] at told
    obtain ⟨_, name, _⟩ := told
    have own : (b.device e.heard.rawRSSI).name ≠ Devices.noName := by
      intro same
      apply proper
      simpa [Broadcast.device, Devices.noName, quoted] using same
    have some_name := List.mem_map_of_mem (f := Device.name) heard
    cases first : (((got.filterMap fun e => scanned e.packet).filter
        (·.address = b.sender)).map Device.name).find? (· ≠ Devices.noName) with
    | none =>
      have none_proper := List.find?_eq_none.mp first _ some_name
      exact absurd own (by simpa using none_proper)
    | some given =>
      have proper := List.find?_some first
      rw [name, first]
      simpa using proper

def hello : Broadcast where
  header := 0
  length := 10
  address := [6, 5, 4, 3, 2, 1]
  ads := [⟨9, [104, 105], by decide⟩]
  tail := []
  named := .inl rfl
  six := rfl
  ends := trivial

def greeting : Sent where
  heard := ⟨1, 37, 40, 0, 0, hello.bytes.take 6, 0, hello.bytes.drop 6, rfl⟩
  version := .v2
  counter := 1
  fits := by decide

theorem air_to_devices_greeting : ∃ (es : List Event) (w : World) (device : Device),
    run step (started 3 0 true false Capture.noFiles) (.startScanning :: es) = some w ∧
      find w.collector.devices.devices hello.sender = some device ∧
      device.name ≠ Devices.noName := by
  have made : Packet.ofList greeting.list = some greeting.packet :=
    greeting.heard.ofList_list greeting.fits greeting.counter
  have stamped : Stamped [.startScanning, .receive greeting.list ⟨100, 0⟩] := by
    intro list time mem
    simp only [List.mem_cons, reduceCtorEq, Event.receive.injEq, List.not_mem_nil, or_false,
      false_or] at mem
    rw [mem.2]
    exact ⟨by decide, by decide⟩
  have lists (n : ℕ) : (.receive greeting.list ⟨100, 0⟩ ::
      List.replicate n Event.proceed).filterMap Event.list = [greeting].map Sent.list := by
    simp [List.filterMap_replicate, Event.list]
  obtain ⟨m, first, idle, silent⟩ :
      ∃ m, step (started 3 0 true false Capture.noFiles) .startScanning = some m ∧
        m.worker = .waiting ∧ m.extcap.controlOut = false := ⟨_, rfl, rfl, rfl⟩
  have logs : m.logs greeting.list = true := by
    rw [SnifferCollector.World.logs, silent]
    rfl
  have second := step_receive made rfl idle logs ⟨100, 0⟩
  have begun : run step (started 3 0 true false Capture.noFiles)
      [.startScanning, .receive greeting.list ⟨100, 0⟩] = some
        ({ m with lastReceivedPacket := some greeting.packet }.append
          ⟨greeting.packet, ⟨100, 0⟩⟩) :=
    run_cons_eq_some.mpr ⟨m, first, (run_singleton _ _ _).trans second⟩
  have one : [.startScanning, .receive greeting.list ⟨100, 0⟩].filterMap Event.list =
      [greeting].map Sent.list := lists 0
  obtain ⟨n, w, rest, waiting⟩ := exists_waiting one (by decide) stamped (by simp) begun
  have hrun := run_append_eq_some.mpr ⟨_, begun, rest⟩
  obtain ⟨qs, s, delivered, no_pause⟩ := exists_delivered (lists n)
  have stays : Event.startFollowing ∉ .receive greeting.list ⟨100, 0⟩ ::
      List.replicate n .proceed := by
    simp
  obtain ⟨got, order, few, _, told⟩ := air_to_devices delivered hrun stays waiting
  obtain rfl : got = [greeting] := by
    apply order.eq_of_length_le
    rw [no_pause] at few
    exact few
  obtain ⟨device, known, proper⟩ := told greeting (List.mem_singleton_self _) hello
    (List.take_append_drop 6 _) ⟨by decide, by decide⟩
  exact ⟨_, w, device, hrun, known, proper (by decide)⟩

end Listing

end ProximityLed.Sniffer.Pipeline
