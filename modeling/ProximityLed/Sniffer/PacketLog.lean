/- ProximityLed/Sniffer/PacketLog
   digest: What the reader logs of the lists it gets, and the log that the toolbar shows. -/

import ProximityLed.Sniffer.ControlChannel
import ProximityLed.Sniffer.Packets

set_option autoImplicit false
set_option relaxedAutoImplicit false

namespace ProximityLed.Sniffer.PacketLog

open Packets
open ControlChannel (CTRL_CMD_ADD controlWrite)

def CTRL_ARG_LOG : UInt8 := 5

def PACKET_COUNTER_CAP : ℕ := 2 ^ 16

def str (list : List UInt8) : List Char :=
  ['['] ++ [',', ' '].intercalate (list.map fun b => Nat.toDigits 10 b.toNat) ++ [']']

structure LogRecord where
  levelname : List Char
  message : List Char

/-- The handler that sends the log to the toolbar; none when it raises. -/
def emit (record : LogRecord) : Option (List UInt8) :=
  controlWrite CTRL_ARG_LOG CTRL_CMD_ADD
    (record.levelname ++ ": ".toList ++ record.message ++ "\n".toList)

/-- What the constructor of a packet logs of a list that makes no valid one.  In front of the second
message stands another, always the same. -/
def invalidPacket (packetList : List UInt8) : LogRecord :=
  if packetList = [] ∨
      (readHeader packetList).any fun header => !validatePacketList header packetList then
    ⟨"ERROR".toList, "Invalid packet: packet list not valid: ".toList ++ str packetList⟩
  else ⟨"INFO".toList, "packetList: ".toList ++ str packetList⟩

/-- What is logged of a valid packet whose counter does not follow the last one's. -/
def handlePacketHistory (lastReceivedPacket : Option Packet) (packet : Packet) : Option LogRecord :=
  lastReceivedPacket.bind fun last =>
    if packet.packetCounter ≠ (last.packetCounter + 1) % PACKET_COUNTER_CAP ∧
        last.packetCounter ≠ 0 then
      some ⟨"INFO".toList, "gap in packets, between ".toList ++
        Nat.toDigits 10 last.packetCounter ++ " and ".toList ++
        Nat.toDigits 10 packet.packetCounter ++ " packet before: ".toList ++ str last.packetList ++
        " packet after: ".toList ++ str packet.packetList⟩
    else none

def logged (lastReceivedPacket : Option Packet) (list : List UInt8) : Option LogRecord :=
  match Packet.ofList list with
  | none => some (invalidPacket list)
  | some packet => handlePacketHistory lastReceivedPacket packet

def taken (lastReceivedPacket : Option Packet) (list : List UInt8) : Bool :=
  (logged lastReceivedPacket list).all fun record => (emit record).isSome

def lastPacket (lists : List (List UInt8)) : Option Packet :=
  (lists.filterMap Packet.ofList).getLast?

section Lengths

variable {list : List UInt8} {packet : Packet}

private theorem emit_isSome {record : LogRecord} :
    (emit record).isSome = true ↔ record.levelname.length + record.message.length + 5 < 256 ^ 2 := by
  have colon : ": ".toList.length = 2 := by decide
  have newline : "\n".toList.length = 1 := by decide
  have length : (record.levelname ++ ": ".toList ++ record.message ++ "\n".toList).length =
      record.levelname.length + record.message.length + 3 := by
    simp only [List.length_append, colon, newline]
    omega
  simp only [emit, controlWrite, length]
  split <;> simp <;> omega

private theorem length_digits (b : UInt8) :
    1 ≤ (Nat.toDigits 10 b.toNat).length ∧ (Nat.toDigits 10 b.toNat).length ≤ 3 := by
  refine ⟨Nat.length_toDigits_pos, (Nat.length_toDigits_le_iff (by decide) (by decide)).mpr ?_⟩
  have byte := b.toNat_lt
  omega

private theorem length_str (list : List UInt8) :
    3 * list.length ≤ (str list).length ∧ (str list).length ≤ 5 * list.length + 2 := by
  have items : ∀ (b : UInt8) (list : List UInt8),
      3 * list.length + 1 ≤ ([',', ' '].intercalate
          ((b :: list).map fun b => Nat.toDigits 10 b.toNat)).length ∧
        ([',', ' '].intercalate
          ((b :: list).map fun b => Nat.toDigits 10 b.toNat)).length ≤ 5 * list.length + 3 := by
    intro b list
    induction list generalizing b with
    | nil => simpa using length_digits b
    | cons b' list ih =>
      obtain ⟨least, most⟩ := ih b'
      obtain ⟨one, three⟩ := length_digits b
      simp only [List.map_cons] at least most ⊢
      simp only [List.intercalate_cons_cons, List.length_append, List.length_cons, List.length_nil]
      omega
  cases list with
  | nil => exact ⟨Nat.zero_le _, Nat.le_refl _⟩
  | cons b list =>
    obtain ⟨least, most⟩ := items b list
    simp only [str, List.length_append, List.length_cons, List.length_nil]
    omega

theorem not_taken_of_long (lastReceivedPacket : Option Packet) (invalid : Packet.ofList list = none)
    (long : 21846 ≤ list.length) : taken lastReceivedPacket list = false := by
  have length := (length_str list).1
  have record : (emit (invalidPacket list)).isSome = false := by
    rw [Bool.eq_false_iff, ne_eq, emit_isSome]
    unfold invalidPacket
    split <;> (simp only [List.length_append]; omega)
  simp only [taken, logged, invalid, Option.all_some, record]

private theorem packetCounter_lt {header : Header} (h : readHeader list = some header) :
    header.packetCounter < 256 ^ 2 := by
  obtain ⟨b₀, b₁, b₂, b₃, b₄, b₅, rest, rfl⟩ := exists_six h
  rw [readHeader_cons] at h
  split at h
  · rw [← Option.some_inj.mp h]
    exact Library.Endian.value_lt [b₃, b₄]
  · split at h
    · rw [← Option.some_inj.mp h]
      exact Library.Endian.value_lt [b₃, b₄]
    · cases h

private theorem length_packetList_le (made : Packet.ofList list = some packet) :
    packet.packetList.length ≤ list.length := by
  have consistent := consistent_of_ofList made
  cases event : packet.event with
  | none => rw [consistent.kept event]
  | some _ =>
    obtain ⟨_, erased⟩ := consistent.erased (by simp [event])
    obtain ⟨header, read, _⟩ := ofList_cases made
    obtain ⟨b₀, b₁, b₂, b₃, b₄, b₅, rest, rfl⟩ := exists_six read
    have shorter : (packet.packetList.drop HEADER_LENGTH).length ≤ rest.length := by
      rw [erased]
      exact List.length_eraseIdx_le rest 16
    simp only [List.length_drop, HEADER_LENGTH] at shorter
    simp only [List.length_cons]
    omega

/-- Of short lists everything is logged. -/
theorem taken_of_short {lastReceivedPacket : Option Packet} (short : list.length ≤ 6500)
    (last : ∀ packet, lastReceivedPacket = some packet →
      ∃ list, Packet.ofList list = some packet ∧ list.length ≤ 6500) :
    taken lastReceivedPacket list = true := by
  have itself := (length_str list).2
  cases made : Packet.ofList list with
  | none =>
    have record : (emit (invalidPacket list)).isSome = true := by
      have error : "ERROR".toList.length = 5 := by decide
      have info : "INFO".toList.length = 4 := by decide
      have first : "Invalid packet: packet list not valid: ".toList.length = 39 := by decide
      have second : "packetList: ".toList.length = 12 := by decide
      rw [emit_isSome]
      unfold invalidPacket
      split <;> (simp only [List.length_append, error, info, first, second]; omega)
    simp only [taken, logged, made, Option.all_some, record]
  | some packet =>
    simp only [taken, logged, made, Option.all_eq_true]
    intro record told
    obtain ⟨before, rfl, gap⟩ := Option.bind_eq_some_iff.mp told
    simp only [Option.ite_none_right_eq_some, Option.some_inj] at gap
    obtain ⟨_, rfl⟩ := gap
    obtain ⟨list', made', short'⟩ := last before rfl
    have five {list : List UInt8} {packet : Packet} (made : Packet.ofList list = some packet) :
        (Nat.toDigits 10 packet.packetCounter).length ≤ 5 := by
      have small := packetCounter_lt (consistent_of_ofList made).header
      exact (Nat.length_toDigits_le_iff (by decide) (by decide)).mpr (by omega)
    have counter := five made
    have counter' := five made'
    have length := length_packetList_le made
    have length' := length_packetList_le made'
    have text := (length_str packet.packetList).2
    have text' := (length_str before.packetList).2
    have info : "INFO".toList.length = 4 := by decide
    have between : "gap in packets, between ".toList.length = 24 := by decide
    have middle : " and ".toList.length = 5 := by decide
    have front : " packet before: ".toList.length = 16 := by decide
    have back : " packet after: ".toList.length = 15 := by decide
    rw [emit_isSome]
    simp only [List.length_append, info, between, middle, front, back]
    omega

theorem exists_of_lastPacket {lists : List (List UInt8)} (h : lastPacket lists = some packet) :
    ∃ list ∈ lists, Packet.ofList list = some packet :=
  List.mem_filterMap.mp (List.mem_of_getLast? h)

theorem lastPacket_concat (lists : List (List UInt8)) (list : List UInt8) :
    lastPacket (lists ++ [list]) = (Packet.ofList list).or (lastPacket lists) := by
  rw [lastPacket, List.filterMap_append, List.getLast?_append]
  cases made : Packet.ofList list <;> simp [made, lastPacket]

end Lengths

end ProximityLed.Sniffer.PacketLog
