/- ProximityLed/Sniffer/Capture
   digest: Capture records, and the files that sessions append them to and roll over. -/

import ProximityLed.Library.Endian
import ProximityLed.Library.Records
import ProximityLed.Library.Run

set_option autoImplicit false
set_option relaxedAutoImplicit false

namespace ProximityLed.Sniffer.Capture

open Library.Endian
open Library.Records (Format)
open Library.Run

/-- The seconds and microseconds that `create_packet` takes from a time, a `float` whose arithmetic
is left to the machine. -/
structure Time where
  timestampFloor : ℕ
  timestampOffsetUs : ℕ
  deriving DecidableEq

def Time.Fits (time : Time) : Prop :=
  time.timestampFloor < 256 ^ 4 ∧ time.timestampOffsetUs < 256 ^ 4

def getGlobalHeader : List UInt8 :=
  bytesOf 4 0xa1b2c3d4 ++ bytesOf 2 2 ++ bytesOf 2 4 ++ bytesOf 4 0 ++ bytesOf 4 0 ++
    bytesOf 4 0x0000ffff ++ bytesOf 4 272

/-- A record whose numbers fit into the four bytes that each of them has. -/
structure Record where
  time : Time
  packet : List UInt8
  floor_lt : time.timestampFloor < 256 ^ 4
  offset_lt : time.timestampOffsetUs < 256 ^ 4
  length_lt : packet.length < 256 ^ 4

/-- The four numbers, the length of the packet twice, and the packet. -/
def Record.write (r : Record) : List UInt8 :=
  bytesOf 4 r.time.timestampFloor ++ bytesOf 4 r.time.timestampOffsetUs ++
    bytesOf 4 r.packet.length ++ bytesOf 4 r.packet.length ++ r.packet

def Record.of (packet : List UInt8) (time : Time) : Option Record :=
  if h : time.timestampFloor < 256 ^ 4 ∧ time.timestampOffsetUs < 256 ^ 4 ∧
      packet.length < 256 ^ 4 then
    some ⟨time, packet, h.1, h.2.1, h.2.2⟩
  else none

def createPacket (packet : List UInt8) (time : Time) : Option (List UInt8) :=
  (Record.of packet time).map Record.write

/-- A packet as it is captured: the number of the board in front of its list.  None when the number
is no byte. -/
def captured (boardId : ℕ) (list : List UInt8) : Option (List UInt8) :=
  if boardId < 256 then some (UInt8.ofNat boardId :: list) else none

def readLong (stream : List UInt8) : Option (ℕ × List UInt8) :=
  if 4 ≤ stream.length then some (value (stream.take 4), stream.drop 4) else none

/-- What a reader of the format finds in front of a stream. -/
def readRecord (stream : List UInt8) : Option (Record × List UInt8) := do
  let (floor, stream) ← readLong stream
  let (offset, stream) ← readLong stream
  let (length, stream) ← readLong stream
  let (_, stream) ← readLong stream
  if length ≤ stream.length then
    (Record.of (stream.take length) ⟨floor, offset⟩).map fun r => (r, stream.drop length)
  else none

section Format

private theorem of_record (r : Record) : Record.of r.packet r.time = some r :=
  dif_pos ⟨r.floor_lt, r.offset_lt, r.length_lt⟩

private theorem readLong_bytesOf {n : ℕ} (fits : n < 256 ^ 4) (rest : List UInt8) :
    readLong (bytesOf 4 n ++ rest) = some (n, rest) := by
  have four := length_bytesOf 4 n
  have long : 4 ≤ (bytesOf 4 n ++ rest).length := by
    rw [List.length_append, four]
    exact Nat.le_add_right _ _
  rw [readLong, if_pos long, List.take_left' four, List.drop_left' four,
    value_bytesOf_of_lt fits]

private theorem length_of_readLong {stream rest : List UInt8} {n : ℕ}
    (h : readLong stream = some (n, rest)) : rest.length < stream.length := by
  simp only [readLong, Option.ite_none_right_eq_some, Option.some.injEq, Prod.mk.injEq] at h
  obtain ⟨long, _, rfl⟩ := h
  rw [List.length_drop]
  omega

theorem readRecord_write (r : Record) (rest : List UInt8) :
    readRecord (r.write ++ rest) = some (r, rest) := by
  have whole : r.write ++ rest = bytesOf 4 r.time.timestampFloor ++
      (bytesOf 4 r.time.timestampOffsetUs ++ (bytesOf 4 r.packet.length ++
        (bytesOf 4 r.packet.length ++ (r.packet ++ rest)))) := by
    simp only [Record.write, List.append_assoc]
  have inside : r.packet.length ≤ (r.packet ++ rest).length := by simp
  have made : Record.of r.packet ⟨r.time.timestampFloor, r.time.timestampOffsetUs⟩ = some r :=
    of_record r
  simp only [readRecord, whole, readLong_bytesOf r.floor_lt, readLong_bytesOf r.offset_lt,
    readLong_bytesOf r.length_lt, Option.bind_eq_bind, Option.bind_some, if_pos inside,
    List.take_left, List.drop_left, made, Option.map_some]

private theorem readRecord_shrinks (stream : List UInt8) (r : Record) (rest : List UInt8)
    (h : readRecord stream = some (r, rest)) : rest.length < stream.length := by
  simp only [readRecord, Option.bind_eq_bind, Option.bind_eq_some_iff] at h
  obtain ⟨⟨floor, s₁⟩, first, ⟨offset, s₂⟩, second, ⟨length, s₃⟩, third, ⟨again, s₄⟩, fourth, h⟩ := h
  simp only [Option.ite_none_right_eq_some] at h
  obtain ⟨_, _, _, same⟩ := h.imp_right Option.map_eq_some_iff.mp
  obtain rfl := (Prod.mk.inj same).2
  have l₁ : s₁.length < stream.length := length_of_readLong first
  have l₂ : s₂.length < s₁.length := length_of_readLong second
  have l₃ : s₃.length < s₂.length := length_of_readLong third
  have l₄ : s₄.length < s₃.length := length_of_readLong fourth
  rw [List.length_drop]
  omega

def records : Format Record UInt8 where
  write := Record.write
  read := readRecord
  read_write := readRecord_write
  shrinks := readRecord_shrinks

end Format

structure Files where
  capture : Option (List UInt8)
  backup : Option (List UInt8)
  deriving DecidableEq

def startNewFile (files : Files) : Files := { files with capture := some getGlobalHeader }

/-- A missing backup is not an error here.  Other failures of the file system are left out. -/
def doRollover (files : Files) : Files := startNewFile { files with backup := files.capture }

def openHandler (clear : Bool) (files : Files) : Files :=
  let files :=
    match files.capture with
    | none => startNewFile files
    | some bytes => if bytes.length > 20000000 then doRollover files else files
  if clear then startNewFile files else files

structure Packet where
  boardId : ℕ
  list : List UInt8
  time : Time

def Packet.record (p : Packet) : Option Record :=
  (captured p.boardId p.list).bind fun packet => Record.of packet p.time

/-- The record goes behind what is in the file.  A packet that raises leaves the file alone. -/
def writePacket (p : Packet) (files : Files) : Files :=
  match (captured p.boardId p.list).bind fun packet => createPacket packet p.time with
  | none => files
  | some bytes => { files with capture := some (files.capture.getD [] ++ bytes) }

inductive Event
  | openHandler (clear : Bool)
  | writePacket (p : Packet)

/-- A packet is only written once there is a handler, and so a file. -/
def step (files : Files) : Event → Option Files
  | .openHandler clear => some (openHandler clear files)
  | .writePacket p => if files.capture.isSome then some (writePacket p files) else none

def noFiles : Files := ⟨none, none⟩

def written (es : List Event) : List Record :=
  es.filterMap fun
    | .openHandler _ => none
    | .writePacket p => p.record

def Kept (es : List Event) : Prop := .openHandler true ∉ es

def fileOf (rs : List Record) : List UInt8 := getGlobalHeader ++ rs.flatMap Record.write

/-- The two files after some events: some records are gone with an older backup, some are in the
backup, some were cleared away, and the others are in the capture file. -/
structure Filed (es : List Event) (files : Files) (old back cleared now : List Record) : Prop where
  history : written es = old ++ back ++ cleared ++ now
  capture : files.capture = some (fileOf now) ∨ files = noFiles ∧ written es = []
  backup : files.backup = some (fileOf back) ∧ 20000000 < (fileOf back).length ∨
    files.backup = none ∧ old = [] ∧ back = []
  kept : Kept es → cleared = []

section Sessions

variable {es : List Event} {files files' : Files} {old back cleared now : List Record}

theorem fileOf_nil : fileOf [] = getGlobalHeader := List.append_nil _

theorem fileOf_append (rs rs' : List Record) :
    fileOf (rs ++ rs') = fileOf rs ++ rs'.flatMap Record.write := by
  rw [fileOf, List.flatMap_append, ← List.append_assoc]
  rfl

theorem fileOf_concat (rs : List Record) (r : Record) :
    fileOf (rs ++ [r]) = fileOf rs ++ r.write := by
  simp [fileOf, List.flatMap_append]

theorem read_fileOf (rs : List Record) : (fileOf rs).take 24 = getGlobalHeader ∧
    records.readAll ((fileOf rs).drop 24) = (rs, []) := by
  have size : getGlobalHeader.length = 24 := by simp [getGlobalHeader]
  refine ⟨List.take_left' size, ?_⟩
  rw [fileOf, List.drop_left' size]
  exact Format.readAll_flatMap rs

theorem exists_capture_openHandler (clear : Bool) (files : Files) :
    ∃ bytes, (openHandler clear files).capture = some bytes := by
  cases clear with
  | true => exact ⟨getGlobalHeader, rfl⟩
  | false =>
    cases file : files.capture with
    | none =>
      refine ⟨getGlobalHeader, ?_⟩
      simp [openHandler, file, startNewFile]
    | some bytes =>
      by_cases long : bytes.length > 20000000
      · refine ⟨getGlobalHeader, ?_⟩
        simp [openHandler, file, long, doRollover, startNewFile]
      · refine ⟨bytes, ?_⟩
        simp [openHandler, file, long]

private theorem written_open (es : List Event) (clear : Bool) :
    written (es ++ [.openHandler clear]) = written es := by
  simp [written, List.filterMap_append]

private theorem written_write (es : List Event) (p : Packet) :
    written (es ++ [.writePacket p]) = written es ++ p.record.toList := by
  cases h : p.record <;> simp [written, List.filterMap_append, h]

private theorem kept_of_concat {e : Event} (h : Kept (es ++ [e])) :
    Kept es ∧ e ≠ .openHandler true := by
  constructor
  · intro before
    exact h (List.mem_append_left _ before)
  · rintro rfl
    exact h (by simp)

theorem writePacket_eq (p : Packet) (files : Files) :
    writePacket p files = match p.record with
      | none => files
      | some r => { files with capture := some (files.capture.getD [] ++ r.write) } := by
  unfold writePacket Packet.record createPacket
  cases captured p.boardId p.list with
  | none => rfl
  | some packet =>
    simp only [Option.bind_some]
    cases Record.of packet p.time <;> rfl

private theorem filed_open (clear : Bool) (h : Filed es files old back cleared now) :
    ∃ old back cleared now,
      Filed (es ++ [.openHandler clear]) (openHandler clear files) old back cleared now := by
  obtain ⟨history, capture, backup, kept⟩ := h
  rcases capture with capture | ⟨rfl, nothing⟩
  · by_cases long : (fileOf now).length > 20000000
    · have rolled : openHandler clear files = ⟨some (fileOf []), some (fileOf now)⟩ := by
        simp only [openHandler, capture, if_pos long, doRollover, startNewFile, fileOf_nil]
        cases clear <;> rfl
      rw [rolled]
      refine ⟨old ++ back ++ cleared, now, [], [], ?_, .inl rfl, .inl ⟨rfl, long⟩, fun _ => rfl⟩
      rw [written_open, history, List.append_nil, List.append_nil]
    · have going : openHandler clear files = if clear then startNewFile files else files := by
        simp only [openHandler, capture, if_neg long]
      rw [going]
      cases clear with
      | true =>
        refine ⟨old, back, cleared ++ now, [], ?_, .inl ?_, backup, ?_⟩
        · rw [written_open, history, List.append_nil, List.append_assoc _ cleared now]
        · rw [if_pos rfl, startNewFile, fileOf_nil]
        · intro never
          exact absurd rfl (kept_of_concat never).2
      | false =>
        refine ⟨old, back, cleared, now, ?_, .inl capture, backup, ?_⟩
        · rw [written_open, history]
        · intro never
          exact kept (kept_of_concat never).1
  · refine ⟨[], [], [], [], ?_, .inl ?_, .inr ⟨?_, rfl, rfl⟩, fun _ => rfl⟩
    · rw [written_open, nothing]
      rfl
    · rw [fileOf_nil]
      cases clear <;> rfl
    · cases clear <;> rfl

private theorem filed_write {p : Packet} (h : Filed es files old back cleared now)
    (opened : files.capture.isSome = true) :
    ∃ now, Filed (es ++ [.writePacket p]) (writePacket p files) old back cleared now := by
  obtain ⟨history, capture, backup, kept⟩ := h
  have capture : files.capture = some (fileOf now) := by
    rcases capture with capture | ⟨rfl, _⟩
    · exact capture
    · cases opened
  rw [writePacket_eq]
  cases recorded : p.record with
  | none =>
    refine ⟨now, ?_, .inl capture, backup, fun never => kept (kept_of_concat never).1⟩
    rw [written_write, recorded, history]
    exact List.append_nil _
  | some r =>
    refine ⟨now ++ [r], ?_, .inl ?_, backup, fun never => kept (kept_of_concat never).1⟩
    · rw [written_write, recorded, history, List.append_assoc _ now]
      rfl
    · dsimp only
      rw [capture, fileOf_concat]
      rfl

/-- Whenever handlers are opened and packets written, through one handler or several: the capture
file is a header and whole records, which a reader gets back; the backup too; and without clearing,
the backup and the file hold the last records written, all in order.  Records are only lost when
the backup alone has more than 20 000 000 bytes. -/
theorem files_keep_records (hrun : run step noFiles es = some files) :
    ∃ old back cleared now, written es = old ++ back ++ cleared ++ now ∧
      (Kept es → cleared = []) ∧
      (∀ bytes, files.capture = some bytes → bytes.take 24 = getGlobalHeader ∧
        records.readAll (bytes.drop 24) = (now, [])) ∧
      (∀ bytes, files.backup = some bytes → bytes.take 24 = getGlobalHeader ∧
        records.readAll (bytes.drop 24) = (back, []) ∧ 20000000 < bytes.length) ∧
      (files.backup = none → old = [] ∧ back = []) := by
  have filed : ∃ old back cleared now, Filed es files old back cleared now := by
    refine run_induction (P := fun es files => ∃ old back cleared now,
      Filed es files old back cleared now) ?_ ?_ hrun
    · exact ⟨[], [], [], [], rfl, .inr ⟨rfl, rfl⟩, .inr ⟨rfl, rfl, rfl⟩, fun _ => rfl⟩
    · rintro before e m m' _ ⟨old, back, cleared, now, h⟩ _ he
      cases e with
      | openHandler clear =>
        obtain rfl := Option.some_inj.mp he
        exact filed_open clear h
      | writePacket p =>
        simp only [step, Option.ite_none_right_eq_some, Option.some.injEq] at he
        obtain ⟨opened, rfl⟩ := he
        obtain ⟨now', h'⟩ := filed_write (p := p) h opened
        exact ⟨old, back, cleared, now', h'⟩
  obtain ⟨old, back, cleared, now, history, capture, backup, kept⟩ := filed
  refine ⟨old, back, cleared, now, history, kept, ?_, ?_, ?_⟩
  · intro bytes file
    rcases capture with capture | ⟨rfl, _⟩
    · obtain rfl := Option.some_inj.mp (capture.symm.trans file)
      exact read_fileOf now
    · cases file
  · intro bytes file
    rcases backup with ⟨backup, long⟩ | ⟨backup, _⟩
    · obtain rfl := Option.some_inj.mp (backup.symm.trans file)
      exact ⟨(read_fileOf back).1, (read_fileOf back).2, long⟩
    · rw [backup] at file
      cases file
  · intro absent
    rcases backup with ⟨backup, _⟩ | ⟨_, gone⟩
    · rw [backup] at absent
      cases absent
    · exact gone

def twoSessions : List Event :=
  [.openHandler false, .writePacket ⟨3, [18, 52], ⟨100, 250000⟩⟩, .openHandler false]

theorem files_keep_records_two :
    ∃ files bytes old back cleared now, run step noFiles twoSessions = some files ∧
      files.capture = some bytes ∧ written twoSessions = old ++ back ++ cleared ++ now ∧
      records.readAll (bytes.drop 24) = (now, []) := by
  have hrun : run step noFiles twoSessions = some _ := rfl
  obtain ⟨old, back, cleared, now, history, _, file, _⟩ := files_keep_records hrun
  exact ⟨_, _, old, back, cleared, now, hrun, rfl, history, (file _ rfl).2⟩

end Sessions

end ProximityLed.Sniffer.Capture
