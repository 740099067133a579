/- ProximityLed/Sniffer/ThreadRuns
   digest: What the sniffer's thread has kept, captured and listed after any run. -/

import ProximityLed.Sniffer.SnifferCollector

set_option autoImplicit false
set_option relaxedAutoImplicit false

namespace ProximityLed.Sniffer.ThreadRuns

open Library.Run
open Library.Shedding (Accounts accounts_nil)
open Packets
open PacketLog (taken lastPacket lastPacket_concat exists_of_lastPacket taken_of_short
  not_taken_of_long)
open Devices (Tells calls find heard_sightings right_calls)
open Capture (Record Files fileOf fileOf_nil fileOf_concat getGlobalHeader records openHandler)
open SnifferCollector

def changesSettings : Event → Bool
  | .setInFollowMode _ | .setWriteNewPackets _ => true
  | _ => false

def Steady (es : List Event) : Prop := ∀ e ∈ es, changesSettings e = false

def stumbles (x : Extcap) (p : Processed) : Prop :=
  x.writeNewPackets = true ∧ x.rssiFilter ≠ 0 ∧ x.inFollowMode = false ∧ p.packet.rssi = none

/-- The events that the callback was told of, and those of them that went into the pipe. -/
structure Piped (boardId : ℕ) (rssiFilter : ℤ) (w : World) (told shown : List Processed) :
    Prop where
  split : w.processed = told ++ w.worker.untold
  order : shown.Sublist told
  capture : w.extcap.capture = fileOf (shown.filterMap (recordOf boardId))
  recorded : ∀ p ∈ shown, (recordOf boardId p).isSome
  cause : ∀ p, w.worker = .crashed p →
    recordOf boardId p = none ∨ rssiFilter ≠ 0 ∧ p.packet.rssi = none

section Runs

variable {boardId : ℕ} {rssiFilter : ℤ} {writeNewPackets controlOut : Bool} {files : Files}
  {before es : List Event} {w w' : World} {e : Event} {told shown written : List Processed}

private theorem not_stumbles_of_newPacket {x x' : Extcap} {p : Processed}
    (h : newPacket x boardId p = some x') : ¬stumbles x p := by
  rintro ⟨writes, filter, free, signal⟩
  simp [newPacket, writes, filter, free, signal] at h

theorem Piped.still (h : Piped boardId rssiFilter w told shown)
    (processed : w'.processed = w.processed) (untold : w'.worker.untold = w.worker.untold)
    (capture : w'.extcap.capture = w.extcap.capture)
    (alive : ∀ p, w'.worker = .crashed p → w.worker = .crashed p) :
    Piped boardId rssiFilter w' told shown where
  split := by rw [processed, untold, h.split]
  order := h.order
  capture := capture.trans h.capture
  recorded := h.recorded
  cause p crashed := h.cause p (alive p crashed)

private theorem piped_step (base : Base boardId rssiFilter es w)
    (h : Piped boardId rssiFilter w told shown) (he : Moved w e w') :
    ∃ told shown, Piped boardId rssiFilter w' told shown := by
  have board := base.boardId
  cases he with
  | skip => exact ⟨told, shown, h.still rfl rfl rfl fun _ crashed => crashed⟩
  | fail waiting =>
    refine ⟨told, shown, h.still rfl ?_ rfl fun _ crashed => by cases crashed⟩
    rw [waiting]
    rfl
  | @append list time p waiting logs arrived =>
    refine ⟨told, shown, ?_, h.order, h.capture, h.recorded, fun _ crashed => by cases crashed⟩
    have all := h.split
    rw [waiting] at all
    simp only [World.append, all, Worker.untold, List.append_nil]
  | @notify p x at_ came =>
    have split := h.split
    rw [at_] at split
    have split' : w.processed = (told ++ [p]) ++ Worker.untold (.notified p) := by
      simpa [Worker.untold] using split
    rcases newPacket_some came with ⟨wants, r, made, rfl⟩ | ⟨unwanted, rfl⟩
    · rw [board] at made
      refine ⟨told ++ [p], shown ++ [p], split', h.order.append_right [p], ?_, ?_,
        fun _ crashed => by cases crashed⟩
      · simp only [List.filterMap_append, List.filterMap_cons, made, List.filterMap_nil,
          fileOf_concat, h.capture]
      · intro q mem
        rcases List.mem_append.mp mem with before | here
        · exact h.recorded q before
        · obtain rfl := List.mem_singleton.mp here
          rw [made]
          rfl
    · exact ⟨told ++ [p], shown, split', h.order.trans (List.sublist_append_left told [p]),
        h.capture, h.recorded, fun _ crashed => by cases crashed⟩
  | @raise p at_ raised =>
    have split := h.split
    rw [at_] at split
    refine ⟨told, shown, split, h.order, h.capture, h.recorded, ?_⟩
    intro q crashed
    obtain rfl : p = q := by simpa using crashed
    rcases newPacket_none raised with ⟨_, no_record⟩ | ⟨_, filter, _, no_signal⟩
    · rw [board] at no_record
      exact .inl no_record
    · rw [base.rssiFilter] at filter
      exact .inr ⟨filter, no_signal⟩
  | @refuse p at_ no_record =>
    rw [board] at no_record
    obtain ⟨before, last⟩ := base.atHand p (by rw [at_]; rfl)
    obtain rfl : told = before ++ [p] := by
      have split := h.split
      rw [at_] at split
      simpa [Worker.untold, last] using split.symm
    have absent : p ∉ shown := by
      intro mem
      have some_record := h.recorded p mem
      rw [no_record] at some_record
      cases some_record
    have order : shown.Sublist before := by
      have kept := h.order.filter (· ≠ p)
      have all : shown.filter (· ≠ p) = shown := by
        rw [List.filter_eq_self]
        intro q mem
        simp only [ne_eq, decide_eq_true_eq]
        rintro rfl
        exact absent mem
      rw [all, List.filter_append] at kept
      simp only [ne_eq, not_true_eq_false, decide_false, Bool.false_eq_true, not_false_eq_true,
        List.filter_cons_of_neg, List.filter_nil, List.append_nil] at kept
      exact kept.trans List.filter_sublist
    refine ⟨before, shown, last, order, h.capture, h.recorded, ?_⟩
    intro q crashed
    obtain rfl : p = q := by simpa using crashed
    exact .inl no_record
  | write at_ | follow a at_ | list at_ =>
    refine ⟨told, shown, h.still rfl ?_ rfl fun _ crashed => by cases crashed⟩
    rw [at_]
    rfl
  | startScanning | startFollowing | getPackets | setInFollowMode | setWriteNewPackets =>
    exact ⟨told, shown, h.still rfl rfl rfl fun _ crashed => crashed⟩

theorem piped_run
    (hrun : run step (started boardId rssiFilter writeNewPackets controlOut files) es = some w) :
    ∃ told shown, Piped boardId rssiFilter w told shown := by
  refine run_moved (P := fun _ w => ∃ told shown, Piped boardId rssiFilter w told shown) ?_ ?_ hrun
  · exact ⟨[], [], rfl, List.Sublist.refl [], fileOf_nil.symm, (fun _ mem => nomatch mem),
      fun _ crashed => by cases crashed⟩
  · rintro es w e w' base ⟨told, shown, h⟩ he
    exact piped_step base h he

theorem arrived_of_crashed
    (hrun : run step (started boardId rssiFilter writeNewPackets controlOut files) es = some w)
    {p : Processed} (at_ : w.worker = .crashed p) : p ∈ es.filterMap Event.arrival := by
  obtain ⟨told, shown, h⟩ := piped_run hrun
  rw [← (base_run hrun).processed, h.split, at_]
  simp [Worker.untold]

/-- What became of the events from one state of the thread to a later one: those that the callback
was told of, and one that it may still have to be told of. -/
structure Between (boardId : ℕ) (m : World) (es : List Event) (w : World)
    (told left : List Processed) : Prop where
  arrived : m.worker.untold ++ es.filterMap Event.arrival = told ++ left
  left : w.worker.untold = left ∨ left = [] ∧ ∃ p, w.worker = .crashed p
  extcap : w.extcap = { m.extcap with
    capture := m.extcap.capture ++
      ((told.filter m.extcap.wants).filterMap (recordOf boardId)).flatMap Record.write }
  recorded : ∀ p ∈ told.filter m.extcap.wants, (recordOf boardId p).isSome
  free : ∀ p ∈ told, ¬stumbles m.extcap p
  cause : ∀ p, w.worker = .crashed p →
    m.worker = .crashed p ∨ recordOf boardId p = none ∨ stumbles m.extcap p

private theorem Between.left_eq {m : World} {left : List Processed}
    (h : Between boardId m es w told left) (alive : ∀ p, w.worker ≠ .crashed p) :
    left = w.worker.untold := by
  rcases h.left with same | ⟨_, p, crashed⟩
  · exact same.symm
  · exact absurd crashed (alive p)

theorem Between.left_eq_nil {m : World} {left : List Processed}
    (h : Between boardId m es w told left) (waiting : w.worker = .waiting) : left = [] := by
  rw [h.left_eq (by simp [waiting]), waiting]
  rfl

theorem Between.still {m : World} {left : List Processed} (h : Between boardId m es w told left)
    (silent : e.arrival = none) (untold : w'.worker.untold = w.worker.untold)
    (extcap : w'.extcap = w.extcap)
    (dead : ∀ p, w'.worker = .crashed p ↔ w.worker = .crashed p) :
    Between boardId m (es ++ [e]) w' told left where
  arrived := by
    rw [List.filterMap_append, ← List.append_assoc, h.arrived]
    simp [silent]
  left := by
    rw [untold]
    exact h.left.imp id fun ⟨none_left, p, crashed⟩ => ⟨none_left, p, (dead p).mpr crashed⟩
  extcap := extcap.trans h.extcap
  recorded := h.recorded
  free := h.free
  cause p crashed := h.cause p ((dead p).mp crashed)

private theorem between_step {m : World} {left : List Processed}
    (base : Base boardId rssiFilter before w)
    (h : Between boardId m es w told left) (he : Moved w e w')
    (steady : changesSettings e = false) :
    ∃ told left, Between boardId m (es ++ [e]) w' told left := by
  have board := base.boardId
  cases he with
  | skip waiting logs silent => exact ⟨told, left, h.still silent rfl rfl fun _ => Iff.rfl⟩
  | fail waiting =>
    refine ⟨told, left, h.still rfl ?_ rfl (by simp [waiting])⟩
    rw [waiting]
    rfl
  | @append list time p waiting logs came =>
    refine ⟨told, [p], ?_, .inl rfl, h.extcap, h.recorded, h.free,
      fun _ crashed => by cases crashed⟩
    rw [List.filterMap_append, ← List.append_assoc, h.arrived, h.left_eq_nil waiting]
    simp [came]
  | @notify p x at_ came =>
    have last : left = [p] := by
      rw [h.left_eq (by simp [at_]), at_]
      rfl
    have arrived : m.worker.untold ++ (es ++ [Event.proceed]).filterMap Event.arrival =
        (told ++ [p]) ++ [] := by
      rw [List.filterMap_append, ← List.append_assoc, h.arrived, last]
      simp [Event.arrival]
    have wants : w.extcap.wants p = m.extcap.wants p := by
      rw [h.extcap]
      rfl
    refine ⟨told ++ [p], [], arrived, .inl rfl, ?_, ?_, ?_, fun _ crashed => by cases crashed⟩
    · rcases newPacket_some came with ⟨wanted, r, made, rfl⟩ | ⟨unwanted, rfl⟩
      · rw [board] at made
        rw [wants] at wanted
        rw [h.extcap]
        simp [wanted, made]
      · rw [wants] at unwanted
        rw [h.extcap]
        simp [unwanted]
    · intro q mem
      rw [List.filter_append, List.mem_append] at mem
      rcases mem with before | here
      · exact h.recorded q before
      · obtain ⟨here, wanted⟩ := List.mem_filter.mp here
        obtain rfl := List.mem_singleton.mp here
        rw [← wants] at wanted
        rcases newPacket_some came with ⟨_, r, made, _⟩ | ⟨unwanted, _⟩
        · rw [board] at made
          rw [made]
          rfl
        · rw [wanted] at unwanted
          cases unwanted
    · intro q mem
      rcases List.mem_append.mp mem with before | here
      · exact h.free q before
      · obtain rfl := List.mem_singleton.mp here
        have through := not_stumbles_of_newPacket came
        rw [h.extcap] at through
        exact through
  | @raise p at_ raised =>
    have last : left = [p] := by
      rw [h.left_eq (by simp [at_]), at_]
      rfl
    refine ⟨told, left, ?_, .inl last.symm, h.extcap, h.recorded, h.free, ?_⟩
    · rw [List.filterMap_append, ← List.append_assoc, h.arrived]
      simp [Event.arrival]
    · intro q crashed
      obtain rfl : p = q := by simpa using crashed
      right
      rcases newPacket_none raised with ⟨_, no_record⟩ | stumbled
      · rw [board] at no_record
        exact .inl no_record
      · rw [h.extcap] at stumbled
        exact .inr stumbled
  | @refuse p at_ no_record =>
    have nothing : left = [] := by
      rw [h.left_eq (by simp [at_]), at_]
      rfl
    rw [board] at no_record
    refine ⟨told, left, ?_, .inr ⟨nothing, p, rfl⟩, h.extcap, h.recorded, h.free, ?_⟩
    · rw [List.filterMap_append, ← List.append_assoc, h.arrived]
      simp [Event.arrival]
    · intro q crashed
      obtain rfl : p = q := by simpa using crashed
      exact .inr (.inl no_record)
  | write at_ | follow a at_ | list at_ =>
    refine ⟨told, left, h.still rfl ?_ rfl (by simp [at_])⟩
    rw [at_]
    rfl
  | startScanning | startFollowing | getPackets =>
    exact ⟨told, left, h.still rfl rfl rfl fun _ => Iff.rfl⟩
  | setInFollowMode | setWriteNewPackets => cases steady

/-- From any state of the thread on, as long as nobody changes its settings, the pipe gets the
records of what the settings want, in order. -/
theorem between_of_run {m : World} (base : Base boardId rssiFilter before m)
    (hrun : run step m es = some w) (steady : Steady es) :
    ∃ told left, Between boardId m es w told left := by
  refine run_induction (P := fun es w => ∃ told left, Between boardId m es w told left) ?_ ?_ hrun
  · exact ⟨[], m.worker.untold, by simp, .inl rfl, by simp, by simp, by simp, fun _ => .inl⟩
  · rintro es' e w w' reached ⟨told, left, h⟩ whole he
    have here := base_of_run base reached
    have moved := moved_of_step here.unconnected.switchingBaudRate he
    exact between_step here h moved (steady e (whole.subset (by simp)))

def settings (rssiFilter : ℤ) (writeNewPackets controlOut : Bool) : Extcap :=
  ⟨writeNewPackets, rssiFilter, false, controlOut, getGlobalHeader⟩

private theorem between_started
    (hrun : run step (started boardId rssiFilter writeNewPackets controlOut files) es = some w)
    (steady : Steady es) : ∃ told left,
      Between boardId (started boardId rssiFilter writeNewPackets controlOut files) es w told left :=
  between_of_run base_started hrun steady

private theorem exists_shown
    (hrun : run step (started boardId rssiFilter writeNewPackets controlOut files) es = some w) :
    ∃ shown : List Processed, shown.Sublist (es.filterMap Event.arrival) ∧
      (∀ p ∈ shown, (recordOf boardId p).isSome) ∧
      w.extcap.capture = fileOf (shown.filterMap (recordOf boardId)) ∧
      (Steady es → w.worker = .waiting →
        shown = (es.filterMap Event.arrival).filter
          (settings rssiFilter writeNewPackets controlOut).wants) := by
  by_cases steady : Steady es
  · obtain ⟨told, left, h⟩ := between_started hrun steady
    have all : es.filterMap Event.arrival = told ++ left := h.arrived
    refine ⟨told.filter (settings rssiFilter writeNewPackets controlOut).wants, ?_, h.recorded,
      ?_, ?_⟩
    · rw [all]
      exact List.filter_sublist.trans (List.sublist_append_left told left)
    · exact congrArg Extcap.capture h.extcap
    · intro _ waiting
      rw [all, h.left_eq_nil waiting, List.append_nil]
  · obtain ⟨told, shown, h⟩ := piped_run hrun
    refine ⟨shown, ?_, h.recorded, h.capture, fun yes => absurd yes steady⟩
    rw [← (base_run hrun).processed, h.split]
    exact h.order.trans (List.sublist_append_left told _)

structure Written (boardId : ℕ) (start : Files) (w : World) (written : List Processed) : Prop where
  split : w.processed = written ++ w.worker.unwritten
  recorded : ∀ p ∈ written, (recordOf boardId p).isSome
  capture : w.collector.files.capture =
    some (start.capture.getD [] ++ (written.filterMap (recordOf boardId)).flatMap Record.write)
  backup : w.collector.files.backup = start.backup
  counted : w.collector.nProcessedPackets = written.length

private theorem written_step {start : Files} (base : Base boardId rssiFilter es w)
    (h : Written boardId start w written) (he : Moved w e w') :
    ∃ written, Written boardId start w' written := by
  have board := base.boardId
  obtain ⟨split, recorded, capture, backup, counted⟩ := h
  cases he with
  | skip => exact ⟨written, split, recorded, capture, backup, counted⟩
  | fail waiting =>
    refine ⟨written, ?_, recorded, capture, backup, counted⟩
    rw [waiting] at split
    exact split
  | @append list time p waiting logs arrived =>
    refine ⟨written, ?_, recorded, capture, backup, counted⟩
    rw [waiting] at split
    simp only [World.append, split, Worker.unwritten, List.append_nil]
  | @write p r at_ made =>
    rw [board] at made
    refine ⟨written ++ [p], ?_, ?_, ?_, backup, ?_⟩
    · rw [at_] at split
      simpa [Worker.unwritten] using split
    · intro q mem
      rcases List.mem_append.mp mem with before | here
      · exact recorded q before
      · obtain rfl := List.mem_singleton.mp here
        rw [made]
        rfl
    · simp only [capture, Option.getD_some, List.filterMap_append, List.filterMap_cons, made,
        List.filterMap_nil, List.flatMap_append, List.flatMap_cons, List.flatMap_nil,
        List.append_nil, List.append_assoc]
    · rw [List.length_append, List.length_singleton, ← counted]
  | notify at_ | raise at_ | refuse at_ | follow a at_ | list at_ =>
    refine ⟨written, ?_, recorded, capture, backup, counted⟩
    rw [at_] at split
    exact split
  | startScanning | startFollowing | getPackets | setInFollowMode | setWriteNewPackets =>
    exact ⟨written, split, recorded, capture, backup, counted⟩

theorem written_run
    (hrun : run step (started boardId rssiFilter writeNewPackets controlOut files) es = some w) :
    ∃ written, Written boardId (openHandler false files) w written := by
  refine run_moved (P := fun _ w => ∃ written, Written boardId (openHandler false files) w written)
    ?_ ?_ hrun
  · obtain ⟨bytes, file⟩ := Capture.exists_capture_openHandler false files
    refine ⟨[], rfl, (fun _ mem => nomatch mem), ?_, rfl, rfl⟩
    simp [started, file]
  · rintro es w e w' base ⟨written, h⟩ he
    exact written_step base h he

/-- Whoever fetches packets, and whenever: what has been fetched and what is left in the buffer
stands in the order in which it came in, 20000 events are missing for each time that the buffer was
full, and it never holds more than 100001. -/
theorem buffer_accounts
    (hrun : run step (started boardId rssiFilter writeNewPackets controlOut files) es = some w) :
    Accounts 100000 20000 (es.filterMap Event.arrival) w.fetched w.collector.packets w.sheds := by
  rw [← (base_run hrun).processed]
  refine run_moved (P := fun _ w => Accounts 100000 20000 w.processed w.fetched w.collector.packets
    w.sheds) (accounts_nil _ _) ?_ hrun
  intro es w e w' _ h he
  cases he with
  | append waiting logs arrived => exact h.push (by decide) (by decide) _
  | getPackets number => exact h.take _
  | skip | fail | notify | raise | write | refuse | follow | list | startScanning |
    startFollowing | setInFollowMode | setWriteNewPackets => exact h

def twoEvents : List Event := oneEvent 10 4 ++ Event.getPackets 1 :: oneEvent 9 4

theorem buffer_accounts_two : ∃ w,
    run step (started 3 0 true false Capture.noFiles) twoEvents = some w ∧
      w.fetched.length = 1 ∧ w.collector.packets.length = 1 ∧
      Accounts 100000 20000 (twoEvents.filterMap Event.arrival) w.fetched w.collector.packets
        w.sheds := by
  have hrun : run step (started 3 0 true false Capture.noFiles) twoEvents = some _ := rfl
  exact ⟨_, hrun, rfl, rfl, buffer_accounts hrun⟩

private theorem of_recordOf {p : Processed} {r : Record} (h : recordOf boardId p = some r) :
    (r.packet, r.time) = (UInt8.ofNat boardId :: p.packet.packetList, p.time) := by
  obtain ⟨packet, captured, made⟩ := Option.bind_eq_some_iff.mp h
  simp only [Capture.captured, Option.ite_none_right_eq_some, Option.some_inj] at captured
  obtain ⟨_, rfl⟩ := captured
  simp only [Record.of, Option.dite_none_right_eq_some, Option.some_inj] at made
  obtain ⟨_, rfl⟩ := made
  rfl

theorem map_recordOf {ps : List Processed} (recorded : ∀ p ∈ ps, (recordOf boardId p).isSome) :
    (ps.filterMap (recordOf boardId)).map (fun r => (r.packet, r.time)) =
      ps.map fun p => (UInt8.ofNat boardId :: p.packet.packetList, p.time) := by
  induction ps with
  | nil => rfl
  | cons p ps ih =>
    obtain ⟨r, made⟩ := Option.isSome_iff_exists.mp (recorded p List.mem_cons_self)
    have rest := ih fun q mem => recorded q (List.mem_cons_of_mem _ mem)
    rw [List.filterMap_cons_some made, List.map_cons, List.map_cons, rest, of_recordOf made]

theorem of_arrival {p : Processed} (h : e.arrival = some p) :
    ∃ list, e = .receive list p.time ∧ Packet.ofList list = some p.packet ∧
      p.packet.id = EVENT_PACKET := by
  cases e with
  | receive list time =>
    obtain ⟨packet, made, h⟩ := Option.bind_eq_some_iff.mp h
    simp only [Option.ite_none_right_eq_some, Option.some_inj] at h
    obtain ⟨isEvent, rfl⟩ := h
    exact ⟨list, rfl, made, isEvent⟩
  | raise | proceed | startScanning | startFollowing | getPackets | setInFollowMode |
    setWriteNewPackets => cases h

def Whole (p : Processed) : Prop :=
  readHeader p.packet.packetList = some p.packet.toHeader ∧
    p.packet.payloadLength + HEADER_LENGTH = p.packet.packetList.length

theorem whole_of_ofList {list : List UInt8} {packet : Packet}
    (made : Packet.ofList list = some packet) (time : Capture.Time) : Whole ⟨packet, time⟩ := by
  have consistent := consistent_of_ofList made
  exact ⟨consistent.header, by simpa [validatePacketList] using consistent.length⟩

theorem whole_of_arrival {p : Processed} (h : p ∈ es.filterMap Event.arrival) : Whole p := by
  obtain ⟨e, _, arrived⟩ := List.mem_filterMap.mp h
  obtain ⟨list, _, made, _⟩ := of_arrival arrived
  exact whole_of_ofList made p.time

/-- An event only lacks a record for the number of the board, or for its time. -/
theorem recordOf_isSome {p : Processed} (byte : boardId < 256) (fits : p.time.Fits)
    (whole : Whole p) : (recordOf boardId p).isSome := by
  obtain ⟨read, length⟩ := whole
  have short := payloadLength_lt read
  have six : HEADER_LENGTH = 6 := rfl
  have room : (UInt8.ofNat boardId :: p.packet.packetList).length < 256 ^ 4 := by
    rw [List.length_cons, ← length]
    omega
  have taken : Capture.captured boardId p.packet.packetList =
      some (UInt8.ofNat boardId :: p.packet.packetList) := if_pos byte
  have made : Record.of (UInt8.ofNat boardId :: p.packet.packetList) p.time =
      some ⟨p.time, UInt8.ofNat boardId :: p.packet.packetList, fits.1, fits.2, room⟩ :=
    dif_pos ⟨fits.1, fits.2, room⟩
  simp only [recordOf, Capture.Packet.record, Processed.forFile, taken, Option.bind_some, made,
    Option.isSome_some]

/-- Whatever bytes come in, and whatever other threads do: the capture pipe is a header and whole
records, each of them the number of the board and a list that is as long as its header says; they
are of events that came in, in their order, each at most once.  Under settings that nobody changes,
they are of all events that the filter lets through. -/
theorem pipe_in_order
    (hrun : run step (started boardId rssiFilter writeNewPackets controlOut files) es = some w) :
    ∃ shown rs, shown.Sublist (es.filterMap Event.arrival) ∧ (∀ p ∈ shown, Whole p) ∧
      w.extcap.capture.take 24 = getGlobalHeader ∧
      records.readAll (w.extcap.capture.drop 24) = (rs, []) ∧
      rs.map (fun r => (r.packet, r.time)) =
        shown.map (fun p => (UInt8.ofNat boardId :: p.packet.packetList, p.time)) ∧
      (Steady es → w.worker = .waiting →
        shown = (es.filterMap Event.arrival).filter
          (settings rssiFilter writeNewPackets controlOut).wants) := by
  obtain ⟨shown, order, recorded, capture, wanted⟩ := exists_shown hrun
  obtain ⟨head, records⟩ := Capture.read_fileOf (shown.filterMap (recordOf boardId))
  refine ⟨shown, shown.filterMap (recordOf boardId), order, ?_, ?_, ?_, map_recordOf recorded,
    wanted⟩
  · intro p mem
    exact whole_of_arrival (order.subset mem)
  · rw [capture]
    exact head
  · rw [capture]
    exact records

theorem pipe_in_order_two : ∃ (w : World) (shown : List Processed) (rs : List Record),
    run step (started 3 0 true false Capture.noFiles) twoEvents = some w ∧ shown.length = 2 ∧
      records.readAll (w.extcap.capture.drop 24) = (rs, []) ∧
      rs.map (fun r => (r.packet, r.time)) =
        shown.map (fun p => ((3 : UInt8) :: p.packet.packetList, p.time)) := by
  have hrun : run step (started 3 0 true false Capture.noFiles) twoEvents = some _ := rfl
  have steady : Steady twoEvents := by
    simp [Steady, twoEvents, oneEvent, changesSettings]
  obtain ⟨shown, rs, _, _, _, read, same, wanted⟩ := pipe_in_order hrun
  have both : shown.length = 2 := by
    rw [wanted steady rfl]
    rfl
  exact ⟨_, shown, rs, hrun, both, read, same⟩

structure Logged (es : List Event) (w : World) : Prop where
  last : w.lastReceivedPacket = lastPacket (es.filterMap Event.list)
  whole : ∀ list, Event.raise list ∉ es
  fits : w.extcap.controlOut = true → ∀ before list,
    before ++ [list] <+: es.filterMap Event.list → taken (lastPacket before) list = true

def Lost (es : List Event) (w : World) (list : List UInt8) : Prop :=
  w.extcap.controlOut = true ∧
    ∃ before, es.filterMap Event.list = before ++ [list] ∧ taken (lastPacket before) list = false

/-- As long as no list was lost, and after one was. -/
structure Survey (controlOut : Bool) (es : List Event) (w : World) : Prop where
  controlOut : w.extcap.controlOut = controlOut
  logged : (∀ list, w.worker ≠ .unlogged list) → Logged es w
  lost : ∀ list, w.worker = .unlogged list → Lost es w list

theorem Survey.still (h : Survey controlOut es w) (silent : e.list = none)
    (last : w'.lastReceivedPacket = w.lastReceivedPacket)
    (same : w'.extcap.controlOut = w.extcap.controlOut)
    (worker : ∀ list, w'.worker = .unlogged list ↔ w.worker = .unlogged list) :
    Survey controlOut (es ++ [e]) w' := by
  have lists : (es ++ [e]).filterMap Event.list = es.filterMap Event.list := by
    simp [List.filterMap_append, silent]
  refine ⟨same.trans h.controlOut, ?_, ?_⟩
  · intro alive
    have logged := h.logged fun list at_ => alive list ((worker list).mpr at_)
    refine ⟨by rw [last, lists, logged.last], ?_, ?_⟩
    · intro list mem
      rcases List.mem_append.mp mem with old | new
      · exact logged.whole list old
      · rw [← List.mem_singleton.mp new] at silent
        cases silent
    · rw [same, lists]
      exact logged.fits
  · intro list at_
    obtain ⟨log, before, came, long⟩ := h.lost list ((worker list).mp at_)
    exact ⟨same.trans log, before, lists.trans came, long⟩

theorem Survey.receive {list : List UInt8} {time : Capture.Time} (h : Survey controlOut es w)
    (waiting : w.worker = .waiting) (logs : w.logs list = true)
    (last : w'.lastReceivedPacket = (Packet.ofList list).or w.lastReceivedPacket)
    (same : w'.extcap.controlOut = w.extcap.controlOut)
    (alive : ∀ list, w'.worker ≠ .unlogged list) :
    Survey controlOut (es ++ [.receive list time]) w' := by
  have lists : (es ++ [Event.receive list time]).filterMap Event.list =
      es.filterMap Event.list ++ [list] := by
    simp [List.filterMap_append, Event.list]
  have logged := h.logged (by simp [waiting])
  refine ⟨same.trans h.controlOut, fun _ => ⟨?_, ?_, ?_⟩, fun list at_ => absurd at_ (alive list)⟩
  · rw [last, lists, lastPacket_concat, logged.last]
  · intro list' mem
    rcases List.mem_append.mp mem with old | new
    · exact logged.whole list' old
    · cases List.mem_singleton.mp new
  · intro log before list' part
    rw [same] at log
    rw [lists, List.prefix_concat_iff] at part
    rcases part with all | part
    · obtain ⟨rfl, one⟩ := List.append_inj' all rfl
      obtain rfl := List.singleton_inj.mp one
      rw [← logged.last]
      simpa [World.logs, log] using logs
    · exact logged.fits log before list' part

private theorem survey_step (h : Survey controlOut es w) (he : Moved w e w') :
    Survey controlOut (es ++ [e]) w' := by
  cases he with
  | skip waiting logs => exact h.receive waiting logs rfl rfl (by simp [waiting])
  | append waiting logs => exact h.receive waiting logs rfl rfl (by simp [World.append])
  | @fail list waiting lost =>
    obtain ⟨log, long⟩ : w.extcap.controlOut = true ∧ taken w.lastReceivedPacket list = false := by
      simpa [World.logs] using lost
    rw [(h.logged (by simp [waiting])).last] at long
    refine ⟨h.controlOut, fun alive => absurd rfl (alive list), ?_⟩
    intro list' at_
    obtain rfl := Worker.unlogged.inj at_
    exact ⟨log, es.filterMap Event.list, by simp [List.filterMap_append, Event.list], long⟩
  | notify at_ came =>
    refine h.still rfl rfl ?_ (by simp [at_])
    rcases newPacket_some came with ⟨_, _, _, rfl⟩ | ⟨_, rfl⟩ <;> rfl
  | raise at_ | write at_ | refuse at_ | follow a at_ | list at_ =>
    exact h.still rfl rfl rfl (by simp [at_])
  | startScanning | startFollowing | getPackets | setInFollowMode | setWriteNewPackets =>
    exact h.still rfl rfl rfl fun _ => Iff.rfl

theorem survey_run
    (hrun : run step (started boardId rssiFilter writeNewPackets controlOut files) es = some w) :
    Survey controlOut es w := by
  refine run_moved (P := Survey controlOut) ?_ ?_ hrun
  · refine ⟨rfl, fun _ => ⟨rfl, fun _ mem => (List.not_mem_nil mem).elim, ?_⟩,
      fun _ at_ => by cases at_⟩
    intro _ before list part
    cases before <;> cases List.prefix_nil.mp part
  · intro es w e w' _ h he
    exact survey_step h he

private theorem Survey.of_unlogged {list : List UInt8} (h : Survey controlOut es w)
    (at_ : w.worker = .unlogged list) :
    controlOut = true ∧ ∃ before, es.filterMap Event.list = before ++ [list] ∧
      taken (lastPacket before) list = false := by
  obtain ⟨log, before, came, long⟩ := h.lost list at_
  exact ⟨h.controlOut.symm.trans log, before, came, long⟩

theorem not_lost_of_short {list : List UInt8}
    (short : ∀ list ∈ es.filterMap Event.list, list.length ≤ 6500) : ¬Lost es w list := by
  rintro ⟨_, before, came, long⟩
  have log : taken (lastPacket before) list = true := by
    apply taken_of_short (short list (by simp [came]))
    intro packet known
    obtain ⟨list', mem, made⟩ := exists_of_lastPacket known
    exact ⟨list', made, short list' (by simp [came, mem])⟩
  rw [log] at long
  cases long

/-- As long as the number of the board is a byte and times have room: the thread ends on an event
without RSSI while there is a filter, and, where the log goes to the toolbar, on a list whose message
in the log is too long, which needs lists of more than 6500 bytes, but on nothing else.  Under
settings that nobody changes, it always ends on the first of them. -/
theorem thread_dies_iff (byte : boardId < 256)
    (times : ∀ p ∈ es.filterMap Event.arrival, p.time.Fits)
    (hrun : run step (started boardId rssiFilter writeNewPackets controlOut files) es = some w) :
    (∀ p, w.worker = .crashed p → rssiFilter ≠ 0 ∧ p.packet.rssi = none) ∧
      (∀ list, w.worker = .unlogged list → controlOut = true ∧
        ∃ before, es.filterMap Event.list = before ++ [list] ∧
          taken (lastPacket before) list = false) ∧
      ((∀ list ∈ es.filterMap Event.list, list.length ≤ 6500) →
        ∀ list, w.worker ≠ .unlogged list) ∧
      (Steady es → w.worker.atHand = none ∨ w.worker.ended = true →
        (w.worker.ended = true ↔
          (writeNewPackets = true ∧ rssiFilter ≠ 0 ∧
            ∃ p ∈ es.filterMap Event.arrival, p.packet.rssi = none) ∨
          (controlOut = true ∧ ∃ before list, before ++ [list] <+: es.filterMap Event.list ∧
            taken (lastPacket before) list = false))) := by
  obtain ⟨told, shown, h⟩ := piped_run hrun
  have survey := survey_run hrun
  have recorded {p : Processed} (at_ : w.worker = .crashed p) : recordOf boardId p ≠ none := by
    have mem := arrived_of_crashed hrun at_
    exact Option.isSome_iff_ne_none.mp (recordOf_isSome byte (times p mem) (whole_of_arrival mem))
  refine ⟨fun p at_ => (h.cause p at_).resolve_left (recorded at_),
    fun list at_ => survey.of_unlogged at_,
    fun short list at_ => not_lost_of_short short (survey.lost list at_), ?_⟩
  intro steady idle
  obtain ⟨told', left, between⟩ := between_started hrun steady
  constructor
  · intro ended
    cases at_ : w.worker with
    | crashed p =>
      left
      have stumbled := ((between.cause p at_).resolve_left (by simp [started])).resolve_left
        (recorded at_)
      exact ⟨stumbled.1, stumbled.2.1, p, arrived_of_crashed hrun at_, stumbled.2.2.2⟩
    | unlogged list =>
      right
      obtain ⟨log, before, came, long⟩ := survey.of_unlogged at_
      exact ⟨log, before, list, by rw [came], long⟩
    | waiting | appended | notified | written | followed =>
      rw [at_] at ended
      cases ended
  · intro cause
    by_contra alive
    have waiting := Worker.eq_waiting (idle.resolve_right alive) (Bool.eq_false_iff.mpr alive)
    rcases cause with ⟨writes, filter, p, mem, no_signal⟩ | ⟨log, before, list, part, long⟩
    · have came : es.filterMap Event.arrival = told' ++ left := between.arrived
      rw [came, between.left_eq_nil waiting, List.append_nil] at mem
      exact between.free p mem ⟨writes, filter, rfl, no_signal⟩
    · have logged := survey.logged (by simp [waiting])
      rw [logged.fits (survey.controlOut.trans log) before list part] at long
      cases long

/-- With a filter, an event whose header has nine bytes, or a list that is much too long. -/
theorem thread_dies_iff_short :
    (∃ w p, run step (started 3 (-50) true true Capture.noFiles) (oneEvent 9 1) = some w ∧
      w.worker = .crashed p ∧ p.packet.rssi = none) ∧
    ∃ w list, run step (started 3 0 true true Capture.noFiles) [.raise list] = some w ∧
      w.worker = .unlogged list ∧ 6500 < list.length := by
  constructor
  · have hrun : run step (started 3 (-50) true true Capture.noFiles) (oneEvent 9 1) = some _ := rfl
    have times : ∀ p ∈ (oneEvent 9 1).filterMap Event.arrival, p.time.Fits := by
      intro p mem
      obtain ⟨e, here, arrived⟩ := List.mem_filterMap.mp mem
      obtain ⟨list, rfl, _⟩ := of_arrival arrived
      rcases List.mem_cons.mp here with first | later
      · rw [(Event.receive.inj first).2]
        exact ⟨by decide, by decide⟩
      · cases List.eq_of_mem_replicate later
    have dies := thread_dies_iff (show 3 < 256 by decide) times hrun
    exact ⟨_, _, hrun, rfl, (dies.1 _ rfl).2⟩
  · obtain ⟨list, long, invalid⟩ :
        ∃ list : List UInt8, 21846 ≤ list.length ∧ Packet.ofList list = none :=
      ⟨List.replicate 30000 0, by rw [List.length_replicate]; decide, rfl⟩
    have lost := not_taken_of_long none invalid long
    have hrun : run step (started 3 0 true true Capture.noFiles) [.raise list] =
        some { started 3 0 true true Capture.noFiles with worker := .unlogged list } := by
      rw [run_singleton, step, if_pos ⟨rfl, by simp [World.logs, started, lost]⟩]
    have dies := thread_dies_iff (show 3 < 256 by decide) (by simp [Event.arrival]) hrun
    refine ⟨_, list, hrun, rfl, Nat.lt_of_not_le ?_⟩
    intro short
    exact dies.2.2.1 (by simpa [Event.list] using short) list rfl

/-- The capture file begins with what was in it, and goes on with the records of all events that
came in, filtered or not, but for the one at hand; the counter counts them. -/
theorem file_holds_events
    (hrun : run step (started boardId rssiFilter writeNewPackets controlOut files) es = some w) :
    ∃ (old : List UInt8) (written : List Processed) (rs : List Record),
      (openHandler false files).capture = some old ∧
      w.collector.files.capture = some (old ++ rs.flatMap Record.write) ∧
      w.collector.files.backup = (openHandler false files).backup ∧
      es.filterMap Event.arrival = written ++ w.worker.unwritten ∧
      rs.map (fun r => (r.packet, r.time)) =
        written.map (fun p => (UInt8.ofNat boardId :: p.packet.packetList, p.time)) ∧
      w.collector.nProcessedPackets = written.length := by
  obtain ⟨written, h⟩ := written_run hrun
  obtain ⟨old, file⟩ := Capture.exists_capture_openHandler false files
  refine ⟨old, written, written.filterMap (recordOf boardId), file, ?_, h.backup, ?_,
    map_recordOf h.recorded, h.counted⟩
  · rw [h.capture, file]
    rfl
  · rw [← h.split]
    exact (base_run hrun).processed.symm

theorem file_holds_events_two : ∃ (w : World) (old : List UInt8) (written : List Processed)
    (rs : List Record),
    run step (started 3 0 true false Capture.noFiles) twoEvents = some w ∧ written.length = 2 ∧
      w.collector.files.capture = some (old ++ rs.flatMap Record.write) ∧
      rs.map (fun r => (r.packet, r.time)) =
        written.map (fun p => ((3 : UInt8) :: p.packet.packetList, p.time)) := by
  have hrun : run step (started 3 0 true false Capture.noFiles) twoEvents = some _ := rfl
  obtain ⟨old, written, rs, _, file, _, _, same, counted⟩ := file_holds_events hrun
  exact ⟨_, old, written, rs, hrun, counted.symm, file, same⟩

/-- The events that a scanning collector has looked at for its list of devices. -/
structure Listed (w : World) (listed : List Processed) : Prop where
  scanning : w.collector.state = .scanning
  split : w.processed = listed ++ w.worker.atHand.toList
  devices : w.collector.devices =
    calls ((listed.filterMap fun p => scanned p.packet).map .appendOrUpdate)

private theorem sighted_calls (cs : List Devices.Call) (sighting : Option Devices.Device) :
    sighted (calls cs) sighting = calls (cs ++ sighting.toList.map .appendOrUpdate) := by
  cases sighting with
  | none =>
    rw [Option.toList_none, List.map_nil, List.append_nil]
    rfl
  | some d =>
    rw [Option.toList_some, List.map_singleton]
    unfold calls
    rw [List.foldl_concat]
    rfl

private theorem listed_step {listed : List Processed} (h : Listed w listed) (he : Moved w e w')
    (stays : e ≠ .startFollowing) : ∃ listed, Listed w' listed := by
  obtain ⟨scanning, split, devices⟩ := h
  cases he with
  | skip => exact ⟨listed, scanning, split, devices⟩
  | fail waiting =>
    refine ⟨listed, scanning, ?_, devices⟩
    rw [waiting] at split
    exact split
  | @append list time p waiting logs arrived =>
    refine ⟨listed, scanning, ?_, devices⟩
    rw [waiting] at split
    simp only [World.append, split, Worker.atHand, Option.toList_none, Option.toList_some,
      List.append_nil]
  | @follow p a at_ =>
    refine ⟨listed, scanning, ?_, ?_⟩
    · rw [at_] at split
      exact split
    · have idle : ¬w.collector.state = .following := by
        rw [scanning]
        decide
      dsimp only
      rw [if_neg idle, devices, sighted_calls, Option.toList_none, List.map_nil, List.append_nil]
  | @list p at_ =>
    refine ⟨listed ++ [p], scanning, ?_, ?_⟩
    · rw [at_] at split
      simpa [Worker.atHand] using split
    · dsimp only
      rw [if_pos scanning, devices, sighted_calls, ← List.map_append, List.filterMap_append]
      cases heard : scanned p.packet <;> simp [heard]
  | notify at_ | raise at_ | write at_ | refuse at_ =>
    refine ⟨listed, scanning, ?_, devices⟩
    rw [at_] at split
    exact split
  | startScanning => exact ⟨listed, rfl, split, devices⟩
  | startFollowing => exact absurd rfl stays
  | getPackets | setInFollowMode | setWriteNewPackets => exact ⟨listed, scanning, split, devices⟩

theorem listed_run
    (hrun : run step (started boardId rssiFilter writeNewPackets controlOut files)
      (.startScanning :: es) = some w)
    (stays : Event.startFollowing ∉ es) : ∃ listed, Listed w listed := by
  obtain ⟨m, begun, rest⟩ := run_cons_eq_some.mp hrun
  obtain rfl := Option.some_inj.mp begun
  have both : (∃ before, Base boardId rssiFilter before w) ∧ ∃ listed, Listed w listed := by
    refine run_invariant (I := fun m => (∃ before, Base boardId rssiFilter before m) ∧
      ∃ listed, Listed m listed) ?_ ?_ rest
    · rintro m e m' mem ⟨⟨before, base⟩, listed, h⟩ he
      have moved := moved_of_step base.unconnected.switchingBaudRate he
      refine ⟨⟨before ++ [e], base_step base moved⟩, listed_step h moved ?_⟩
      rintro rfl
      exact stays mem
    · exact ⟨⟨[.startScanning], base_run (run_singleton _ _ _)⟩, [], rfl, rfl, rfl⟩
  exact both.2

theorem right_of_scanning
    (hrun : run step (started boardId rssiFilter writeNewPackets controlOut files)
      (.startScanning :: es) = some w)
    (stays : Event.startFollowing ∉ es) (waiting : w.worker = .waiting) :
    Devices.Right (((es.filterMap Event.arrival).filterMap fun p => scanned p.packet).map
      .appendOrUpdate) w.collector.devices := by
  obtain ⟨listed, h⟩ := listed_run hrun stays
  have all : es.filterMap Event.arrival = listed := by
    have split := h.split
    rw [waiting, (base_run hrun).processed] at split
    rw [List.filterMap_cons_none (by rfl : Event.startScanning.arrival = none)] at split
    simpa [Worker.atHand] using split
  rw [all, h.devices]
  exact right_calls _

/-- While the collector scans and the thread waits, the list of devices tells of the advertisements
with a right checksum that came in, and of nothing else: each address is in it once, exactly when
it was heard, with the first name it has sent and a signal close to the last. -/
theorem devices_while_scanning
    (hrun : run step (started boardId rssiFilter writeNewPackets controlOut files)
      (.startScanning :: es) = some w)
    (stays : Event.startFollowing ∉ es) (waiting : w.worker = .waiting) :
    (w.collector.devices.devices.map Devices.Device.address).Nodup ∧
      ∀ address, Tells
        (((es.filterMap Event.arrival).filterMap fun p => scanned p.packet).filter
          (·.address = address))
        (find w.collector.devices.devices address) := by
  have right := right_of_scanning hrun stays waiting
  refine ⟨right.distinct, ?_⟩
  intro address
  rw [← heard_sightings]
  exact right.tells address

/-- A directed advertisement with a right checksum comes in, and then an event with a wrong one. -/
def advertisementFirst : List Event :=
  .receive [6, 23, 1, 0, 0, 6, 10, 1, 37, 40, 0, 0, 0, 0, 0, 0, 0xD6, 0xBE, 0x89, 0x8E, 1, 6, 0,
    6, 5, 4, 3, 2, 1] ⟨99, 0⟩ :: List.replicate 4 .proceed ++ oneEvent 10 4

theorem devices_while_scanning_advertisement : ∃ w device,
    run step (started 3 0 true false Capture.noFiles) (.startScanning :: advertisementFirst) =
        some w ∧
      find w.collector.devices.devices ⟨[1, 2, 3, 4, 5, 6], false⟩ = some device ∧
      device.name = "[ADV_DIRECT_IND]".toList ∧
      (w.collector.devices.devices.map Devices.Device.address).Nodup ∧
      Tells [device] (find w.collector.devices.devices ⟨[1, 2, 3, 4, 5, 6], false⟩) := by
  have hrun : run step (started 3 0 true false Capture.noFiles)
    (.startScanning :: advertisementFirst) = some _ := rfl
  have stays : Event.startFollowing ∉ advertisementFirst := by
    simp [advertisementFirst, oneEvent]
  obtain ⟨distinct, tells⟩ := devices_while_scanning hrun stays rfl
  exact ⟨_, _, hrun, rfl, rfl, distinct, tells ⟨[1, 2, 3, 4, 5, 6], false⟩⟩

end Runs

end ProximityLed.Sniffer.ThreadRuns
