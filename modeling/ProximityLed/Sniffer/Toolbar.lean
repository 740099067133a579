/- ProximityLed/Sniffer/Toolbar
   digest: What the capture program does for the toolbar: devices, keys, channels, and its start. -/

import ProximityLed.Library.Run
import ProximityLed.Sniffer.ControlChannel
import ProximityLed.Sniffer.Requests
import ProximityLed.Sniffer.SnifferCollector

set_option autoImplicit false
set_option relaxedAutoImplicit false

namespace ProximityLed.Sniffer.Toolbar

open Library.Endian
open Library.Run
open Library.Text
open ControlChannel
open Requests (PacketReader AllSent numbers packetOf)
open SnifferCollector (State)
open OnAir (Address)

/-- The spaces that `int` skips in bytes, and in text of ASCII. -/
def isSpace (c : Char) : Bool := c.toNat ∈ [9, 10, 11, 12, 13, 32]

def digit (c : Char) : Option ℕ := if c.isDigit then some (c.toNat - 48) else none

/-- The spaces that `int` skips in text. -/
def isWideSpace (c : Char) : Bool :=
  isSpace c || c.toNat ∈ [0x85, 0xA0, 0x1680, 0x2028, 0x2029, 0x202F, 0x205F, 0x3000] ||
    (0x2000 ≤ c.toNat ∧ c.toNat ≤ 0x200A)

/-- The zeros of all scripts that write numbers in decimal digits. -/
def zeros : List ℕ := [0x30, 0x660, 0x6F0, 0x7C0, 0x966, 0x9E6, 0xA66, 0xAE6, 0xB66, 0xBE6, 0xC66,
  0xCE6, 0xD66, 0xDE6, 0xE50, 0xED0, 0xF20, 0x1040, 0x1090, 0x17E0, 0x1810, 0x1946, 0x19D0, 0x1A80,
  0x1A90, 0x1B50, 0x1BB0, 0x1C40, 0x1C50, 0xA620, 0xA8D0, 0xA900, 0xA9D0, 0xA9F0, 0xAA50, 0xABF0,
  0xFF10, 0x104A0, 0x10D30, 0x11066, 0x110F0, 0x11136, 0x111D0, 0x112F0, 0x11450, 0x114D0, 0x11650,
  0x116C0, 0x11730, 0x118E0, 0x11950, 0x11C50, 0x11D50, 0x11DA0, 0x16A60, 0x16AC0, 0x16B50,
  0x1D7CE, 0x1D7D8, 0x1D7E2, 0x1D7EC, 0x1D7F6, 0x1E140, 0x1E2F0, 0x1E950, 0x1FBF0]

def wideDigit (c : Char) : Option ℕ :=
  (zeros.find? fun n => n ≤ c.toNat ∧ c.toNat < n + 10).map fun n => c.toNat - n

/-- A variable that has been given text or bytes. -/
inductive Value
  | str (text : List Char)
  | bytes (bytes : List UInt8)

/-- Initial values are read, then the control loop runs until the channel or an exception ends it. -/
inductive Phase
  | initializing
  | running
  | ended
  deriving DecidableEq

/-- The capture program, with the calls that it has made to the sniffer. -/
structure Program where
  captureOnlyAdvertising : Bool
  phase : Phase
  state : State
  inFollowMode : Bool
  writeNewPackets : Bool
  lastUsedKey : Value
  lastUsedAdvhop : List Char
  reader : PacketReader
  asked : List Requests.Call

def Program.raise (w : Program) : Program := { w with phase := .ended }

def Program.ask (w : Program) (c : Requests.Call) : Program :=
  let w' := { w with reader := (Requests.call w.reader c).1, asked := w.asked ++ [c] }
  match (Requests.call w.reader c).2 with
  | .ok _ => w'
  | .error _ => w'.raise

def Program.andThen (w : Program) (next : Program → Program) : Program :=
  if w.phase = .ended then w else next w

def scan (w : Program) : Program :=
  (Program.ask { w with state := .scanning } .sendScan).andThen fun w => w.ask (.sendTK [0])

def scanForDevices (w : Program) : Program :=
  (if w.state = .following then scan w else w).andThen fun w => { w with inFollowMode := false }

/-- An address as its request lists it: six numbers, its type, and what else there is; none when an
exception comes first.  Other items stay bytes, which the serial driver takes no more than the -1
that stands for them here. -/
def parseDevice (payload : List UInt8) : Option (List ℤ) :=
  let values := (payload.filter (· ≠ 91)).filter (· ≠ 93)
  match values.splitOn 44 with
  | b₀ :: b₁ :: b₂ :: b₃ :: b₄ :: b₅ :: b₆ :: others =>
    ([b₀, b₁, b₂, b₃, b₄, b₅].mapM fun item => readInt isSpace digit (latin1 item)).map
      fun address => address ++ [if b₆ = encode " True".toList then 1 else 0] ++
        others.map fun _ => -1
  | _ => none

/-- The state changes once the request is sent. -/
def followDevice (w : Program) (payload : List UInt8) : Program :=
  match parseDevice payload with
  | none => w.raise
  | some address =>
    (w.ask (.sendFollow address w.captureOnlyAdvertising)).andThen
      fun w => { w with state := .following, inFollowMode := true }

/-- What `$` leaves of a text: a line feed at its end may stay behind. -/
def chomp (text : List Char) : List Char :=
  if text.getLast? = some '\n' then text.dropLast else text

/-- `^[0-9]{6}$` -/
def isPasskey (text : List Char) : Bool := (chomp text).length = 6 ∧ (chomp text).all Char.isDigit

def isAlphanumeric (c : Char) : Bool :=
  c.isDigit || ('A' ≤ c && c ≤ 'Z') || ('a' ≤ c && c ≤ 'z')

/-- `^0[xX][0-9A-Za-z]{1,32}$` -/
def isOOB (text : List Char) : Bool :=
  match chomp text with
  | '0' :: x :: text =>
    (x == 'x' || x == 'X') && (1 ≤ text.length && text.length ≤ 32) && text.all isAlphanumeric
  | _ => false

def passkeyList (passkey : ℤ) : List ℤ :=
  [passkey / 2 ^ 16 % 256, passkey / 2 ^ 8 % 256, passkey % 256]

def setPasskey (w : Program) (payload : List Char) : Program :=
  match readInt isWideSpace wideDigit payload with
  | none => w.raise
  | some initPayload =>
    w.ask (.sendTK (if payload.length ≥ 6 then passkeyList initPayload else []))

/-- Two characters at a time, and a zero in front of a last one. -/
def pairs : List Char → List (List Char)
  | [] => []
  | [c] => [['0', c]]
  | a :: b :: payload => [a, b] :: pairs payload

def hexDigit (c : Char) : Option ℕ :=
  if '0' ≤ c ∧ c ≤ '9' then some (c.toNat - 48)
  else if 'a' ≤ c ∧ c ≤ 'f' then some (c.toNat - 87)
  else if 'A' ≤ c ∧ c ≤ 'F' then some (c.toNat - 55)
  else none

/-- `int` of one or two hexadecimal digits, with spaces around them. -/
def readHex (text : List Char) : Option ℤ :=
  match (text.dropWhile isSpace).rdropWhile isSpace with
  | [a] => (hexDigit a).map fun n => (n : ℤ)
  | [a, b] => (hexDigit a).bind fun m => (hexDigit b).map fun n => ((16 * m + n : ℕ) : ℤ)
  | _ => none

def setOOB (w : Program) (payload : List Char) : Program :=
  match (pairs payload).mapM readHex with
  | none => w.raise
  | some oob => w.ask (.sendTK oob)

/-- The key is kept as it came, in bytes. -/
def setPasskeyOrOOB (w : Program) (payload : List UInt8) : Program :=
  let w := { w with lastUsedKey := .bytes payload }
  match decode payload with
  | none => w.raise
  | some payload =>
    if isPasskey payload then setPasskey w payload
    else if isOOB payload then setOOB w (payload.drop 2)
    else w.ask (.sendTK [])

def setAdvhop (w : Program) (payload : List UInt8) : Program :=
  match decode payload with
  | none => w.raise
  | some payload =>
    let w := { w with lastUsedAdvhop := payload }
    match (payload.splitOn ',').mapM (readInt isWideSpace wideDigit) with
    | none => w.raise
    | some hops => w.ask (.sendHopSequence hops)

def handleControlCommand (w : Program) (arg : UInt8) (payload : List UInt8) : Program :=
  if arg = CTRL_ARG_DEVICE then if payload = [32] then scanForDevices w else followDevice w payload
  else if arg = CTRL_ARG_KEY then setPasskeyOrOOB w payload
  else if arg = CTRL_ARG_ADVHOP then setAdvhop w payload
  else w

/-- Only text can be written; bytes have no `encode`. -/
def Value.written (arg : UInt8) : Value → Option (List UInt8)
  | .str text => controlWrite arg CTRL_CMD_SET text
  | .bytes _ => none

/-- The defaults are written, and packets are let through from then on. -/
def controlWriteDefaults (w : Program) : Program :=
  match w.lastUsedKey.written CTRL_ARG_KEY with
  | none => w.raise
  | some _ =>
    match Value.written CTRL_ARG_ADVHOP (.str w.lastUsedAdvhop) with
    | none => w.raise
    | some _ => { w with phase := .running, writeNewPackets := true }

inductive Event
  | message (m : Message)
  | endOfFile

/-- At its end the channel goes on giving nothing, and initial values are awaited forever. -/
def step (w : Program) : Event → Option Program
  | .message m =>
    match w.phase with
    | .initializing =>
      if m.typ = CTRL_CMD_INIT then some (controlWriteDefaults w)
      else some (handleControlCommand w m.arg m.payload)
    | .running => some (handleControlCommand w m.arg m.payload)
    | .ended => none
  | .endOfFile =>
    match w.phase with
    | .initializing => some w
    | .running => some w.raise
    | .ended => none

def firstCalls : List Requests.Call := [.sendHopSequence [37, 38, 39], .sendScan, .sendTK [0]]

def begun (captureOnlyAdvertising : Bool) : Program where
  captureOnlyAdvertising := captureOnlyAdvertising
  phase := .initializing
  state := .scanning
  inFollowMode := false
  writeNewPackets := false
  lastUsedKey := .str []
  lastUsedAdvhop := "37,38,39".toList
  reader := Requests.calls Requests.opened firstCalls
  asked := firstCalls

def modeOf : Requests.Call → Option State
  | .sendScan => some .scanning
  | .sendFollow _ _ => some .following
  | _ => none

def lastMode (asked : List Requests.Call) : Option State := (asked.filterMap modeOf).getLast?

/-- The reader has got all calls, and has refused none as long as the program runs. -/
structure Wired (w : Program) : Prop where
  reader : w.reader = Requests.calls Requests.opened w.asked
  sent : w.phase ≠ .ended → ∃ packets, AllSent w.asked packets

/-- The program's state, its firmware's and its filter agree, as long as it runs. -/
structure Agrees (w : Program) : Prop where
  wired : Wired w
  mode : w.phase ≠ .ended → lastMode w.asked = some w.state
  follow : w.phase ≠ .ended → (w.inFollowMode = true ↔ w.state = .following)

section Commands

variable {w w' : Program} {c : Requests.Call}

theorem ask_fields (w : Program) (c : Requests.Call) :
    (w.ask c).reader = (Requests.call w.reader c).1 ∧ (w.ask c).asked = w.asked ++ [c] ∧
      (w.ask c).state = w.state ∧ (w.ask c).inFollowMode = w.inFollowMode ∧
      (w.ask c).lastUsedKey = w.lastUsedKey ∧ (w.ask c).lastUsedAdvhop = w.lastUsedAdvhop ∧
      (w.ask c).writeNewPackets = w.writeNewPackets := by
  unfold Program.ask
  dsimp only
  split <;> exact ⟨rfl, rfl, rfl, rfl, rfl, rfl, rfl⟩

theorem ask_phase (w : Program) (c : Requests.Call) :
    (w.ask c).phase = w.phase ∨ (w.ask c).phase = .ended := by
  unfold Program.ask
  dsimp only
  split
  · exact .inl rfl
  · exact .inr rfl

private theorem alive_of_ask (alive : (w.ask c).phase ≠ .ended) : w.phase ≠ .ended := by
  rcases ask_phase w c with same | ended
  · rw [← same]
    exact alive
  · exact absurd ended alive

theorem calls_concat (asked : List Requests.Call) (c : Requests.Call) :
    Requests.calls Requests.opened (asked ++ [c]) =
      (Requests.call (Requests.calls Requests.opened asked) c).1 := by
  unfold Requests.calls
  rw [List.foldl_concat]

private theorem lastMode_concat (asked : List Requests.Call) (c : Requests.Call) :
    lastMode (asked ++ [c]) = (modeOf c).or (lastMode asked) := by
  unfold lastMode
  cases mode : modeOf c <;> simp [mode]

private theorem sent_of_ask (alive : (w.ask c).phase ≠ .ended) :
    (Requests.call w.reader c).2 = .ok () := by
  unfold Program.ask at alive
  dsimp only at alive
  split at alive
  · assumption
  · exact absurd rfl alive

private theorem wired_ask (h : Wired w) (c : Requests.Call) : Wired (w.ask c) := by
  obtain ⟨reader, asked, _⟩ := ask_fields w c
  refine ⟨by rw [reader, asked, calls_concat, h.reader], ?_⟩
  intro alive
  obtain ⟨packets, before⟩ := h.sent (alive_of_ask alive)
  have sent := sent_of_ask alive
  rw [h.reader] at sent
  obtain ⟨packet, all⟩ := Requests.exists_allSent_concat before sent
  rw [asked]
  exact ⟨_, all⟩

private theorem Wired.of_ended (h : Wired w) (reader : w'.reader = w.reader)
    (asked : w'.asked = w.asked)
    (ended : w'.phase = .ended) : Wired w' :=
  ⟨by rw [reader, asked, h.reader], fun alive => absurd ended alive⟩

private theorem agrees_raise (h : Agrees w) : Agrees w.raise :=
  ⟨h.wired.of_ended rfl rfl rfl, fun alive => absurd rfl alive, fun alive => absurd rfl alive⟩

private theorem agrees_ask (h : Agrees w) (quiet : modeOf c = none) : Agrees (w.ask c) := by
  obtain ⟨_, asked, state, inFollowMode, _⟩ := ask_fields w c
  refine ⟨wired_ask h.wired c, ?_, ?_⟩
  · intro alive
    rw [asked, state, lastMode_concat, quiet]
    exact h.mode (alive_of_ask alive)
  · intro alive
    rw [state, inFollowMode]
    exact h.follow (alive_of_ask alive)

private theorem agrees_scanForDevices (h : Agrees w) : Agrees (scanForDevices w) := by
  unfold scanForDevices
  by_cases following : w.state = .following
  · rw [if_pos following]
    have start : Wired { w with state := .scanning } := ⟨h.wired.reader, h.wired.sent⟩
    generalize first : Program.ask { w with state := .scanning } .sendScan = w₁
    have told := ask_fields { w with state := .scanning } .sendScan
    have wired₁ := wired_ask start .sendScan
    rw [first] at told wired₁
    obtain ⟨_, asked₁, state₁, _⟩ := told
    unfold scan Program.andThen
    rw [first]
    by_cases stopped : w₁.phase = .ended
    · rw [if_pos stopped, if_pos stopped]
      exact ⟨wired₁, fun alive => absurd stopped alive, fun alive => absurd stopped alive⟩
    · rw [if_neg stopped]
      beta_reduce
      generalize second : w₁.ask (.sendTK [0]) = w₂
      have told := ask_fields w₁ (.sendTK [0])
      have wired₂ := wired_ask wired₁ (.sendTK [0])
      rw [second] at told wired₂
      obtain ⟨_, asked₂, state₂, _⟩ := told
      split
      · rename_i ended
        exact ⟨wired₂, fun alive => absurd ended alive, fun alive => absurd ended alive⟩
      · refine ⟨⟨wired₂.reader, wired₂.sent⟩, ?_, ?_⟩
        · intro _
          change lastMode w₂.asked = some w₂.state
          rw [asked₂, lastMode_concat, asked₁, lastMode_concat, state₂, state₁]
          rfl
        · intro _
          change false = true ↔ w₂.state = .following
          rw [state₂, state₁]
          simp
  · rw [if_neg following]
    unfold Program.andThen
    split
    · exact h
    · exact ⟨⟨h.wired.reader, h.wired.sent⟩, h.mode, fun _ => by simp [following]⟩

private theorem agrees_followDevice (h : Agrees w) (payload : List UInt8) :
    Agrees (followDevice w payload) := by
  unfold followDevice
  split
  · exact agrees_raise h
  · rename_i address _
    generalize sent : w.ask (.sendFollow address w.captureOnlyAdvertising) = w₁
    have wired₁ := wired_ask h.wired (.sendFollow address w.captureOnlyAdvertising)
    have told := ask_fields w (.sendFollow address w.captureOnlyAdvertising)
    rw [sent] at wired₁ told
    obtain ⟨_, asked₁, _⟩ := told
    unfold Program.andThen
    split
    · rename_i ended
      exact ⟨wired₁, fun alive => absurd ended alive, fun alive => absurd ended alive⟩
    · refine ⟨⟨wired₁.reader, wired₁.sent⟩, ?_, fun _ => by simp⟩
      intro _
      change lastMode w₁.asked = some .following
      rw [asked₁, lastMode_concat]
      rfl

private theorem agrees_setPasskeyOrOOB (h : Agrees w) (payload : List UInt8) :
    Agrees (setPasskeyOrOOB w payload) := by
  have kept : Agrees { w with lastUsedKey := .bytes payload } :=
    ⟨⟨h.wired.reader, h.wired.sent⟩, h.mode, h.follow⟩
  unfold setPasskeyOrOOB
  dsimp only
  split
  · exact agrees_raise kept
  · split
    · unfold setPasskey
      split
      · exact agrees_raise kept
      · exact agrees_ask kept rfl
    · split
      · unfold setOOB
        split
        · exact agrees_raise kept
        · exact agrees_ask kept rfl
      · exact agrees_ask kept rfl

private theorem agrees_setAdvhop (h : Agrees w) (payload : List UInt8) :
    Agrees (setAdvhop w payload) := by
  unfold setAdvhop
  split
  · exact agrees_raise h
  · rename_i text _
    have kept : Agrees { w with lastUsedAdvhop := text } :=
      ⟨⟨h.wired.reader, h.wired.sent⟩, h.mode, h.follow⟩
    dsimp only
    split
    · exact agrees_raise kept
    · exact agrees_ask kept rfl

private theorem agrees_handleControlCommand (h : Agrees w) (arg : UInt8) (payload : List UInt8) :
    Agrees (handleControlCommand w arg payload) := by
  unfold handleControlCommand
  split
  · split
    · exact agrees_scanForDevices h
    · exact agrees_followDevice h payload
  · split
    · exact agrees_setPasskeyOrOOB h payload
    · split
      · exact agrees_setAdvhop h payload
      · exact h

private theorem agrees_controlWriteDefaults (h : Agrees w) (starting : w.phase = .initializing) :
    Agrees (controlWriteDefaults w) := by
  have alive : w.phase ≠ .ended := by
    rw [starting]
    decide
  unfold controlWriteDefaults
  split
  · exact agrees_raise h
  · split
    · exact agrees_raise h
    · exact ⟨⟨h.wired.reader, fun _ => h.wired.sent alive⟩, fun _ => h.mode alive,
        fun _ => h.follow alive⟩

end Commands

section Runs

variable {captureOnlyAdvertising : Bool} {es : List Event} {w w' : Program}

theorem agrees_step {e : Event} (h : Agrees w) (he : step w e = some w') : Agrees w' := by
  cases e with
  | message m =>
    simp only [step] at he
    split at he
    · rename_i starting
      split at he
      · obtain rfl := Option.some_inj.mp he
        exact agrees_controlWriteDefaults h starting
      · obtain rfl := Option.some_inj.mp he
        exact agrees_handleControlCommand h m.arg m.payload
    · obtain rfl := Option.some_inj.mp he
      exact agrees_handleControlCommand h m.arg m.payload
    · cases he
  | endOfFile =>
    simp only [step] at he
    split at he
    · obtain rfl := Option.some_inj.mp he
      exact h
    · obtain rfl := Option.some_inj.mp he
      exact agrees_raise h
    · cases he

theorem agrees_of_run (hrun : run step (begun captureOnlyAdvertising) es = some w) : Agrees w := by
  refine run_invariant (fun _ _ _ _ h he => agrees_step h he) ?_ hrun
  refine ⟨⟨rfl, ?_⟩, fun _ => rfl, fun _ => by simp [begun]⟩
  intro _
  exact ⟨[Packets.head .v1 4 0 Requests.SET_ADV_CHANNEL_HOP_SEQ ++ [3, 37, 38, 39],
      Packets.head .v1 0 1 Requests.REQ_SCAN_CONT,
      Packets.head .v1 16 2 Requests.SET_TEMPORARY_KEY ++ List.replicate 16 0],
    [(Requests.SET_ADV_CHANNEL_HOP_SEQ, [3, 37, 38, 39]), (Requests.REQ_SCAN_CONT, []),
      (Requests.SET_TEMPORARY_KEY, List.replicate 16 0)], rfl, rfl⟩

/-- Whatever messages come over the channel: as long as the program runs, its filter is off exactly
while its state is to follow a device, and this is the state that its last request of that kind asks
of the firmware; no request has been refused, and the serial port has been given a packet for each,
in order. -/
theorem follow_mode_agrees (hrun : run step (begun captureOnlyAdvertising) es = some w)
    (alive : w.phase ≠ .ended) :
    (w.inFollowMode = true ↔ w.state = .following) ∧ lastMode w.asked = some w.state ∧
      ∃ packets, AllSent w.asked packets ∧ Slip.slip.Carries w.reader.written packets := by
  have agrees := agrees_of_run hrun
  obtain ⟨packets, sent⟩ := agrees.wired.sent alive
  refine ⟨agrees.follow alive, agrees.mode alive, packets, sent, ?_⟩
  have encoded : Slip.encodeToSLIP = Slip.slip.encode := funext Slip.encodeToSLIP_eq
  have written : w.reader.written = packets.flatMap Slip.slip.encode := by
    rw [agrees.wired.reader, Requests.calls_eq, ← encoded]
    change [] ++ (Requests.packetsOf 0 _).flatMap _ = _
    rw [List.nil_append, Requests.packetsOf_of_allSent sent]
  rw [written]
  exact Library.Framing.Escaping.carries_flatMap _

def selection : Message := ⟨CTRL_ARG_DEVICE, CTRL_CMD_SET, encode "[1, 2, 3, 4, 5, 6, True]".toList,
  by decide⟩

theorem follow_mode_agrees_selected :
    ∃ w, run step (begun false) [.message selection] = some w ∧ w.inFollowMode = true ∧
      w.state = .following ∧ lastMode w.asked = some .following := by
  have hrun : run step (begun false) [.message selection] =
    some (handleControlCommand (begun false) selection.arg selection.payload) := rfl
  have follows : (handleControlCommand (begun false) selection.arg selection.payload).inFollowMode =
    true := by decide
  have alive : (handleControlCommand (begun false) selection.arg selection.payload).phase ≠
    .ended := by decide
  obtain ⟨filter, mode, _⟩ := follow_mode_agrees hrun alive
  have state := filter.mp follows
  rw [state] at mode
  exact ⟨_, hrun, follows, state, mode⟩

end Runs

/-- What the commands leave alone: a program does not start to run, and keeps its last values. -/
structure Keeps (w w' : Program) : Prop where
  phase : w'.phase = w.phase ∨ w'.phase = .ended
  writeNewPackets : w'.writeNewPackets = w.writeNewPackets
  lastUsedKey : w'.lastUsedKey = w.lastUsedKey
  lastUsedAdvhop : w'.lastUsedAdvhop = w.lastUsedAdvhop

def Event.isInit : Event → Bool
  | .message m => m.typ == CTRL_CMD_INIT
  | .endOfFile => false

def Event.isKey : Event → Bool
  | .message m => m.arg == CTRL_ARG_KEY
  | .endOfFile => false

def initialValues (es : List Event) : List Event := es.takeWhile fun e => !e.isInit

def Starts (es : List Event) : Prop :=
  es.any Event.isInit = true ∧ (initialValues es).any Event.isKey = false

/-- Among the initial values, the program remembers whether a key has come, and a text with room in
a message. -/
structure Early (es : List Event) (w : Program) : Prop where
  values : es.any Event.isInit = false
  quiet : w.writeNewPackets = false
  key : es.any Event.isKey = true → ∃ bytes, w.lastUsedKey = .bytes bytes
  noKey : es.any Event.isKey = false → w.lastUsedKey = .str []
  short : w.lastUsedAdvhop.length + 2 < 256 ^ 2

/-- What a run has come to. -/
def Stands (es : List Event) (w : Program) : Prop :=
  match w.phase with
  | .initializing => Early es w
  | .running => w.writeNewPackets = true ∧ Starts es
  | .ended => w.writeNewPackets = true ↔ Starts es

section Start

variable {captureOnlyAdvertising : Bool} {es : List Event} {w w' w'' : Program}

theorem Keeps.refl (w : Program) : Keeps w w := ⟨.inl rfl, rfl, rfl, rfl⟩

theorem Keeps.trans (h : Keeps w w') (h' : Keeps w' w'') : Keeps w w'' := by
  refine ⟨?_, h'.writeNewPackets.trans h.writeNewPackets, h'.lastUsedKey.trans h.lastUsedKey,
    h'.lastUsedAdvhop.trans h.lastUsedAdvhop⟩
  rcases h'.phase with same | ended
  · rw [same]
    exact h.phase
  · exact .inr ended

private theorem keeps_raise (w : Program) : Keeps w w.raise := ⟨.inr rfl, rfl, rfl, rfl⟩

private theorem keeps_ask (w : Program) (c : Requests.Call) : Keeps w (w.ask c) := by
  obtain ⟨_, _, _, _, key, advhop, write⟩ := ask_fields w c
  exact ⟨ask_phase w c, write, key, advhop⟩

private theorem keeps_andThen {next : Program → Program} (h : Keeps w w')
    (each : ∀ w, Keeps w (next w)) :
    Keeps w (w'.andThen next) := by
  unfold Program.andThen
  split
  · exact h
  · exact h.trans (each w')

private theorem keeps_scanForDevices (w : Program) : Keeps w (scanForDevices w) := by
  have mode (w : Program) : Keeps w { w with inFollowMode := false } := ⟨.inl rfl, rfl, rfl, rfl⟩
  have scanning : Keeps w { w with state := .scanning } := ⟨.inl rfl, rfl, rfl, rfl⟩
  unfold scanForDevices
  split
  · have first := scanning.trans (keeps_ask { w with state := .scanning } .sendScan)
    exact keeps_andThen (keeps_andThen first fun w => keeps_ask w _) mode
  · exact keeps_andThen (Keeps.refl w) mode

private theorem keeps_followDevice (w : Program) (payload : List UInt8) :
    Keeps w (followDevice w payload) := by
  unfold followDevice
  split
  · exact keeps_raise w
  · exact keeps_andThen (keeps_ask w _) fun w => ⟨.inl rfl, rfl, rfl, rfl⟩

private theorem keeps_setPasskeyOrOOB (w : Program) (payload : List UInt8) :
    Keeps { w with lastUsedKey := .bytes payload } (setPasskeyOrOOB w payload) := by
  unfold setPasskeyOrOOB setPasskey setOOB
  dsimp only
  split
  · exact keeps_raise _
  · split
    · split
      · exact keeps_raise _
      · exact keeps_ask _ _
    · split
      · split
        · exact keeps_raise _
        · exact keeps_ask _ _
      · exact keeps_ask _ _

private theorem keeps_setAdvhop (w : Program) (payload : List UInt8) :
    Keeps w (setAdvhop w payload) ∨
      ∃ text, decode payload = some text ∧ Keeps { w with lastUsedAdvhop := text }
        (setAdvhop w payload) := by
  unfold setAdvhop
  cases read : decode payload with
  | none => exact .inl (keeps_raise w)
  | some text =>
    right
    refine ⟨text, rfl, ?_⟩
    dsimp only
    split
    · exact keeps_raise _
    · exact keeps_ask _ _

private theorem keeps_handleControlCommand (w : Program) (m : Message) :
    ∃ key advhop, Keeps { w with lastUsedKey := key, lastUsedAdvhop := advhop }
        (handleControlCommand w m.arg m.payload) ∧
      (m.arg = CTRL_ARG_KEY → key = .bytes m.payload) ∧
      (m.arg ≠ CTRL_ARG_KEY → key = w.lastUsedKey) ∧
      (w.lastUsedAdvhop.length + 2 < 256 ^ 2 → advhop.length + 2 < 256 ^ 2) := by
  unfold handleControlCommand
  by_cases device : m.arg = CTRL_ARG_DEVICE
  · have no_key : m.arg ≠ CTRL_ARG_KEY := by
      rw [device]
      decide
    refine ⟨w.lastUsedKey, w.lastUsedAdvhop, ?_, fun key => absurd key no_key, fun _ => rfl, id⟩
    rw [if_pos device]
    split
    · exact keeps_scanForDevices w
    · exact keeps_followDevice w m.payload
  · rw [if_neg device]
    by_cases key : m.arg = CTRL_ARG_KEY
    · refine ⟨.bytes m.payload, w.lastUsedAdvhop, ?_, fun _ => rfl, fun no => absurd key no, id⟩
      rw [if_pos key]
      exact keeps_setPasskeyOrOOB w m.payload
    · rw [if_neg key]
      split
      · rcases keeps_setAdvhop w m.payload with same | ⟨text, read, new⟩
        · exact ⟨w.lastUsedKey, w.lastUsedAdvhop, same, fun yes => absurd yes key, fun _ => rfl, id⟩
        · refine ⟨w.lastUsedKey, text, new, fun yes => absurd yes key, fun _ => rfl, ?_⟩
          intro _
          have bytes := length_le_length_encode text
          have room := m.short
          rw [encode_of_decode read] at bytes
          omega
      · exact ⟨w.lastUsedKey, w.lastUsedAdvhop, Keeps.refl w, fun yes => absurd yes key,
          fun _ => rfl, id⟩

private theorem starts_concat {e : Event} (values : es.any Event.isInit = false) :
    Starts (es ++ [e]) ↔ e.isInit = true ∧ es.any Event.isKey = false := by
  have all : ∀ e ∈ es, (!e.isInit) = true := by
    intro e mem
    have other := List.any_eq_false.mp values e mem
    simpa using other
  unfold Starts initialValues
  rw [List.any_append, values, List.takeWhile_append_of_pos all]
  cases init : e.isInit <;> simp [init]

private theorem starts_append (init : es.any Event.isInit = true) (e : Event) :
    Starts (es ++ [e]) ↔ Starts es := by
  have short : (initialValues es).length ≠ es.length := by
    intro whole
    have same : initialValues es = es := (List.takeWhile_prefix _).eq_of_length whole
    obtain ⟨e, mem, yes⟩ := List.any_eq_true.mp init
    have no := List.takeWhile_eq_self_iff.mp same e mem
    rw [yes] at no
    cases no
  have values : initialValues (es ++ [e]) = initialValues es := by
    unfold initialValues at short ⊢
    rw [List.takeWhile_append, if_neg short]
  unfold Starts
  rw [values, List.any_append, init, Bool.true_or]

private theorem Early.controlWriteDefaults_eq (h : Early es w) : controlWriteDefaults w =
    if es.any Event.isKey = true then w.raise
    else { w with phase := .running, writeNewPackets := true } := by
  have advhop : Value.written CTRL_ARG_ADVHOP (.str w.lastUsedAdvhop) =
      some (header w.lastUsedAdvhop.length CTRL_ARG_ADVHOP CTRL_CMD_SET ++
        encode w.lastUsedAdvhop) := if_pos h.short
  by_cases key : es.any Event.isKey = true
  · obtain ⟨bytes, kept⟩ := h.key key
    rw [if_pos key]
    unfold controlWriteDefaults
    rw [kept]
    rfl
  · have none_yet : w.lastUsedKey.written CTRL_ARG_KEY =
        some (header 0 CTRL_ARG_KEY CTRL_CMD_SET ++ encode []) := by
      rw [h.noKey (Bool.eq_false_iff.mpr key)]
      rfl
    rw [if_neg key]
    unfold controlWriteDefaults
    rw [none_yet, advhop]

private theorem Early.concat {e : Event} (h : Early es w) (other : e.isInit = false)
    (quiet : w'.writeNewPackets = w.writeNewPackets)
    (key : e.isKey = true → ∃ bytes, w'.lastUsedKey = .bytes bytes)
    (noKey : e.isKey = false → w'.lastUsedKey = w.lastUsedKey)
    (short : w'.lastUsedAdvhop.length + 2 < 256 ^ 2) : Early (es ++ [e]) w' := by
  refine ⟨?_, quiet.trans h.quiet, ?_, ?_, short⟩
  · simp [h.values, other]
  · intro came
    rw [List.any_append, Bool.or_eq_true] at came
    by_cases this : e.isKey = true
    · exact key this
    · rw [noKey (Bool.eq_false_iff.mpr this)]
      apply h.key
      rcases came with before | now
      · exact before
      · simp [this] at now
  · intro none_yet
    rw [List.any_append, Bool.or_eq_false_iff] at none_yet
    have this : e.isKey = false := by simpa using none_yet.2
    rw [noKey this, h.noKey none_yet.1]

private theorem stands_value {m : Message} (h : Early es w) (phase : w.phase = .initializing)
    (other : m.typ ≠ CTRL_CMD_INIT) :
    Stands (es ++ [.message m]) (handleControlCommand w m.arg m.payload) := by
  have not_init : (Event.message m).isInit = false := beq_eq_false_iff_ne.mpr other
  obtain ⟨key, advhop, keeps, is_key, no_key, short⟩ := keeps_handleControlCommand w m
  generalize handleControlCommand w m.arg m.payload = w' at keeps
  have quiet : w'.writeNewPackets = w.writeNewPackets := keeps.writeNewPackets
  unfold Stands
  rcases keeps.phase with same | ended
  · rw [same, phase]
    refine h.concat not_init quiet (fun came => ⟨m.payload, ?_⟩) ?_ ?_
    · rw [keeps.lastUsedKey]
      exact is_key (beq_iff_eq.mp came)
    · intro none_yet
      rw [keeps.lastUsedKey]
      exact no_key (beq_eq_false_iff_ne.mp none_yet)
    · rw [keeps.lastUsedAdvhop]
      exact short h.short
  · rw [ended]
    dsimp only
    rw [starts_concat h.values, quiet, h.quiet, not_init]
    simp

/-- Each event leaves things so that the filter is open exactly when the initial values have ended
with no key among them. -/
theorem stands_step {e : Event} (h : Stands es w) (he : step w e = some w') :
    Stands (es ++ [e]) w' := by
  cases phase : w.phase with
  | initializing =>
    simp only [Stands, phase] at h
    cases e with
    | message m =>
      simp only [step, phase] at he
      split at he
      · rename_i init
        obtain rfl := Option.some_inj.mp he
        have first : (Event.message m).isInit = true := beq_iff_eq.mpr init
        rw [h.controlWriteDefaults_eq]
        split
        · rename_i key
          simp [Stands, Program.raise, starts_concat h.values, key, h.quiet]
        · rename_i no_key
          simp only [Stands, starts_concat h.values]
          exact ⟨trivial, first, Bool.eq_false_iff.mpr no_key⟩
      · rename_i other
        obtain rfl := Option.some_inj.mp he
        exact stands_value h phase other
    | endOfFile =>
      simp only [step, phase] at he
      obtain rfl := Option.some_inj.mp he
      unfold Stands
      rw [phase]
      exact h.concat rfl rfl (fun key => nomatch key) (fun _ => rfl) h.short
  | running =>
    simp only [Stands, phase] at h
    obtain ⟨write, starts⟩ := h
    have still := (starts_append starts.1 e).mpr starts
    cases e with
    | message m =>
      simp only [step, phase] at he
      obtain rfl := Option.some_inj.mp he
      obtain ⟨key, advhop, keeps, _⟩ := keeps_handleControlCommand w m
      have same : (handleControlCommand w m.arg m.payload).writeNewPackets = true :=
        keeps.writeNewPackets.trans write
      unfold Stands
      rcases keeps.phase with running | ended
      · rw [running, phase]
        exact ⟨same, still⟩
      · rw [ended]
        exact iff_of_true same still
    | endOfFile =>
      simp only [step, phase] at he
      obtain rfl := Option.some_inj.mp he
      exact iff_of_true write still
  | ended => cases e <;> simp [step, phase] at he

theorem stands_of_run (hrun : run step (begun captureOnlyAdvertising) es = some w) :
    Stands es w := by
  have default : "37,38,39".toList.length + 2 < 256 ^ 2 := by decide
  refine run_induction (P := Stands) ?_ (fun _ _ _ _ _ h _ he => stands_step h he) hrun
  exact ⟨rfl, rfl, (fun key => nomatch key), fun _ => rfl, default⟩

/-- Whatever comes over the channel: packets are let through exactly when the initial values have
ended and no key was among them, since a key is kept in bytes, which cannot be written as a text;
and a program that has read them all and lets nothing through has ended. -/
theorem packets_flow_iff (hrun : run step (begun captureOnlyAdvertising) es = some w) :
    (w.writeNewPackets = true ↔ es.any Event.isInit = true ∧
      (initialValues es).any Event.isKey = false) ∧
    (es.any Event.isInit = true → w.writeNewPackets = false → w.phase = .ended) := by
  have stands := stands_of_run hrun
  unfold Stands at stands
  cases phase : w.phase with
  | initializing =>
    rw [phase] at stands
    have quiet := stands.quiet
    have values := stands.values
    exact ⟨by simp [quiet, values], fun init => by simp [values] at init⟩
  | running =>
    rw [phase] at stands
    exact ⟨iff_of_true stands.1 stands.2, fun _ quiet => by simp [stands.1] at quiet⟩
  | ended =>
    rw [phase] at stands
    exact ⟨stands, fun _ _ => rfl⟩

/-- The message that ends the initial values, alone and behind an empty key. -/
theorem packets_flow_iff_key : ∃ w w',
    run step (begun false) [.message ⟨0, CTRL_CMD_INIT, [], by decide⟩] = some w ∧
    run step (begun false) [.message ⟨CTRL_ARG_KEY, CTRL_CMD_SET, encode [], by decide⟩,
      .message ⟨0, CTRL_CMD_INIT, [], by decide⟩] = some w' ∧
    w.writeNewPackets = true ∧ w'.writeNewPackets = false ∧ w'.phase = .ended := by
  have key : handleControlCommand (begun false) CTRL_ARG_KEY (encode []) =
      Program.ask { begun false with lastUsedKey := .bytes (encode []) } (.sendTK []) := by
    unfold handleControlCommand setPasskeyOrOOB
    rw [if_neg (by decide), if_pos rfl]
    dsimp only
    rw [decode_encode]
    rfl
  have hrun : run step (begun false) [.message ⟨0, CTRL_CMD_INIT, [], by decide⟩] =
    some (controlWriteDefaults (begun false)) := rfl
  have behind : run step (begun false) [.message ⟨CTRL_ARG_KEY, CTRL_CMD_SET, encode [],
      by decide⟩, .message ⟨0, CTRL_CMD_INIT, [], by decide⟩] = some (controlWriteDefaults
        (handleControlCommand (begun false) CTRL_ARG_KEY (encode []))) := by
    rw [run_cons]
    change (some (handleControlCommand (begun false) CTRL_ARG_KEY (encode []))).bind _ = _
    rw [Option.bind_some, key]
    rfl
  have quiet := mt (packets_flow_iff behind).1.mp (by decide)
  rw [Bool.not_eq_true] at quiet
  exact ⟨_, _, hrun, behind, (packets_flow_iff hrun).1.mpr (by decide), quiet,
    (packets_flow_iff behind).2 (by decide) quiet⟩

end Start

end ProximityLed.Sniffer.Toolbar
