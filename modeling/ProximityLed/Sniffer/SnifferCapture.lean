/- ProximityLed/Sniffer/SnifferCapture
   digest: The whole capture program: its main thread and the sniffer's, step between step. -/

import ProximityLed.Library.Stepwise
import ProximityLed.Sniffer.ThreadRuns
import ProximityLed.Sniffer.Toolbar

set_option autoImplicit false
set_option relaxedAutoImplicit false

namespace ProximityLed.Sniffer.SnifferCapture

open Library.Run
open Library.Stepwise (Thread Control Move)
open Library.Text
open Capture (Record Files Time getGlobalHeader)
open ControlChannel
open SnifferCollector (Processed State recordOf)
open Toolbar (Program Value parseDevice isPasskey isOOB isWideSpace wideDigit passkeyList pairs
  readHex)

/-- The assignments and calls of the main thread, as the other thread can come between them. -/
inductive Statement
  | stateScanning
  | stateFollowing
  | ask (c : Requests.Call)
  | setInFollowMode (b : Bool)
  | setLastUsedKey (key : Value)
  | setLastUsedAdvhop (text : List Char)
  | startControlLoop
  | raise

def Statement.act : Statement → Program → Program
  | .stateScanning, w => { w with state := .scanning }
  | .stateFollowing, w => { w with state := .following }
  | .ask c, w => w.ask c
  | .setInFollowMode b, w => { w with inFollowMode := b }
  | .setLastUsedKey key, w => { w with lastUsedKey := key }
  | .setLastUsedAdvhop text, w => { w with lastUsedAdvhop := text }
  | .startControlLoop, w => { w with phase := .running, writeNewPackets := true }
  | .raise, w => w.raise

/-- Behind an exception nothing is executed. -/
def execute (statement : Statement) (w : Program) : Program := w.andThen statement.act

def scan : List Statement := [.stateScanning, .ask .sendScan, .ask (.sendTK [0])]

def scanForDevices (w : Program) : List Statement :=
  (if w.state = .following then scan else []) ++ [.setInFollowMode false]

/-- The pause of 100 ms is in front of the last statement. -/
def followDevice (w : Program) (payload : List UInt8) : List Statement :=
  match parseDevice payload with
  | none => [.raise]
  | some address =>
    [.ask (.sendFollow address w.captureOnlyAdvertising), .stateFollowing, .setInFollowMode true]

def setPasskey (payload : List Char) : Statement :=
  match readInt isWideSpace wideDigit payload with
  | none => .raise
  | some initPayload =>
    .ask (.sendTK (if payload.length ≥ 6 then passkeyList initPayload else []))

def setOOB (payload : List Char) : Statement :=
  match (pairs payload).mapM readHex with
  | none => .raise
  | some oob => .ask (.sendTK oob)

def setPasskeyOrOOB (payload : List UInt8) : List Statement :=
  [.setLastUsedKey (.bytes payload),
    match decode payload with
    | none => .raise
    | some payload =>
      if isPasskey payload then setPasskey payload
      else if isOOB payload then setOOB (payload.drop 2)
      else .ask (.sendTK [])]

def setAdvhop (payload : List UInt8) : List Statement :=
  match decode payload with
  | none => [.raise]
  | some payload =>
    [.setLastUsedAdvhop payload,
      match (payload.splitOn ',').mapM (readInt isWideSpace wideDigit) with
      | none => .raise
      | some hops => .ask (.sendHopSequence hops)]

def handleControlCommand (w : Program) (arg : UInt8) (payload : List UInt8) : List Statement :=
  if arg = CTRL_ARG_DEVICE then
    if payload = [32] then scanForDevices w else followDevice w payload
  else if arg = CTRL_ARG_KEY then setPasskeyOrOOB payload
  else if arg = CTRL_ARG_ADVHOP then setAdvhop payload
  else []

def controlWriteDefaults (w : Program) : List Statement :=
  match w.lastUsedKey.written CTRL_ARG_KEY with
  | none => [.raise]
  | some _ =>
    match Value.written CTRL_ARG_ADVHOP (.str w.lastUsedAdvhop) with
    | none => [.raise]
    | some _ => [.startControlLoop]

def statements (w : Program) : Toolbar.Event → Option (List Statement)
  | .message m =>
    match w.phase with
    | .initializing =>
      if m.typ = CTRL_CMD_INIT then some (controlWriteDefaults w)
      else some (handleControlCommand w m.arg m.payload)
    | .running => some (handleControlCommand w m.arg m.payload)
    | .ended => none
  | .endOfFile =>
    match w.phase with
    | .initializing => some []
    | .running => some [.raise]
    | .ended => none

def mainThread : Thread Program Toolbar.Event Statement := ⟨statements, execute⟩

section Whole

variable {w : Program}

private theorem execute_of_alive (alive : w.phase ≠ .ended) (statement : Statement) :
    execute statement w = statement.act w := if_neg alive

private theorem execute_of_ended (ended : w.phase = .ended) (statement : Statement) :
    execute statement w = w := if_pos ended

private theorem perform_single (alive : w.phase ≠ .ended) (statement : Statement) :
    mainThread.perform w [statement] = statement.act w := execute_of_alive alive statement

private theorem execute_ask (w : Program) (c : Requests.Call) :
    execute (.ask c) w = w.andThen fun w => w.ask c := rfl

private theorem perform_scan (alive : w.phase ≠ .ended) :
    mainThread.perform w scan = Toolbar.scan w := by
  have first : execute .stateScanning w = { w with state := .scanning } :=
    execute_of_alive alive .stateScanning
  change execute (.ask (.sendTK [0])) (execute (.ask .sendScan) (execute .stateScanning w)) = _
  rw [first, execute_ask, execute_ask, Toolbar.scan]
  generalize started : ({ w with state := .scanning } : Program) = w'
  have alive' : w'.phase ≠ .ended := by
    rw [← started]
    exact alive
  have second : (w'.andThen fun w => w.ask .sendScan) = w'.ask .sendScan := if_neg alive'
  rw [second]

private theorem perform_scanForDevices (alive : w.phase ≠ .ended) :
    mainThread.perform w (scanForDevices w) = Toolbar.scanForDevices w := by
  have last (w' : Program) : mainThread.perform w' [.setInFollowMode false] =
      w'.andThen fun w => { w with inFollowMode := false } := rfl
  rw [scanForDevices, Toolbar.scanForDevices, Thread.perform_append, last]
  by_cases following : w.state = .following
  · rw [if_pos following, if_pos following, perform_scan alive]
  · rw [if_neg following, if_neg following, Thread.perform_nil]

private theorem perform_followDevice (alive : w.phase ≠ .ended) (payload : List UInt8) :
    mainThread.perform w (followDevice w payload) = Toolbar.followDevice w payload := by
  unfold followDevice Toolbar.followDevice
  cases parseDevice payload with
  | none => exact perform_single alive .raise
  | some address =>
    dsimp only
    generalize Requests.Call.sendFollow address w.captureOnlyAdvertising = c
    have first : execute (.ask c) w = w.ask c := execute_of_alive alive (.ask c)
    change execute (.setInFollowMode true) (execute .stateFollowing (execute (.ask c) w)) = _
    rw [first]
    generalize w.ask c = w'
    by_cases ended : w'.phase = .ended
    · rw [execute_of_ended ended, execute_of_ended ended, Program.andThen, if_pos ended]
    · have second : execute .stateFollowing w' = { w' with state := .following } := if_neg ended
      rw [second, Program.andThen, if_neg ended]
      exact if_neg ended

private theorem act_setPasskey (w : Program) (payload : List Char) :
    (setPasskey payload).act w = Toolbar.setPasskey w payload := by
  unfold setPasskey Toolbar.setPasskey
  cases readInt isWideSpace wideDigit payload <;> rfl

private theorem act_setOOB (w : Program) (payload : List Char) :
    (setOOB payload).act w = Toolbar.setOOB w payload := by
  unfold setOOB Toolbar.setOOB
  cases (pairs payload).mapM readHex <;> rfl

private theorem perform_setPasskeyOrOOB (alive : w.phase ≠ .ended) (payload : List UInt8) :
    mainThread.perform w (setPasskeyOrOOB payload) = Toolbar.setPasskeyOrOOB w payload := by
  have first : execute (.setLastUsedKey (.bytes payload)) w =
      { w with lastUsedKey := .bytes payload } := execute_of_alive alive (.setLastUsedKey _)
  have alive' : ({ w with lastUsedKey := .bytes payload } : Program).phase ≠ .ended := alive
  rw [setPasskeyOrOOB, Thread.perform_cons, Toolbar.setPasskeyOrOOB]
  change mainThread.perform (execute (.setLastUsedKey (.bytes payload)) w) _ = _
  rw [first, perform_single alive']
  cases decode payload with
  | none => rfl
  | some text =>
    dsimp only
    split
    · exact act_setPasskey _ text
    · split
      · exact act_setOOB _ (text.drop 2)
      · rfl

private theorem perform_setAdvhop (alive : w.phase ≠ .ended) (payload : List UInt8) :
    mainThread.perform w (setAdvhop payload) = Toolbar.setAdvhop w payload := by
  unfold setAdvhop Toolbar.setAdvhop
  cases decode payload with
  | none => exact perform_single alive .raise
  | some text =>
    have first : execute (.setLastUsedAdvhop text) w = { w with lastUsedAdvhop := text } :=
      execute_of_alive alive (.setLastUsedAdvhop text)
    have alive' : ({ w with lastUsedAdvhop := text } : Program).phase ≠ .ended := alive
    dsimp only
    rw [Thread.perform_cons]
    change mainThread.perform (execute (.setLastUsedAdvhop text) w) _ = _
    rw [first, perform_single alive']
    cases (text.splitOn ',').mapM (readInt isWideSpace wideDigit) <;> rfl

private theorem perform_handleControlCommand (alive : w.phase ≠ .ended) (arg : UInt8)
    (payload : List UInt8) : mainThread.perform w (handleControlCommand w arg payload) =
      Toolbar.handleControlCommand w arg payload := by
  unfold handleControlCommand Toolbar.handleControlCommand
  split
  · split
    · exact perform_scanForDevices alive
    · exact perform_followDevice alive payload
  · split
    · exact perform_setPasskeyOrOOB alive payload
    · split
      · exact perform_setAdvhop alive payload
      · rfl

private theorem perform_controlWriteDefaults (alive : w.phase ≠ .ended) :
    mainThread.perform w (controlWriteDefaults w) = Toolbar.controlWriteDefaults w := by
  unfold controlWriteDefaults Toolbar.controlWriteDefaults
  cases w.lastUsedKey.written CTRL_ARG_KEY with
  | none => exact perform_single alive .raise
  | some _ =>
    cases Value.written CTRL_ARG_ADVHOP (.str w.lastUsedAdvhop) with
    | none => exact perform_single alive .raise
    | some _ => exact perform_single alive .startControlLoop

/-- Statement by statement, a command does what it does as a whole. -/
theorem whole_eq : mainThread.whole = Toolbar.step := by
  funext w e
  cases e with
  | message m =>
    cases phase : w.phase with
    | initializing =>
      have alive : w.phase ≠ .ended := by simp [phase]
      simp only [Thread.whole, mainThread, statements, Toolbar.step, phase]
      split
      · exact congrArg some (perform_controlWriteDefaults alive)
      · exact congrArg some (perform_handleControlCommand alive m.arg m.payload)
    | running =>
      have alive : w.phase ≠ .ended := by simp [phase]
      simp only [Thread.whole, mainThread, statements, Toolbar.step, phase]
      exact congrArg some (perform_handleControlCommand alive m.arg m.payload)
    | ended => simp [Thread.whole, mainThread, statements, Toolbar.step, phase]
  | endOfFile =>
    cases phase : w.phase with
    | initializing => simp [Thread.whole, mainThread, statements, Toolbar.step, phase]
    | running =>
      have alive : w.phase ≠ .ended := by simp [phase]
      simp only [Thread.whole, mainThread, statements, Toolbar.step, phase]
      exact congrArg some (perform_single alive .raise)
    | ended => simp [Thread.whole, mainThread, statements, Toolbar.step, phase]

end Whole

structure World where
  main : Control Program Statement
  thread : SnifferCollector.World

/-- The variables that the main thread sets, as the other finds them. -/
def share (p : Program) (t : SnifferCollector.World) : SnifferCollector.World :=
  { t with
    collector := { t.collector with state := p.state }
    extcap := { t.extcap with
      writeNewPackets := p.writeNewPackets
      inFollowMode := p.inFollowMode } }

/-- What happens: the main thread takes a command or goes on with one, a list comes in for the other
thread or raises an exception there, or that one goes on. -/
inductive Event
  | main (move : Move Toolbar.Event)
  | receive (list : List UInt8) (time : Time)
  | raise (list : List UInt8)
  | proceed

/-- The other thread goes on as long as the main thread has not got to its `finally`. -/
def goOn (w : World) (g : SnifferCollector.Event) : Option World :=
  if w.main.state.phase = .ended then none
  else (SnifferCollector.step w.thread g).map fun thread => ⟨w.main, thread⟩

def step (w : World) : Event → Option World
  | .main move =>
    (mainThread.move w.main move).map fun main => ⟨main, share main.state w.thread⟩
  | .receive list time => goOn w (.receive list time)
  | .raise list => goOn w (.raise list)
  | .proceed => goOn w .proceed

def begun (captureOnlyAdvertising : Bool) (boardId : ℕ) (rssiFilter : ℤ) (files : Files) :
    World where
  main := {
    todo := scan
    state := { Toolbar.begun captureOnlyAdvertising with
      state := .initializing
      reader := Requests.calls Requests.opened [.sendHopSequence [37, 38, 39]]
      asked := [.sendHopSequence [37, 38, 39]] } }
  thread := SnifferCollector.started boardId rssiFilter false true files

def Event.move : Event → Option (Move Toolbar.Event)
  | .main move => some move
  | .receive _ _ | .raise _ | .proceed => none

def Event.taken (e : Event) : Option Toolbar.Event := e.move.bind Move.asked

def Event.arrival : Event → Option Processed
  | .receive list time => (SnifferCollector.Event.receive list time).arrival
  | .main _ | .raise _ | .proceed => none

def Event.list : Event → Option (List UInt8)
  | .receive list _ | .raise list => some list
  | .main _ | .proceed => none

def Event.isDevice (e : Event) : Bool :=
  e.taken.any fun
    | .message m => m.arg == CTRL_ARG_DEVICE
    | .endOfFile => false

/-- A statement whose effects the other thread does not see. -/
def Statement.silent : Statement → Bool
  | .ask _ | .setLastUsedKey _ | .setLastUsedAdvhop _ | .raise => true
  | .stateScanning | .stateFollowing | .setInFollowMode _ | .startControlLoop => false

/-- The initial values have been read, and the command under way is not about devices. -/
def Calm (w : World) : Prop :=
  (∀ statement ∈ w.main.todo, statement.silent = true) ∧ w.main.state.phase ≠ .initializing

structure Shared (p : Program) (t : SnifferCollector.World) : Prop where
  state : t.collector.state = p.state
  writeNewPackets : t.extcap.writeNewPackets = p.writeNewPackets
  inFollowMode : t.extcap.inFollowMode = p.inFollowMode

/-- What the other thread does by itself. -/
def ownStep : SnifferCollector.Event → Bool
  | .receive _ _ | .raise _ | .proceed => true
  | _ => false

structure Known (boardId : ℕ) (rssiFilter : ℤ) (w : World) : Prop where
  shared : Shared w.main.state w.thread
  base : ∃ before, SnifferCollector.Base boardId rssiFilter before w.thread

section Threads

variable {p p' : Program} {t t' : SnifferCollector.World} {boardId : ℕ} {rssiFilter : ℤ}
  {m w w' : World} {e : Event} {fs : List Event}

private theorem share_eq (h : Shared p t) : share p t = t := by
  unfold share
  rw [← h.state, ← h.writeNewPackets, ← h.inFollowMode]

private theorem goOn_some {g : SnifferCollector.Event} (he : goOn w g = some w') :
    ∃ thread, SnifferCollector.step w.thread g = some thread ∧ w' = ⟨w.main, thread⟩ := by
  unfold goOn at he
  split at he
  · cases he
  · obtain ⟨thread, gone, same⟩ := Option.map_eq_some_iff.mp he
    exact ⟨thread, gone, same.symm⟩

private theorem share_congr (state : p'.state = p.state)
    (write : p'.writeNewPackets = p.writeNewPackets)
    (follow : p'.inFollowMode = p.inFollowMode) : share p' t = share p t := by
  unfold share
  rw [state, write, follow]

private theorem share_execute (h : Shared p t) (statement : Statement) :
    ∃ gs, run SnifferCollector.step t gs = some (share (execute statement p) t) ∧
      gs.filterMap SnifferCollector.Event.arrival = [] ∧
      gs.filterMap SnifferCollector.Event.list = [] ∧ (statement.silent = true → gs = []) := by
  have still (same : share (execute statement p) t = share p t) :
      ∃ gs, run SnifferCollector.step t gs = some (share (execute statement p) t) ∧
        gs.filterMap SnifferCollector.Event.arrival = [] ∧
        gs.filterMap SnifferCollector.Event.list = [] ∧ (statement.silent = true → gs = []) := by
    rw [same, share_eq h]
    exact ⟨[], rfl, rfl, rfl, fun _ => rfl⟩
  by_cases ended : p.phase = .ended
  · exact still (by rw [execute_of_ended ended])
  · rw [execute_of_alive ended] at still ⊢
    have mine := share_eq h
    cases statement with
    | ask c =>
      obtain ⟨_, _, state, follow, _, _, write⟩ := Toolbar.ask_fields p c
      exact still (share_congr state write follow)
    | setLastUsedKey | setLastUsedAdvhop | raise => exact still rfl
    | stateScanning =>
      refine ⟨[.startScanning], ?_, rfl, rfl, fun silent => by cases silent⟩
      rw [← mine]
      rfl
    | stateFollowing =>
      refine ⟨[.startFollowing], ?_, rfl, rfl, fun silent => by cases silent⟩
      rw [← mine]
      rfl
    | setInFollowMode b =>
      refine ⟨[.setInFollowMode b], ?_, rfl, rfl, fun silent => by cases silent⟩
      rw [← mine]
      rfl
    | startControlLoop =>
      refine ⟨[.setWriteNewPackets true], ?_, rfl, rfl, fun silent => by cases silent⟩
      rw [← mine]
      rfl

private theorem shared_of_moved {e : SnifferCollector.Event} (h : Shared p t)
    (he : SnifferCollector.Moved t e t') (own : ownStep e = true) : Shared p t' := by
  obtain ⟨state, write, follow⟩ := h
  cases he with
  | notify at_ came =>
    rcases SnifferCollector.newPacket_some came with ⟨_, _, _, rfl⟩ | ⟨_, rfl⟩
    · exact ⟨state, write, follow⟩
    · exact ⟨state, write, follow⟩
  | skip | append | fail | raise | write | refuse | follow | list => exact ⟨state, write, follow⟩
  | startScanning | startFollowing | getPackets | setInFollowMode | setWriteNewPackets => cases own

private theorem silent_setPasskey (payload : List Char) : (setPasskey payload).silent = true := by
  unfold setPasskey
  split <;> rfl

private theorem silent_setOOB (payload : List Char) : (setOOB payload).silent = true := by
  unfold setOOB
  split <;> rfl

private theorem silent_setPasskeyOrOOB (payload : List UInt8) :
    ∀ statement ∈ setPasskeyOrOOB payload, statement.silent = true := by
  simp only [setPasskeyOrOOB, List.forall_mem_cons]
  refine ⟨rfl, ?_, List.forall_mem_nil _⟩
  split
  · rfl
  · split
    · exact silent_setPasskey _
    · split
      · exact silent_setOOB _
      · rfl

private theorem silent_setAdvhop (payload : List UInt8) :
    ∀ statement ∈ setAdvhop payload, statement.silent = true := by
  unfold setAdvhop
  split
  · simp [Statement.silent]
  · simp only [List.forall_mem_cons]
    refine ⟨rfl, ?_, List.forall_mem_nil _⟩
    split <;> rfl

private theorem silent_statements {e : Toolbar.Event} {todo : List Statement}
    (taken : statements p e = some todo) (later : p.phase ≠ .initializing)
    (other : ∀ m, e = .message m → m.arg ≠ CTRL_ARG_DEVICE) :
    ∀ statement ∈ todo, statement.silent = true := by
  cases e with
  | message m =>
    simp only [statements] at taken
    split at taken
    · rename_i phase
      exact absurd phase later
    · obtain rfl := Option.some_inj.mp taken
      rw [handleControlCommand, if_neg (other m rfl)]
      split
      · exact silent_setPasskeyOrOOB m.payload
      · split
        · exact silent_setAdvhop m.payload
        · exact List.forall_mem_nil _
    · cases taken
  | endOfFile =>
    simp only [statements] at taken
    split at taken
    · rename_i phase
      exact absurd phase later
    · obtain rfl := Option.some_inj.mp taken
      simp [Statement.silent]
    · cases taken

private theorem phase_execute_silent (statement : Statement) (silent : statement.silent = true)
    (later : p.phase ≠ .initializing) : (execute statement p).phase ≠ .initializing := by
  by_cases ended : p.phase = .ended
  · rw [execute_of_ended ended]
    exact later
  · rw [execute_of_alive ended]
    cases statement with
    | ask c =>
      change (p.ask c).phase ≠ .initializing
      rcases Toolbar.ask_phase p c with same | stopped
      · rw [same]
        exact later
      · simp [stopped]
    | setLastUsedKey | setLastUsedAdvhop => exact later
    | raise => simp [Statement.act, Program.raise]
    | stateScanning | stateFollowing | setInFollowMode | startControlLoop => cases silent

/-- A step of the two threads, as the other thread goes through it. -/
theorem thread_of_step (known : Known boardId rssiFilter m) (he : step m e = some w) :
    Shared w.main.state w.thread ∧ ∃ gs, run SnifferCollector.step m.thread gs = some w.thread ∧
      gs.filterMap SnifferCollector.Event.arrival = [e].filterMap Event.arrival ∧
      gs.filterMap SnifferCollector.Event.list = [e].filterMap Event.list ∧
      (Calm m → e.isDevice = false → Calm w ∧ ThreadRuns.Steady gs) := by
  obtain ⟨shared, before, base⟩ := known
  have own {g : SnifferCollector.Event} {t : SnifferCollector.World} (mine : ownStep g = true)
      (gone : SnifferCollector.step m.thread g = some t) : Shared m.main.state t ∧
        run SnifferCollector.step m.thread [g] = some t ∧ ThreadRuns.Steady [g] := by
    have moved := SnifferCollector.moved_of_step base.unconnected.switchingBaudRate gone
    refine ⟨shared_of_moved shared moved mine, by rw [run_singleton, gone], ?_⟩
    intro g' mem
    obtain rfl := List.mem_singleton.mp mem
    cases g' <;> first | rfl | cases mine
  cases e with
  | main move =>
    obtain ⟨main, moved, rfl⟩ := Option.map_eq_some_iff.mp he
    rcases Thread.move_cases moved with ⟨m', todo, rfl, free, taken, rfl⟩ |
      ⟨statement, rest, rfl, first, rfl⟩
    · refine ⟨⟨rfl, rfl, rfl⟩, [], ?_, rfl, rfl, fun calm other => ⟨⟨?_, calm.2⟩, ?_⟩⟩
      · rw [share_eq shared]
        rfl
      · apply silent_statements taken calm.2
        intro msg same
        subst same
        simpa [Event.isDevice, Event.taken, Event.move, Move.asked] using other
      · exact List.forall_mem_nil _
    · obtain ⟨gs, gone, silent, listless, unseen⟩ := share_execute shared statement
      refine ⟨⟨rfl, rfl, rfl⟩, gs, gone, silent, listless, ?_⟩
      intro calm _
      have quiet := calm.1 statement (by simp [first])
      refine ⟨⟨fun k mem => calm.1 k (by simp [first, mem]), ?_⟩, ?_⟩
      · exact phase_execute_silent statement quiet calm.2
      · rw [unseen quiet]
        exact List.forall_mem_nil _
  | receive | raise | proceed =>
    obtain ⟨thread, gone, rfl⟩ := goOn_some he
    obtain ⟨still, walked, steady⟩ := own rfl gone
    exact ⟨still, _, walked, rfl, rfl, fun calm _ => ⟨calm, steady⟩⟩

theorem thread_of_run (known : Known boardId rssiFilter m) (hrun : run step m fs = some w) :
    Known boardId rssiFilter w ∧
      ∃ gs, run SnifferCollector.step m.thread gs = some w.thread ∧
        gs.filterMap SnifferCollector.Event.arrival = fs.filterMap Event.arrival ∧
        gs.filterMap SnifferCollector.Event.list = fs.filterMap Event.list ∧
        (Calm m → (∀ e ∈ fs, e.isDevice = false) → Calm w ∧ ThreadRuns.Steady gs) := by
  obtain ⟨before, base⟩ := known.base
  refine run_induction (P := fun fs w => Known boardId rssiFilter w ∧
    ∃ gs, run SnifferCollector.step m.thread gs = some w.thread ∧
      gs.filterMap SnifferCollector.Event.arrival = fs.filterMap Event.arrival ∧
      gs.filterMap SnifferCollector.Event.list = fs.filterMap Event.list ∧
      (Calm m → (∀ e ∈ fs, e.isDevice = false) → Calm w ∧ ThreadRuns.Steady gs)) ?_ ?_ hrun
  · exact ⟨known, [], rfl, rfl, rfl, fun calm _ => ⟨calm, List.forall_mem_nil _⟩⟩
  · rintro fs e w w' _ ⟨here, gs, gone, arrived, lists, steady⟩ _ he
    obtain ⟨shared, hs, on, came, listed, calm⟩ := thread_of_step here he
    have all : run SnifferCollector.step m.thread (gs ++ hs) = some w'.thread :=
      run_append_eq_some.mpr ⟨w.thread, gone, on⟩
    refine ⟨⟨shared, before ++ (gs ++ hs), SnifferCollector.base_of_run base all⟩, gs ++ hs, all,
      ?_, ?_, ?_⟩
    · rw [List.filterMap_append, arrived, came, ← List.filterMap_append]
    · rw [List.filterMap_append, lists, listed, ← List.filterMap_append]
    · intro start others
      obtain ⟨calm_here, steady_gs⟩ := steady start fun e mem => others e (by simp [mem])
      obtain ⟨calm_there, steady_hs⟩ := calm calm_here (others e (by simp))
      refine ⟨calm_there, ?_⟩
      intro g mem
      rcases List.mem_append.mp mem with old | new
      · exact steady_gs g old
      · exact steady_hs g new

end Threads

section Runs

variable {captureOnlyAdvertising : Bool} {boardId : ℕ} {rssiFilter : ℤ} {files : Files}
  {p : Program} {c : Requests.Call} {es fs : List Event} {m w w' : World} {e : Event}

private theorem known_begun : Known boardId rssiFilter
    (begun captureOnlyAdvertising boardId rssiFilter files) :=
  ⟨⟨rfl, rfl, rfl⟩, [], SnifferCollector.base_started⟩

theorem known_of_run
    (hrun : run step (begun captureOnlyAdvertising boardId rssiFilter files) es = some w) :
    Known boardId rssiFilter w := (thread_of_run known_begun hrun).1

private theorem ask_eq {id : UInt8} {payload : List ℤ} (request : c.request = some (id, payload))
    (fits : (Requests.packetOf p.reader.packetCounter id payload).isSome) :
    p.ask c = { p with reader := (Requests.call p.reader c).1, asked := p.asked ++ [c] } := by
  obtain ⟨packet, made⟩ := Option.isSome_iff_exists.mp fits
  have sent : (Requests.call p.reader c).2 = .ok () := by
    rw [Requests.call_eq, request]
    change (Requests.sendPacket p.reader id payload).2 = _
    unfold Requests.sendPacket
    dsimp only
    rw [Requests.toBytes_requestList, made]
  unfold Program.ask
  dsimp only
  rw [sent]

private theorem scan_eq (alive : p.phase ≠ .ended) : Toolbar.scan p = { p with
    state := .scanning
    reader := (Requests.call (Requests.call p.reader .sendScan).1 (.sendTK [0])).1
    asked := p.asked ++ [.sendScan] ++ [.sendTK [0]] } := by
  have first (counter : ℕ) : (Requests.packetOf counter Requests.REQ_SCAN_CONT []).isSome := rfl
  have second (counter : ℕ) :
      (Requests.packetOf counter Requests.SET_TEMPORARY_KEY (Requests.padTK [0])).isSome :=
    Requests.packetOf_isSome.mpr (by decide)
  rw [Toolbar.scan, ask_eq rfl (first _), Program.andThen, if_neg alive, ask_eq rfl (second _)]

private theorem finish_begun :
    mainThread.finish (begun captureOnlyAdvertising boardId rssiFilter files).main =
      Toolbar.begun captureOnlyAdvertising := by
  have alive : (begun captureOnlyAdvertising boardId rssiFilter files).main.state.phase ≠ .ended :=
    Toolbar.Phase.noConfusion
  have reader : (Requests.call (Requests.call
      (Requests.calls Requests.opened [.sendHopSequence [37, 38, 39]]) .sendScan).1
        (.sendTK [0])).1 = Requests.calls Requests.opened Toolbar.firstCalls := by
    rw [← Toolbar.calls_concat, ← Toolbar.calls_concat]
    rfl
  rw [Thread.finish]
  change mainThread.perform _ scan = _
  rw [perform_scan alive, scan_eq alive]
  simp only [begun, reader, Toolbar.begun]
  rfl

private theorem main_of_run
    (hrun : run step (begun captureOnlyAdvertising boardId rssiFilter files) es = some w) :
    run Toolbar.step (Toolbar.begun captureOnlyAdvertising) (es.filterMap Event.taken) =
      some (mainThread.finish w.main) := by
  have moves : run mainThread.move (begun captureOnlyAdvertising boardId rssiFilter files).main
      (es.filterMap Event.move) = some w.main := by
    refine run_project (I := fun _ => True) World.main Event.move (fun _ _ _ _ _ => trivial) ?_
      trivial hrun
    intro m e m' _ he
    cases e with
    | main move =>
      obtain ⟨main, moved, rfl⟩ := Option.map_eq_some_iff.mp he
      simp [Event.move, moved]
    | receive | raise | proceed =>
      obtain ⟨thread, _, rfl⟩ := goOn_some he
      rfl
  have finished := Thread.finish_of_run moves
  rw [whole_eq, finish_begun, List.filterMap_filterMap] at finished
  exact finished

/-- However the statements of the main thread and the steps of the other come between each other:
the other thread goes through a run of its own on the lists that come in, and always finds the
values that the main thread has set last; and the main thread, once it is done with the command
under way, is where its commands, each as a whole, have led. -/
theorem threads_apart
    (hrun : run step (begun captureOnlyAdvertising boardId rssiFilter files) es = some w) :
    (∃ gs, run SnifferCollector.step (SnifferCollector.started boardId rssiFilter false true files) gs =
        some w.thread ∧
      gs.filterMap SnifferCollector.Event.arrival = es.filterMap Event.arrival ∧
      gs.filterMap SnifferCollector.Event.list = es.filterMap Event.list) ∧
    share w.main.state w.thread = w.thread ∧
    run Toolbar.step (Toolbar.begun captureOnlyAdvertising) (es.filterMap Event.taken) =
      some (mainThread.finish w.main) := by
  obtain ⟨known, gs, gone, arrived, lists, _⟩ := thread_of_run known_begun hrun
  exact ⟨⟨gs, gone, arrived, lists⟩, share_eq known.shared, main_of_run hrun⟩

/-- Between two commands about devices: while a device is followed, the pipe gets the record of
every event that the callback is told of, and otherwise of those over the filter, all in the order
in which they came in; at most the event at hand is still to come. -/
theorem captured_between_commands
    (before : run step (begun captureOnlyAdvertising boardId rssiFilter files) es = some m)
    (free : m.main.todo = []) (running : m.main.state.phase = .running)
    (after : run step m fs = some w) (others : ∀ e ∈ fs, e.isDevice = false) :
    ∃ told left wanted, m.thread.worker.untold ++ fs.filterMap Event.arrival = told ++ left ∧
      left <:+ w.thread.worker.untold ∧
      wanted = told.filter (fun p => decide (m.main.state.state = .following) ||
        SnifferCollector.overFilter rssiFilter p) ∧
      (∀ p ∈ wanted, (recordOf boardId p).isSome) ∧
      w.thread.extcap.capture =
        m.thread.extcap.capture ++ (wanted.filterMap (recordOf boardId)).flatMap Record.write := by
  have known := known_of_run before
  obtain ⟨past, base⟩ := known.base
  have calm : Calm m := ⟨by simp [free], by simp [running]⟩
  obtain ⟨_, gs, gone, arrived, _, steady⟩ := thread_of_run known after
  obtain ⟨told, left, between⟩ :=
    ThreadRuns.between_of_run base gone (steady calm others).2
  have done : mainThread.finish m.main = m.main.state := by
    rw [Thread.finish, free, Thread.perform_nil]
  have toolbar := main_of_run before
  rw [done] at toolbar
  have follow := (Toolbar.agrees_of_run toolbar).follow (by simp [running])
  have writes : m.main.state.writeNewPackets = true := by
    have stands := Toolbar.stands_of_run toolbar
    rw [Toolbar.Stands, running] at stands
    exact stands.1
  have wants : m.thread.extcap.wants = fun p => decide (m.main.state.state = .following) ||
      SnifferCollector.overFilter rssiFilter p := by
    funext p
    have mode : m.thread.extcap.inFollowMode = decide (m.main.state.state = .following) := by
      rw [known.shared.inFollowMode, Bool.eq_iff_iff, decide_eq_true_iff]
      exact follow
    simp only [SnifferCollector.Extcap.wants, known.shared.writeNewPackets, writes, mode,
      base.rssiFilter, Bool.true_and]
  have capture := congrArg SnifferCollector.Extcap.capture between.extcap
  rw [← arrived]
  rw [wants] at capture
  have recorded := between.recorded
  rw [wants] at recorded
  refine ⟨told, left, _, between.arrived, ?_, rfl, recorded, capture⟩
  rcases between.left with same | ⟨rfl, _⟩
  · rw [same]
  · exact List.nil_suffix

def intoLoop : List Event := List.replicate 3 (.main .statement) ++
  [.main (.command (.message ⟨0, CTRL_CMD_INIT, [], by decide⟩)), .main .statement]

def oneEvent : List Event :=
  .receive (SnifferCollector.eventList 10) ⟨100, 0⟩ :: List.replicate 4 .proceed

def keyBetween : List Event :=
  [.receive (SnifferCollector.eventList 10) ⟨100, 0⟩, .proceed,
    .main (.command (.message ⟨CTRL_ARG_KEY, CTRL_CMD_SET, [], by decide⟩)), .proceed,
    .main .statement, .proceed, .main .statement, .proceed]

theorem threads_apart_key : ∃ w,
    run step (begun false 3 (-50) Capture.noFiles) (intoLoop ++ keyBetween) = some w ∧
      (∃ gs, run SnifferCollector.step
          (SnifferCollector.started 3 (-50) false true Capture.noFiles) gs = some w.thread ∧
        gs.filterMap SnifferCollector.Event.arrival =
          (intoLoop ++ keyBetween).filterMap Event.arrival ∧
        gs.filterMap SnifferCollector.Event.list =
          (intoLoop ++ keyBetween).filterMap Event.list) ∧
      share w.main.state w.thread = w.thread ∧
      run Toolbar.step (Toolbar.begun false) ((intoLoop ++ keyBetween).filterMap Event.taken) =
        some (mainThread.finish w.main) := by
  have hrun : run step (begun false 3 (-50) Capture.noFiles) (intoLoop ++ keyBetween) =
    some _ := rfl
  exact ⟨_, hrun, threads_apart hrun⟩

def inLoop : World :=
  (run step (begun false 3 (-50) Capture.noFiles) intoLoop).getD
    (begun false 3 (-50) Capture.noFiles)

theorem captured_between_commands_event : ∃ (w : World) (told left : List Processed),
    run step inLoop oneEvent = some w ∧ oneEvent.filterMap Event.arrival = told ++ left ∧
      w.thread.extcap.capture = inLoop.thread.extcap.capture ++
        ((told.filter (SnifferCollector.overFilter (-50))).filterMap (recordOf 3)).flatMap
          Record.write := by
  have before : run step (begun false 3 (-50) Capture.noFiles) intoLoop = some inLoop := rfl
  have after : run step inLoop oneEvent = some _ := rfl
  obtain ⟨told, left, _, arrived, _, rfl, _, capture⟩ :=
    captured_between_commands before rfl rfl after (by decide)
  exact ⟨_, told, left, after, arrived, capture⟩

private theorem writes_execute (writes : p.writeNewPackets = true) (statement : Statement) :
    (execute statement p).writeNewPackets = true := by
  by_cases ended : p.phase = .ended
  · rw [execute_of_ended ended]
    exact writes
  · rw [execute_of_alive ended]
    cases statement with
    | ask c =>
      obtain ⟨_, _, _, _, _, _, same⟩ := Toolbar.ask_fields p c
      exact same.trans writes
    | startControlLoop => rfl
    | stateScanning | stateFollowing | setInFollowMode | setLastUsedKey | setLastUsedAdvhop |
      raise => exact writes

private theorem writes_perform (writes : p.writeNewPackets = true) (todo : List Statement) :
    (mainThread.perform p todo).writeNewPackets = true := by
  induction todo generalizing p with
  | nil => exact writes
  | cons statement rest ih => exact ih (writes_execute writes statement)

private theorem capture_of_moved {t t' : SnifferCollector.World} {g : SnifferCollector.Event}
    (closed : t.extcap.writeNewPackets = false) (he : SnifferCollector.Moved t g t') :
    t'.extcap.capture = t.extcap.capture := by
  cases he with
  | notify at_ came =>
    rcases SnifferCollector.newPacket_some came with ⟨wants, _⟩ | ⟨_, rfl⟩
    · simp [SnifferCollector.Extcap.wants, closed] at wants
    · rfl
  | skip | append | fail | raise | write | refuse | follow | list | startScanning |
    startFollowing | getPackets | setInFollowMode | setWriteNewPackets => rfl

private theorem closed_step (known : Known boardId rssiFilter m)
    (closed : m.main.state.writeNewPackets = false → m.thread.extcap.capture = getGlobalHeader)
    (he : step m e = some w) (still : w.main.state.writeNewPackets = false) :
    w.thread.extcap.capture = getGlobalHeader := by
  obtain ⟨shared, before, base⟩ := known
  have own {g : SnifferCollector.Event} {t : SnifferCollector.World}
      (gone : SnifferCollector.step m.thread g = some t)
      (still : m.main.state.writeNewPackets = false) : t.extcap.capture = getGlobalHeader := by
    have moved := SnifferCollector.moved_of_step base.unconnected.switchingBaudRate gone
    rw [capture_of_moved (shared.writeNewPackets.trans still) moved]
    exact closed still
  cases e with
  | main move =>
    obtain ⟨main, moved, rfl⟩ := Option.map_eq_some_iff.mp he
    have earlier : m.main.state.writeNewPackets = false := by
      rw [← Bool.not_eq_true]
      intro writes
      rcases Thread.move_cases moved with ⟨_, _, _, _, _, rfl⟩ | ⟨statement, _, _, _, rfl⟩
      · simp [writes] at still
      · have later := writes_execute writes statement
        change (execute statement m.main.state).writeNewPackets = false at still
        simp [later] at still
    exact closed earlier
  | receive | raise | proceed =>
    obtain ⟨thread, gone, rfl⟩ := goOn_some he
    exact own gone still

/-- Nothing but its header gets into the pipe before the initial values have ended, nor ever when a
key was among them, whatever comes in from the sniffer and whenever. -/
theorem nothing_before_start
    (hrun : run step (begun captureOnlyAdvertising boardId rssiFilter files) es = some w)
    (early : ¬Toolbar.Starts (es.filterMap Event.taken)) :
    w.thread.extcap.capture = getGlobalHeader := by
  have stands := Toolbar.stands_of_run (main_of_run hrun)
  have closed : (mainThread.finish w.main).writeNewPackets = false := by
    rw [← Bool.not_eq_true]
    intro writes
    unfold Toolbar.Stands at stands
    split at stands
    · simp [stands.quiet] at writes
    · exact early stands.2
    · exact early (stands.mp writes)
  have now : w.main.state.writeNewPackets = false := by
    rw [← Bool.not_eq_true]
    intro writes
    have later := writes_perform writes w.main.todo
    rw [Thread.finish] at closed
    simp [later] at closed
  refine run_induction (P := fun _ w => Known boardId rssiFilter w ∧
    (w.main.state.writeNewPackets = false → w.thread.extcap.capture = getGlobalHeader))
      ⟨known_begun, fun _ => rfl⟩ ?_ hrun |>.2 now
  rintro es e w w' reached ⟨known, closed⟩ _ he
  have next := run_append_eq_some.mpr ⟨w, reached, (run_singleton step w e).trans he⟩
  exact ⟨known_of_run next, closed_step known closed he⟩

def keyFirst : List Event := List.replicate 3 (.main .statement) ++
  [.main (.command (.message ⟨CTRL_ARG_KEY, CTRL_CMD_SET, [], by decide⟩)), .main .statement,
    .main .statement] ++ oneEvent ++
  [.main (.command (.message ⟨0, CTRL_CMD_INIT, [], by decide⟩)), .main .statement]

theorem nothing_before_start_key : ∃ w,
    run step (begun false 3 0 Capture.noFiles) keyFirst = some w ∧
      w.thread.worker = .waiting ∧ w.thread.processed.length = 1 ∧
      w.thread.extcap.capture = getGlobalHeader := by
  have hrun : run step (begun false 3 0 Capture.noFiles) keyFirst = some _ := rfl
  have early : ¬Toolbar.Starts (keyFirst.filterMap Event.taken) := by
    rintro ⟨_, no_key⟩
    cases no_key
  exact ⟨_, hrun, rfl, rfl, nothing_before_start hrun early⟩

end Runs

end ProximityLed.Sniffer.SnifferCapture
