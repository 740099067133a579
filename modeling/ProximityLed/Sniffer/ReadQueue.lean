/- ProximityLed/Sniffer/ReadQueue
   digest: The queue between the thread that reads the serial port and the one that asks for bytes. -/

import ProximityLed.Sniffer.Slip
import ProximityLed.Library.Run

set_option autoImplicit false
set_option relaxedAutoImplicit false

namespace ProximityLed.Sniffer.ReadQueue

open Library.Run
open Slip

/-- Where the reading thread stands: in `read`, or between `extend` and `set`. -/
inductive Worker
  | reading
  | extended
  deriving DecidableEq

/-- Where a call of `_read_queue_get` stands: in front of `wait`, behind it, behind `clear`, behind
`popleft`, or behind the test that finds more bytes. -/
inductive Consumer
  | waiting
  | woken
  | cleared
  | popped (data : UInt8)
  | resetting (data : UInt8)
  deriving DecidableEq

/-- How a call ends.  The last two both return `None`. -/
inductive Outcome
  | data (b : UInt8)
  | timedOut
  | indexError
  deriving DecidableEq

def Outcome.value : Outcome → Option UInt8
  | .data b => some b
  | .timedOut | .indexError => none

/-- The queue and its event, the two threads, what the calls have returned, oldest first, and all
bytes that the port has handed over. -/
structure Uart where
  readQueue : List UInt8
  readQueueHasData : Bool
  worker : Worker
  consumer : Consumer
  returned : List Outcome
  received : List UInt8

/-- The statements of the two threads, and `close` of a third. -/
inductive Event
  | read (data : List UInt8)
  | setHasData
  | wait
  | timeout
  | clear
  | popleft
  | testLength
  | reset
  | close
  deriving DecidableEq

def step (s : Uart) : Event → Option Uart
  | .read data =>
    if s.worker = .reading then
      if data.length > 0 then
        some { s with
          readQueue := s.readQueue ++ data
          worker := .extended
          received := s.received ++ data }
      else some s
    else none
  | .setHasData =>
    if s.worker = .extended then some { s with readQueueHasData := true, worker := .reading }
    else none
  | .wait =>
    if s.consumer = .waiting ∧ s.readQueueHasData then some { s with consumer := .woken } else none
  | .timeout =>
    if s.consumer = .waiting then some { s with returned := s.returned ++ [.timedOut] } else none
  | .clear =>
    if s.consumer = .woken then some { s with readQueueHasData := false, consumer := .cleared }
    else none
  | .popleft =>
    if s.consumer = .cleared then
      match s.readQueue with
      | [] => some { s with consumer := .waiting, returned := s.returned ++ [.indexError] }
      | data :: queue => some { s with readQueue := queue, consumer := .popped data }
    else none
  | .testLength =>
    match s.consumer with
    | .popped data =>
      if s.readQueue.length > 0 then some { s with consumer := .resetting data }
      else some { s with consumer := .waiting, returned := s.returned ++ [.data data] }
    | _ => none
  | .reset =>
    match s.consumer with
    | .resetting data =>
      some { s with
        readQueueHasData := true
        consumer := .waiting
        returned := s.returned ++ [.data data] }
    | _ => none
  | .close => some { s with readQueueHasData := true }

def Event.ofCall : Event → Bool
  | .wait | .clear | .popleft | .testLength | .reset => true
  | .read _ | .setHasData | .timeout | .close => false

def opened : Uart := ⟨[], false, .reading, .waiting, [], []⟩

def Consumer.inHand : Consumer → List UInt8
  | .popped data | .resetting data => [data]
  | .waiting | .woken | .cleared => []

def Uart.delivered (s : Uart) : List UInt8 := s.returned.filterMap Outcome.value

/-- The event is set, or about to be, or the queue is about to be looked at again. -/
def Uart.Attended (s : Uart) : Prop :=
  s.readQueueHasData = true ∨ s.worker = .extended ∨ s.consumer = .cleared ∨
    s.consumer.inHand ≠ []

/-- What each statement can do, and when. -/
inductive Moved (s : Uart) : Event → Uart → Prop
  | nothing : Moved s (.read []) s
  | read {data : List UInt8} : s.worker = .reading → data ≠ [] →
      Moved s (.read data) { s with
        readQueue := s.readQueue ++ data
        worker := .extended
        received := s.received ++ data }
  | set : s.worker = .extended →
      Moved s .setHasData { s with readQueueHasData := true, worker := .reading }
  | wait : s.consumer = .waiting → s.readQueueHasData = true →
      Moved s .wait { s with consumer := .woken }
  | timeout : s.consumer = .waiting →
      Moved s .timeout { s with returned := s.returned ++ [.timedOut] }
  | clear : s.consumer = .woken →
      Moved s .clear { s with readQueueHasData := false, consumer := .cleared }
  | empty : s.consumer = .cleared → s.readQueue = [] →
      Moved s .popleft { s with consumer := .waiting, returned := s.returned ++ [.indexError] }
  | pop {data : UInt8} {queue : List UInt8} : s.consumer = .cleared → s.readQueue = data :: queue →
      Moved s .popleft { s with readQueue := queue, consumer := .popped data }
  | more {data : UInt8} : s.consumer = .popped data → s.readQueue ≠ [] →
      Moved s .testLength { s with consumer := .resetting data }
  | last {data : UInt8} : s.consumer = .popped data → s.readQueue = [] →
      Moved s .testLength { s with consumer := .waiting, returned := s.returned ++ [.data data] }
  | reset {data : UInt8} : s.consumer = .resetting data →
      Moved s .reset { s with
        readQueueHasData := true
        consumer := .waiting
        returned := s.returned ++ [.data data] }
  | close : Moved s .close { s with readQueueHasData := true }

theorem moved_of_step {s t : Uart} {e : Event} (he : step s e = some t) : Moved s e t := by
  cases e with
  | read data =>
    simp only [step, Option.ite_none_right_eq_some] at he
    obtain ⟨reading, he⟩ := he
    split at he
    · rename_i some_data
      obtain rfl := Option.some_inj.mp he
      exact .read reading (List.ne_nil_of_length_pos some_data)
    · rename_i no_data
      obtain rfl := Option.some_inj.mp he
      obtain rfl : data = [] := List.eq_nil_of_length_eq_zero (by omega)
      exact .nothing
  | setHasData =>
    simp only [step, Option.ite_none_right_eq_some, Option.some_inj] at he
    obtain ⟨extended, rfl⟩ := he
    exact .set extended
  | wait =>
    simp only [step, Option.ite_none_right_eq_some, Option.some_inj] at he
    obtain ⟨⟨waiting, set⟩, rfl⟩ := he
    exact .wait waiting set
  | timeout =>
    simp only [step, Option.ite_none_right_eq_some, Option.some_inj] at he
    obtain ⟨waiting, rfl⟩ := he
    exact .timeout waiting
  | clear =>
    simp only [step, Option.ite_none_right_eq_some, Option.some_inj] at he
    obtain ⟨woken, rfl⟩ := he
    exact .clear woken
  | popleft =>
    simp only [step, Option.ite_none_right_eq_some] at he
    obtain ⟨cleared, he⟩ := he
    split at he
    · rename_i empty
      obtain rfl := Option.some_inj.mp he
      exact .empty cleared empty
    · rename_i data queue full
      obtain rfl := Option.some_inj.mp he
      exact .pop cleared full
  | testLength =>
    simp only [step] at he
    split at he
    · rename_i data popped
      split at he
      · rename_i more
        obtain rfl := Option.some_inj.mp he
        exact .more popped (List.ne_nil_of_length_pos more)
      · rename_i no_more
        obtain rfl := Option.some_inj.mp he
        exact .last popped (List.eq_nil_of_length_eq_zero (by omega))
    · cases he
  | reset =>
    simp only [step] at he
    split at he
    · rename_i data resetting
      obtain rfl := Option.some_inj.mp he
      exact .reset resetting
    · cases he
  | close =>
    simp only [step, Option.some_inj] at he
    obtain rfl := he
    exact .close

/-- What holds between any two statements of the threads. -/
structure Sound (s : Uart) : Prop where
  inOrder : s.delivered ++ s.consumer.inHand ++ s.readQueue = s.received
  attended : s.readQueue ≠ [] → s.Attended

private theorem sound_opened : Sound opened := ⟨rfl, fun waiting => absurd rfl waiting⟩

theorem sound_step {s t : Uart} {e : Event} (h : Sound s) (he : step s e = some t) : Sound t := by
  obtain ⟨inOrder, attended⟩ := h
  cases moved_of_step he with
  | nothing => exact ⟨inOrder, attended⟩
  | @read data =>
    refine ⟨?_, fun _ => .inr (.inl rfl)⟩
    rw [← inOrder]
    simp [Uart.delivered]
  | set => exact ⟨inOrder, fun _ => .inl rfl⟩
  | close => exact ⟨inOrder, fun _ => .inl rfl⟩
  | wait waiting set =>
    rw [waiting] at inOrder
    exact ⟨inOrder, fun _ => .inl set⟩
  | timeout =>
    refine ⟨?_, attended⟩
    rw [← inOrder]
    simp [Uart.delivered, Outcome.value]
  | clear woken =>
    rw [woken] at inOrder
    exact ⟨inOrder, fun _ => .inr (.inr (.inl rfl))⟩
  | empty cleared empty =>
    refine ⟨?_, fun waiting => absurd empty waiting⟩
    rw [← inOrder, cleared, empty]
    simp [Uart.delivered, Outcome.value, Consumer.inHand]
  | pop cleared full =>
    refine ⟨?_, fun _ => .inr (.inr (.inr (by simp [Consumer.inHand])))⟩
    rw [← inOrder, cleared, full]
    simp [Uart.delivered, Consumer.inHand]
  | more popped =>
    rw [popped] at inOrder
    exact ⟨inOrder, fun _ => .inr (.inr (.inr (by simp [Consumer.inHand])))⟩
  | last popped empty =>
    refine ⟨?_, fun waiting => absurd empty waiting⟩
    rw [← inOrder, popped]
    simp [Uart.delivered, Outcome.value, Consumer.inHand]
  | reset resetting =>
    refine ⟨?_, fun _ => .inl rfl⟩
    rw [← inOrder, resetting]
    simp [Uart.delivered, Outcome.value, Consumer.inHand]

theorem sound_run {s : Uart} {es : List Event} (hrun : run step opened es = some s) : Sound s :=
  run_invariant (fun _ _ _ _ hm he => sound_step hm he) sound_opened hrun

private theorem run_call {s : Uart} {data : UInt8} {queue : List UInt8}
    (waiting : s.consumer = .waiting)
    (set : s.readQueueHasData = true) (full : s.readQueue = data :: queue) :
    ∃ es t, (∀ e ∈ es, e.ofCall = true) ∧ run step s es = some t ∧
      t.returned = s.returned ++ [.data data] ∧ t.readQueue = queue ∧ t.consumer = .waiting ∧
      (queue ≠ [] → t.readQueueHasData = true) := by
  cases queue with
  | nil =>
    refine ⟨[.wait, .clear, .popleft, .testLength],
      { s with readQueue := [], readQueueHasData := false, returned := s.returned ++ [.data data] },
      by decide, ?_, rfl, rfl, waiting, fun more => absurd rfl more⟩
    simp [step, waiting, set, full]
  | cons next queue =>
    refine ⟨[.wait, .clear, .popleft, .testLength, .reset],
      { s with readQueue := next :: queue, returned := s.returned ++ [.data data] },
      by decide, ?_, rfl, rfl, waiting, fun _ => set⟩
    simp [step, waiting, set, full]

theorem run_calls {s : Uart} (waiting : s.consumer = .waiting)
    (awake : s.readQueue ≠ [] → s.readQueueHasData = true) :
    ∃ es t, (∀ e ∈ es, e.ofCall = true) ∧ run step s es = some t ∧
      t.returned = s.returned ++ s.readQueue.map .data ∧ t.readQueue = [] ∧
      t.consumer = .waiting := by
  generalize full : s.readQueue = queue at awake
  induction queue generalizing s with
  | nil => exact ⟨[], s, by simp, rfl, by simp, full, waiting⟩
  | cons data queue ih =>
    obtain ⟨es, m, call, first, returned, left, at_wait, still⟩ :=
      run_call waiting (awake (by simp)) full
    obtain ⟨fs, t, calls, rest, all, empty, done⟩ := ih at_wait left still
    refine ⟨es ++ fs, t, ?_, ?_, ?_, empty, done⟩
    · exact List.forall_mem_append.mpr ⟨call, calls⟩
    · rw [run_append_eq_some]
      exact ⟨m, first, rest⟩
    · rw [all, returned]
      simp

/-- When the reading thread is back in `read` and no call is under way, the event is set for a queue
that has bytes. -/
theorem Sound.awake {s : Uart} (h : Sound s) (reading : s.worker = .reading)
    (waiting : s.consumer = .waiting) (full : s.readQueue ≠ []) : s.readQueueHasData = true := by
  rcases h.attended full with set | extended | cleared | inHand
  · exact set
  · rw [reading] at extended
    cases extended
  · rw [waiting] at cleared
    cases cleared
  · rw [waiting] at inHand
    exact absurd rfl inHand

/-- In every interleaving of the two threads and `close`, bytes come out in the order in which they
came in, each once.  The reader never sleeps on a queue that has bytes: when the other thread is back
in `read`, the event is set for them, and calls by themselves, none of which times out, return all of
them. -/
theorem bytes_in_order {es : List Event} {s : Uart} (hrun : run step opened es = some s) :
    s.delivered ++ s.consumer.inHand ++ s.readQueue = s.received ∧
      (s.worker = .reading → s.consumer = .waiting →
        (s.readQueue ≠ [] → s.readQueueHasData = true) ∧
        ∃ fs t, (∀ e ∈ fs, e.ofCall = true) ∧ run step s fs = some t ∧
          t.returned = s.returned ++ s.readQueue.map .data ∧ t.delivered = s.received) := by
  have sound := sound_run hrun
  refine ⟨sound.inOrder, ?_⟩
  intro reading waiting
  have awake := sound.awake reading waiting
  obtain ⟨fs, t, ofCall, calls, returned, _, _⟩ := run_calls waiting awake
  refine ⟨awake, fs, t, ofCall, calls, returned, ?_⟩
  have bytes : (s.readQueue.map Outcome.data).filterMap Outcome.value = s.readQueue := by
    simp [List.filterMap_map, Function.comp_def, Outcome.value]
  have inOrder := sound.inOrder
  rw [waiting] at inOrder
  simp only [Uart.delivered, returned, List.filterMap_append, bytes]
  simpa [Consumer.inHand, Uart.delivered] using inOrder

/-- A second byte comes in while a call takes out the first. -/
def oneLeft : List Event :=
  [.read [1], .setHasData, .wait, .clear, .read [2], .popleft, .setHasData, .testLength, .reset]

theorem bytes_in_order_left : ∃ s, run step opened oneLeft = some s ∧
    s.readQueue = [2] ∧ s.readQueueHasData = true ∧
      ∃ fs t, (∀ e ∈ fs, e.ofCall = true) ∧ run step s fs = some t ∧
        t.returned = [.data 1, .data 2] := by
  have hrun : run step opened oneLeft = some _ := rfl
  obtain ⟨_, woken⟩ := bytes_in_order hrun
  obtain ⟨awake, fs, t, ofCall, calls, returned, _⟩ := woken rfl rfl
  exact ⟨_, hrun, rfl, awake (by decide), fs, t, ofCall, calls, returned⟩

/-- How often the event has been set, or is about to be, for calls that are still to clear it. -/
def Uart.tokens (s : Uart) : ℕ :=
  (match s.worker with
    | .reading => 0
    | .extended => 1) +
  match s.consumer with
    | .waiting => s.readQueueHasData.toNat
    | .woken => 1
    | .cleared => s.readQueueHasData.toNat + 1
    | .popped _ => s.readQueueHasData.toNat + if s.readQueue = [] then 0 else 1
    | .resetting _ => s.readQueueHasData.toNat + 1

/-- The statements that set the event for a reason of their own: bytes that came in, or `close`. -/
def Event.sets : Event → Bool
  | .read data => data ≠ []
  | .close => true
  | _ => false

def Uart.indexErrors (s : Uart) : ℕ := s.returned.count .indexError

/-- Each call that finds the queue empty was woken by a set of its own.  While the queue has bytes,
one of the sets is the one for its first byte. -/
def Paid (s : Uart) (sets : ℕ) : Prop :=
  s.indexErrors + s.tokens ≤ sets + if s.readQueue = [] then 0 else 1

private theorem paid_step {s t : Uart} {e : Event} {sets : ℕ} (h : Paid s sets)
    (he : step s e = some t) : Paid t (sets + if e.sets then 1 else 0) := by
  have flag : s.readQueueHasData.toNat ≤ 1 := Bool.toNat_le _
  simp only [Paid, Uart.tokens, Uart.indexErrors] at h ⊢
  cases moved_of_step he with
  | nothing => simpa [Event.sets] using h
  | @read data reading some_data =>
    simp only [reading] at h
    cases at_ : s.consumer <;> simp [at_, some_data, Event.sets] at h ⊢ <;> split_ifs at h ⊢ <;> omega
  | set extended =>
    simp only [extended] at h
    cases at_ : s.consumer <;> simp [at_, Event.sets] at h ⊢ <;> omega
  | close => cases at_ : s.consumer <;> simp [at_, Event.sets] at h ⊢ <;> omega
  | wait waiting set =>
    simp [waiting, set, Event.sets] at h ⊢
    omega
  | timeout waiting => simpa [waiting, Event.sets, List.count_append] using h
  | clear woken =>
    simp [woken, Event.sets] at h ⊢
    omega
  | empty cleared empty =>
    simp [cleared, empty, Event.sets] at h ⊢
    omega
  | pop cleared full =>
    simp [cleared, full, Event.sets] at h ⊢
    omega
  | more popped full =>
    simp [popped, full, Event.sets] at h ⊢
    omega
  | last popped empty =>
    simp [popped, empty, Event.sets] at h ⊢
    omega
  | reset resetting =>
    simp [resetting, Event.sets] at h ⊢
    omega

private theorem paid_run {es : List Event} {s : Uart} (hrun : run step opened es = some s) :
    Paid s (es.countP Event.sets) := by
  refine run_induction (P := fun history m => Paid m (history.countP Event.sets)) ?_ ?_ hrun
  · exact Nat.zero_le _
  · intro history e m m' _ paid _ he
    rw [List.countP_append, List.countP_singleton]
    exact paid_step paid he

private theorem tokens_pos {s : Uart} (attended : s.Attended) (full : s.readQueue ≠ []) :
    1 ≤ s.tokens := by
  rcases attended with set | extended | cleared | inHand
  · cases at_ : s.consumer <;>
      simp only [Uart.tokens, at_, set, Bool.toNat_true] <;> omega
  · simp only [Uart.tokens, extended]
    omega
  · simp only [Uart.tokens, cleared]
    omega
  · cases at_ : s.consumer with
    | popped data =>
      simp only [Uart.tokens, at_, if_neg full]
      omega
    | resetting data =>
      simp only [Uart.tokens, at_]
      omega
    | waiting | woken | cleared =>
      rw [at_] at inHand
      exact absurd rfl inHand

/-- Calls find the queue empty at most as often as bytes have come in or `close` was called. -/
theorem indexErrors_le {es : List Event} {s : Uart} (hrun : run step opened es = some s) :
    s.indexErrors ≤ es.countP Event.sets := by
  have paid := paid_run hrun
  have attended := (sound_run hrun).attended
  simp only [Paid] at paid
  by_cases empty : s.readQueue = []
  · rw [if_pos empty] at paid
    omega
  · have token := tokens_pos (attended empty) empty
    rw [if_neg empty] at paid
    omega

/-- What a reader of packets gets between two calls that return `None`. -/
def bursts : List Outcome → List (List UInt8)
  | [] => [[]]
  | .data b :: outcomes => (b :: (bursts outcomes).headD []) :: (bursts outcomes).tail
  | .timedOut :: outcomes | .indexError :: outcomes => [] :: bursts outcomes

theorem bursts_flatten (outcomes : List Outcome) :
    (bursts outcomes).flatten = outcomes.filterMap Outcome.value := by
  induction outcomes with
  | nil => rfl
  | cons outcome outcomes ih =>
    cases outcome with
    | timedOut | indexError => exact ih
    | data b =>
      rw [List.filterMap_cons_some (by rfl : Outcome.value (.data b) = some b), ← ih, bursts]
      cases bursts outcomes <;> rfl

theorem length_bursts (outcomes : List Outcome) :
    (bursts outcomes).length = outcomes.count .timedOut + outcomes.count .indexError + 1 := by
  induction outcomes with
  | nil => rfl
  | cons outcome outcomes ih =>
    cases outcome with
    | timedOut | indexError =>
      simp only [bursts, List.length_cons, ih, List.count_cons]
      simp
      omega
    | data b =>
      simp only [bursts, List.length_cons, List.length_tail, ih, List.count_cons]
      simp

theorem bursts_data (bytes : List UInt8) : bursts (bytes.map .data) = [bytes] := by
  induction bytes with
  | nil => rfl
  | cons b bytes ih =>
    rw [List.map_cons, bursts, ih]
    rfl

/-- Packets that come in over the line go through the queue: once it is empty, a reader has got them
as they were sent, in order, but for at most one for each time its call timed out, and one for each
time that bytes had come in or `close` was called. -/
theorem packets_through_queue {es : List Event} {s : Uart} {packets : List (List UInt8)}
    (hrun : run step opened es = some s) (carried : slip.Carries s.received packets)
    (empty : s.readQueue = []) (waiting : s.consumer = .waiting) :
    (receiveAll (bursts s.returned)).Sublist packets ∧
      packets.length ≤ (receiveAll (bursts s.returned)).length +
        (s.returned.count .timedOut + es.countP Event.sets) := by
  have inOrder := (sound_run hrun).inOrder
  have few := indexErrors_le hrun
  have all : (bursts s.returned).flatten = s.received := by
    rw [bursts_flatten, ← inOrder, empty, waiting]
    simp [Uart.delivered, Consumer.inHand]
  rw [← all] at carried
  obtain ⟨got, lost⟩ := pauses_lose_one_each carried
  refine ⟨got, ?_⟩
  rw [length_bursts] at lost
  simp only [Uart.indexErrors] at few
  omega

def threeCalls : List Event :=
  [.wait, .clear, .popleft, .testLength, .reset, .wait, .clear, .popleft, .testLength, .reset,
    .wait, .clear, .popleft, .testLength]

/-- The last byte of a packet is taken out before its own `set`: the next call is woken for nothing.
Then a second packet comes in. -/
def wokenForNothing : List Event :=
  [.read [SLIP_START, 1], .setHasData, .read [SLIP_END]] ++ threeCalls ++
    [.setHasData, .wait, .clear, .popleft, .read (slip.encode [2]), .setHasData] ++ threeCalls

example : (run step opened wokenForNothing).map (fun s => bursts s.returned) =
    some [slip.encode [1], slip.encode [2]] := by decide

theorem packets_through_queue_woken : ∃ s, run step opened wokenForNothing = some s ∧
    s.indexErrors = 1 ∧ (receiveAll (bursts s.returned)).Sublist [[1], [2]] := by
  have hrun : run step opened wokenForNothing = some _ := rfl
  have carried : slip.Carries (slip.encode [1] ++ slip.encode [2]) [[1], [2]] :=
    Library.Framing.Escaping.carries_flatMap (f := slip) [[1], [2]]
  exact ⟨_, hrun, rfl, (packets_through_queue hrun carried rfl rfl).1⟩

end ProximityLed.Sniffer.ReadQueue
