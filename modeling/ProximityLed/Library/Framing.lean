/- ProximityLed/Library/Framing
   digest: Escape framing of packets in a stream of symbols, and the decoder that falls into step. -/

import Mathlib.Data.List.Basic

set_option autoImplicit false
set_option relaxedAutoImplicit false

namespace ProximityLed.Library.Framing

/-- Symbols that start and stop a packet, and an escape for these three inside of it.  What follows
an escape is undone by `unescape`, which answers for every symbol. -/
structure Escaping (α : Type) where
  start : α
  stop : α
  escape : α
  guard : α → α
  unescape : α → α
  start_ne_stop : start ≠ stop
  start_ne_escape : start ≠ escape
  stop_ne_escape : stop ≠ escape
  unescape_guard : ∀ a, a = start ∨ a = stop ∨ a = escape → unescape (guard a) = a
  guard_ne_start : ∀ a, a = start ∨ a = stop ∨ a = escape → guard a ≠ start

/-- Where a decoder is in the stream: between frames, in one, or behind an escape in one. -/
inductive Mode (α : Type)
  | hunting
  | inFrame (data : List α)
  | escaped (data : List α)

namespace Escaping

variable {α : Type} [DecidableEq α] (f : Escaping α)

def Special (a : α) : Prop := a = f.start ∨ a = f.stop ∨ a = f.escape

instance : DecidablePred f.Special := fun _ => inferInstanceAs (Decidable (_ ∨ _ ∨ _))

def stuff (a : α) : List α := if f.Special a then [f.escape, f.guard a] else [a]

def encode (packet : List α) : List α := f.start :: (packet.flatMap f.stuff ++ [f.stop])

/-- The stream carries these packets: each is encoded somewhere, in this order, and all else in it
is noise without a start. -/
inductive Carries : List α → List (List α) → Prop
  | tail {noise : List α} : f.start ∉ noise → Carries noise []
  | frame {noise rest : List α} {packet : List α} {packets : List (List α)} : f.start ∉ noise →
      Carries rest packets → Carries (noise ++ f.encode packet ++ rest) (packet :: packets)

/-- The decoder takes one symbol, and may complete a packet. -/
def next : Mode α → α → Mode α × Option (List α)
  | .hunting, a => (if a = f.start then .inFrame [] else .hunting, none)
  | .inFrame data, a =>
    if a = f.stop then (.hunting, some data)
    else if a = f.escape then (.escaped data, none)
    else (.inFrame (data ++ [a]), none)
  | .escaped data, a => (.inFrame (data ++ [f.unescape a]), none)

/-- The decoder on a stream: the mode it ends in, and the packets it completes. -/
def feed (m : Mode α) : List α → Mode α × List (List α)
  | [] => (m, [])
  | a :: as =>
    ((feed (f.next m a).1 as).1, (f.next m a).2.toList ++ (feed (f.next m a).1 as).2)

def scan (m : Mode α) : List α → Option (List α × List α)
  | [] => none
  | a :: as =>
    match f.next m a with
    | (m', none) => scan m' as
    | (_, some packet) => some (packet, as)

variable {f}

@[simp] theorem feed_nil (m : Mode α) : f.feed m [] = (m, []) := rfl

theorem feed_cons (m : Mode α) (a : α) (as : List α) :
    f.feed m (a :: as) =
      ((f.feed (f.next m a).1 as).1, (f.next m a).2.toList ++ (f.feed (f.next m a).1 as).2) := rfl

theorem feed_append (m : Mode α) (as bs : List α) :
    f.feed m (as ++ bs) =
      ((f.feed (f.feed m as).1 bs).1, (f.feed m as).2 ++ (f.feed (f.feed m as).1 bs).2) := by
  induction as generalizing m with
  | nil => simp
  | cons a as ih => simp only [List.cons_append, feed_cons, ih, List.append_assoc]

theorem feed_noise {noise : List α} (quiet : f.start ∉ noise) :
    f.feed .hunting noise = (.hunting, []) := by
  induction noise with
  | nil => rfl
  | cons a noise ih =>
    simp only [List.mem_cons, not_or] at quiet
    have skip : f.next .hunting a = (.hunting, none) := by
      simp only [next, if_neg (Ne.symm quiet.1)]
    rw [feed_cons, skip, ih quiet.2]
    rfl

private theorem feed_stuff_symbol (data : List α) (a : α) :
    f.feed (.inFrame data) (f.stuff a) = (.inFrame (data ++ [a]), []) := by
  unfold stuff
  split
  · rename_i special
    simp [feed_cons, next, Ne.symm f.stop_ne_escape, f.unescape_guard a special]
  · rename_i plain
    simp only [Special, not_or] at plain
    simp [feed_cons, next, plain]

private theorem feed_stuff (data packet : List α) :
    f.feed (.inFrame data) (packet.flatMap f.stuff) = (.inFrame (data ++ packet), []) := by
  induction packet generalizing data with
  | nil => simp
  | cons a packet ih =>
    rw [List.flatMap_cons, feed_append, feed_stuff_symbol, ih]
    simp

private theorem feed_body (data packet : List α) :
    f.feed (.inFrame data) (packet.flatMap f.stuff ++ [f.stop]) =
      (.hunting, [data ++ packet]) := by
  rw [feed_append, feed_stuff]
  simp [feed_cons, next]

private theorem start_notMem_body (packet : List α) :
    f.start ∉ packet.flatMap f.stuff ++ [f.stop] := by
  intro mem
  rcases List.mem_append.mp mem with inside | last
  · obtain ⟨a, _, here⟩ := List.mem_flatMap.mp inside
    unfold stuff at here
    split at here
    · rename_i special
      rcases List.mem_cons.mp here with escape | guarded
      · exact f.start_ne_escape escape
      · exact f.guard_ne_start a special (List.mem_singleton.mp guarded).symm
    · rename_i plain
      exact plain (.inl (List.mem_singleton.mp here).symm)
  · exact f.start_ne_stop (List.mem_singleton.mp last)

theorem feed_encode (m : Mode α) (packet : List α) :
    ∃ read, f.feed m (f.encode packet) = (.hunting, [read]) ∧ (m = .hunting → read = packet) := by
  cases m with
  | hunting =>
    have begin : f.next .hunting f.start = (.inFrame [], none) := by simp [next]
    refine ⟨packet, ?_, fun _ => rfl⟩
    rw [encode, feed_cons, begin, feed_body]
    rfl
  | inFrame data =>
    have inside : f.next (.inFrame data) f.start = (.inFrame (data ++ [f.start]), none) := by
      simp [next, f.start_ne_stop, f.start_ne_escape]
    refine ⟨data ++ [f.start] ++ packet, ?_, by simp⟩
    rw [encode, feed_cons, inside, feed_body]
    rfl
  | escaped data =>
    have inside : f.next (.escaped data) f.start = (.inFrame (data ++ [f.unescape f.start]), none) :=
      rfl
    refine ⟨data ++ [f.unescape f.start] ++ packet, ?_, by simp⟩
    rw [encode, feed_cons, inside, feed_body]
    rfl

theorem feed_carries {stream : List α} {packets : List (List α)} (h : f.Carries stream packets) :
    f.feed .hunting stream = (.hunting, packets) := by
  induction h with
  | tail quiet => exact feed_noise quiet
  | @frame noise rest packet packets quiet _ ih =>
    obtain ⟨read, first, exact_read⟩ := feed_encode (f := f) .hunting packet
    rw [feed_append, feed_append, feed_noise quiet, first, exact_read rfl, ih]
    rfl

private theorem Carries.noise_append {noise stream : List α} {packets : List (List α)}
    (quiet : f.start ∉ noise) (h : f.Carries stream packets) :
    f.Carries (noise ++ stream) packets := by
  cases h with
  | tail still => exact .tail (by simp [quiet, still])
  | @frame before rest packet packets still more =>
    have joined : noise ++ (before ++ f.encode packet ++ rest) =
        (noise ++ before) ++ f.encode packet ++ rest := by
      simp
    rw [joined]
    exact .frame (by simp [quiet, still]) more

theorem carries_flatMap (packets : List (List α)) :
    f.Carries (packets.flatMap f.encode) packets := by
  induction packets with
  | nil => exact .tail List.not_mem_nil
  | cons packet packets ih =>
    rw [List.flatMap_cons]
    exact .frame (show f.start ∉ [] by simp) ih

/-- Behind anything at all, each packet of a stream completes one packet, and only the first of them
can come out wrong. -/
theorem feed_garbage (garbage : List α) {stream packet : List α} {packets : List (List α)}
    (h : f.Carries stream (packet :: packets)) :
    ∃ junk read, f.feed .hunting (garbage ++ stream) = (.hunting, junk ++ read :: packets) := by
  cases h with
  | @frame noise rest packet packets _ more =>
    have parts : garbage ++ (noise ++ f.encode packet ++ rest) =
        (garbage ++ noise) ++ f.encode packet ++ rest := by
      simp
    obtain ⟨read, ends, _⟩ := feed_encode (f := f) (f.feed .hunting (garbage ++ noise)).1 packet
    refine ⟨(f.feed .hunting (garbage ++ noise)).2, read, ?_⟩
    rw [parts, feed_append, feed_append _ (garbage ++ noise), ends, feed_carries more]
    simp

private theorem feed_cut {packet front back : List α} (cut : f.encode packet = front ++ back)
    (begun : front ≠ []) (unfinished : back ≠ []) :
    (f.feed .hunting front).2 = [] ∧ f.start ∉ back := by
  constructor
  · obtain ⟨init, last, rfl⟩ := (List.eq_nil_or_concat back).resolve_left unfinished
    have begin : f.next .hunting f.start = (.inFrame [], none) := by simp [next]
    have silent : (f.feed .hunting (front ++ init)).2 = [] := by
      have same : front ++ init = f.start :: packet.flatMap f.stuff := by
        rw [List.concat_eq_append, encode, ← List.append_assoc, ← List.cons_append] at cut
        exact (List.append_inj' cut rfl).1.symm
      rw [same, feed_cons, begin, feed_stuff]
      rfl
    rw [feed_append] at silent
    exact (List.append_eq_nil_iff.mp silent).1
  · intro mem
    obtain ⟨a, front, rfl⟩ := List.exists_cons_of_ne_nil begun
    rw [encode, List.cons_append] at cut
    have body := (List.cons.inj cut).2
    apply start_notMem_body packet
    rw [body]
    exact List.mem_append_right _ mem

/-- Wherever a stream is cut, the decoder finds the packets before the cut, and the rest carries the
packets behind it.  At most the packet under the cut is lost. -/
theorem Carries.cut {front back : List α} {packets : List (List α)}
    (h : f.Carries (front ++ back) packets) :
    ∃ before after, (f.feed .hunting front).2 = before ∧ f.Carries back after ∧
      (packets = before ++ after ∨ ∃ lost, packets = before ++ lost :: after) := by
  generalize whole : front ++ back = stream at h
  induction h generalizing front with
  | tail quiet =>
    rw [← whole, List.mem_append, not_or] at quiet
    refine ⟨[], [], ?_, .tail quiet.2, .inl rfl⟩
    rw [feed_noise quiet.1]
  | @frame noise rest packet packets quiet more ih =>
    obtain ⟨read, first, exact_read⟩ := feed_encode (f := f) .hunting packet
    obtain rfl := exact_read rfl
    rcases List.append_eq_append_iff.mp whole.symm with ⟨front', rfl, rest_eq⟩ | ⟨middle, inside, rfl⟩
    · obtain ⟨before, after, fed, carried, lost⟩ := ih rest_eq.symm
      refine ⟨read :: before, after, ?_, carried, ?_⟩
      · rw [feed_append, feed_append, feed_noise quiet, first, fed]
        rfl
      · rcases lost with rfl | ⟨packet, rfl⟩
        · exact .inl rfl
        · exact .inr ⟨packet, rfl⟩
    rcases List.append_eq_append_iff.mp inside with ⟨begun, rfl, cut⟩ | ⟨noise', rfl, rfl⟩
    · by_cases none_begun : begun = []
      · subst none_begun
        rw [List.nil_append] at cut
        rw [← cut, List.append_nil]
        exact ⟨[], read :: packets, by rw [feed_noise quiet], .frame (show f.start ∉ [] by simp)
          more, .inl rfl⟩
      by_cases none_left : middle = []
      · subst none_left
        rw [List.append_nil] at cut
        rw [← cut, feed_append, feed_noise quiet, first]
        exact ⟨[read], packets, rfl, more, .inl rfl⟩
      · obtain ⟨silent, skipped⟩ := feed_cut cut none_begun none_left
        rw [feed_append, feed_noise quiet]
        exact ⟨[], packets, silent, .noise_append skipped more, .inr ⟨read, rfl⟩⟩
    · simp only [List.mem_append, not_or] at quiet
      exact ⟨[], read :: packets, by rw [feed_noise quiet.1], .frame quiet.2 more, .inl rfl⟩

section Scan

private theorem next_completes {m m' : Mode α} {a : α} {packet : List α}
    (h : f.next m a = (m', some packet)) : m' = .hunting := by
  cases m with
  | hunting => simp [next] at h
  | escaped data => simp [next] at h
  | inFrame data =>
    simp only [next] at h
    split at h
    · exact (Prod.mk.inj h).1.symm
    · split at h <;> simp at h

theorem feed_eq_scan (m : Mode α) (as : List α) :
    (f.feed m as).2 =
      match f.scan m as with
      | none => []
      | some (packet, rest) => packet :: (f.feed .hunting rest).2 := by
  induction as generalizing m with
  | nil => rfl
  | cons a as ih =>
    rcases h : f.next m a with ⟨m', packet | packet⟩
    · rw [feed_cons, scan, h]
      simpa using ih m'
    · obtain rfl := next_completes h
      rw [feed_cons, scan, h]
      rfl

private theorem scan_append_silent {m m' : Mode α} {as : List α} (bs : List α)
    (silent : f.feed m as = (m', [])) : f.scan m (as ++ bs) = f.scan m' bs := by
  induction as generalizing m with
  | nil =>
    obtain rfl := (Prod.mk.inj silent).1
    rfl
  | cons a as ih =>
    rcases h : f.next m a with ⟨m₁, packet | packet⟩
    · rw [feed_cons, h] at silent
      rw [List.cons_append, scan, h]
      exact ih (by simpa [Prod.ext_iff] using silent)
    · rw [feed_cons, h] at silent
      simp at silent

theorem scan_encode {noise : List α} (quiet : f.start ∉ noise) (packet rest : List α) :
    f.scan .hunting (noise ++ f.encode packet ++ rest) = some (packet, rest) := by
  have begin : f.feed .hunting (noise ++ [f.start]) = (.inFrame [], []) := by
    rw [feed_append, feed_noise quiet]
    simp [feed_cons, next]
  have body : f.feed .hunting (noise ++ [f.start] ++ packet.flatMap f.stuff) =
      (.inFrame packet, []) := by
    rw [feed_append, begin, feed_stuff]
    rfl
  have parts : noise ++ f.encode packet ++ rest =
      (noise ++ [f.start] ++ packet.flatMap f.stuff) ++ (f.stop :: rest) := by
    simp [encode]
  rw [parts, scan_append_silent _ body]
  simp [scan, next]

inductive Reads (f : Escaping α) : List α → List α → Prop
  | nil : Reads f [] []
  | plain {a : α} {body packet : List α} : a ≠ f.stop → a ≠ f.escape → Reads f body packet →
      Reads f (a :: body) (a :: packet)
  | escaped {a : α} {body packet : List α} : Reads f body packet →
      Reads f (f.escape :: a :: body) (f.unescape a :: packet)

private theorem scan_inFrame {as data packet rest : List α} :
    f.scan (.inFrame data) as = some (packet, rest) ↔
      ∃ body more, as = body ++ f.stop :: rest ∧ Reads f body more ∧ packet = data ++ more := by
  constructor
  · intro h
    induction hn : as.length using Nat.strongRecOn generalizing as data with
    | ind n ih =>
      cases as with
      | nil => simp [scan] at h
      | cons a as =>
        by_cases stops : a = f.stop
        · simp only [scan, next, if_pos stops, Option.some_inj, Prod.mk.injEq] at h
          obtain ⟨rfl, rfl⟩ := h
          exact ⟨[], [], by simp [stops], .nil, by simp⟩
        by_cases escapes : a = f.escape
        · simp only [scan, next, if_neg stops, if_pos escapes] at h
          cases as with
          | nil => simp [scan] at h
          | cons b as =>
            simp only [scan, next] at h
            obtain ⟨body, more, rfl, reads, rfl⟩ :=
              ih as.length (by simp only [List.length_cons] at hn; omega) h rfl
            exact ⟨f.escape :: b :: body, f.unescape b :: more, by simp [escapes], .escaped reads,
              by simp⟩
        · simp only [scan, next, if_neg stops, if_neg escapes] at h
          obtain ⟨body, more, rfl, reads, rfl⟩ :=
            ih as.length (by simp only [List.length_cons] at hn; omega) h rfl
          exact ⟨a :: body, a :: more, by simp, .plain stops escapes reads, by simp⟩
  · rintro ⟨body, more, rfl, reads, rfl⟩
    induction reads generalizing data with
    | nil => simp [scan, next]
    | @plain a body packet stops escapes _ ih =>
      simpa [scan, next, stops, escapes] using @ih (data ++ [a])
    | @escaped a body packet _ ih =>
      simpa [scan, next, Ne.symm f.stop_ne_escape] using @ih (data ++ [f.unescape a])

theorem scan_hunting {as packet rest : List α} :
    f.scan .hunting as = some (packet, rest) ↔
      ∃ noise body, as = noise ++ f.start :: (body ++ f.stop :: rest) ∧ f.start ∉ noise ∧
        Reads f body packet := by
  constructor
  · intro h
    induction as with
    | nil => simp [scan] at h
    | cons a as ih =>
      by_cases starts : a = f.start
      · simp only [scan, next, if_pos starts] at h
        obtain ⟨body, more, rfl, reads, rfl⟩ := scan_inFrame.mp h
        exact ⟨[], body, by simp [starts], by simp, by simpa using reads⟩
      · simp only [scan, next, if_neg starts] at h
        obtain ⟨noise, body, rfl, quiet, reads⟩ := ih h
        exact ⟨a :: noise, body, rfl, by simp [quiet, Ne.symm starts], reads⟩
  · rintro ⟨noise, body, rfl, quiet, reads⟩
    rw [scan_append_silent _ (feed_noise quiet)]
    simp only [scan, next, if_true]
    exact scan_inFrame.mpr ⟨body, packet, rfl, reads, rfl⟩

end Scan

end Escaping

end ProximityLed.Library.Framing
