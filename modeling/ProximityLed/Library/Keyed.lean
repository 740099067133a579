/- ProximityLed/Library/Keyed
   digest: Lists whose items carry keys: the first item of a key, changed in place or taken out. -/

import Mathlib.Data.List.Nodup

set_option autoImplicit false
set_option relaxedAutoImplicit false

namespace ProximityLed.Library.Keyed

variable {α κ : Type} [DecidableEq κ] (key : α → κ)

def lookup (k : κ) (items : List α) : Option α := items.find? fun a => key a = k

def put (a : α) : List α → List α
  | [] => []
  | b :: items => if key b = key a then a :: items else b :: put a items

def discard (k : κ) (items : List α) : List α := items.eraseP fun a => key a = k

variable {key}

theorem lookup_cons (k : κ) (a : α) (items : List α) :
    lookup key k (a :: items) = if key a = k then some a else lookup key k items := by
  simp only [lookup, List.find?_cons]
  split <;> simp_all

theorem key_of_lookup {k : κ} {a : α} {items : List α} (h : lookup key k items = some a) :
    key a = k := by
  simpa using List.find?_some h

theorem lookup_eq_none {k : κ} {items : List α} :
    lookup key k items = none ↔ k ∉ items.map key := by
  simp [lookup, List.find?_eq_none]

theorem lookup_append (k : κ) (items items' : List α) :
    lookup key k (items ++ items') = (lookup key k items).or (lookup key k items') :=
  List.find?_append

@[simp] theorem map_put (a : α) (items : List α) : (put key a items).map key = items.map key := by
  induction items with
  | nil => rfl
  | cons b items ih =>
    rw [put]
    split
    · rename_i same
      rw [List.map_cons, List.map_cons, same]
    · rw [List.map_cons, List.map_cons, ih]

theorem lookup_put (k : κ) (a : α) (items : List α) :
    lookup key k (put key a items) =
      if key a = k then (lookup key k items).map fun _ => a else lookup key k items := by
  induction items with
  | nil => simp [put, lookup]
  | cons b items ih =>
    rw [put]
    split
    · rename_i same
      rw [lookup_cons, lookup_cons, same]
      split <;> simp_all
    · rename_i other
      rw [lookup_cons, lookup_cons, ih]
      by_cases here : key b = k
      · have apart : key a ≠ k := fun there => other (here.trans there.symm)
        simp [here, apart]
      · simp [here]

theorem put_of_lookup {a : α} {items : List α} (h : lookup key (key a) items = some a) :
    put key a items = items := by
  induction items with
  | nil => rfl
  | cons b items ih =>
    rw [lookup_cons] at h
    rw [put]
    split at h
    · rename_i same
      rw [if_pos same, Option.some_inj.mp h]
    · rename_i other
      rw [if_neg other, ih h]

theorem nodup_discard {items : List α} (distinct : (items.map key).Nodup) (k : κ) :
    ((discard key k items).map key).Nodup :=
  distinct.sublist (List.eraseP_sublist.map key)

theorem lookup_discard {items : List α} (distinct : (items.map key).Nodup) (k k' : κ) :
    lookup key k' (discard key k items) = if k = k' then none else lookup key k' items := by
  induction items with
  | nil => simp [discard, lookup]
  | cons b items ih =>
    rw [List.map_cons, List.nodup_cons] at distinct
    obtain ⟨fresh, distinct⟩ := distinct
    by_cases here : key b = k
    · have gone : discard key k (b :: items) = items := by simp [discard, here]
      rw [gone, lookup_cons, here]
      split
      · rename_i same
        rw [lookup_eq_none, ← same, ← here]
        exact fresh
      · rfl
    · have kept : discard key k (b :: items) = b :: discard key k items := by
        simp [discard, here]
      rw [kept, lookup_cons, lookup_cons, ih distinct]
      by_cases same : k = k'
      · subst same
        simp [here]
      · simp [same]

end ProximityLed.Library.Keyed
