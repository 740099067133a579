/- ProximityLed/Sniffer/Devices
   digest: The list of devices heard, and what its notifications tell a subscriber. -/

import ProximityLed.Library.Keyed
import ProximityLed.Sniffer.OnAir
import Mathlib.Data.Int.Notation
import Mathlib.Data.List.Induction

set_option autoImplicit false
set_option relaxedAutoImplicit false

namespace ProximityLed.Sniffer.Devices

open Library.Keyed
open OnAir (Address quoted)

/-- A device, without its flag `followed`, which nothing reads. -/
structure Device where
  address : Address
  name : List Char
  rssi : ℤ
  txAdd : UInt8
  deriving DecidableEq

def noName : List Char := quoted []

inductive Notification
  | deviceAdded (device : Device)
  | deviceUpdated (device : Device)
  | deviceRemoved (device : Device)
  deriving DecidableEq

def find (devices : List Device) (address : Address) : Option Device :=
  lookup Device.address address devices

def Device.renamed (existingDevice newDevice : Device) : Bool :=
  newDevice.name ≠ noName ∧ existingDevice.name = noName

/-- The signal has moved by more than what a device may waver. -/
def Device.moved (existingDevice newDevice : Device) : Bool :=
  existingDevice.rssi < newDevice.rssi - 5 ∨ existingDevice.rssi > newDevice.rssi + 2

def Device.update (existingDevice newDevice : Device) : Device :=
  { existingDevice with
    name := if existingDevice.renamed newDevice then newDevice.name else existingDevice.name
    rssi := if existingDevice.moved newDevice then newDevice.rssi else existingDevice.rssi }

def append (devices : List Device) (device : Device) : List Device × List Notification :=
  (devices ++ [device], [.deviceAdded device])

def appendOrUpdate (devices : List Device) (newDevice : Device) :
    List Device × List Notification :=
  match find devices newDevice.address with
  | none => append devices newDevice
  | some existingDevice =>
    let device := existingDevice.update newDevice
    (put Device.address device devices,
      if existingDevice.renamed newDevice || existingDevice.moved newDevice then
        [.deviceUpdated device]
      else [])

def remove (devices : List Device) (address : Address) :
    Option (List Device × List Notification) :=
  (find devices address).map fun device =>
    (discard Device.address address devices, [.deviceRemoved device])

inductive Call
  | appendOrUpdate (newDevice : Device)
  | remove (address : Address)

/-- The list with all it has notified its subscribers of.  A removal that raises changes nothing. -/
structure DeviceList where
  devices : List Device
  notified : List Notification
  deriving DecidableEq

def call (list : DeviceList) : Call → DeviceList
  | .appendOrUpdate newDevice =>
    ⟨(appendOrUpdate list.devices newDevice).1,
      list.notified ++ (appendOrUpdate list.devices newDevice).2⟩
  | .remove address =>
    match remove list.devices address with
    | none => list
    | some (devices, notified) => ⟨devices, list.notified ++ notified⟩

def calls (cs : List Call) : DeviceList := cs.foldl call ⟨[], []⟩

/-- What a subscriber does who keeps a list of its own. -/
def Notification.show (view : List Device) : Notification → List Device
  | .deviceAdded device => view ++ [device]
  | .deviceUpdated device => put Device.address device view
  | .deviceRemoved device => discard Device.address device.address view

def heard (address : Address) (cs : List Call) : List Device :=
  cs.foldl (fun hs c =>
    match c with
    | .appendOrUpdate newDevice => if newDevice.address = address then hs ++ [newDevice] else hs
    | .remove address' => if address' = address then [] else hs) []

/-- The entry of a device tells how it was heard: its type of address as at first, the first name
that it has sent, and a signal no more than 5 below and 2 above the last. -/
def Tells (hs : List Device) : Option Device → Prop
  | none => hs = []
  | some device => hs.head?.map Device.txAdd = some device.txAdd ∧
      device.name = ((hs.map Device.name).find? (· ≠ noName)).getD noName ∧
      ∃ last, hs.getLast? = some last ∧ last.rssi - 5 ≤ device.rssi ∧ device.rssi ≤ last.rssi + 2

section Steps

variable {devices : List Device} {newDevice device : Device} {hs : List Device} {address : Address}

private theorem Device.update_address (existingDevice newDevice : Device) :
    (existingDevice.update newDevice).address = existingDevice.address := rfl

private theorem Device.update_of_same
    (same : (device.renamed newDevice || device.moved newDevice) = false) :
    device.update newDevice = device := by
  obtain ⟨renamed, moved⟩ := Bool.or_eq_false_iff.mp same
  simp [Device.update, renamed, moved]

private theorem find_appendOrUpdate : find (appendOrUpdate devices newDevice).1 address =
    if newDevice.address = address then
      some (((find devices address).map fun d => d.update newDevice).getD newDevice)
    else find devices address := by
  unfold appendOrUpdate
  cases known : find devices newDevice.address with
  | none =>
    dsimp only [append]
    rw [find, lookup_append, lookup_cons]
    by_cases own : newDevice.address = address
    · subst own
      rw [if_pos rfl, if_pos rfl, ← find, known]
      rfl
    · rw [if_neg own, if_neg own]
      exact Option.or_none
  | some existingDevice =>
    have same : existingDevice.address = newDevice.address := key_of_lookup known
    dsimp only
    rw [find, lookup_put, Device.update_address, same]
    by_cases own : newDevice.address = address
    · subst own
      rw [find] at known
      simp [find, known]
    · simp [find, own]

private theorem nodup_appendOrUpdate (distinct : (devices.map Device.address).Nodup) :
    ((appendOrUpdate devices newDevice).1.map Device.address).Nodup := by
  unfold appendOrUpdate
  cases known : find devices newDevice.address with
  | none =>
    have fresh := lookup_eq_none.mp known
    rw [append, List.map_append, List.nodup_append]
    refine ⟨distinct, List.nodup_singleton _, ?_⟩
    intro a old b new same
    obtain rfl := List.mem_singleton.mp new
    exact fresh (same ▸ old)
  | some existingDevice =>
    dsimp only
    rw [map_put]
    exact distinct

private theorem find_name_concat (names : List (List Char)) (name : List Char) :
    ((names ++ [name]).find? (· ≠ noName)).getD noName =
      if name ≠ noName ∧ (names.find? (· ≠ noName)).getD noName = noName then name
      else (names.find? (· ≠ noName)).getD noName := by
  rw [List.find?_append]
  cases first : names.find? (· ≠ noName) with
  | none =>
    by_cases new : name = noName <;> simp [new]
  | some given =>
    have proper : given ≠ noName := by simpa using List.find?_some first
    simp [proper]

private theorem tells_update (h : Tells hs (some device)) :
    Tells (hs ++ [newDevice]) (some (device.update newDevice)) := by
  obtain ⟨txAdd, name, last, ends, low, high⟩ := h
  have some_heard : hs ≠ [] := by
    rintro rfl
    cases ends
  refine ⟨?_, ?_, newDevice, List.getLast?_concat, ?_⟩
  · rw [List.head?_append_of_ne_nil hs some_heard, txAdd]
    rfl
  · rw [List.map_append, List.map_singleton, find_name_concat, ← name]
    simp only [Device.update, Device.renamed, decide_eq_true_eq]
  · simp only [Device.update, Device.moved, decide_eq_true_eq]
    split <;> omega

private theorem tells_new (newDevice : Device) : Tells [newDevice] (some newDevice) := by
  refine ⟨rfl, ?_, newDevice, rfl, by omega, by omega⟩
  by_cases none_sent : newDevice.name = noName <;> simp [none_sent]

/-- A subscriber's list follows the list. -/
theorem show_appendOrUpdate (devices : List Device) (newDevice : Device) :
    (appendOrUpdate devices newDevice).2.foldl Notification.show devices =
      (appendOrUpdate devices newDevice).1 := by
  unfold appendOrUpdate
  cases known : find devices newDevice.address with
  | none => rfl
  | some existingDevice =>
    dsimp only
    cases updated : existingDevice.renamed newDevice || existingDevice.moved newDevice with
    | true => rfl
    | false =>
      have same : existingDevice.address = newDevice.address := key_of_lookup known
      rw [Device.update_of_same updated, put_of_lookup (by rw [same]; exact known)]
      rfl

end Steps

section Runs

private theorem heard_concat (address : Address) (cs : List Call) (c : Call) :
    heard address (cs ++ [c]) =
      match c with
      | .appendOrUpdate newDevice =>
        if newDevice.address = address then heard address cs ++ [newDevice] else heard address cs
      | .remove address' => if address' = address then [] else heard address cs := by
  rw [heard, List.foldl_concat]
  rfl

theorem heard_sightings (address : Address) (ds : List Device) :
    heard address (ds.map .appendOrUpdate) = ds.filter (·.address = address) := by
  induction ds using List.reverseRecOn with
  | nil => rfl
  | append_singleton ds d ih =>
    rw [List.map_append, List.map_singleton, heard_concat, List.filter_append]
    dsimp only
    rw [ih]
    by_cases own : d.address = address <;> simp [own]

structure Right (cs : List Call) (list : DeviceList) : Prop where
  distinct : (list.devices.map Device.address).Nodup
  shown : list.notified.foldl Notification.show [] = list.devices
  tells : ∀ address, Tells (heard address cs) (find list.devices address)

theorem right_call {cs : List Call} {list : DeviceList} (h : Right cs list) (c : Call) :
    Right (cs ++ [c]) (call list c) := by
  obtain ⟨distinct, shown, tells⟩ := h
  cases c with
  | appendOrUpdate newDevice =>
    refine ⟨nodup_appendOrUpdate distinct, ?_, ?_⟩
    · rw [call, List.foldl_append, shown, show_appendOrUpdate]
    · intro address
      rw [heard_concat, call, find_appendOrUpdate]
      by_cases own : newDevice.address = address
      · simp only [if_pos own]
        have before := tells address
        cases known : find list.devices address with
        | none =>
          rw [known] at before
          rw [show heard address cs = [] from before]
          exact tells_new newDevice
        | some device =>
          rw [known] at before
          exact tells_update before
      · simp only [if_neg own]
        exact tells address
  | remove address' =>
    cases known : find list.devices address' with
    | none =>
      have same : call list (.remove address') = list := by simp [call, remove, known]
      rw [same]
      refine ⟨distinct, shown, ?_⟩
      intro address
      rw [heard_concat]
      by_cases own : address' = address
      · subst own
        simp only [if_pos]
        rw [known]
        rfl
      · simp only [if_neg own]
        exact tells address
    | some device =>
      have same : device.address = address' := key_of_lookup known
      have removed : call list (.remove address') =
          ⟨discard Device.address address' list.devices,
            list.notified ++ [.deviceRemoved device]⟩ := by
        simp [call, remove, known]
      rw [removed]
      refine ⟨nodup_discard distinct address', ?_, ?_⟩
      · rw [List.foldl_append, shown, ← same]
        rfl
      · intro address
        rw [heard_concat, find, lookup_discard distinct]
        by_cases own : address' = address
        · simp only [if_pos own]
          rfl
        · simp only [if_neg own]
          exact tells address

theorem right_calls (cs : List Call) : Right cs (calls cs) := by
  induction cs using List.reverseRecOn with
  | nil => exact ⟨List.nodup_nil, rfl, fun _ => rfl⟩
  | append_singleton cs c ih =>
    rw [calls, List.foldl_concat]
    exact right_call ih c

/-- However devices are heard and removed: the list has each address once; who has kept a list by
the notifications alone has the same list; and a device is in it exactly when it was heard since it
was last removed, with the first name and the type of address it has sent since, and a signal no
more than 5 below and 2 above the last. -/
theorem list_tells (cs : List Call) :
    ((calls cs).devices.map Device.address).Nodup ∧
    (calls cs).notified.foldl Notification.show [] = (calls cs).devices ∧
    ∀ address, Tells (heard address cs) (find (calls cs).devices address) := by
  have right := right_calls cs
  exact ⟨right.distinct, right.shown, right.tells⟩

end Runs

end ProximityLed.Sniffer.Devices
