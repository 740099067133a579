/- ProximityLed/Sniffer/OnAir
   digest: A packet off the air: its advertiser's address, and the name among its AD structures. -/

import Mathlib.Data.List.Basic

set_option autoImplicit false
set_option relaxedAutoImplicit false

namespace ProximityLed.Sniffer.OnAir

def ADV_ACCESS_ADDRESS : List UInt8 := [0xD6, 0xBE, 0x89, 0x8E]

def slice {α : Type} (list : List α) (start stop : ℕ) : List α := (list.take stop).drop start

/-- An address as a device list keeps it: its bytes, the most significant first, and its type. -/
structure Address where
  bytes : List UInt8
  addrType : Bool
  deriving DecidableEq

/-- The attributes of packets with the access address of advertisements. -/
structure Advertisement where
  advType : UInt8
  advAddress : Option Address
  name : List Char
  deriving DecidableEq

structure BlePacket where
  accessAddress : List UInt8
  advertisement : Option Advertisement
  length : UInt8
  payload : List UInt8
  deriving DecidableEq

def extractAdvType (packetList : List UInt8) : Option UInt8 := packetList[4]?.map (· &&& 15)

def extractAdvAddress (advType : UInt8) (packetList : List UInt8) : Option (Option Address) :=
  if advType = 0 ∨ advType = 1 ∨ advType = 2 ∨ advType = 4 ∨ advType = 6 then
    packetList[4]?.map fun header => some ⟨(slice packetList 6 12).reverse, header &&& 64 ≠ 0⟩
  else if advType = 3 ∨ advType = 5 then
    packetList[4]?.map fun header => some ⟨(slice packetList 12 18).reverse, header &&& 64 ≠ 0⟩
  else some none

def chars (nameList : List UInt8) : List Char := nameList.map fun j => Char.ofNat j.toNat

/-- The loop of `extract_name`, from position `i` on with a name found so far.  None stands for an
index out of range. -/
def findName (packetList : List UInt8) (i : ℕ) (name : List Char) : Option (List Char) :=
  if inside : i < packetList.length then
    let length := packetList[i]
    if i + length.toNat + 1 > packetList.length ∨ length = 0 then some name
    else
      match packetList[i + 1]? with
      | none => none
      | some type =>
        let name :=
          if type = 8 ∨ type = 9 then chars (slice packetList (i + 2) (i + length.toNat + 1))
          else name
        findName packetList (i + (length.toNat + 1)) name
  else some name
termination_by packetList.length - i

def quoted (name : List Char) : List Char := ['"'] ++ name ++ ['"']

def extractName (advType : UInt8) (packetList : List UInt8) : Option (List Char) :=
  if advType = 0 ∨ advType = 2 ∨ advType = 4 ∨ advType = 6 then
    (findName packetList 12 []).map quoted
  else if advType = 1 then some "[ADV_DIRECT_IND]".toList
  else some []

def extractLength (packetList : List UInt8) : Option UInt8 := packetList[5]?

def extractAdvertisement (packetList : List UInt8) : Option Advertisement := do
  let advType ← extractAdvType packetList
  let advAddress ← extractAdvAddress advType packetList
  let name ← extractName advType packetList
  some ⟨advType, advAddress, name⟩

/-- The constructor; none when it raises. -/
def BlePacket.ofList (packetList : List UInt8) : Option BlePacket := do
  let accessAddress := slice packetList 0 4
  let advertisement ←
    if accessAddress = ADV_ACCESS_ADDRESS then (extractAdvertisement packetList).map some
    else some none
  let length ← extractLength packetList
  some ⟨accessAddress, advertisement, length, packetList.drop 6⟩

/-- A field of an advertisement's data, behind the byte that counts its type and its data. -/
structure AdStructure where
  type : UInt8
  data : List UInt8
  short : data.length < 255

def AdStructure.bytes (ad : AdStructure) : List UInt8 :=
  UInt8.ofNat (ad.data.length + 1) :: ad.type :: ad.data

def AdStructure.isName (ad : AdStructure) : Bool := ad.type = 8 ∨ ad.type = 9

/-- Where the data of an advertisement ends: nothing is left, or a length of 0, or one that reaches
too far. -/
def Ends : List UInt8 → Prop
  | [] => True
  | length :: rest => length = 0 ∨ rest.length < length.toNat

def lastName (name : List Char) (ads : List AdStructure) : List Char :=
  ads.foldl (fun name ad => if ad.isName then chars ad.data else name) name

section Name

variable {packetList : List UInt8} {name : List Char}

private theorem AdStructure.length_byte (ad : AdStructure) :
    (UInt8.ofNat (ad.data.length + 1)).toNat = ad.data.length + 1 := by
  have := ad.short
  rw [UInt8.toNat_ofNat']
  omega

private theorem findName_ends {i : ℕ} (ends : Ends (packetList.drop i)) :
    findName packetList i name = some name := by
  rw [findName]
  split
  · rename_i inside
    rw [List.drop_eq_getElem_cons inside] at ends
    have stop : i + packetList[i].toNat + 1 > packetList.length ∨ packetList[i] = 0 := by
      rcases ends with zero | far
      · exact .inr zero
      · left
        rw [List.length_drop] at far
        omega
    simp only [if_pos stop]
  · rfl

private theorem findName_ad {i : ℕ} {ad : AdStructure} {rest : List UInt8}
    (here : packetList.drop i = ad.bytes ++ rest) :
    findName packetList i name =
      findName packetList (i + ad.bytes.length) (if ad.isName then chars ad.data else name) := by
  have size : packetList.length - i = ad.data.length + rest.length + 2 := by
    rw [← List.length_drop, here]
    simp only [AdStructure.bytes, List.length_append, List.length_cons]
    omega
  have inside : i < packetList.length := by omega
  have at_ (k : ℕ) : packetList[i + k]? = (ad.bytes ++ rest)[k]? := by
    rw [← here, List.getElem?_drop]
  have length : packetList[i].toNat = ad.data.length + 1 := by
    have first := at_ 0
    rw [Nat.add_zero, List.getElem?_eq_getElem inside] at first
    rw [Option.some_inj.mp first, ad.length_byte]
  have type : packetList[i + 1]? = some ad.type := at_ 1
  have data : slice packetList (i + 2) (i + (ad.data.length + 1) + 1) = ad.data := by
    have count : i + (ad.data.length + 1) + 1 - (i + 2) = ad.data.length := by omega
    rw [slice, List.drop_take, count, ← List.drop_drop, here]
    simp [AdStructure.bytes]
  have going : ¬(i + packetList[i].toNat + 1 > packetList.length ∨ packetList[i] = 0) := by
    rintro (far | zero)
    · omega
    · rw [zero] at length
      simp at length
  have total : ad.bytes.length = ad.data.length + 1 + 1 := by simp [AdStructure.bytes]
  rw [findName, dif_pos inside]
  dsimp only
  rw [if_neg going, type]
  simp only [length, data, total, AdStructure.isName, decide_eq_true_eq]

theorem findName_ads {i : ℕ} {ads : List AdStructure} {tail : List UInt8}
    (here : packetList.drop i = ads.flatMap AdStructure.bytes ++ tail) (ends : Ends tail) :
    findName packetList i name = some (lastName name ads) := by
  induction ads generalizing i name with
  | nil =>
    apply findName_ends
    rw [here]
    exact ends
  | cons ad ads ih =>
    rw [List.flatMap_cons, List.append_assoc] at here
    rw [findName_ad here]
    apply ih
    rw [← List.drop_drop, here, List.drop_left]

private theorem exists_ads (data : List UInt8) :
    ∃ ads tail, data = List.flatMap AdStructure.bytes ads ++ tail ∧ Ends tail := by
  induction hn : data.length using Nat.strongRecOn generalizing data with
  | ind n ih =>
    by_cases ends : Ends data
    · exact ⟨[], data, rfl, ends⟩
    cases data with
    | nil => exact absurd trivial ends
    | cons length rest =>
      simp only [Ends, not_or, Nat.not_lt] at ends
      obtain ⟨some_bytes, enough⟩ := ends
      have positive : length.toNat ≠ 0 := by
        intro zero
        exact some_bytes (UInt8.toNat_inj.mp zero)
      have bound := length.toNat_lt
      cases rest with
      | nil =>
        simp at enough
        omega
      | cons type rest =>
        simp only [List.length_cons] at enough hn
        have count : (rest.take (length.toNat - 1)).length = length.toNat - 1 := by
          rw [List.length_take]
          omega
        obtain ⟨ads, tail, split, ends⟩ := ih (rest.drop (length.toNat - 1)).length
          (by rw [List.length_drop]; omega) _ rfl
        refine ⟨⟨type, rest.take (length.toNat - 1), by omega⟩ :: ads, tail, ?_, ends⟩
        have byte : UInt8.ofNat (length.toNat - 1 + 1) = length := by
          rw [Nat.sub_add_cancel (by omega), UInt8.ofNat_toNat]
        rw [List.flatMap_cons, List.append_assoc, ← split]
        simp only [AdStructure.bytes, count, byte, List.cons_append, List.take_append_drop]

end Name

theorem findName_isSome (packetList : List UInt8) (i : ℕ) (name : List Char) :
    (findName packetList i name).isSome := by
  obtain ⟨ads, tail, data, ends⟩ := exists_ads (packetList.drop i)
  rw [findName_ads data ends]
  rfl

/-- The types of advertisements that carry AD structures. -/
def Named (advType : UInt8) : Prop := advType = 0 ∨ advType = 2 ∨ advType = 4 ∨ advType = 6

/-- An advertisement as it is on the air: behind the access address a header with its type and the
type of its address, a length, the address, least significant byte first, and data. -/
def broadcast (header length : UInt8) (address data : List UInt8) : List UInt8 :=
  ADV_ACCESS_ADDRESS ++ [header, length] ++ address.reverse ++ data

section Read

variable {packetList : List UInt8}

private theorem exists_advAddress (long : 5 ≤ packetList.length) (advType : UInt8) :
    ∃ advAddress, extractAdvAddress advType packetList = some advAddress := by
  have header : packetList[4]? = some packetList[4] := List.getElem?_eq_getElem (by omega)
  unfold extractAdvAddress
  rw [header]
  split
  · exact ⟨_, rfl⟩
  · split
    · exact ⟨_, rfl⟩
    · exact ⟨none, rfl⟩

private theorem exists_name (advType : UInt8) (packetList : List UInt8) :
    ∃ name, extractName advType packetList = some name := by
  obtain ⟨found, name⟩ := Option.isSome_iff_exists.mp (findName_isSome packetList 12 [])
  unfold extractName
  split
  · exact ⟨quoted found, by rw [name]; rfl⟩
  · split
    · exact ⟨_, rfl⟩
    · exact ⟨[], rfl⟩

private theorem exists_advertisement (long : 5 ≤ packetList.length) :
    ∃ advertisement, extractAdvertisement packetList = some advertisement := by
  have header : packetList[4]? = some packetList[4] := List.getElem?_eq_getElem (by omega)
  obtain ⟨advAddress, address⟩ := exists_advAddress long (packetList[4] &&& 15)
  obtain ⟨name, found⟩ := exists_name (packetList[4] &&& 15) packetList
  refine ⟨⟨packetList[4] &&& 15, advAddress, name⟩, ?_⟩
  simp [extractAdvertisement, extractAdvType, header, address, found]

/-- The constructor raises on lists without a length byte, and on no others. -/
theorem ofList_isSome : (BlePacket.ofList packetList).isSome ↔ 6 ≤ packetList.length := by
  constructor
  · intro made
    by_contra short
    have missing : packetList[5]? = none := List.getElem?_eq_none (by omega)
    simp only [BlePacket.ofList, extractLength, missing] at made
    split at made
    · cases h : extractAdvertisement packetList <;> simp [h] at made
    · simp at made
  · intro long
    have length : packetList[5]? = some packetList[5] := List.getElem?_eq_getElem (by omega)
    obtain ⟨advertisement, read⟩ := exists_advertisement (show 5 ≤ packetList.length by omega)
    simp only [BlePacket.ofList, extractLength, length, read]
    split <;> rfl

/-- An advertisement is read as it was sent: its type, its address and the last name in its data,
whatever follows the end of that data. -/
theorem ofList_broadcast {header length : UInt8} {address tail : List UInt8}
    {ads : List AdStructure} (named : Named (header &&& 15)) (six : address.length = 6)
    (ends : Ends tail) :
    BlePacket.ofList (broadcast header length address (ads.flatMap AdStructure.bytes ++ tail)) =
      some ⟨ADV_ACCESS_ADDRESS,
        some ⟨header &&& 15, some ⟨address, header &&& 64 ≠ 0⟩, quoted (lastName [] ads)⟩,
        length, address.reverse ++ (ads.flatMap AdStructure.bytes ++ tail)⟩ := by
  generalize whole : ads.flatMap AdStructure.bytes ++ tail = data
  have addressed : extractAdvAddress (header &&& 15) (broadcast header length address data) =
      some (some ⟨address, header &&& 64 ≠ 0⟩) := by
    have listed : slice (broadcast header length address data) 6 12 = address.reverse := by
      match address, six with
      | [_, _, _, _, _, _], _ => rfl
    have listed_type : header &&& 15 = 0 ∨ header &&& 15 = 1 ∨ header &&& 15 = 2 ∨
        header &&& 15 = 4 ∨ header &&& 15 = 6 := by
      rcases named with h | h | h | h <;> simp [h]
    rw [extractAdvAddress, if_pos listed_type, listed, List.reverse_reverse]
    rfl
  have name : extractName (header &&& 15) (broadcast header length address data) =
      some (quoted (lastName [] ads)) := by
    have behind : (broadcast header length address data).drop 12 =
        ads.flatMap AdStructure.bytes ++ tail := by
      rw [whole, broadcast]
      exact List.drop_left' (by simp [six, ADV_ACCESS_ADDRESS])
    unfold Named at named
    rw [extractName, if_pos named, findName_ads behind ends]
    rfl
  have advertisement : extractAdvertisement (broadcast header length address data) =
      some ⟨header &&& 15, some ⟨address, header &&& 64 ≠ 0⟩, quoted (lastName [] ads)⟩ := by
    have type : extractAdvType (broadcast header length address data) = some (header &&& 15) := rfl
    simp only [extractAdvertisement, type, Option.bind_eq_bind, Option.bind_some, addressed, name]
  have listed : extractLength (broadcast header length address data) = some length := rfl
  have advertised : slice (broadcast header length address data) 0 4 = ADV_ACCESS_ADDRESS := rfl
  simp only [BlePacket.ofList, advertised, if_true, advertisement, listed]
  rfl

end Read

end ProximityLed.Sniffer.OnAir
