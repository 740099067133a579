/- ProximityLed/Library/Records
   digest: Records that tell where they end, written one behind the other and read back. -/

import Mathlib.Data.List.Basic

set_option autoImplicit false
set_option relaxedAutoImplicit false

namespace ProximityLed.Library.Records

variable {α β : Type}

/-- A format of records.  A reader finds what was written, whatever stands behind it, and takes at
least one symbol. -/
structure Format (α β : Type) where
  write : α → List β
  read : List β → Option (α × List β)
  read_write : ∀ a rest, read (write a ++ rest) = some (a, rest)
  shrinks : ∀ bs a rest, read bs = some (a, rest) → rest.length < bs.length

namespace Format

variable (F : Format α β)

def readUpTo : ℕ → List β → List α × List β
  | 0, bs => ([], bs)
  | fuel + 1, bs =>
    match F.read bs with
    | none => ([], bs)
    | some (a, rest) => (a :: (readUpTo fuel rest).1, (readUpTo fuel rest).2)

def readAll (bs : List β) : List α × List β := F.readUpTo bs.length bs

variable {F}

private theorem readUpTo_of_length_le {fuel : ℕ} {bs : List β} (enough : bs.length ≤ fuel) :
    F.readUpTo fuel bs = F.readAll bs := by
  have key : ∀ n more bs, bs.length ≤ n → F.readUpTo (n + more) bs = F.readUpTo n bs := by
    intro n
    induction n with
    | zero =>
      intro more bs short
      have none_left : F.read bs = none := by
        apply Option.eq_none_iff_forall_ne_some.mpr
        rintro ⟨a, rest⟩ h
        have := F.shrinks bs a rest h
        omega
      cases more with
      | zero => rfl
      | succ more => simp [readUpTo, none_left]
    | succ n ih =>
      intro more bs short
      rw [Nat.succ_add]
      simp only [readUpTo]
      cases h : F.read bs with
      | none => rfl
      | some found =>
        have := F.shrinks bs found.1 found.2 h
        simp only [ih more found.2 (by omega)]
  obtain ⟨more, rfl⟩ := Nat.exists_eq_add_of_le enough
  exact key bs.length more bs (Nat.le_refl _)

theorem readAll_of_read {bs rest : List β} {a : α} (h : F.read bs = some (a, rest)) :
    F.readAll bs = (a :: (F.readAll rest).1, (F.readAll rest).2) := by
  have shorter := F.shrinks bs a rest h
  obtain ⟨n, length⟩ : ∃ n, bs.length = n + 1 := ⟨bs.length - 1, by omega⟩
  rw [readAll, length]
  simp only [readUpTo, h]
  rw [readUpTo_of_length_le (by omega)]

theorem readAll_append (as : List α) (rest : List β) :
    F.readAll (as.flatMap F.write ++ rest) = (as ++ (F.readAll rest).1, (F.readAll rest).2) := by
  induction as with
  | nil => rfl
  | cons a as ih =>
    have first := F.read_write a (as.flatMap F.write ++ rest)
    rw [List.flatMap_cons, List.append_assoc, readAll_of_read first, ih]
    rfl

theorem readAll_flatMap (as : List α) :
    F.readAll (as.flatMap F.write) = (as, []) := by
  have whole := readAll_append (F := F) as []
  simpa [readAll, readUpTo] using whole

end Format

end ProximityLed.Library.Records
