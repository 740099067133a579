/- ProximityLed/ColorScan/Payload
   digest: Which reports let bytes behind their payload reach the stored colour. -/

import ProximityLed.ColorScan.Cache

set_option autoImplicit false
set_option relaxedAutoImplicit false

namespace ProximityLed.ColorScan.Payload

open PwmDriver (Color DARKNESS)
open Library.Timer
open Library.Run
open Helpers
open Handlers
open DeviceView
open Soundness
open Cache

/-- Reports that say the same: what differs lies behind the payload. -/
structure SamePayload (r r' : AdvReport) : Prop where
  peerAddr : r.peerAddr = r'.peerAddr
  rssi : r.rssi = r'.rssi
  len : r.len = r'.len
  payload : ∀ i : Fin 31, i.val < r.len.val → r.buffer[i] = r'.buffer[i]

def SameOutcome (s s' : FlagScan) : Prop :=
  (∀ d, device s d = device s' d) ∧ s.pwm.played.head? = s'.pwm.played.head?

theorem SamePayload.acceptedFor {r r' : AdvReport} (h : SamePayload r r') :
    r.acceptedFor = r'.acceptedFor := by
  unfold AdvReport.acceptedFor AdvReport.advId
  rw [h.peerAddr, h.rssi]

theorem SamePayload.advColor {r r' : AdvReport} (h : SamePayload r r') (long : 10 ≤ r.len.val) :
    r.advColor = r'.advColor := by
  refine Color.ext ?_ ?_ ?_ rfl
  · exact h.payload 7 (show 7 < r.len.val by omega)
  · exact h.payload 8 (show 8 < r.len.val by omega)
  · exact h.payload 9 (show 9 < r.len.val by omega)

/-- The handler reads address, signal and colour of a report, and nothing else. -/
theorem bleEvtAdvReport_congr [Scaling] (s : FlagScan) {r r' : AdvReport}
    (accepted : r.acceptedFor = r'.acceptedFor)
    (color : r.acceptedFor.isSome = true → r.advColor = r'.advColor) :
    bleEvtAdvReport flagApi s r = bleEvtAdvReport flagApi s r' := by
  rw [bleEvtAdvReport_eq, bleEvtAdvReport_eq, ← accepted]
  cases h : r.acceptedFor with
  | none => rfl
  | some d =>
    show handleAdvert flagApi s d r.advColor = handleAdvert flagApi s d r'.advColor
    rw [color (by rw [h]; rfl)]

def otherBlue (r : AdvReport) : AdvReport :=
  { r with buffer := r.buffer.setIfInBounds 9 (r.advColor.blue + 1) }

private theorem samePayload_otherBlue {r : AdvReport} (short : r.len.val < 10) :
    SamePayload r (otherBlue r) := by
  refine ⟨rfl, rfl, rfl, ?_⟩
  intro i hi
  have before : 9 ≠ i.val := by omega
  exact (Vector.getElem_setIfInBounds_ne i.isLt before).symm

private theorem advColor_otherBlue (r : AdvReport) : (otherBlue r).advColor ≠ r.advColor := by
  intro same
  have blue := congrArg Color.blue same
  simp only [otherBlue, AdvReport.advColor, Vector.getElem_setIfInBounds_self] at blue
  have bytes := congrArg UInt8.toNat blue
  rw [UInt8.toNat_add] at bytes
  have bound := (r.buffer[9]).toNat_lt
  change ((r.buffer[9]).toNat + 1) % 2 ^ 8 = (r.buffer[9]).toNat at bytes
  omega

/-- In every state that events lead to, a report is handled without regard to the bytes behind its
payload exactly when it is rejected or its payload is at least ten bytes long. -/
theorem payload_decides_iff [Scaling] {es : List Event} {s : FlagScan}
    (reach : run (step flagApi) idle es = some s) (r : AdvReport) :
    (∀ r', SamePayload r r' →
      SameOutcome (bleEvtAdvReport flagApi s r) (bleEvtAdvReport flagApi s r')) ↔
      (¬ hasKnownId r.advId ∨ r.rssi < -48) ∨ 10 ≤ r.len.val := by
  have rejected : (¬ hasKnownId r.advId ∨ r.rssi < -48) ↔ r.acceptedFor = none := by
    have known := getDeviceIndex_isSome r.advId
    rw [acceptedFor_eq, ← known]
    by_cases weak : r.rssi < -48 <;> simp [weak]
  rw [rejected]
  constructor
  · intro blind
    by_contra heard
    obtain ⟨accepted, short⟩ := not_or.mp heard
    rcases Option.ne_none_iff_exists'.mp accepted with ⟨d, hd⟩
    have same := samePayload_otherBlue (r := r) (by omega)
    have stored := congrArg Device.actualColor ((blind _ same).1 d)
    have cached := (idle_cached reach d).1
    rw [stored_of_accepted cached hd, stored_of_accepted cached (same.acceptedFor ▸ hd)] at stored
    exact advColor_otherBlue r stored.symm
  · intro enough r' same
    have equal : bleEvtAdvReport flagApi s r = bleEvtAdvReport flagApi s r' := by
      apply bleEvtAdvReport_congr s same.acceptedFor
      intro accepted
      rcases enough with none | long
      · rw [none] at accepted
        cases accepted
      · exact same.advColor long
    rw [equal]
    exact ⟨fun _ => rfl, rfl⟩

def emptyReport : AdvReport := { beacon device1 DARKNESS with len := ⟨0, by decide⟩ }

/-- The beacon of a known device, with its full payload. -/
theorem payload_decides_iff_beacon :
    run (step flagApi) idle [] = some idle ∧
      ∀ r', SamePayload (beacon 0 ⟨200, 0, 0, 0⟩) r' →
        SameOutcome (bleEvtAdvReport flagApi idle (beacon 0 ⟨200, 0, 0, 0⟩))
          (bleEvtAdvReport flagApi idle r') :=
  have reach : run (step flagApi) idle [] = some idle := rfl
  ⟨reach, (payload_decides_iff reach _).mpr (.inr (by decide))⟩

/-- Two empty reports of a known device that leave different colours in store. -/
theorem empty_report_read :
    ∃ r', SamePayload emptyReport r' ∧
      ¬ SameOutcome (bleEvtAdvReport flagApi idle emptyReport) (bleEvtAdvReport flagApi idle r') := by
  refine ⟨otherBlue emptyReport, samePayload_otherBlue (by decide), ?_⟩
  intro same
  have stored := congrArg Device.actualColor (same.1 0)
  exact absurd stored (by decide)

end ProximityLed.ColorScan.Payload
