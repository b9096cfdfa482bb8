import Mathlib.Data.List.Chain
import Mathlib.Data.Rat.Floor
import Vero.Lib.Periods

/-!
`BeaconChain`: slots and epochs as functions of the clock.
-/

namespace Vero

structure BeaconChain where
  genesisTime : ℤ
  slotsPerEpoch : ℕ
  secondsPerSlot : ℕ
  slotsPerEpoch_pos : 0 < slotsPerEpoch
  secondsPerSlot_pos : 0 < secondsPerSlot

namespace BeaconChain

open Lib

def intervalsPerSlot : ℕ := 3

variable (b : BeaconChain)

def secondsPerInterval : ℚ := b.secondsPerSlot / intervalsPerSlot

def getTimestampForSlot (slot : ℤ) : ℤ := b.genesisTime + slot * b.secondsPerSlot

/-- The slot when the clock shows `time`. -/
def currentSlot (time : ℚ) : ℤ := max 0 (⌊time⌋ - b.genesisTime) / b.secondsPerSlot

def epoch (slot : ℤ) : ℤ := slot / b.slotsPerEpoch

def currentEpoch (time : ℚ) : ℤ := b.epoch (b.currentSlot time)

/-- When the attestations of a slot are due: a third into the slot. -/
def attestationDeadline (slot : ℤ) : ℚ := b.getTimestampForSlot slot + b.secondsPerInterval

lemma currentSlot_nonneg (t : ℚ) : 0 ≤ b.currentSlot t := Periods.index_nonneg t

/-- A clock that moves forward never takes the chain back to an earlier slot. -/
lemma currentSlot_mono {t t' : ℚ} (h : t ≤ t') : b.currentSlot t ≤ b.currentSlot t' :=
  Periods.index_mono b.secondsPerSlot_pos h

lemma epoch_mono {s s' : ℤ} (h : s ≤ s') : b.epoch s ≤ b.epoch s' := by
  have hpos : (0 : ℤ) < b.slotsPerEpoch := by exact_mod_cast b.slotsPerEpoch_pos
  exact Int.ediv_le_ediv hpos h

/-! ### Clocks of any kind -/

section

variable {R : Type*} [Ring R] [LinearOrder R] [FloorRing R] {times : List R}

/-- `currentSlot` by any clock. -/
def slotAt (time : R) : ℤ := max 0 (⌊time⌋ - b.genesisTime) / b.secondsPerSlot

/-- Between two times the clock was read again, and the slot after that reading has started. -/
def NextSlotWaited (time time' : R) : Prop :=
  ∃ wait, time ≤ wait ∧ b.getTimestampForSlot (b.slotAt wait + 1) ≤ time'

lemma slotAt_lt_of_nextSlotWaited {time time' : R} (h : b.NextSlotWaited time time') :
    b.slotAt time < b.slotAt time' := by
  obtain ⟨wait, hle, hnext⟩ := h
  calc b.slotAt time ≤ b.slotAt wait := Periods.index_mono b.secondsPerSlot_pos hle
    _ < b.slotAt time' := Periods.index_lt_of_start_succ_le b.secondsPerSlot_pos hnext

variable {b} in
lemma pairwise_slotAt (h : times.IsChain b.NextSlotWaited) :
    (times.map b.slotAt).Pairwise (· < ·) := by
  rw [← List.isChain_iff_pairwise, List.isChain_map]
  exact h.imp fun _ _ => b.slotAt_lt_of_nextSlotWaited

end

end BeaconChain

end Vero
