import Mathlib.Tactic.NormNum
import Vero.ForkSchedule

/-!
`BeaconChain`: the slot ticker, which announces a slot to the handlers, waits for the next one
to start, and begins again.

A tick reads the clock for the slot it announces, again for the slot it waits for, again for
how long it sleeps, and then until the slot has started. Any time may pass before each of
these readings.
-/

namespace Vero.BeaconChain

open Lib ForkSchedule

/-- What the ticker finds when it goes on: the clock, and the handlers added so far. -/
structure Reading (R : Type*) where
  time : R
  newSlotHandlers : List String

/-- The function that reads the clock next. -/
inductive Phase
  | onNewSlot
  | waitForNextSlot
  | preciseWait (timestamp : ℤ)
  | polling (timestamp : ℤ)

/-- The slot of a tick, the time at which it was read, and the tasks of the handlers. -/
structure Announcement (R : Type*) where
  time : R
  slot : ℤ
  tasks : List Task

inductive Effect (R : Type*)
  | announced (announcement : Announcement R)
  | slept (delay : R)

def announcements {R : Type*} (effects : List (Effect R)) : List (Announcement R) :=
  effects.filterMap fun
    | .announced announcement => some announcement
    | .slept _ => none

lemma announcements_append {R : Type*} (es es' : List (Effect R)) :
    announcements (es ++ es') = announcements es ++ announcements es' := by
  simp [announcements]

variable (b : BeaconChain) {R : Type*} [Field R] [LinearOrder R] [FloorRing R]

def announce (r : Reading R) : Announcement R :=
  let slot := b.slotAt r.time
  let isNewEpoch : Bool := slot % b.slotsPerEpoch = 0
  ⟨r.time, slot, r.newSlotHandlers.map fun handler => ⟨handler, slot, isNewEpoch⟩⟩

/-- What the ticker does on one reading of the clock, and where it reads it next. -/
def advance (r : Reading R) : Phase → Phase × List (Effect R)
  | .onNewSlot => (.waitForNextSlot, [.announced (b.announce r)])
  | .waitForNextSlot => (.preciseWait (b.getTimestampForSlot (b.slotAt r.time + 1)), [])
  | .preciseWait timestamp => (.polling timestamp, [.slept (timestamp - r.time - 0.016)])
  | .polling timestamp =>
    if r.time < timestamp then (.polling timestamp, [.slept 0]) else (.onNewSlot, [])

/-- What the ticker does on some readings, one after the other. -/
def ticker (phase : Phase) : List (Reading R) → List (Effect R)
  | [] => []
  | r :: rs => (b.advance r phase).2 ++ ticker (b.advance r phase).1 rs

/-- The runs of `on_new_slot`, from the first on. -/
def announced (readings : List (Reading R)) : List (Announcement R) :=
  announcements (b.ticker .onNewSlot readings)

/-- Where the ticker is at a time, when the last announcement was made at another. -/
def Since (time now : R) : Phase → Prop
  | .onNewSlot => b.NextSlotWaited time now
  | .waitForNextSlot => time ≤ now
  | .preciseWait timestamp | .polling timestamp =>
    ∃ wait, time ≤ wait ∧ timestamp = b.getTimestampForSlot (b.slotAt wait + 1)

variable {b} {time now : R} {r : Reading R} {rs : List (Reading R)} {phase : Phase}
  {a : Announcement R}

/-! ### One reading -/

lemma Since.mono {now' : R} (h : b.Since time now phase) (hle : now ≤ now') :
    b.Since time now' phase := by
  cases phase with
  | onNewSlot =>
    obtain ⟨wait, hwait, hnext⟩ := h
    exact ⟨wait, hwait, hnext.trans hle⟩
  | waitForNextSlot => exact le_trans h hle
  | preciseWait | polling => exact h

/-- What is announced has been waited for, and otherwise the waiting goes on. -/
lemma advance_cases (h : b.Since time r.time phase) :
    (announcements (b.advance r phase).2 = [b.announce r] ∧ b.NextSlotWaited time r.time ∧
        b.Since r.time r.time (b.advance r phase).1) ∨
      (announcements (b.advance r phase).2 = [] ∧ b.Since time r.time (b.advance r phase).1) := by
  cases phase with
  | onNewSlot => exact .inl ⟨rfl, h, le_refl r.time⟩
  | waitForNextSlot => exact .inr ⟨rfl, r.time, h, rfl⟩
  | preciseWait timestamp => exact .inr ⟨rfl, h⟩
  | polling timestamp =>
    by_cases hlt : r.time < timestamp
    · simp only [advance, hlt, if_true]
      exact .inr ⟨rfl, h⟩
    · simp only [advance, hlt, if_false]
      obtain ⟨wait, hwait, rfl⟩ := h
      exact .inr ⟨rfl, wait, hwait, not_lt.mp hlt⟩

/-- Whatever is announced is announced for the reading. -/
lemma eq_announce (ha : a ∈ announcements (b.advance r phase).2) : a = b.announce r := by
  cases phase with
  | onNewSlot => exact List.mem_singleton.mp ha
  | waitForNextSlot | preciseWait => cases ha
  | polling timestamp =>
    by_cases hlt : r.time < timestamp
    · simp [advance, hlt, announcements] at ha
    · simp [advance, hlt, announcements] at ha

/-! ### Runs -/

lemma isChain_ticker (hsince : b.Since time now phase)
    (hmono : (now :: rs.map (·.time)).Pairwise (· ≤ ·)) :
    (time :: (announcements (b.ticker phase rs)).map (·.time)).IsChain b.NextSlotWaited := by
  induction rs generalizing time now phase with
  | nil => exact .singleton _
  | cons r rs ih =>
    obtain ⟨hnow, hmono⟩ := List.pairwise_cons.mp hmono
    have hsince := hsince.mono (hnow r.time (by simp))
    rw [ticker, announcements_append]
    rcases advance_cases hsince with ⟨hann, hwaited, hsince⟩ | ⟨hann, hsince⟩
    · rw [hann]
      exact .cons_cons hwaited (ih hsince hmono)
    · rw [hann]
      exact ih hsince hmono

lemma exists_reading (ha : a ∈ announcements (b.ticker phase rs)) :
    ∃ r ∈ rs, a = b.announce r := by
  induction rs generalizing phase with
  | nil => cases ha
  | cons r rs ih =>
    rw [ticker, announcements_append] at ha
    rcases List.mem_append.mp ha with ha | ha
    · exact ⟨r, by simp, eq_announce ha⟩
    · obtain ⟨r', hr', he⟩ := ih ha
      exact ⟨r', by simp [hr'], he⟩

/-- Between two announcements the ticker waits for the next slot. -/
lemma isChain_announced (hmono : (rs.map (·.time)).Pairwise (· ≤ ·)) :
    ((b.announced rs).map (·.time)).IsChain b.NextSlotWaited := by
  cases rs with
  | nil => exact .nil
  | cons r rs =>
    have hsince : b.Since r.time r.time .waitForNextSlot := le_refl r.time
    exact isChain_ticker hsince hmono

lemma slot_announced :
    (b.announced rs).map (·.slot) = ((b.announced rs).map (·.time)).map b.slotAt := by
  rw [List.map_map]
  apply List.map_congr_left
  intro a ha
  obtain ⟨r, -, rfl⟩ := exists_reading ha
  rfl

/-! ### Main result -/

/-- The announcements only move forward. -/
structure Forward (b : BeaconChain) (announced : List (Announcement R)) : Prop where
  rising : (announced.map (·.slot)).Pairwise (· < ·)
  once : (announced.map (·.slot)).Nodup
  started : ∀ a ∈ announced, b.getTimestampForSlot a.slot ≤ a.time
  told : ∀ a ∈ announced, ∀ task ∈ a.tasks, task.slot = a.slot

variable (b R) in
/-- **Slots and time.** By a clock that does not go back, the ticker announces later and later
slots, each after it has started. -/
theorem ticker_moves_forward [IsStrictOrderedRing R] :
    (∀ (k : ℤ) (t : R), 0 ≤ k → b.genesisTime ≤ t →
      (k ≤ b.slotAt t ↔ b.getTimestampForSlot k ≤ t)) ∧
    ∀ readings : List (Reading R), (readings.map (·.time)).Pairwise (· ≤ ·) →
      (∀ r ∈ readings, b.genesisTime ≤ r.time) → b.Forward (b.announced readings) := by
  refine ⟨fun k t _ ht => Periods.le_index_iff b.secondsPerSlot_pos ht, ?_⟩
  intro rs hmono hgenesis
  have hrising : ((b.announced rs).map (·.slot)).Pairwise (· < ·) := by
    rw [slot_announced]
    exact pairwise_slotAt (isChain_announced hmono)
  refine ⟨hrising, hrising.imp ne_of_lt, fun a ha => ?_, fun a ha task htask => ?_⟩
  · obtain ⟨r, hr, rfl⟩ := exists_reading ha
    exact Periods.start_index_le b.secondsPerSlot_pos (hgenesis r hr)
  · obtain ⟨r, -, rfl⟩ := exists_reading ha
    obtain ⟨handler, -, rfl⟩ := List.mem_map.mp htask
    rfl

/-- A tick in slot 0 that waits for slot 1, and the next one, which is late. -/
def lateReadings : List (Reading ℚ) :=
  [1606824023.5, 1606824024, 1606824024.5, 1606824034.99, 1606824035, 1606824047].map
    fun time => ⟨time, ["handle_slot"]⟩

/-- Slot 1 is left out. -/
theorem late_ticker_moves_forward :
    ((mainnet id).beaconChain.announced lateReadings).map (·.slot) = [0, 2] ∧
      (mainnet id).beaconChain.Forward ((mainnet id).beaconChain.announced lateReadings) :=
  ⟨by decide +kernel,
    (ticker_moves_forward _ ℚ).2 lateReadings (by decide +kernel) (by decide +kernel)⟩

end Vero.BeaconChain

/-! ### The chain object -/

namespace Vero.ForkSchedule

open BeaconChain

variable (c : ForkSchedule)

/-- The runs of `on_new_slot` are ticks of the chain object. -/
theorem ticks_announced {start : ℚ} {readings : List (Reading ℚ)}
    (hmono : (readings.map (·.time)).Pairwise (· ≤ ·)) (hstart : ∀ r ∈ readings, start ≤ r.time) :
    c.Ticks start ((c.announced readings).map (·.time)) where
  later time htime := by
    obtain ⟨a, ha, rfl⟩ := List.mem_map.mp htime
    obtain ⟨r, hr, rfl⟩ := exists_reading ha
    exact hstart r hr
  rising := rising_of_waited (isChain_announced hmono)

end Vero.ForkSchedule
