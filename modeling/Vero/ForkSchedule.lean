import Mathlib.Tactic.SplitIfs
import Vero.Context

/-!
The forks of a slot, and the fork version that the slot ticker keeps.

The fork of a slot is read off the slot. The version is set when the chain object is built,
and afterwards only by a tick in the first slot of the Fulu epoch, which a late tick misses.
-/

namespace Vero

/-- The forks the validator client knows. -/
structure ForkSchedule extends BeaconChain where
  electraForkEpoch : ℕ
  fuluForkEpoch : ℕ
  electra_le_fulu : electraForkEpoch ≤ fuluForkEpoch
  denebForkVersion : String
  electraForkVersion : String
  fuluForkVersion : String

end Vero

namespace Vero.ForkSchedule

open SchemaBeaconAPI

structure Fork where
  previousVersion : String
  currentVersion : String
  epoch : String
  deriving DecidableEq

/-- What the chain object changes and calls in a tick. Handlers go by their names. -/
structure State where
  currentForkVersion : ForkVersion
  newSlotHandlers : List String
  deriving DecidableEq

structure Task where
  handler : String
  slot : ℤ
  isNewEpoch : Bool
  deriving DecidableEq

variable (c : ForkSchedule)

def electraFork : Fork :=
  ⟨c.denebForkVersion, c.electraForkVersion, toString c.electraForkEpoch⟩

def fuluFork : Fork := ⟨c.electraForkVersion, c.fuluForkVersion, toString c.fuluForkEpoch⟩

def getFork (slot : ℤ) : Except String Fork :=
  let slotEpoch := c.epoch slot
  if c.fuluForkEpoch ≤ slotEpoch then .ok c.fuluFork
  else if c.electraForkEpoch ≤ slotEpoch then .ok c.electraFork
  else .error s!"Unsupported fork for epoch {slotEpoch}"

def getForkVersion (slot : ℤ) : Except String String :=
  let slotEpoch := c.epoch slot
  if c.fuluForkEpoch ≤ slotEpoch then .ok c.fuluForkVersion
  else if c.electraForkEpoch ≤ slotEpoch then .ok c.electraForkVersion
  else .error s!"Unsupported fork for epoch {slotEpoch}"

/-- The chain object when it is built, with the handlers added to it later. -/
def init (time : ℚ) (newSlotHandlers : List String) : Except String State :=
  let currentEpoch := c.currentEpoch time
  if c.fuluForkEpoch ≤ currentEpoch then .ok ⟨.fulu, newSlotHandlers⟩
  else if c.electraForkEpoch ≤ currentEpoch then .ok ⟨.electra, newSlotHandlers⟩
  else .error s!"Unsupported fork for epoch {currentEpoch}"

/-- A tick, with the tasks it creates. -/
def onNewSlot (s : State) (time : ℚ) : State × List Task :=
  let slot := c.currentSlot time
  let epoch := slot / c.slotsPerEpoch
  let isNewEpoch : Bool := slot % c.slotsPerEpoch = 0
  let s := if isNewEpoch ∧ epoch = c.fuluForkEpoch then { s with currentForkVersion := .fulu }
    else s
  (s, s.newSlotHandlers.map fun handler => ⟨handler, slot, isNewEpoch⟩)

/-- The object after some ticks. -/
def ticked (s : State) (times : List ℚ) : State :=
  times.foldl (fun s time => (c.onNewSlot s time).1) s

/-- Ticks after the object is built, in later and later slots. -/
structure Ticks (start : ℚ) (times : List ℚ) : Prop where
  later : ∀ time ∈ times, start ≤ time
  rising : (times.map c.currentSlot).Pairwise (· < ·)

/-- `wait_for_next_slot` between two ticks: the slot is read again when the waiting begins. -/
def Waited (time time' : ℚ) : Prop :=
  ∃ wait, time ≤ wait ∧ c.getTimestampForSlot (c.currentSlot wait + 1) ≤ time'

/-- The version is that of the fork that the schedule reports for the slot. -/
def Agrees (slot : ℤ) : ForkVersion → Prop
  | .electra =>
    c.getForkVersion slot = .ok c.electraForkVersion ∧ c.getFork slot = .ok c.electraFork
  | .fulu => c.getForkVersion slot = .ok c.fuluForkVersion ∧ c.getFork slot = .ok c.fuluFork

def startSlot (epoch : ℕ) : ℤ := epoch * c.slotsPerEpoch

variable {c} {s : State} {time start : ℚ} {times : List ℚ}

/-! ### Ticks -/

/-- The loop ticks in later and later slots. -/
lemma rising_of_waited (h : times.IsChain c.Waited) :
    (times.map c.currentSlot).Pairwise (· < ·) :=
  BeaconChain.pairwise_slotAt h

/-- A tick sets the version exactly in the first slot of the Fulu epoch. -/
lemma onNewSlot_eq_fulu : (c.onNewSlot s time).1.currentForkVersion = .fulu ↔
    s.currentForkVersion = .fulu ∨ c.currentSlot time = c.startSlot c.fuluForkEpoch := by
  have hpos : (0 : ℤ) < c.slotsPerEpoch := by exact_mod_cast c.slotsPerEpoch_pos
  have hfirst : (c.currentSlot time % c.slotsPerEpoch = 0 ∧
      c.currentSlot time / c.slotsPerEpoch = c.fuluForkEpoch) ↔
      c.currentSlot time = c.startSlot c.fuluForkEpoch := by
    unfold startSlot
    constructor
    · rintro ⟨hmod, hdiv⟩
      have hsum := Int.mul_ediv_add_emod (c.currentSlot time) c.slotsPerEpoch
      rw [hmod, hdiv] at hsum
      linarith
    · intro he
      rw [he]
      exact ⟨Int.mul_emod_left _ _, Int.mul_ediv_cancel _ hpos.ne'⟩
  unfold onNewSlot
  simp only [decide_eq_true_eq, hfirst]
  split_ifs with h
  · simp [h]
  · simp [h]

/-- **The version after some ticks.** It is Fulu's if it was, or if one of the ticks was in the
first slot of the Fulu epoch. -/
lemma ticked_eq_fulu : (c.ticked s times).currentForkVersion = .fulu ↔
    s.currentForkVersion = .fulu ∨ c.startSlot c.fuluForkEpoch ∈ times.map c.currentSlot := by
  induction times generalizing s with
  | nil => simp [ticked]
  | cons time times ih =>
    have hcons : c.ticked s (time :: times) = c.ticked (c.onNewSlot s time).1 times := rfl
    rw [hcons, ih, onNewSlot_eq_fulu, List.map_cons, List.mem_cons, or_assoc,
      eq_comm (a := c.startSlot _)]

/-! ### Forks -/

lemma fuluFork_ne_electraFork (h : c.electraForkEpoch < c.fuluForkEpoch) :
    c.fuluFork ≠ c.electraFork := by
  intro he
  have hepoch : toString c.fuluForkEpoch = toString c.electraForkEpoch := congrArg Fork.epoch he
  have hsome := decimal_toString c.fuluForkEpoch
  rw [hepoch, decimal_toString] at hsome
  have hsame : (c.electraForkEpoch : ℤ) = c.fuluForkEpoch := Option.some.inj hsome
  omega

lemma init_eq_fulu {handlers : List String} (h : c.init start handlers = .ok s) :
    c.electraForkEpoch ≤ c.currentEpoch start ∧
      (s.currentForkVersion = .fulu ↔ c.fuluForkEpoch ≤ c.currentEpoch start) := by
  have hle : (c.electraForkEpoch : ℤ) ≤ c.fuluForkEpoch := by exact_mod_cast c.electra_le_fulu
  unfold init at h
  dsimp only at h
  split_ifs at h with hfulu helectra
  · obtain rfl := Except.ok.inj h
    exact ⟨hle.trans hfulu, by simp [hfulu]⟩
  · obtain rfl := Except.ok.inj h
    exact ⟨helectra, by simp [hfulu]⟩

/-- From Electra on, the version agrees where it is Fulu's exactly from Fulu on. -/
lemma agrees_iff {slot : ℤ} {version : ForkVersion} (hlt : c.electraForkEpoch < c.fuluForkEpoch)
    (h : c.electraForkEpoch ≤ c.epoch slot) :
    c.Agrees slot version ↔ (version = .fulu ↔ c.fuluForkEpoch ≤ c.epoch slot) := by
  have hne := fuluFork_ne_electraFork hlt
  by_cases hfulu : c.fuluForkEpoch ≤ c.epoch slot
  · have hversion : c.getForkVersion slot = .ok c.fuluForkVersion := if_pos hfulu
    have hfork : c.getFork slot = .ok c.fuluFork := if_pos hfulu
    cases version with
    | electra => simp [Agrees, hfork, hne, hfulu]
    | fulu => simp [Agrees, hversion, hfork, hfulu]
  · have hversion : c.getForkVersion slot = .ok c.electraForkVersion :=
      (if_neg hfulu).trans (if_pos h)
    have hfork : c.getFork slot = .ok c.electraFork := (if_neg hfulu).trans (if_pos h)
    cases version with
    | electra => simp [Agrees, hversion, hfork, hfulu]
    | fulu => simp [Agrees, hfork, hne.symm, hfulu]

lemma agrees_fulu {slot : ℤ} (h : c.fuluForkEpoch ≤ c.epoch slot) : c.Agrees slot .fulu :=
  ⟨if_pos h, if_pos h⟩

lemma epoch_startSlot (epoch : ℕ) : c.epoch (c.startSlot epoch) = epoch := by
  have hpos : (0 : ℤ) < c.slotsPerEpoch := by exact_mod_cast c.slotsPerEpoch_pos
  exact Int.mul_ediv_cancel _ hpos.ne'

/-- The last of the ticks is in the latest slot. -/
lemma Ticks.le_last (h : c.Ticks start (times ++ [time])) {slot : ℤ}
    (hm : slot ∈ (times ++ [time]).map c.currentSlot) : slot ≤ c.currentSlot time := by
  rw [List.map_append, List.map_singleton] at hm
  rcases List.mem_append.mp hm with hm | hm
  · have hrising := h.rising
    rw [List.map_append, List.pairwise_append] at hrising
    exact (hrising.2.2 slot hm (c.currentSlot time) (by simp)).le
  · exact (List.mem_singleton.mp hm).le

/-! ### Main result -/

/-- **When the ticker agrees with the schedule.** After a tick the version is that of the fork
of its slot exactly where the object was built from Fulu on, Fulu has not begun, or one of the
ticks was in the first slot of the Fulu epoch. -/
theorem ticker_agrees_iff {handlers : List String} (hinit : c.init start handlers = .ok s)
    (h : c.Ticks start (times ++ [time])) :
    c.Agrees (c.currentSlot time) (c.ticked s (times ++ [time])).currentForkVersion ↔
      c.fuluForkEpoch ≤ c.currentEpoch start ∨ c.currentEpoch time < c.fuluForkEpoch ∨
        c.startSlot c.fuluForkEpoch ∈ (times ++ [time]).map c.currentSlot := by
  obtain ⟨helectra, hbuilt⟩ := init_eq_fulu hinit
  have hstart : c.currentEpoch start ≤ c.currentEpoch time :=
    c.epoch_mono (c.currentSlot_mono (h.later time (by simp)))
  by_cases hlt : c.electraForkEpoch < c.fuluForkEpoch
  · rw [agrees_iff hlt (helectra.trans hstart), ticked_eq_fulu, hbuilt]
    -- a version set by a tick was set in Fulu
    have hset : c.startSlot c.fuluForkEpoch ∈ (times ++ [time]).map c.currentSlot →
        c.fuluForkEpoch ≤ c.epoch (c.currentSlot time) := fun hm => by
      have hle := c.epoch_mono (h.le_last hm)
      rwa [epoch_startSlot] at hle
    have hset' : c.fuluForkEpoch ≤ c.currentEpoch start →
        c.fuluForkEpoch ≤ c.epoch (c.currentSlot time) := fun hle => hle.trans hstart
    constructor
    · intro hiff
      by_cases hfulu : c.fuluForkEpoch ≤ c.epoch (c.currentSlot time)
      · rcases hiff.mpr hfulu with hb | hm
        · exact .inl hb
        · exact .inr (.inr hm)
      · exact .inr (.inl (not_le.mp hfulu))
    · rintro (hb | hbefore | hm)
      · exact iff_of_true (.inl hb) (hset' hb)
      · have hnot : ¬ c.fuluForkEpoch ≤ c.epoch (c.currentSlot time) := not_le.mpr hbefore
        exact iff_of_false (fun h => hnot (h.elim hset' hset)) hnot
      · exact iff_of_true (.inr hm) (hset hm)
  · -- from Electra on it is Fulu already
    have hle : (c.fuluForkEpoch : ℤ) ≤ c.currentEpoch start := by omega
    have hversion : (c.ticked s (times ++ [time])).currentForkVersion = .fulu :=
      ticked_eq_fulu.mpr (.inl (hbuilt.mpr hle))
    rw [hversion]
    exact iff_of_true (agrees_fulu (hle.trans hstart)) (.inl hle)

/-! ### A late tick -/

/-- Mainnet's slots, with Fulu from epoch 1 on. -/
def fuluFromEpoch1 : ForkSchedule where
  toBeaconChain := (mainnet id).beaconChain
  electraForkEpoch := 0
  fuluForkEpoch := 1
  electra_le_fulu := by decide
  denebForkVersion := "0x04000000"
  electraForkVersion := "0x05000000"
  fuluForkVersion := "0x06000000"

/-- The object is built in slot 30 and ticks in slots 31 and 32. -/
theorem ticker_agrees_in_time : fuluFromEpoch1.init 1606824383 [] = .ok ⟨.electra, []⟩ ∧
    fuluFromEpoch1.Agrees (fuluFromEpoch1.currentSlot 1606824407)
      (fuluFromEpoch1.ticked ⟨.electra, []⟩ ([1606824395] ++ [1606824407])).currentForkVersion := by
  have hinit : fuluFromEpoch1.init 1606824383 [] = .ok ⟨.electra, []⟩ := by decide +kernel
  have hticks : fuluFromEpoch1.Ticks 1606824383 ([1606824395] ++ [1606824407]) :=
    ⟨by decide +kernel, by decide +kernel⟩
  exact ⟨hinit, (ticker_agrees_iff hinit hticks).mpr (.inr (.inr (by decide +kernel)))⟩

/-- The object is built in slot 31 and its first tick is in slot 33: the version stays that of
Electra. -/
theorem late_tick_disagrees : fuluFromEpoch1.init 1606824395 [] = .ok ⟨.electra, []⟩ ∧
    fuluFromEpoch1.Ticks 1606824395 [1606824419] ∧
    fuluFromEpoch1.currentSlot 1606824419 = 33 ∧
    (fuluFromEpoch1.ticked ⟨.electra, []⟩ [1606824419]).currentForkVersion = .electra ∧
    ¬ fuluFromEpoch1.Agrees 33 .electra := by
  refine ⟨by decide +kernel, ⟨by decide +kernel, by decide +kernel⟩, by decide +kernel,
    by decide +kernel, fun h => ?_⟩
  have hfork : fuluFromEpoch1.getFork 33 = .ok fuluFromEpoch1.fuluFork := by decide +kernel
  have hsame := Except.ok.inj (hfork.symm.trans h.2)
  exact fuluFork_ne_electraFork (by decide) hsame

end Vero.ForkSchedule
