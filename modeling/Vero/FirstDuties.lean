import Vero.RunServices
import Vero.SlotTicker

/-!
Startup and the slot ticker, side by side.

The ticker is started by startup and from then on reads the clock whenever it is its turn. It
finds the slot handlers that startup has added so far.
-/

namespace Vero.RunServices

open Lib DoppelgangerDetector BeaconChain

/-- Startup goes on, or the slot ticker reads the clock. -/
inductive Turn
  | startup (ev : Timed Step)
  | ticker (time : ℚ)

def Turn.time : Turn → ℚ
  | .startup ev => ev.time
  | .ticker time => time

/-- What startup has been through. -/
def startupOf (turns : List Turn) : List (Timed Step) :=
  turns.filterMap fun
    | .startup ev => some ev
    | .ticker _ => none

def SlotHandler.name : SlotHandler → String
  | .validatorStatusTracker => "validator_status_tracker_service"
  | .dutyService .attestation => "attestation_service"
  | .dutyService .blockProposal => "block_proposal_service"
  | .dutyService .syncCommittee => "sync_committee_service"

def newSlotHandlers (h : List (Timed Step)) : List SlotHandler :=
  h.filterMap fun ev =>
    match ev.event with
    | .own (.did (.addNewSlotHandler handler) (.ok _)) => some handler
    | _ => none

/-- The readings of the ticker, when startup has come to `h`. -/
def readings (h : List (Timed Step)) : List Turn → List (Reading ℚ)
  | [] => []
  | .startup ev :: turns => readings (h ++ [ev]) turns
  | .ticker time :: turns => ⟨time, (newSlotHandlers h).map SlotHandler.name⟩ :: readings h turns

/-- The two take turns while the clock goes on, the ticker after it was started. -/
structure Process (b : BeaconChain) (cliArgs : CLIArgs) (δ : ℚ) (turns : List Turn)
    (o : Coroutine.Outcome Exception Unit) : Prop where
  history : (runServices b cliArgs).History (startupOf turns) o
  paced : (startupOf turns).IsChain (Follows δ)
  forward : (turns.map Turn.time).Pairwise (· ≤ ·)
  started : ∀ pre time post, turns = pre ++ .ticker time :: post →
    ∃ ev ∈ startupOf pre, Done .startSlotTicker ev

variable {b : BeaconChain} {cliArgs : CLIArgs} {δ : ℚ} {turns : List Turn}
  {h : List (Timed Step)} {o : Coroutine.Outcome Exception Unit}

@[simp] lemma startupOf_append (turns turns' : List Turn) :
    startupOf (turns ++ turns') = startupOf turns ++ startupOf turns' := by
  simp [startupOf]

lemma mem_startupOf {ev : Timed Step} : ev ∈ startupOf turns ↔ Turn.startup ev ∈ turns := by
  unfold startupOf
  rw [List.mem_filterMap]
  constructor
  · rintro ⟨turn, hturn, he⟩
    cases turn with
    | startup ev' =>
      obtain rfl := Option.some.inj he
      exact hturn
    | ticker time => cases he
  · exact fun hev => ⟨_, hev, rfl⟩

/-- A reading finds the handlers added before its turn. -/
lemma exists_turn {r : Reading ℚ} (hr : r ∈ readings h turns) :
    ∃ pre post, turns = pre ++ .ticker r.time :: post ∧
      r.newSlotHandlers = (newSlotHandlers (h ++ startupOf pre)).map SlotHandler.name := by
  induction turns generalizing h with
  | nil => cases hr
  | cons turn turns ih =>
    cases turn with
    | startup ev =>
      obtain ⟨pre, post, rfl, hfound⟩ := ih hr
      refine ⟨.startup ev :: pre, post, rfl, ?_⟩
      rw [hfound, List.append_assoc]
      rfl
    | ticker time =>
      rcases List.mem_cons.mp hr with rfl | hr
      · exact ⟨[], turns, rfl, by simp [startupOf]⟩
      · obtain ⟨pre, post, rfl, hfound⟩ := ih hr
        exact ⟨.ticker time :: pre, post, rfl, hfound⟩

lemma SlotHandler.name_injective : Function.Injective SlotHandler.name := by
  intro handler handler' he
  cases handler with
  | validatorStatusTracker =>
    cases handler' with
    | validatorStatusTracker => rfl
    | dutyService service => cases service <;> simp [SlotHandler.name] at he
  | dutyService service =>
    cases handler' with
    | validatorStatusTracker => cases service <;> simp [SlotHandler.name] at he
    | dutyService service' =>
      cases service <;> cases service' <;> first | rfl | simp [SlotHandler.name] at he

/-- A handler was added by an action of startup. -/
lemma exists_added {handler : SlotHandler} (hh : handler ∈ newSlotHandlers h) :
    ∃ ev ∈ h, Done (.addNewSlotHandler handler) ev := by
  obtain ⟨ev, hev, he⟩ := List.mem_filterMap.mp hh
  refine ⟨ev, hev, ?_⟩
  split at he
  next answer hevent =>
    obtain rfl := Option.some.inj he
    exact ⟨_, hevent⟩
  next => cases he

/-! ### Time -/

lemma currentEpoch_nonneg (t : ℚ) : 0 ≤ b.currentEpoch t :=
  Int.ediv_nonneg (b.currentSlot_nonneg t) (Int.natCast_nonneg _)

/-- The last event of a detection comes after what it has waited for. -/
lemma exists_reached_of_cleared {indices : List ℕ} {epoch : ℤ} {post : List (Timed Step)}
    (hcleared : Cleared b indices δ epoch post) :
    0 ≤ epoch ∧ ∃ ev ∈ post, tsToWaitFor b (epoch + 1) - δ ≤ ev.time := by
  obtain ⟨t, rest, -, rfl⟩ := (Calm.of_cleared hcleared).begun
  refine ⟨currentEpoch_nonneg t, ?_⟩
  obtain ⟨data, -, pre, t', ⟨-, pre', ev, rfl, hle⟩, rfl⟩ := hcleared
  exact ⟨ev, by simp, hle⟩

/-- The last slot in which an attestation of the epoch can be included. -/
def lastSlotInNextEpoch (b : BeaconChain) (epoch : ℤ) : ℤ := (epoch + 2) * b.slotsPerEpoch - 1

lemma lastSlotInNextEpoch_le {epoch : ℤ} {time : ℚ} (hepoch : 0 ≤ epoch)
    (hδ : δ ≤ (b.secondsPerSlot : ℚ) / 2) (hle : tsToWaitFor b epoch - δ ≤ time) :
    lastSlotInNextEpoch b epoch ≤ b.slotAt time := by
  have hstart : (b.getTimestampForSlot (lastSlotInNextEpoch b epoch) : ℚ) ≤ time := by
    unfold tsToWaitFor at hle
    unfold lastSlotInNextEpoch
    linarith
  have hnonneg : 0 ≤ lastSlotInNextEpoch b epoch := by
    have hslots : (1 : ℤ) ≤ b.slotsPerEpoch := by exact_mod_cast b.slotsPerEpoch_pos
    unfold lastSlotInNextEpoch
    nlinarith
  have hgenesis : (b.genesisTime : ℚ) ≤ time := by
    refine le_trans ?_ hstart
    have hlater : b.genesisTime ≤ b.getTimestampForSlot (lastSlotInNextEpoch b epoch) := by
      have hproduct := mul_nonneg hnonneg (Int.natCast_nonneg b.secondsPerSlot)
      unfold getTimestampForSlot
      omega
    exact_mod_cast hlater
  exact (Periods.le_index_iff b.secondsPerSlot_pos hgenesis).mpr hstart

/-! ### Main result -/

/-- A duty service is told of a slot only after a detection that ended well, and only of slots
from the last one on in which an attestation of a doppelganger could have been included. -/
def AfterDetection (b : BeaconChain) (δ : ℚ) (before : List (Timed Step)) (slot : ℤ) : Prop :=
  ∃ pre t indices post rest epoch,
    before = pre ++ [⟨t, .own (.activeOrPendingIndices indices)⟩] ++ post ++ rest ∧
      Cleared b indices δ epoch post ∧ lastSlotInNextEpoch b (epoch + 1) ≤ slot

/-- What a slot handler is told, and when. -/
structure ToldInTime (b : BeaconChain) (cliArgs : CLIArgs) (δ : ℚ) (turns : List Turn)
    (a : Announcement ℚ) : Prop where
  started : b.getTimestampForSlot a.slot ≤ a.time
  detected : cliArgs.enableDoppelgangerDetection = true → ∀ task ∈ a.tasks,
    ∀ service : DutyService, task.handler = (SlotHandler.dutyService service).name →
      ∃ pre post, turns = pre ++ .ticker a.time :: post ∧
        AfterDetection b δ (startupOf pre) task.slot

/-- Where an event comes before a turn, its time does too. -/
lemma Process.le_time {pre post : List Turn} {time : ℚ} {ev : Timed Step}
    (hprocess : Process b cliArgs δ (pre ++ .ticker time :: post) o) (hev : ev ∈ startupOf pre) :
    ev.time ≤ time := by
  have hforward := hprocess.forward
  rw [List.map_append, List.pairwise_append] at hforward
  exact hforward.2.2 _ (List.mem_map_of_mem (mem_startupOf.mp hev)) _ (by simp [Turn.time])

lemma split_startupOf {pre : List Turn} {ev : Timed Step} (time : ℚ) (post : List Turn)
    (hev : ev ∈ startupOf pre) :
    ∃ h₀ h₁, startupOf pre = h₀ ++ ev :: h₁ ∧
      startupOf (pre ++ .ticker time :: post) =
        h₀ ++ ev :: (h₁ ++ startupOf (.ticker time :: post)) := by
  obtain ⟨h₀, h₁, hbefore⟩ := List.append_of_mem hev
  exact ⟨h₀, h₁, hbefore, by rw [startupOf_append, hbefore]; simp⟩

/-- **The first duties.** However startup and the ticker take turns, only slots that have started
are announced; and with doppelganger detection none is announced to a duty service before the
detector has found nobody live. -/
theorem told_in_time (hδ : δ ≤ (b.secondsPerSlot : ℚ) / 2)
    (hprocess : Process b cliArgs δ turns o) :
    ∀ a ∈ b.announced (readings [] turns), ToldInTime b cliArgs δ turns a := by
  intro a ha
  obtain ⟨r, hr, rfl⟩ := exists_reading ha
  obtain ⟨pre, post, rfl, hfound⟩ := exists_turn hr
  have hinOrder := (inOrder_of_history hprocess.paced hprocess.history).1
  constructor
  · -- the ticker was started after genesis
    obtain ⟨ev, hev, hdone⟩ := hprocess.started pre r.time post rfl
    obtain ⟨h₀, h₁, hbefore, hstartup⟩ := split_startupOf r.time post hev
    obtain ⟨genesis, hgenesis, hle⟩ := hinOrder.ticker h₀ ev _ hstartup hdone
    have hlate : genesis.time ≤ r.time := hprocess.le_time (by rw [hbefore]; simp [hgenesis])
    exact Periods.start_index_le b.secondsPerSlot_pos (hle.trans hlate)
  · intro henabled task htask service hservice
    refine ⟨pre, post, rfl, ?_⟩
    obtain ⟨name, hname, rfl⟩ := List.mem_map.mp htask
    rw [hfound, List.nil_append, List.mem_map] at hname
    obtain ⟨handler, hhandler, rfl⟩ := hname
    obtain rfl := SlotHandler.name_injective hservice
    -- the handler was added in the part of startup before this turn
    obtain ⟨ev, hev, hdone⟩ := exists_added hhandler
    have hduty : Duty ev := ⟨_, rfl, hdone⟩
    obtain ⟨h₀, h₁, hbefore, hstartup⟩ := split_startupOf r.time post hev
    obtain ⟨early, t, indices, detection, rest, epoch, rfl, hcleared⟩ :=
      hinOrder.duties henabled h₀ ev _ hstartup hduty
    obtain ⟨hepoch, last, hlast, hreached⟩ := exists_reached_of_cleared hcleared
    have hlate : last.time ≤ r.time := hprocess.le_time (by rw [hbefore]; simp [hlast])
    refine ⟨early, t, indices, detection, rest ++ ev :: h₁, epoch, ?_, hcleared, ?_⟩
    · rw [hbefore]
      simp
    · exact lastSlotInNextEpoch_le (by omega) hδ (hreached.trans hlate)

/-- Startup until the slot ticker has been started. -/
def untilTicker : List Turn :=
  [⟨1606824000, .own (.did .startScheduler (.ok ()))⟩,
    ⟨1606824000, .own (.did (.enter .db) (.ok ()))⟩,
    ⟨1606824000, .own (.did .runMigrations (.ok ()))⟩,
    ⟨1606824004, .own (.did (.enter .multiBeaconNode) (.ok ()))⟩, ⟨1606824023, .clock⟩,
    ⟨1606824023, .own (.did (.enter (.remoteSigner "http://signer:9000")) (.ok ()))⟩,
    ⟨1606824023, .own (.did .startSlotTicker (.ok ()))⟩].map .startup

/-- Slot 0 is announced before the detection, and slot 95 after it. -/
def firstDuties : List Turn :=
  untilTicker ++ [.ticker 1606824024, .ticker 1606824024, .ticker 1606824024] ++
    [⟨1606824025, .own (.did .initializeStatuses (.ok ()))⟩,
      ⟨1606824025, .own (.did (.addNewSlotHandler .validatorStatusTracker) (.ok ()))⟩,
      ⟨1606824025, .own (.did .chooseBestBeaconNode (.ok ()))⟩,
      ⟨1606824025, .own (.activeOrPendingIndices [7])⟩,
      ⟨1606824028, .clock⟩, ⟨1606824028.1, .liveness 0 [7] (.ok [])⟩,
      ⟨1606824028.2, .clock⟩, ⟨1606824407, .slept 378.784 (.ok ())⟩, ⟨1606824407, .clock⟩,
      ⟨1606824407, .clock⟩, ⟨1606824791, .slept 383.984 (.ok ())⟩, ⟨1606824791, .clock⟩,
      ⟨1606824791.2, .liveness 1 [7] (.ok [⟨"7", false⟩])⟩, ⟨1606824791.2, .clock⟩,
      ⟨1606825169, .slept 377.8 (.ok ())⟩, ⟨1606825169.3, .liveness 1 [7] (.ok [⟨"7", false⟩])⟩,
      ⟨1606825169.3, .own (.did (.enter (.dutyService .attestation)) (.ok ()))⟩,
      ⟨1606825169.3, .own (.did (.addDutyService .attestation) (.ok ()))⟩,
      ⟨1606825169.3, .own (.did (.addNewSlotHandler (.dutyService .attestation)) (.ok ()))⟩].map
        .startup ++ [.ticker 1606825169.4, .ticker 1606825169.5]

lemma started_of_append (turns turns' : List Turn) (hnone : ∀ time, Turn.ticker time ∉ turns)
    (hstarted : ∃ ev ∈ startupOf turns, Done .startSlotTicker ev) (pre : List Turn) (time : ℚ)
    (post : List Turn) (he : turns ++ turns' = pre ++ .ticker time :: post) :
    ∃ ev ∈ startupOf pre, Done .startSlotTicker ev := by
  rcases List.append_eq_append_iff.mp he with ⟨l, rfl, -⟩ | ⟨l, rfl, hl⟩
  · obtain ⟨ev, hev, hdone⟩ := hstarted
    exact ⟨ev, by simp [hev], hdone⟩
  · cases l with
    | nil => simpa using hstarted
    | cons turn l =>
      obtain ⟨rfl, -⟩ := List.cons.inj hl
      exact absurd (by simp) (hnone time)

theorem told_firstDuties :
    ((mainnet id).beaconChain.announced (readings [] firstDuties)).map (·.slot) = [0, 95] ∧
      ∀ a ∈ (mainnet id).beaconChain.announced (readings [] firstDuties),
        ToldInTime (mainnet id).beaconChain withRemoteSigner 0.016 firstDuties a := by
  have hhistory : (runServices (mainnet id).beaconChain withRemoteSigner).History
      (startupOf firstDuties) .waiting := by
    unfold Coroutine.History
    decide +kernel
  have hpaced : (startupOf firstDuties).IsChain (Follows 0.016) := by
    simp only [firstDuties, untilTicker, startupOf, List.map, List.cons_append, List.nil_append,
      List.filterMap_cons, List.filterMap_nil, List.isChain_cons_cons, Follows,
      Event.slept.injEq, reduceCtorEq]
    norm_num
  have hstarted := started_of_append untilTicker (firstDuties.drop 7) (by simp [untilTicker])
    ⟨_, List.mem_of_getElem? (i := 6) rfl, _, rfl⟩
  refine ⟨by decide +kernel, told_in_time ?_ ⟨hhistory, hpaced, by decide +kernel, hstarted⟩⟩
  norm_num [mainnet]

end Vero.RunServices
