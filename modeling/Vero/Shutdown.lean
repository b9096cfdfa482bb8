import Mathlib.Data.List.MinMax
import Vero.ProposalRuns

/-!
`shut_down`: waiting for block proposals and for the duty services before the process ends.

It runs beside the tasks of the services and gives way to them only where it awaits. The clock
goes on everywhere.
-/

namespace Vero.BlockProposalService.State

open Lib

variable (c : Context) (now : Moment) (s : State)

def hasOngoingDuty : Prop :=
  s.lastSlotDutyCompletedFor < s.lastSlotDutyStartedFor ∧
    s.lastSlotDutyStartedFor = c.currentSlot now

instance : Decidable (s.hasOngoingDuty c now) := inferInstanceAs (Decidable (_ ∧ _))

/-- A duty of the current slot that has not finished is the next one still. -/
def nextDutySlot : Option ℤ :=
  if s.hasOngoingDuty c now then some s.lastSlotDutyStartedFor
  else (s.proposerDuties.values.filterMap fun duties =>
    ((duties.map fun duty => duty.slot).filter fun slot =>
      s.lastSlotDutyStartedFor < slot ∧ c.currentSlot now < slot).min?).min?

def hasUpcomingDuty : Bool :=
  match s.nextDutySlot c now with
  | none => false
  | some slot => slot ≤ c.currentSlot now + 3

def hasDutyForSlot (slot : ℤ) : Option Bool :=
  match s.dutyForSlot c slot with
  | .ok duty => some duty.isSome
  | .error _ => none

end Vero.BlockProposalService.State

namespace Vero.Shutdown

open Lib Lib.Runs BlockProposalService

/-- What `wait_for_duty_completion` sees of a duty service. Its test for a duty may raise. -/
structure DutyService where
  lastSlotDutyStartedFor : ℤ
  lastSlotDutyCompletedFor : ℤ
  hasDutyForSlot : ℤ → Option Bool

/-- A run of `wait_for_duty_completion`. -/
inductive Wait
  | notStarted
  | polling (slot : ℤ)
  | returned
  | raised
  deriving DecidableEq

/-- `wait_for_duty_completion` up to its first await. -/
def DutyService.waitForDutyCompletion (d : DutyService) (currentSlot : ℤ) : Wait :=
  if d.lastSlotDutyCompletedFor = currentSlot then .returned
  else
    match d.hasDutyForSlot currentSlot with
    | none => .raised
    | some hasDuty =>
      if ¬ hasDuty ∧ d.lastSlotDutyStartedFor ≠ currentSlot then .returned
      else if d.lastSlotDutyCompletedFor < currentSlot then .polling currentSlot
      else .returned

/-- The run goes on, if it can. -/
def DutyService.resume (d : DutyService) (currentSlot : ℤ) : Wait → Option Wait
  | .notStarted => some (d.waitForDutyCompletion currentSlot)
  | .polling slot => if d.lastSlotDutyCompletedFor < slot then none else some .returned
  | .returned | .raised => none

/-- Where `shut_down` is: not begun; between two statements of its loop; awaiting the next slot,
a duty or the waits of all services; or over. -/
inductive Phase
  | requested
  | loopTest
  | dutySlotRead
  | slotTest (dutySlot : ℤ)
  | waitCalled
  | loopLeft
  | waitingForSlot (dutySlot nextSlot : ℤ)
  | waitingForDuty (slot : ℤ)
  | waitingForNextSlot (nextSlot : ℤ)
  | gathering (proposal : Wait) (others : List Wait)
  | raised
  | ended

/-- No other task runs meanwhile. -/
def Phase.running : Phase → Bool
  | loopTest | dutySlotRead | slotTest _ | waitCalled | loopLeft => true
  | _ => false

/-- `found` tells whether the block proposal service is among the duty services, `others` what
the waits see of the other ones. -/
structure State where
  time : ℚ
  tracker : ValidatorStatusTrackerService.State
  blockProposal : BlockProposalService.State
  found : Bool
  others : List DutyService
  phase : Phase

inductive Action
  | clock (time : ℚ)
  | tracker (action : ValidatorStatusTrackerService.Action)
  | blockProposal (action : BlockProposalService.Action)
  | enterBlockProposal
  | enterOther (service : DutyService)
  | other (i : ℕ) (service : DutyService)
  | shutDown
  | waitProposal
  | waitOther (i : ℕ)

inductive Output
  | blockProposal (output : BlockProposalService.Output)
  | shutdownEventSet (found : Bool)
  deriving DecidableEq

namespace State

variable (c : Context) (s : State)

def now : Moment := ⟨s.time, s.tracker⟩

def currentSlot : ℤ := c.beaconChain.currentSlot s.time

/-- The block proposal service as its wait sees it. -/
def proposalService : DutyService :=
  ⟨s.blockProposal.lastSlotDutyStartedFor, s.blockProposal.lastSlotDutyCompletedFor,
    s.blockProposal.hasDutyForSlot c⟩

/-- `shut_down` up to its next await or to the next reading of the clock. -/
def shutDown : Option (State × List Output) :=
  let goto : Phase → Option (State × List Output) := fun phase => some ({ s with phase }, [])
  match s.phase with
  | .requested =>
    if s.found then goto .loopTest else some ({ s with phase := .ended }, [.shutdownEventSet false])
  | .loopTest =>
    if s.blockProposal.hasUpcomingDuty c s.now then goto .dutySlotRead else goto .loopLeft
  | .dutySlotRead =>
    match s.blockProposal.nextDutySlot c s.now with
    | none => goto .loopLeft
    | some dutySlot => goto (.slotTest dutySlot)
  | .slotTest dutySlot =>
    if s.currentSlot c < dutySlot then goto (.waitingForSlot dutySlot (s.currentSlot c + 1))
    else goto .waitCalled
  | .waitCalled =>
    match (s.proposalService c).waitForDutyCompletion (s.currentSlot c) with
    | .returned | .notStarted => goto .loopTest
    | .polling slot => goto (.waitingForDuty slot)
    | .raised => goto .raised
  | .waitingForSlot dutySlot nextSlot =>
    if c.beaconChain.getTimestampForSlot nextSlot ≤ s.time then goto (.slotTest dutySlot) else none
  | .waitingForDuty slot =>
    if s.blockProposal.lastSlotDutyCompletedFor < slot then none else goto .loopTest
  | .loopLeft => goto (.waitingForNextSlot (s.currentSlot c + 1))
  | .waitingForNextSlot nextSlot =>
    if c.beaconChain.getTimestampForSlot nextSlot ≤ s.time then
      goto (.gathering .notStarted (s.others.map fun _ => .notStarted))
    else none
  | .gathering proposal others =>
    if proposal = .raised ∨ .raised ∈ others then goto .raised
    else if proposal = .returned ∧ ∀ w ∈ others, w = .returned then
      some ({ s with phase := .ended }, [.shutdownEventSet true])
    else none
  | .raised | .ended => none

/-- The gathered wait for the block proposal service takes a step. -/
def waitProposal : Option (State × List Output) :=
  match s.phase with
  | .gathering proposal others =>
    ((s.proposalService c).resume (s.currentSlot c) proposal).map fun proposal =>
      ({ s with phase := .gathering proposal others }, [])
  | _ => none

def waitOther (i : ℕ) : Option (State × List Output) :=
  match s.phase with
  | .gathering proposal others => do
    let service ← s.others[i]?
    let wait ← others[i]?
    let wait ← service.resume (s.currentSlot c) wait
    return ({ s with phase := .gathering proposal (others.set i wait) }, [])
  | _ => none

end State

variable (c : Context)

/-- Every task runs up to its next await. -/
def step : Machine State Action Output
  | s, .clock time => some ({ s with time }, [])
  | s, .shutDown => s.shutDown c
  | s, .tracker a =>
    if s.phase.running then none
    else some ({ s with tracker := ValidatorStatusTrackerService.step c.int s.tracker a }, [])
  | s, .blockProposal a =>
    if s.phase.running then none
    else (BlockProposalService.step c s.now s.blockProposal a).map fun p =>
      ({ s with blockProposal := p.1 }, p.2.map .blockProposal)
  | s, .enterBlockProposal =>
    if s.phase.running then none else some ({ s with found := true }, [])
  | s, .enterOther service =>
    if s.phase.running then none else some ({ s with others := s.others ++ [service] }, [])
  | s, .other i service =>
    if s.phase.running then none else some ({ s with others := s.others.set i service }, [])
  | s, .waitProposal => s.waitProposal c
  | s, .waitOther i => s.waitOther c i

/-- A process in which nobody has asked for a shutdown, with any cached duties. -/
def Started (s : State) : Prop :=
  s.phase = .requested ∧ ∃ duties roots, s.blockProposal = .init duties roots

/-- The slot a wait that has not returned is for. -/
def State.waitedSlot (s : State) : Wait → Option ℤ
  | .notStarted => some (s.currentSlot c)
  | .polling slot => some slot
  | .returned | .raised => none

/-- The gathered wait for the block proposal service has returned. -/
def State.Returned (s : State) : Prop := ∃ others, s.phase = .gathering .returned others

/-- Proposals keep to their slots: when the gathered wait for the block proposal service returns,
every one in flight is of the slot it waited for and none of a later slot has started; and none
starts after that. -/
def Timely : Guard State Action Output := fun s _ a =>
  match s.phase, a with
  | .gathering proposal _, .waitProposal =>
    (s.proposalService c).resume (s.currentSlot c) proposal = some .returned →
      ∀ slot ∈ s.waitedSlot c proposal, ∀ t ∈ s.blockProposal.slotTasks.values,
        t.phase.proposing → t.slot = slot ∧ s.blockProposal.lastSlotDutyStartedFor ≤ slot
  | .gathering .returned _, .blockProposal b =>
    ∀ p ∈ BlockProposalService.step c s.now s.blockProposal b, starts p.2 = []
  | _, _ => True

variable {c : Context} {s₀ s s' : State} {a : Action} {as : List Action} {o os : List Output}

/-! ### The waits -/

/-- Where the last run started is of the slot that is waited for, it is over when the wait
returns. -/
lemma completed_of_returned {d : DutyService} {currentSlot : ℤ} {wait : Wait}
    (hle : d.lastSlotDutyCompletedFor ≤ d.lastSlotDutyStartedFor)
    (h : d.resume currentSlot wait = some .returned) {slot : ℤ}
    (hslot : slot = d.lastSlotDutyStartedFor)
    (hwait : wait = .notStarted ∧ slot = currentSlot ∨ wait = .polling slot) :
    d.lastSlotDutyCompletedFor = slot := by
  rcases hwait with ⟨rfl, rfl⟩ | rfl
  · have hreturned := Option.some.inj h
    unfold DutyService.waitForDutyCompletion at hreturned
    split at hreturned
    · assumption
    · split at hreturned
      · cases hreturned
      · split_ifs at hreturned with hnone hpoll
        · exact absurd hslot.symm hnone.2
        · omega
  · simp only [DutyService.resume] at h
    split_ifs at h
    omega

lemma waitedSlot_cases {wait : Wait} {slot : ℤ} (h : s.waitedSlot c wait = some slot) :
    wait = .notStarted ∧ slot = s.currentSlot c ∨ wait = .polling slot := by
  cases wait with
  | notStarted => exact .inl ⟨rfl, (Option.some.inj h).symm⟩
  | polling p => exact .inr (congrArg Wait.polling (Option.some.inj h))
  | returned | raised => simp [State.waitedSlot] at h

lemma waitedSlot_of_resume {d : DutyService} {wait wait' : Wait}
    (h : d.resume (s.currentSlot c) wait = some wait') :
    ∃ slot, s.waitedSlot c wait = some slot := by
  cases wait with
  | notStarted => exact ⟨_, rfl⟩
  | polling slot => exact ⟨slot, rfl⟩
  | returned | raised => simp [DutyService.resume] at h

/-- When the wait returns, nothing is in flight exactly where the proposals keep to their
slots. -/
lemma not_inFlight_iff {proposal : Wait} (h : Tracked s.blockProposal)
    (hreturned : (s.proposalService c).resume (s.currentSlot c) proposal = some .returned) :
    ¬ InFlight s.blockProposal ↔ ∀ slot ∈ s.waitedSlot c proposal,
      ∀ t ∈ s.blockProposal.slotTasks.values,
        t.phase.proposing → t.slot = slot ∧ s.blockProposal.lastSlotDutyStartedFor ≤ slot := by
  constructor
  · intro hnone slot _ t ht hp
    exact absurd ⟨t, ht, hp⟩ hnone
  · rintro htimely ⟨t, ht, hp⟩
    obtain ⟨slot, hslot⟩ := waitedSlot_of_resume hreturned
    obtain ⟨rfl, hlast⟩ := htimely slot hslot t ht hp
    obtain ⟨id, hget⟩ := Dict.mem_values_iff.mp ht
    -- the run in flight is the last one started, so the wait did not return before its end
    have hstarted := h.started id t hget hp
    have hcompleted := completed_of_returned (d := s.proposalService c) h.completed hreturned
      (le_antisymm hstarted hlast) (waitedSlot_cases hslot)
    exact h.running id t hget hp hcompleted.symm

/-! ### The steps -/

/-- What is known of every state: the runs are tracked, and none is in flight once the wait for
them has returned. -/
structure Waited (s : State) : Prop where
  tracked : Tracked s.blockProposal
  quiet : s.Returned → ¬ InFlight s.blockProposal

/-- `shut_down` leaves the service alone, its own steps do not end the gathered wait, and it
sets the event once that wait has returned. -/
lemma shutDown_frame (h : s.shutDown c = some (s', o)) : s'.blockProposal = s.blockProposal ∧
    ¬ s'.Returned ∧ (.shutdownEventSet true ∈ o → s.Returned) := by
  have hgoto : ∀ phase l, (∀ others, phase ≠ .gathering .returned others) →
      (.shutdownEventSet true ∈ l → s.Returned) → some ({ s with phase }, l) = some (s', o) →
      s'.blockProposal = s.blockProposal ∧ ¬ s'.Returned ∧
        (.shutdownEventSet true ∈ o → s.Returned) := by
    intro phase l hphase hset he
    obtain ⟨rfl, rfl⟩ := Prod.mk.inj (Option.some.inj he)
    refine ⟨rfl, ?_, hset⟩
    rintro ⟨others, hreturned⟩
    exact hphase others hreturned
  unfold State.shutDown at h
  cases hphase : s.phase with
  | requested | loopTest | slotTest =>
    simp only [hphase] at h
    split_ifs at h
    · exact hgoto _ _ (by simp) (by simp) h
    · exact hgoto _ _ (by simp) (by simp) h
  | dutySlotRead | waitCalled =>
    simp only [hphase] at h
    split at h
    all_goals exact hgoto _ _ (by simp) (by simp) h
  | loopLeft =>
    simp only [hphase] at h
    exact hgoto _ _ (by simp) (by simp) h
  | waitingForSlot | waitingForDuty | waitingForNextSlot =>
    simp only [hphase] at h
    split_ifs at h
    exact hgoto _ _ (by simp) (by simp) h
  | gathering proposal others =>
    simp only [hphase] at h
    split_ifs at h with _ hall
    · exact hgoto _ _ (by simp) (by simp) h
    · exact hgoto _ _ (by simp) (fun _ => ⟨others, by rw [hphase, hall.1]⟩) h
  | raised | ended => simp [hphase] at h

/-- **One step.** The runs stay tracked, and once the wait has returned nothing is in flight
exactly where the step keeps proposals to their slots. -/
lemma waited_step (h : Waited s) (hs : step c s a = some (s', o)) :
    Tracked s'.blockProposal ∧
      (s'.Returned → (¬ InFlight s'.blockProposal ↔ Timely c s os a)) := by
  -- a step that leaves the service and the phase alone
  have hframe : s'.blockProposal = s.blockProposal → s'.phase = s.phase → Timely c s os a →
      Tracked s'.blockProposal ∧
        (s'.Returned → (¬ InFlight s'.blockProposal ↔ Timely c s os a)) := by
    intro hb hp htimely
    rw [hb]
    refine ⟨h.tracked, fun hreturned => iff_of_true (h.quiet ?_) htimely⟩
    rwa [State.Returned, hp] at hreturned
  have htimely : a ≠ .waitProposal → (∀ b, a ≠ .blockProposal b) → Timely c s os a := by
    intro h1 h2
    unfold Timely
    split
    · exact absurd rfl h1
    · exact absurd rfl (h2 _)
    · trivial
  cases a with
  | clock time =>
    obtain ⟨rfl, -⟩ := Prod.mk.inj (Option.some.inj hs)
    exact hframe rfl rfl (htimely (by simp) (by simp))
  | tracker | enterBlockProposal | enterOther | other =>
    simp only [step] at hs
    split_ifs at hs
    obtain ⟨rfl, -⟩ := Prod.mk.inj (Option.some.inj hs)
    exact hframe rfl rfl (htimely (by simp) (by simp))
  | shutDown =>
    obtain ⟨hb, hnot, -⟩ := shutDown_frame hs
    exact ⟨hb ▸ h.tracked, fun hreturned => absurd hreturned hnot⟩
  | blockProposal b =>
    simp only [step] at hs
    split_ifs at hs
    obtain ⟨⟨t, l⟩, ht, he⟩ := Option.map_eq_some_iff.mp hs
    obtain ⟨rfl, -⟩ := Prod.mk.inj he
    refine ⟨tracked_step h.tracked ht, fun hreturned => ?_⟩
    obtain ⟨others, hphase⟩ := hreturned
    have hphase : s.phase = .gathering .returned others := hphase
    rw [inFlight_step (h.quiet ⟨others, hphase⟩) ht, not_not]
    simp [Timely, hphase, ht]
  | waitProposal =>
    simp only [step] at hs
    unfold State.waitProposal at hs
    split at hs
    · next proposal others hphase =>
      obtain ⟨wait, hwait, he⟩ := Option.map_eq_some_iff.mp hs
      obtain ⟨rfl, -⟩ := Prod.mk.inj he
      refine ⟨h.tracked, fun hreturned => ?_⟩
      obtain ⟨others', hreturned⟩ := hreturned
      obtain ⟨rfl, -⟩ := Phase.gathering.inj hreturned
      have hiff := not_inFlight_iff h.tracked hwait
      simp only [Timely, hphase, hwait, forall_const]
      exact hiff
    · simp at hs
  | waitOther i =>
    simp only [step] at hs
    unfold State.waitOther at hs
    split at hs
    · next proposal others hphase =>
      obtain ⟨service, -, hs⟩ := Option.bind_eq_some_iff.mp hs
      obtain ⟨wait, -, hs⟩ := Option.bind_eq_some_iff.mp hs
      obtain ⟨wait', -, hs⟩ := Option.bind_eq_some_iff.mp hs
      obtain ⟨rfl, -⟩ := Prod.mk.inj (Option.some.inj hs)
      refine ⟨h.tracked, fun hreturned => ?_⟩
      obtain ⟨others', hreturned⟩ := hreturned
      obtain ⟨rfl, -⟩ := Phase.gathering.inj hreturned
      exact iff_of_true (h.quiet ⟨others, hphase⟩) (htimely (by simp) (by simp))
    · simp at hs

/-! ### Main result -/

/-- **When shutting down cuts off no proposal.** In every run in which proposals keep to their
slots, none is in flight when `shut_down` sets the event after it found the service. After such
a run a step that ends the gathered wait, or follows its end, leaves none in flight exactly
where it keeps proposals to their slots too. -/
theorem shutdown_cuts_off_nothing (h : Started s₀) (r : RunIf (step c) (Timely c) s₀ as s os) :
    (∀ s' o, step c s .shutDown = some (s', o) → .shutdownEventSet true ∈ o →
      ¬ InFlight s'.blockProposal) ∧
    ∀ a s' o, step c s a = some (s', o) → s'.Returned →
      (¬ InFlight s'.blockProposal ↔ Timely c s os a) := by
  have hwaited : Waited s := by
    refine r.invariant (I := fun s _ => Waited s) ?_ ?_
    · obtain ⟨hphase, duties, roots, hinit⟩ := h
      refine ⟨hinit ▸ tracked_init duties roots, ?_⟩
      rintro ⟨others, hreturned⟩
      simp [hphase] at hreturned
    · intro s os a s' o hw htimely hs
      have hstep : Tracked s'.blockProposal ∧
          (s'.Returned → (¬ InFlight s'.blockProposal ↔ Timely c s os a)) := waited_step hw hs
      exact ⟨hstep.1, fun hreturned => (hstep.2 hreturned).mpr htimely⟩
  refine ⟨fun s' o hs hset => ?_, fun a s' o hs => (waited_step hwaited hs).2⟩
  obtain ⟨hb, -, hreturned⟩ := shutDown_frame hs
  rw [hb]
  exact hwaited.quiet (hreturned hset)

/-! ### A slow proposal -/

instance : Decidable (Timely c s os a) := by
  unfold Timely
  split
  all_goals infer_instance

/-- A process on mainnet in slot 1, with the duty services and a cached duty of slot 1. -/
def inSlot1 : State where
  time := 1606824035
  tracker := .init
  blockProposal := .init (Dict.empty.set 0 [⟨"0xa", 7, 1⟩]) ∅
  found := true
  others := [⟨-1, -1, fun _ => some false⟩, ⟨-1, -1, fun _ => some false⟩]
  phase := .requested

/-- The clock goes on to a slot. -/
def toSlot (slot : ℤ) : Action := .clock ((mainnet id).beaconChain.getTimestampForSlot slot)

def proposal (a : BlockProposalService.Action) : Action := .blockProposal a

/-- The block of slot 1 is proposed. -/
def proposed : List Action :=
  [proposal (.randaoReveal 0 "0xr"),
    proposal (.blockProduced 0 ⟨"electra", true, ⟨"1", "7", "0xp", "0xs", "0xb"⟩⟩),
    proposal (.blockSigned 0 "0xf"), proposal (.blockPublished 0)]

/-- No duty is upcoming, the next slot begins, and the waits are gathered and return. -/
def gathered (slot : ℤ) : List Action :=
  [.shutDown, .shutDown, toSlot slot, .shutDown, .waitProposal, .waitOther 0, .waitOther 1]

/-- The shutdown is asked for during the proposal of slot 1, and waits for it. -/
def inTime : List Action :=
  [proposal (.onNewSlot 0 1), .shutDown, .shutDown, .shutDown, .shutDown, .shutDown] ++
    proposed ++ [.shutDown] ++ gathered 2

/-- The proposal of slot 1 lasts into slot 3, and the shutdown is asked for in slot 2. -/
def tooLate : List Action :=
  [proposal (.onNewSlot 0 1), toSlot 2, .shutDown] ++ gathered 3

theorem shutdown_cuts_off_nothing_in_time : ∃ s os s' o,
    RunIf (step (mainnet id)) (Timely (mainnet id)) inSlot1 inTime s os ∧
    step (mainnet id) s .shutDown = some (s', o) ∧ .shutdownEventSet true ∈ o ∧
    ¬ InFlight s'.blockProposal := by
  obtain ⟨s, os, s', o, r, -, hs, hp⟩ := @exec_next _ _ _ (step (mainnet id)) (Timely (mainnet id))
    inSlot1 inTime _ .shutDown (fun _ _ o => .shutdownEventSet true ∈ o) (by decide +kernel)
  have hset := of_decide_eq_true hp
  have hstarted : Started inSlot1 := ⟨rfl, _, _, rfl⟩
  exact ⟨s, os, s', o, r, hs, hset, (shutdown_cuts_off_nothing hstarted r).1 s' o hs hset⟩

theorem proposal_cut_off : Started inSlot1 ∧ ∃ s os s' o,
    Run (step (mainnet id)) inSlot1 tooLate s os ∧
    step (mainnet id) s .shutDown = some (s', o) ∧ .shutdownEventSet true ∈ o ∧
    InFlight s'.blockProposal := by
  refine ⟨⟨rfl, _, _, rfl⟩, ?_⟩
  obtain ⟨s, os, s', o, r, -, hs, hp⟩ := @exec_next _ _ _ (step (mainnet id)) (fun _ _ _ => True)
    inSlot1 tooLate _ .shutDown
    (fun _ s' o => .shutdownEventSet true ∈ o ∧ InFlight s'.blockProposal) (by decide +kernel)
  obtain ⟨hset, hflight⟩ := of_decide_eq_true hp
  exact ⟨s, os, s', o, r, hs, hset, hflight⟩

end Vero.Shutdown
