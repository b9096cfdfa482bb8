import Mathlib.Data.List.Dedup
import Vero.Context
import Vero.Lib.Dict
import Vero.Lib.Runs

/-!
`BlockProposalService`: the slot handler that proposes a block and prepares for the next
slot, and the update of the proposer duties.

A task of `on_new_slot` awaits one request after the other. The registration of validators,
which it starts in a task of its own, has no part in this.
-/

namespace Vero.BlockProposalService

open Lib SchemaBeaconAPI

/-- A set of duties, in some order and without repetition. -/
abbrev Duties := List ProposerDuty

/-- What `_produce_block` returns of a block, for the signature and the publication. -/
structure ProducedBlock where
  version : String
  executionPayloadBlinded : Bool
  blockHeader : BeaconBlockHeader
  deriving DecidableEq

/-- Where a task of `on_new_slot` awaits: the RANDAO reveal, the block, its signature or its
publication; then the reveal for the next slot and `prepare_beacon_proposer`. -/
inductive Phase
  | fetchingRandao (duty : ProposerDuty)
  | producing (duty : ProposerDuty) (randaoReveal : String)
  | signing (duty : ProposerDuty) (block : ProducedBlock)
  | publishing (duty : ProposerDuty)
  | prefetching (duty : ProposerDuty)
  | preparing
  | ended

/-- The task still has the block of its slot to propose. -/
def Phase.proposing : Phase → Bool
  | fetchingRandao _ | producing _ _ | signing _ _ | publishing _ => true
  | prefetching _ | preparing | ended => false

structure SlotTask where
  slot : ℤ
  phase : Phase

structure UpdateRun where
  validatorIndices : List ℤ
  epoch : ℤ
  epochs : List ℤ

structure State where
  proposerDuties : Dict ℤ Duties
  proposerDutiesDependentRoots : Dict ℤ Root
  lastSlotDutyStartedFor : ℤ
  lastSlotDutyCompletedFor : ℤ
  randaoRevealCache : Dict ℤ String
  update : Option UpdateRun
  slotTasks : Dict ℕ SlotTask

inductive Action
  | onNewSlot (id : ℕ) (slot : ℤ)
  | randaoReveal (id : ℕ) (randaoReveal : String)
  | blockProduced (id : ℕ) (block : ProducedBlock)
  | blockSigned (id : ℕ) (signature : String)
  | blockPublished (id : ℕ)
  | proposerPrepared (id : ℕ)
  | failed (id : ℕ)
  | updateDuties
  | dutiesResponse (epoch : ℤ) (response : GetProposerDutiesResponse)
  | updateFailed

inductive Output
  | proposeStarted (slot : ℤ)
  | signRandaoReveal (pubkey : Pubkey) (epoch : ℤ)
  | produceBlock (slot : ℤ) (duty : ProposerDuty) (randaoReveal : String)
  | signBlock (pubkey : Pubkey) (slot : ℤ) (version : String) (blockHeader : BeaconBlockHeader)
  | publishBlock (slot : ℤ) (blinded : Bool) (signature : String)
  | prepareBeaconProposer
  | getProposerDuties (epoch : ℤ)
  deriving DecidableEq

/-- A service with the duties and roots its cache has, or with none. -/
def State.init (duties : Dict ℤ Duties) (roots : Dict ℤ Root) : State :=
  ⟨duties, roots, -1, -1, ∅, none, ∅⟩

namespace State

variable (c : Context) (now : Moment) (s : State)

def dutiesOf (epoch : ℤ) : Duties := s.proposerDuties.getD epoch []

/-- `duty_for_slot`: a duty or none. It raises with the duties it found where they are more. -/
def dutyForSlot (slot : ℤ) : Except Duties (Option ProposerDuty) :=
  match (s.dutiesOf (c.beaconChain.epoch slot)).filter fun duty => duty.slot = slot with
  | [] => .ok none
  | [duty] => .ok (some duty)
  | duties => .error duties

def setPhase (id : ℕ) (t : SlotTask) (phase : Phase) : State :=
  { s with slotTasks := s.slotTasks.set id { t with phase } }

/-! ### Proposing -/

def removeDuty (slot : ℤ) (duty : ProposerDuty) : State :=
  { s with
    proposerDuties := s.proposerDuties.set (c.beaconChain.epoch slot)
      ((s.dutiesOf (c.beaconChain.epoch slot)).erase duty) }

/-- `_propose_block` up to its first await. A reveal fetched ahead is taken from the cache. -/
def startPropose (id : ℕ) (t : SlotTask) (duty : ProposerDuty) : State × List Output :=
  let s := { s with lastSlotDutyStartedFor := t.slot }
  match s.randaoRevealCache.get t.slot with
  | some reveal =>
    ({ s with randaoRevealCache := s.randaoRevealCache.filterKeys (· ≠ t.slot) }.setPhase id t
        (.producing duty reveal),
      [.proposeStarted t.slot, .produceBlock t.slot duty reveal])
  | none =>
    (s.setPhase id t (.fetchingRandao duty),
      [.proposeStarted t.slot, .signRandaoReveal duty.pubkey (c.beaconChain.epoch duty.slot)])

/-- The rest of `on_new_slot`: a duty in the next slot is prepared for. -/
def prepareNextSlot (id : ℕ) (t : SlotTask) : State × List Output :=
  match s.dutyForSlot c (t.slot + 1) with
  | .ok (some duty) =>
    (s.setPhase id t (.prefetching duty),
      [.signRandaoReveal duty.pubkey (c.beaconChain.epoch duty.slot)])
  | .ok none | .error _ => (s.setPhase id t .ended, [])

/-- `on_new_slot` up to its first await. A guard of `propose_block` that raises ends it. -/
def onNewSlot (id : ℕ) (slot : ℤ) : State × List Output :=
  let t : SlotTask := ⟨slot, .ended⟩
  let ended := s.setPhase id t .ended
  if c.refuses now then (ended, [])
  else if slot ≤ s.lastSlotDutyStartedFor then (ended, [])
  else if slot ≠ c.currentSlot now then (ended, [])
  else
    match s.dutyForSlot c slot with
    | .error _ => (ended, [])
    | .ok none => s.prepareNextSlot c id t
    | .ok (some duty) => (s.removeDuty c slot duty).startPropose c id t duty

/-- The reveal arrived: for the block it is taken out of the cache again, for the next slot it
stays there. -/
def randaoReveal (id : ℕ) (t : SlotTask) (reveal : String) : Option (State × List Output) :=
  match t.phase with
  | .fetchingRandao duty =>
    some ({ s with randaoRevealCache :=
        (s.randaoRevealCache.set duty.slot reveal).filterKeys (· ≠ t.slot) }.setPhase id t
          (.producing duty reveal),
      [.produceBlock t.slot duty reveal])
  | .prefetching duty =>
    some ({ s with randaoRevealCache := s.randaoRevealCache.set duty.slot reveal }.setPhase id t
        .preparing, [.prepareBeaconProposer])
  | _ => none

/-- The header that is signed is the one of the block a node returned. -/
def blockProduced (id : ℕ) (t : SlotTask) (block : ProducedBlock) :
    Option (State × List Output) :=
  match t.phase with
  | .producing duty _ =>
    some (s.setPhase id t (.signing duty block),
      [.signBlock duty.pubkey t.slot block.version block.blockHeader])
  | _ => none

def blockSigned (id : ℕ) (t : SlotTask) (signature : String) : Option (State × List Output) :=
  match t.phase with
  | .signing duty block =>
    some (s.setPhase id t (.publishing duty),
      [.publishBlock t.slot block.executionPayloadBlinded signature])
  | _ => none

/-- The proposal is over, and the handler goes on to the next slot. -/
def blockPublished (id : ℕ) (t : SlotTask) : Option (State × List Output) :=
  match t.phase with
  | .publishing _ =>
    some ({ s with lastSlotDutyCompletedFor := t.slot }.prepareNextSlot c id t)
  | _ => none

def proposerPrepared (id : ℕ) (t : SlotTask) : Option (State × List Output) :=
  match t.phase with
  | .preparing => some (s.setPhase id t .ended, [])
  | _ => none

/-- An await raises, or the task is cancelled there. A proposal then counts as completed. -/
def failed (id : ℕ) (t : SlotTask) : State :=
  if t.phase.proposing then { s with lastSlotDutyCompletedFor := t.slot }.setPhase id t .ended
  else s.setPhase id t .ended

/-! ### Updating the duties -/

def pruneDuties : State :=
  { s with
    proposerDuties := s.proposerDuties.filterKeys (c.currentEpoch now ≤ ·)
    proposerDutiesDependentRoots :=
      s.proposerDutiesDependentRoots.filterKeys (c.currentEpoch now ≤ ·) }

def nextEpoch (u : UpdateRun) : State × List Output :=
  match u.epochs with
  | [] => ({ s.pruneDuties c now with update := none }, [])
  | epoch :: epochs =>
    ({ s with update := some { u with epoch, epochs } }, [.getProposerDuties epoch])

def updateDuties : State × List Output :=
  let indices := now.tracker.activeOrPendingIndices
  if indices = [] then (s, [])
  else
    let epoch := c.currentEpoch now
    s.nextEpoch c now ⟨indices, epoch, [epoch, epoch + 1]⟩

def dutiesResponse (u : UpdateRun) (response : GetProposerDutiesResponse) :
    State × List Output :=
  { s with
    proposerDutiesDependentRoots :=
      s.proposerDutiesDependentRoots.set u.epoch response.dependentRoot
    proposerDuties := s.proposerDuties.set u.epoch
      (response.data.filter fun duty : ProposerDuty => c.currentSlot now ≤ duty.slot ∧
        duty.validatorIndex ∈ u.validatorIndices).dedup }.nextEpoch c now u

end State

/-! ### The machine -/

def step (c : Context) (now : Moment) (s : State) : Action → Option (State × List Output)
  | .onNewSlot id slot =>
    if s.slotTasks.get id = none then some (s.onNewSlot c now id slot) else none
  | .randaoReveal id reveal => (s.slotTasks.get id).bind fun t => s.randaoReveal id t reveal
  | .blockProduced id block => (s.slotTasks.get id).bind fun t => s.blockProduced id t block
  | .blockSigned id signature => (s.slotTasks.get id).bind fun t => s.blockSigned id t signature
  | .blockPublished id => (s.slotTasks.get id).bind fun t => s.blockPublished c id t
  | .proposerPrepared id => (s.slotTasks.get id).bind fun t => s.proposerPrepared id t
  | .failed id => (s.slotTasks.get id).map fun t => (s.failed id t, [])
  | .updateDuties => if s.update.isNone then some (s.updateDuties c now) else none
  | .dutiesResponse epoch response =>
    s.update.bind fun u =>
      if u.epoch = epoch then some (s.dutiesResponse c now u response) else none
  | .updateFailed => s.update.map fun _ => ({ s with update := none }, [])

end Vero.BlockProposalService
