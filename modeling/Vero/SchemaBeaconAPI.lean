import Mathlib.Data.Nat.Notation
import Mathlib.Data.Int.Notation

/-!
The response models of the Beacon Node API that the services work on.

Roots, public keys and epochs of checkpoints are the strings of the API. A slot, a proposer
duty's validator index and a committee length are the integers their decimal strings stand
for: the services apply `int` wherever they use one.
-/

namespace Vero.SchemaBeaconAPI

abbrev Root := String
abbrev Pubkey := String

inductive ValidatorStatus
  | pendingInitialized
  | pendingQueued
  | activeOngoing
  | activeExiting
  | activeSlashed
  | exitedUnslashed
  | exitedSlashed
  | withdrawalPossible
  | withdrawalDone
  deriving DecidableEq

structure Checkpoint where
  epoch : String
  root : Root
  deriving DecidableEq

inductive ForkVersion
  | electra
  | fulu
  deriving DecidableEq

structure AttestationData where
  slot : String
  index : String
  beaconBlockRoot : Root
  source : Checkpoint
  target : Checkpoint
  deriving DecidableEq

structure AttesterDuty where
  pubkey : Pubkey
  validatorIndex : String
  committeeIndex : String
  committeeLength : ℕ
  committeesAtSlot : String
  validatorCommitteeIndex : String
  slot : ℤ
  deriving DecidableEq

structure AttesterDutyWithSelectionProof extends AttesterDuty where
  isAggregator : Bool
  selectionProof : List UInt8
  deriving DecidableEq

def AttesterDutyWithSelectionProof.fromDuty (duty : AttesterDuty) (isAggregator : Bool)
    (selectionProof : List UInt8) : AttesterDutyWithSelectionProof :=
  { duty with isAggregator, selectionProof }

structure GetAttesterDutiesResponse where
  dependentRoot : Root
  data : List AttesterDuty
  deriving DecidableEq

structure ProposerDuty where
  pubkey : Pubkey
  validatorIndex : ℤ
  slot : ℤ
  deriving DecidableEq

structure BeaconBlockHeader where
  slot : String
  proposerIndex : String
  parentRoot : Root
  stateRoot : Root
  bodyRoot : Root
  deriving DecidableEq

structure GetProposerDutiesResponse where
  dependentRoot : Root
  data : List ProposerDuty

/-! ### Events -/

structure HeadEvent where
  slot : ℤ
  block : Root
  previousDutyDependentRoot : Root
  currentDutyDependentRoot : Root
  deriving DecidableEq

structure ChainReorgEvent where
  slot : ℤ
  depth : String
  oldHeadBlock : Root
  newHeadBlock : Root
  deriving DecidableEq

structure AttesterSlashingEvent where
  attestation1AttestingIndices : List String
  attestation2AttestingIndices : List String
  deriving DecidableEq

structure ProposerSlashingEvent where
  signedHeader1ProposerIndex : String
  signedHeader2ProposerIndex : String
  deriving DecidableEq

inductive BeaconNodeEvent
  | head (event : HeadEvent)
  | chainReorg (event : ChainReorgEvent)
  | attesterSlashing (event : AttesterSlashingEvent)
  | proposerSlashing (event : ProposerSlashingEvent)
  deriving DecidableEq

inductive EventType
  | headEvent
  | chainReorgEvent
  | attesterSlashingEvent
  | proposerSlashingEvent
  deriving DecidableEq

namespace BeaconNodeEvent

def type : BeaconNodeEvent → EventType
  | head _ => .headEvent
  | chainReorg _ => .chainReorgEvent
  | attesterSlashing _ => .attesterSlashingEvent
  | proposerSlashing _ => .proposerSlashingEvent

/-- Slashing events have no slot. -/
def slot : BeaconNodeEvent → Option ℤ
  | head event => some event.slot
  | chainReorg event => some event.slot
  | attesterSlashing _ | proposerSlashing _ => none

/-- `strIntersection` is Python's `str(set(a) & set(b))`, which prints a set in the order of
its hash table. -/
def dedupKey (strIntersection : List String → List String → String) : BeaconNodeEvent → String
  | head event => event.block
  | chainReorg event => event.newHeadBlock
  | attesterSlashing event =>
    strIntersection event.attestation1AttestingIndices event.attestation2AttestingIndices
  | proposerSlashing event => event.signedHeader1ProposerIndex

end BeaconNodeEvent

end Vero.SchemaBeaconAPI
