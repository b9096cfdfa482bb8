import Vero.SchemaBeaconAPI

/-!
`ValidatorStatusTrackerService`: the flag that a slashing was detected, and the validators
for which duties are fetched.

A status update awaits its requests one after the other, and several updates may overlap, so
each answer is a step of its own.
-/

namespace Vero.ValidatorStatusTrackerService

open SchemaBeaconAPI

structure ValidatorIndexPubkey where
  index : ℤ
  pubkey : Pubkey
  deriving DecidableEq

structure State where
  slashingDetected : Bool
  activeValidators : List ValidatorIndexPubkey
  pendingValidators : List ValidatorIndexPubkey

def State.init : State := ⟨false, [], []⟩

/-- What changes the tracker: a slashing event, and the answers of `get_validators` during
`_update_validator_statuses`. -/
inductive Action
  | attesterSlashing (event : AttesterSlashingEvent)
  | proposerSlashing (event : ProposerSlashingEvent)
  | slashedValidators (validators : List ValidatorIndexPubkey)
  | activeValidators (validators : List ValidatorIndexPubkey)
  | pendingValidators (validators : List ValidatorIndexPubkey)

namespace State

def activeOrPendingIndices (s : State) : List ℤ :=
  (s.activeValidators ++ s.pendingValidators).map ValidatorIndexPubkey.index

/-- The indices both attestations are by, or nothing where one is not a number. -/
def slashedIndices (int : String → Option ℤ) (event : AttesterSlashingEvent) :
    Option (List ℤ) := do
  let a ← event.attestation1AttestingIndices.mapM int
  let b ← event.attestation2AttestingIndices.mapM int
  return a.filter (· ∈ b)

def detect (s : State) (slashed : List ℤ) : State :=
  if ∃ i ∈ slashed, i ∈ s.activeOrPendingIndices then { s with slashingDetected := true } else s

/-- A handler that raises leaves the tracker as it was. -/
def handleAttesterSlashing (int : String → Option ℤ) (s : State)
    (event : AttesterSlashingEvent) : State :=
  match slashedIndices int event with
  | some slashed => s.detect slashed
  | none => s

def handleProposerSlashing (int : String → Option ℤ) (s : State)
    (event : ProposerSlashingEvent) : State :=
  match int event.signedHeader1ProposerIndex with
  | some slashed => s.detect [slashed]
  | none => s

end State

def step (int : String → Option ℤ) (s : State) : Action → State
  | .attesterSlashing event => s.handleAttesterSlashing int event
  | .proposerSlashing event => s.handleProposerSlashing int event
  | .slashedValidators validators =>
    if validators = [] then s else { s with slashingDetected := true }
  | .activeValidators validators => { s with activeValidators := validators }
  | .pendingValidators validators => { s with pendingValidators := validators }

/-- A detected slashing stays detected. -/
lemma slashingDetected_step {int : String → Option ℤ} {s : State} (a : Action)
    (h : s.slashingDetected = true) : (step int s a).slashingDetected = true := by
  have hdetect : ∀ slashed, (s.detect slashed).slashingDetected = true := fun slashed => by
    unfold State.detect
    split
    · rfl
    · exact h
  cases a with
  | attesterSlashing event =>
    simp only [step, State.handleAttesterSlashing]
    split
    · exact hdetect _
    · exact h
  | proposerSlashing event =>
    simp only [step, State.handleProposerSlashing]
    split
    · exact hdetect _
    · exact h
  | slashedValidators validators =>
    simp only [step]
    split
    · exact h
    · rfl
  | activeValidators validators => exact h
  | pendingValidators validators => exact h

end Vero.ValidatorStatusTrackerService
