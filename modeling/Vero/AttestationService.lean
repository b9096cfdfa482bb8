import Mathlib.Data.Finset.Image
import Mathlib.Data.Finset.Union
import Vero.Context
import Vero.Lib.Dict
import Vero.Lib.Runs

/-!
`AttestationService`: the store of attester duties, the update that refills it, and the runs
of `_attest` that empty it.

Tasks interleave where they await. What a task does between two awaits is one step, taken at
a moment that fixes the clock and the validator status tracker. The lock of the base class
keeps two updates from overlapping, so there is at most one update in the state.
-/

namespace Vero.AttestationService

open Lib SchemaBeaconAPI

abbrev Duties := Finset AttesterDutyWithSelectionProof

/-- Where `_update_duties` awaits: the answer of a beacon node for an epoch, or the selection
proofs of a batch, more batches being left. -/
inductive UpdatePhase
  | fetching
  | proving (dependentRoot : Root) (batch : List AttesterDuty) (batches : List (List AttesterDuty))

/-- A run of `_update_duties`: the epoch it works on and those after it. -/
structure UpdateRun where
  validatorIndices : List ℤ
  epoch : ℤ
  epochs : List ℤ
  phase : UpdatePhase
  received : List (ℤ × GetAttesterDutiesResponse)

/-- Where `_attest` awaits: the attestation data, or its signatures. -/
inductive AttestPhase
  | producing
  | signing
  | ended
  deriving DecidableEq

/-- A run of `_attest`. Once it has its data every duty is signed in a task of its own;
`unsigned` are the duties whose task has not asked for the signature yet. -/
structure AttestRun where
  slot : ℤ
  duties : Duties
  phase : AttestPhase
  attData : Option AttestationData
  unsigned : Duties

structure State where
  attesterDuties : Dict ℤ Duties
  attesterDutiesDependentRoots : Dict ℤ Root
  lastSlotDutyStartedFor : ℤ
  lastSlotDutyCompletedFor : ℤ
  jobs : Finset ℤ
  update : Option UpdateRun
  attestRuns : Dict ℕ AttestRun

inductive Action
  | onNewSlot (slot : ℤ)
  | handleHeadEvent (id : ℕ) (event : HeadEvent)
  | deadlineJob (id : ℕ) (slot : ℤ)
  | attestationData (id : ℕ) (attData : AttestationData)
  | requestSignature (id : ℕ) (duty : AttesterDutyWithSelectionProof)
  | attestEnded (id : ℕ)
  | updateDuties
  | dutiesResponse (epoch : ℤ) (response : GetAttesterDutiesResponse)
  | selectionProofs (signatures : List (Pubkey × List UInt8))
  | updateFailed

inductive Output
  | jobScheduled (slot : ℤ)
  | attestStarted (slot : ℤ)
  | produceAttestationData (slot : ℤ) (headEventBlockRoot : Option Root)
  | signAttestation (pubkey : Pubkey) (slot : ℤ) (attData : AttestationData)
  | getAttesterDuties (epoch : ℤ) (validatorIndices : List ℤ)
  | dutiesUpdated (received : List (ℤ × GetAttesterDutiesResponse))
  deriving DecidableEq

/-- A service with the duties and roots its cache has, or with none. -/
def State.init (duties : Dict ℤ Duties) (roots : Dict ℤ Root) : State :=
  ⟨duties, roots, -1, -1, ∅, none, ∅⟩

def targetAggregatorsPerCommittee : ℕ := 16

def bytesToUint64 (data : List UInt8) : ℕ := data.foldr (fun b n => b.toNat + 256 * n) 0

namespace State

variable (c : Context) (now : Moment) (s : State)

/-- The duties of an epoch, with the empty set where there is none. -/
def dutiesOf (epoch : ℤ) : Duties := s.attesterDuties.getD epoch ∅

def dutiesForSlot (slot : ℤ) : Duties :=
  (s.dutiesOf (c.beaconChain.epoch slot)).filter fun duty => duty.slot = slot

def hasDutyForSlot (slot : ℤ) : Prop := (s.dutiesForSlot c slot).Nonempty

instance (slot : ℤ) : Decidable (s.hasDutyForSlot c slot) :=
  inferInstanceAs (Decidable (Finset.Nonempty _))

/-! ### Attesting -/

/-- The deadline job is added, replacing one that exists. -/
def onNewSlot (slot : ℤ) : State := { s with jobs := insert slot s.jobs }

/-- `_get_duties_for_slot` takes the duties of the slot out of the store. -/
def popDutiesForSlot (slot : ℤ) : State :=
  { s with
    attesterDuties := s.attesterDuties.set (c.beaconChain.epoch slot)
      (s.dutiesOf (c.beaconChain.epoch slot) \ s.dutiesForSlot c slot) }

/-- `_attest` up to its first await. -/
def startAttest (id : ℕ) (slot : ℤ) (duties : Duties) : State :=
  { s with
    lastSlotDutyStartedFor := slot
    attestRuns := s.attestRuns.set id ⟨slot, duties, .producing, none, ∅⟩ }

/-- The part of `attest_if_not_yet_attested` behind its guards. -/
def attest (id : ℕ) (slot : ℤ) (headEvent : Option HeadEvent) : State × List Output :=
  let duties := s.dutiesForSlot c slot
  let s := s.popDutiesForSlot c slot
  let request := .produceAttestationData slot (headEvent.map HeadEvent.block)
  if duties.Nonempty then (s.startAttest id slot duties, [.attestStarted slot, request])
  else if (s.dutiesOf (c.beaconChain.epoch slot)).Nonempty then (s, [request])
  else (s, [])

/-- The job is removed before the guards are tested. -/
def attestIfNotYetAttested (id : ℕ) (slot : ℤ) (headEvent : Option HeadEvent) :
    State × List Output :=
  let s := if headEvent.isSome then { s with jobs := s.jobs.erase slot } else s
  if c.refuses now then (s, [])
  else if slot ≤ s.lastSlotDutyStartedFor then (s, [])
  else if slot ≠ c.currentSlot now then (s, [])
  else s.attest c id slot headEvent

def handleHeadEvent (id : ℕ) (event : HeadEvent) : State × List Output :=
  if event.slot ≤ s.lastSlotDutyStartedFor then (s, [])
  else s.attestIfNotYetAttested c now id event.slot (some event)

/-- The scheduler runs a job at its time or later, and drops it then. -/
def deadlineJob (id : ℕ) (slot : ℤ) : State × List Output :=
  { s with jobs := s.jobs.erase slot }.attestIfNotYetAttested c now id slot none

/-- The checkpoints lie in the current epoch or before it; the check raises otherwise. -/
def checkpointsInPast (attData : AttestationData) : Prop :=
  ∀ checkpoint ∈ [attData.source, attData.target],
    ∃ epoch ∈ c.int checkpoint.epoch, epoch ≤ c.currentEpoch now

instance (attData : AttestationData) : Decidable (checkpointsInPast c now attData) :=
  inferInstanceAs (Decidable (∀ _ ∈ _, _))

/-- The run is over, however it ended, and counts as completed. -/
def endAttest (id : ℕ) (r : AttestRun) : State :=
  { s with
    lastSlotDutyCompletedFor := r.slot
    attestRuns := s.attestRuns.set id { r with phase := .ended } }

/-- Attestation data was produced: unless its checkpoints are refused, the tasks that sign it
are started. They go on even where the run that awaits them ends early. -/
def attestationData (id : ℕ) (r : AttestRun) (attData : AttestationData) : State :=
  if checkpointsInPast c now attData then
    { s with
      attestRuns := s.attestRuns.set id
        { r with phase := .signing, attData := some attData, unsigned := r.duties } }
  else s.endAttest id r

/-- The task of one duty asks for its signature. -/
def requestSignature (id : ℕ) (r : AttestRun) (duty : AttesterDutyWithSelectionProof) :
    Option (State × List Output) :=
  if duty ∈ r.unsigned then
    r.attData.map fun attData =>
      ({ s with attestRuns := s.attestRuns.set id { r with unsigned := r.unsigned.erase duty } },
        [.signAttestation duty.pubkey r.slot attData])
  else none

/-! ### Updating the duties -/

def isAggregatorByCommitteeLength (committeeLength : ℕ) (slotSignature : List UInt8) : Bool :=
  let modulo := max 1 (committeeLength / targetAggregatorsPerCommittee)
  bytesToUint64 ((c.hashFunction slotSignature).take 8) % modulo = 0

/-- `_get_duties_with_selection_proofs` with the signatures it was given, or nothing where a
duty has none. -/
def withSelectionProofs (duties : List AttesterDuty) (signatures : List (Pubkey × List UInt8)) :
    Option (List AttesterDutyWithSelectionProof) :=
  let pubkeyToSelectionProof := Dict.ofList signatures
  duties.mapM fun duty => (pubkeyToSelectionProof.get duty.pubkey).map fun selectionProof =>
    .fromDuty duty (isAggregatorByCommitteeLength c duty.committeeLength selectionProof)
      selectionProof

def pruneDuties : State :=
  { s with
    attesterDuties := s.attesterDuties.filterKeys (c.currentEpoch now ≤ ·)
    attesterDutiesDependentRoots :=
      s.attesterDutiesDependentRoots.filterKeys (c.currentEpoch now ≤ ·) }

/-- The loop over the epochs goes on, or ends and the update returns. -/
def nextEpoch (u : UpdateRun) : State × List Output :=
  match u.epochs with
  | [] => ({ s.pruneDuties c now with update := none }, [.dutiesUpdated u.received])
  | epoch :: epochs =>
    ({ s with update := some { u with epoch, epochs, phase := .fetching } },
      [.getAttesterDuties epoch u.validatorIndices])

def updateDuties : State × List Output :=
  let indices := now.tracker.activeOrPendingIndices
  if indices = [] then (s, [])
  else
    let epoch := c.currentEpoch now
    s.nextEpoch c now ⟨indices, epoch, [epoch, epoch + 1], .fetching, []⟩

/-- The loop over the batches of an epoch: the next one that is not empty awaits its selection
proofs, and after the last the dependent root is set. -/
def prove (u : UpdateRun) (dependentRoot : Root) : List (List AttesterDuty) → State × List Output
  | [] =>
    { s with
      attesterDutiesDependentRoots :=
        s.attesterDutiesDependentRoots.set u.epoch dependentRoot }.nextEpoch c now u
  | [] :: batches => prove u dependentRoot batches
  | batch :: batches =>
    ({ s with update := some { u with phase := .proving dependentRoot batch batches } }, [])

def dueSoon (response : GetAttesterDutiesResponse) : List AttesterDuty :=
  response.data.filter fun duty =>
    c.currentSlot now ≤ duty.slot ∧ duty.slot ≤ c.currentSlot now + 1

def dueLater (response : GetAttesterDutiesResponse) : List AttesterDuty :=
  response.data.filter fun duty => c.currentSlot now + 1 < duty.slot

/-- The store of the epoch is emptied when the dependent root is new. -/
def dutiesResponse (u : UpdateRun) (response : GetAttesterDutiesResponse) :
    State × List Output :=
  let u := { u with received := u.received ++ [(u.epoch, response)] }
  if s.attesterDutiesDependentRoots.get u.epoch = some response.dependentRoot then
    s.nextEpoch c now u
  else
    { s with attesterDuties := s.attesterDuties.set u.epoch ∅ }.prove c now u
      response.dependentRoot [dueSoon c now response, dueLater c now response]

/-- The signatures of a batch arrived. One that is missing makes the update raise. -/
def selectionProofs (u : UpdateRun) (dependentRoot : Root) (batch : List AttesterDuty)
    (batches : List (List AttesterDuty)) (signatures : List (Pubkey × List UInt8)) :
    State × List Output :=
  match withSelectionProofs c batch signatures with
  | none => ({ s with update := none }, [])
  | some duties =>
    { s with
      attesterDuties :=
        s.attesterDuties.set u.epoch (s.dutiesOf u.epoch ∪ duties.toFinset) }.prove c now u
      dependentRoot batches

end State

/-! ### The machine -/

def step (c : Context) (now : Moment) (s : State) : Action → Option (State × List Output)
  | .onNewSlot slot => some (s.onNewSlot slot, [.jobScheduled slot])
  | .handleHeadEvent id event =>
    if s.attestRuns.get id = none then some (s.handleHeadEvent c now id event) else none
  | .deadlineJob id slot =>
    if s.attestRuns.get id = none ∧ slot ∈ s.jobs ∧
        c.beaconChain.attestationDeadline slot ≤ now.time then
      some (s.deadlineJob c now id slot)
    else none
  | .attestationData id attData =>
    ((s.attestRuns.get id).filter fun r => r.phase = .producing).map fun r =>
      (s.attestationData c now id r attData, [])
  | .requestSignature id duty => (s.attestRuns.get id).bind fun r => s.requestSignature id r duty
  | .attestEnded id =>
    ((s.attestRuns.get id).filter fun r => r.phase ≠ .ended).map fun r => (s.endAttest id r, [])
  | .updateDuties => if s.update.isNone then some (s.updateDuties c now) else none
  | .dutiesResponse epoch response =>
    s.update.bind fun u =>
      match u.phase with
      | .fetching => if u.epoch = epoch then some (s.dutiesResponse c now u response) else none
      | .proving _ _ _ => none
  | .selectionProofs signatures =>
    s.update.bind fun u =>
      match u.phase with
      | .fetching => none
      | .proving root batch batches =>
        some (s.selectionProofs c now u root batch batches signatures)
  | .updateFailed => s.update.map fun _ => ({ s with update := none }, [])

end Vero.AttestationService
