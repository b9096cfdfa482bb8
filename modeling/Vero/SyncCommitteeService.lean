import Vero.Context
import Vero.Lib.Dict
import Vero.Lib.Runs

/-!
`SyncCommitteeService`: the duties of each sync committee period, their update, and the runs
of `produce_sync_message`.

Messages for a slot are those of the committee of the slot after it. The validators whose
duties are asked for are whatever the validator status tracker shows when an update begins.
-/

namespace Vero

structure SyncBeaconChain extends BeaconChain where
  epochsPerSyncCommitteePeriod : ℕ
  epochsPerSyncCommitteePeriod_pos : 0 < epochsPerSyncCommitteePeriod

namespace SyncBeaconChain

variable (b : SyncBeaconChain)

def computeSyncPeriodForEpoch (epoch : ℤ) : ℤ := epoch / b.epochsPerSyncCommitteePeriod

def computeSyncPeriodForSlot (slot : ℤ) : ℤ := b.computeSyncPeriodForEpoch (b.epoch slot)

def currentSyncPeriod (time : ℚ) : ℤ := b.computeSyncPeriodForEpoch (b.currentEpoch time)

lemma computeSyncPeriodForEpoch_mono {e e' : ℤ} (h : e ≤ e') :
    b.computeSyncPeriodForEpoch e ≤ b.computeSyncPeriodForEpoch e' := by
  have hpos : (0 : ℤ) < b.epochsPerSyncCommitteePeriod := by
    exact_mod_cast b.epochsPerSyncCommitteePeriod_pos
  exact Int.ediv_le_ediv hpos h

lemma computeSyncPeriodForSlot_mono {s s' : ℤ} (h : s ≤ s') :
    b.computeSyncPeriodForSlot s ≤ b.computeSyncPeriodForSlot s' :=
  b.computeSyncPeriodForEpoch_mono (b.epoch_mono h)

end SyncBeaconChain

end Vero

namespace Vero.SyncCommitteeService

open Lib Lib.Runs SchemaBeaconAPI ValidatorStatusTrackerService

structure SyncDuty where
  pubkey : Pubkey
  validatorIndex : ℤ
  validatorSyncCommitteeIndices : List String
  deriving DecidableEq

structure SubscribeToSyncCommitteeSubnetRequestBody where
  validatorIndex : ℤ
  syncCommitteeIndices : List String
  untilEpoch : ℤ
  deriving DecidableEq

/-- How a run of `produce_sync_message` goes: it returns early, raises, or awaits the head
block root, the signatures and their publication. -/
inductive Phase
  | alreadyLater
  | invalidSlot
  | noDuties
  | gettingRoot (syncPeriod : ℤ)
  | signing
  | failed
  | ended
  deriving DecidableEq

structure ProduceRun where
  slot : ℤ
  members : Finset ValidatorIndexPubkey
  phase : Phase

structure State where
  time : ℚ
  syncDuties : Dict ℤ (List SyncDuty)
  lastSlotDutyStartedFor : ℤ
  lastSlotDutyCompletedFor : ℤ
  jobs : Finset ℤ
  update : Option ℤ
  produceRuns : Dict ℕ ProduceRun

inductive Action
  | clock (time : ℚ)
  | onNewSlot (slot : ℤ)
  | handleHeadEvent (id : ℕ) (event : HeadEvent)
  | deadlineJob (id : ℕ) (slot : ℤ)
  | blockRoot (id : ℕ) (root : Root)
  | produceFailed (id : ℕ)
  | messagesPublished (id : ℕ)
  | updateDuties (validatorIndices : List ℤ)
  | dutiesResponse (data : List SyncDuty)
  | updateFailed

inductive Output
  | jobScheduled (slot : ℤ)
  | getBlockRoot (id : ℕ)
  | prepareAndAggregate (slot : ℤ) (root : Root) (duties : List SyncDuty)
  | signSyncMessages (id : ℕ) (slot : ℤ) (root : Root) (members : Finset ValidatorIndexPubkey)
  | getSyncDuties (epoch : ℤ) (validatorIndices : List ℤ)
  | prepareSyncCommitteeSubscriptions (data : List SubscribeToSyncCommitteeSubnetRequestBody)
  | dutiesUpdated (epoch : ℤ)
  deriving DecidableEq

/-- A service with the duties its cache has, or with none. -/
def State.init (time : ℚ) (duties : Dict ℤ (List SyncDuty)) : State :=
  ⟨time, duties, -1, -1, ∅, none, ∅⟩

/-- The validators of some duties, as a set. -/
def validators (duties : List SyncDuty) : Finset ValidatorIndexPubkey :=
  (duties.map fun d => ⟨d.validatorIndex, d.pubkey⟩).toFinset

namespace State

variable (b : SyncBeaconChain) (s : State)

def dutiesOf (syncPeriod : ℤ) : List SyncDuty := s.syncDuties.getD syncPeriod []

/-! ### Producing messages -/

def setRun (id : ℕ) (r : ProduceRun) : State := { s with produceRuns := s.produceRuns.set id r }

/-- `_produce_sync_message` once it has the root of the head block. The duties to aggregate
for are read anew. -/
def signMessages (id : ℕ) (r : ProduceRun) (syncPeriod : ℤ) (root : Root) :
    State × List Output :=
  (s.setRun id { r with phase := .signing },
    [.prepareAndAggregate r.slot root (s.dutiesOf syncPeriod),
      .signSyncMessages id r.slot root r.members])

/-- `produce_sync_message` up to its first await. -/
def produceSyncMessage (id : ℕ) (slot : ℤ) (headEvent : Option HeadEvent) :
    State × List Output :=
  if slot < s.lastSlotDutyStartedFor then (s.setRun id ⟨slot, ∅, .alreadyLater⟩, [])
  else if slot ≠ b.currentSlot s.time then (s.setRun id ⟨slot, ∅, .invalidSlot⟩, [])
  else
    let syncPeriod := b.computeSyncPeriodForSlot (slot + 1)
    let members := validators (s.dutiesOf syncPeriod)
    let s := if headEvent.isSome then { s with jobs := s.jobs.erase slot } else s
    if members = ∅ then (s.setRun id ⟨slot, members, .noDuties⟩, [])
    else
      let s := { s with lastSlotDutyStartedFor := slot }
      match headEvent with
      | some event => s.signMessages id ⟨slot, members, .signing⟩ syncPeriod event.block
      | none => (s.setRun id ⟨slot, members, .gettingRoot syncPeriod⟩, [.getBlockRoot id])

/-- The run is over, however it ended, and counts as completed. -/
def endRun (id : ℕ) (r : ProduceRun) (phase : Phase) : State :=
  { s with lastSlotDutyCompletedFor := r.slot }.setRun id { r with phase }

/-! ### Updating the duties -/

def pruneDuties : State :=
  { s with syncDuties := s.syncDuties.filterKeys (b.currentSyncPeriod s.time ≤ ·) }

/-- `_update_duties` asks for the duties of the current epoch. -/
def updateDuties (validatorIndices : List ℤ) : State × List Output :=
  if validatorIndices = [] then (s, [])
  else
    let epoch := b.currentEpoch s.time
    ({ s with update := some epoch }, [.getSyncDuties epoch validatorIndices])

def subscriptions (syncPeriod : ℤ) (duties : List SyncDuty) :
    List SubscribeToSyncCommitteeSubnetRequestBody :=
  duties.map fun d => ⟨d.validatorIndex, d.validatorSyncCommitteeIndices,
    (syncPeriod + 1) * b.epochsPerSyncCommitteePeriod⟩

/-- The duties of the epoch arrived: those of its sync period, unless there are none. -/
def dutiesResponse (epoch : ℤ) (data : List SyncDuty) : State × List Output :=
  let syncPeriod := b.computeSyncPeriodForEpoch epoch
  let s := { s with update := none }
  if data = [] then (s.pruneDuties b, [.dutiesUpdated epoch])
  else
    ({ s with syncDuties := s.syncDuties.set syncPeriod data }.pruneDuties b,
      [.prepareSyncCommitteeSubscriptions (subscriptions b syncPeriod data),
        .dutiesUpdated epoch])

end State

/-! ### The machine -/

variable (b : SyncBeaconChain)

def step : Machine State Action Output
  | s, .clock time => some ({ s with time }, [])
  | s, .onNewSlot slot => some ({ s with jobs := insert slot s.jobs }, [.jobScheduled slot])
  | s, .handleHeadEvent id event =>
    if s.produceRuns.get id = none then some (s.produceSyncMessage b id event.slot (some event))
    else none
  | s, .deadlineJob id slot =>
    if s.produceRuns.get id = none ∧ slot ∈ s.jobs ∧
        b.getTimestampForSlot slot + b.secondsPerInterval ≤ s.time then
      some ({ s with jobs := s.jobs.erase slot }.produceSyncMessage b id slot none)
    else none
  | s, .blockRoot id root =>
    (s.produceRuns.get id).bind fun r =>
      match r.phase with
      | .gettingRoot syncPeriod => some (s.signMessages id r syncPeriod root)
      | _ => none
  | s, .produceFailed id =>
    (s.produceRuns.get id).bind fun r =>
      match r.phase with
      | .gettingRoot _ => some (s.endRun id r .failed, [])
      | .signing => some (s.endRun id r .ended, [])
      | _ => none
  | s, .messagesPublished id =>
    ((s.produceRuns.get id).filter fun r => r.phase = .signing).map fun r =>
      (s.endRun id r .ended, [])
  | s, .updateDuties validatorIndices =>
    if s.update.isNone then some (s.updateDuties b validatorIndices) else none
  | s, .dutiesResponse data => s.update.map fun epoch => s.dutiesResponse b epoch data
  | s, .updateFailed => s.update.map fun _ => ({ s with update := none }, [])

/-- A process without cached duties. -/
def Fresh (s : State) : Prop := ∃ time, s = .init time ∅

/-- A later process starts with the duties the earlier one left in its cache, or with none
where they fail to load. -/
def Reboot (s s' : State) : Prop :=
  ∃ time, s.time ≤ time ∧ (s' = .init time s.syncDuties ∨ s' = .init time ∅)

end Vero.SyncCommitteeService
