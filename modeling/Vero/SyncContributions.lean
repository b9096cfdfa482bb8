import Mathlib.Data.Finset.Image
import Vero.AttestationService
import Vero.BestAggregates
import Vero.SignatureProvider
import Vero.SyncCommitteeService

/-!
`prepare_and_aggregate_sync_messages`, and `aggregate_sync_messages` in the job it schedules.

The selection proofs of all validators are gathered in one list, and told apart by their
pubkeys. The contributions of the subcommittees answer in any order, or raise, and each is
matched against the proofs of all validators.
-/

namespace Vero

namespace SpecSyncCommittee

structure ContributionAndProof (n : ℕ) where
  aggregatorIndex : ℤ
  contribution : Contribution n
  selectionProof : List UInt8
  deriving DecidableEq

end SpecSyncCommittee

namespace SchemaRemoteSigner

structure SyncCommitteeContributionAndProofSignableMessage (n : ℕ) where
  forkInfo : ForkInfo
  contributionAndProof : SpecSyncCommittee.ContributionAndProof n
  deriving DecidableEq

end SchemaRemoteSigner

namespace SyncCommitteeService

open Lib.Tasks SchemaBeaconAPI SchemaRemoteSigner SpecSyncCommittee
open AttestationService (bytesToUint64)
open Keymanager (Signed)

structure SyncDutySubCommitteeSelectionProof where
  slot : ℤ
  subcommitteeIndex : ℤ
  isAggregator : Bool
  selectionProof : List UInt8
  deriving DecidableEq

structure SyncDutyWithSelectionProofs extends SyncDuty where
  selectionProofs : List SyncDutySubCommitteeSelectionProof
  deriving DecidableEq

inductive Exception
  | notImplemented (text : String)
  | signature
  | syncCommitteeContributionPublish
  | value
  | raised (text : String)
  deriving DecidableEq

/-- The job that aggregates the messages of a slot. -/
structure AggregationJob where
  dutySlot : ℕ
  beaconBlockRoot : Root
  dutiesWithProofs : List SyncDutyWithSelectionProofs
  nextRunTime : ℚ

def syncCommitteeSubnetCount : ℕ := 4

def targetAggregatorsPerSyncSubcommittee : ℕ := 16

/-- What the two calls meet: how the signatures come, the order in which the set of a
validator's subcommittees is iterated over, the outcome of the request for each contribution
and the order in which the requests come back. -/
structure SyncAggregation (n : ℕ) extends Context where
  genesis : Genesis
  syncCommitteeSize : ℕ
  subnets_dvd : syncCommitteeSubnetCount ∣ syncCommitteeSize
  subnets_le : syncCommitteeSubnetCount ≤ syncCommitteeSize
  signatureProvider : SignatureProvider SyncCommitteeSelectionProofSignableMessage
  signatures : Schedule
  subcommitteeSets : SyncDuty → SetOrder ℤ
  getSyncCommitteeContribution : ℤ → ℤ → Root → Except String (Contribution n)
  requests : SetOrder ℤ
  signInBatches : List (SyncCommitteeContributionAndProofSignableMessage n) → List Pubkey →
    Except String (List (Signed (SyncCommitteeContributionAndProofSignableMessage n)))
  publishSyncCommitteeContributionAndProofs : List (ContributionAndProof n × String) →
    Except String Unit
  publications : Schedule

namespace SyncAggregation

variable {n : ℕ} (p : SyncAggregation n) (forkInfo : ForkInfo) (dutySlot : ℕ)

/-! ### Selection proofs -/

def computeSubnetsForSyncCommittee (indexesInCommittee : List ℤ) : Finset ℤ :=
  (indexesInCommittee.map fun idx =>
    idx / ((p.syncCommitteeSize / syncCommitteeSubnetCount : ℕ) : ℤ)).toFinset

def isAggregator (selectionProof : List UInt8) : Bool :=
  let modulo := max 1 (p.syncCommitteeSize / syncCommitteeSubnetCount /
    targetAggregatorsPerSyncSubcommittee)
  bytesToUint64 ((p.hashFunction selectionProof).take 8) % modulo = 0

def selectionProofMessage (subcommitteeIndex : ℤ) : SyncCommitteeSelectionProofSignableMessage :=
  ⟨forkInfo, ⟨toString dutySlot, toString subcommitteeIndex⟩⟩

/-- The loop that asks for the signatures of every duty. -/
def selectionProofRequests :
    List SyncDuty → Except Exception (List (SyncCommitteeSelectionProofSignableMessage × Pubkey))
  | [] => .ok []
  | duty :: duties =>
    match duty.validatorSyncCommitteeIndices.mapM p.int with
    | none => .error .value
    | some indices =>
      let subcommitteeIndexes :=
        (p.subcommitteeSets duty).order (p.computeSubnetsForSyncCommittee indices)
      (selectionProofRequests duties).map fun requests =>
        (subcommitteeIndexes.map fun i =>
          (selectionProofMessage forkInfo dutySlot i, duty.pubkey)) ++ requests

def selectionProofOf (t : Signed SyncCommitteeSelectionProofSignableMessage) :
    Except Exception SyncDutySubCommitteeSelectionProof :=
  match signatureBytes t.2.1 with
  | none => .error .value
  | some selectionProof =>
    match p.int t.1.syncAggregatorSelectionData.slot,
      p.int t.1.syncAggregatorSelectionData.subcommitteeIndex with
    | some slot, some subcommitteeIndex =>
      .ok ⟨slot, subcommitteeIndex, p.isAggregator selectionProof, selectionProof⟩
    | _, _ => .error .value

def withSelectionProofs (selectionProofs : List (Signed SyncCommitteeSelectionProofSignableMessage))
    (duty : SyncDuty) : Except Exception SyncDutyWithSelectionProofs :=
  ((selectionProofs.filter fun t => t.2.2 = duty.pubkey).mapM p.selectionProofOf).map
    fun selectionProofs => { duty with selectionProofs }

def prepareAndAggregateSyncMessages (beaconBlockRoot : Root) (syncDuties : List SyncDuty) :
    Except Exception AggregationJob :=
  match p.genesis.getForkInfo dutySlot with
  | .error text => .error (.notImplemented text)
  | .ok forkInfo =>
    match p.selectionProofRequests forkInfo dutySlot syncDuties with
    | .error e => .error e
    | .ok requests =>
      match p.signatures.gather
        (requests.map fun q => p.signatureProvider.sign q.1 q.2) with
      | .error _ => .error .signature
      | .ok selectionProofs =>
        (syncDuties.mapM (p.withSelectionProofs selectionProofs)).map fun dutiesWithProofs =>
          { dutySlot, beaconBlockRoot, dutiesWithProofs
            nextRunTime := p.beaconChain.getTimestampForSlot dutySlot +
              2 * p.beaconChain.secondsPerInterval }

/-! ### Contributions -/

/-- The messages of a call of `sign_in_batches`, with their identifiers. -/
abbrev Submission (n : ℕ) := List (SyncCommitteeContributionAndProofSignableMessage n × Pubkey)

def signAndPublishContributions : Submission n → Except Exception Unit :=
  signAndPublish (fun messages identifiers =>
      (p.signInBatches messages identifiers).mapError .raised)
    SyncCommitteeContributionAndProofSignableMessage.contributionAndProof
    fun signedContributionAndProofs =>
      (p.publishSyncCommitteeContributionAndProofs signedContributionAndProofs).mapError
        fun _ => .syncCommitteeContributionPublish

/-- The contributions as they come. A request that raises is passed over. -/
def getSyncCommitteeContributions (slot : ℤ) (subcommitteeIndices : Finset ℤ)
    (beaconBlockRoot : Root) : List (Contribution n) :=
  (p.requests.order subcommitteeIndices).filterMap fun i =>
    (p.getSyncCommitteeContribution slot i beaconBlockRoot).toOption

/-- The loop over the duties and their proofs for one contribution. -/
def contributionMessages (duties : List SyncDutyWithSelectionProofs)
    (contribution : Contribution n) : Submission n :=
  duties.flatMap fun duty => duty.selectionProofs.filterMap fun sp =>
    if sp.subcommitteeIndex = (contribution.subcommitteeIndex : ℤ) ∧ sp.isAggregator then
      some (⟨forkInfo, ⟨duty.validatorIndex, contribution, sp.selectionProof⟩⟩, duty.pubkey)
    else none

def slotSyncAggregateDuties (dutiesWithProofs : List SyncDutyWithSelectionProofs) :
    List SyncDutyWithSelectionProofs :=
  dutiesWithProofs.filter fun d => d.selectionProofs.any fun sp => sp.isAggregator

def uniqueSubcommitteeIndices (duties : List SyncDutyWithSelectionProofs) : Finset ℤ :=
  (duties.flatMap fun duty => (duty.selectionProofs.filter fun sp => sp.isAggregator).map
    fun sp => sp.subcommitteeIndex).toFinset

/-- What is submitted for signing, call by call, and how the job ends. -/
def aggregateSyncMessages (job : AggregationJob) : List (Submission n) × Except Exception Unit :=
  let duties := slotSyncAggregateDuties job.dutiesWithProofs
  if duties = [] then ([], .ok ())
  else
    match p.genesis.getForkInfo job.dutySlot with
    | .error text => ([], .error (.notImplemented text))
    | .ok forkInfo =>
      let contributions := p.getSyncCommitteeContributions job.dutySlot
        (uniqueSubcommitteeIndices duties) job.beaconBlockRoot
      let tasks := contributions.map (contributionMessages forkInfo duties)
      (tasks, (p.publications.gather (tasks.map p.signAndPublishContributions)).map fun _ => ())

/-! ### What is to be submitted -/

/-- The subcommittees of the validator's indices. -/
def subcommittees (duty : SyncDuty) : Finset ℤ :=
  p.computeSubnetsForSyncCommittee (duty.validatorSyncCommitteeIndices.filterMap p.int)

/-- What the validator's key signs for a subcommittee. -/
def ownProof (duty : SyncDuty) (i : ℤ) : Option (List UInt8) :=
  (p.signatureProvider.sign (selectionProofMessage forkInfo dutySlot i)
    duty.pubkey).toOption.bind fun t => signatureBytes t.2.1

/-- The message of a validator for a subcommittee whose contribution was obtained, where the
proof makes it an aggregator. -/
def contributionMessage (beaconBlockRoot : Root) (duty : SyncDuty) (i : ℤ) :
    Option (SyncCommitteeContributionAndProofSignableMessage n × Pubkey) := do
  let proof ← p.ownProof forkInfo dutySlot duty i
  let contribution ← (p.getSyncCommitteeContribution dutySlot i beaconBlockRoot).toOption
  if p.isAggregator proof then
    some (⟨forkInfo, ⟨duty.validatorIndex, contribution, proof⟩⟩, duty.pubkey)
  else none

variable {p forkInfo dutySlot} {duties : List SyncDuty} {duty : SyncDuty}
  {beaconBlockRoot : Root}

/-- The indices of a duty are positions in the committee. -/
def Indexed (p : SyncAggregation n) (duty : SyncDuty) : Prop :=
  ∀ x ∈ duty.validatorSyncCommitteeIndices, ∃ k : ℕ, k < p.syncCommitteeSize ∧ x = toString k

/-! ### The proofs of every duty -/

lemma mapM_indices (hint : ∀ k : ℕ, p.int (toString k) = some (k : ℤ))
    (h : Indexed p duty) : duty.validatorSyncCommitteeIndices.mapM p.int =
      some (duty.validatorSyncCommitteeIndices.filterMap p.int) := by
  unfold Indexed at h
  generalize duty.validatorSyncCommitteeIndices = xs at h ⊢
  induction xs with
  | nil => rfl
  | cons x xs ih =>
    have hrest := ih fun y hy => h y (List.mem_cons_of_mem _ hy)
    obtain ⟨k, -, rfl⟩ := h x List.mem_cons_self
    rw [List.mapM_cons, hrest, List.filterMap_cons_some (hint k), hint k]
    rfl

/-- A subcommittee is a number, as the indices are. -/
lemma exists_subcommittee (hint : ∀ k : ℕ, p.int (toString k) = some (k : ℤ))
    (h : Indexed p duty) {i : ℤ} (hi : i ∈ p.subcommittees duty) : ∃ k : ℕ, i = k := by
  unfold subcommittees computeSubnetsForSyncCommittee at hi
  obtain ⟨idx, hidx, rfl⟩ := List.mem_map.mp (List.mem_toFinset.mp hi)
  obtain ⟨x, hx, hint'⟩ := List.mem_filterMap.mp hidx
  obtain ⟨k, -, rfl⟩ := h x hx
  rw [hint k] at hint'
  rw [← Option.some.inj hint']
  exact ⟨k / (p.syncCommitteeSize / syncCommitteeSubnetCount), by norm_cast⟩

/-- The subcommittees of a duty, in the order in which they are asked for. -/
def subcommitteeOrder (p : SyncAggregation n) (duty : SyncDuty) : List ℤ :=
  (p.subcommitteeSets duty).order (p.subcommittees duty)

lemma selectionProofRequests_eq (forkInfo : ForkInfo) (dutySlot : ℕ)
    (hint : ∀ k : ℕ, p.int (toString k) = some (k : ℤ))
    (hindexed : ∀ duty ∈ duties, Indexed p duty) :
    p.selectionProofRequests forkInfo dutySlot duties = .ok (duties.flatMap fun duty =>
      (subcommitteeOrder p duty).map fun i =>
        (selectionProofMessage forkInfo dutySlot i, duty.pubkey)) := by
  induction duties with
  | nil => rfl
  | cons duty duties ih =>
    have hrest := ih fun d hd => hindexed d (List.mem_cons_of_mem _ hd)
    have hindices := mapM_indices hint (hindexed duty List.mem_cons_self)
    rw [selectionProofRequests, hindices, List.flatMap_cons]
    dsimp only
    rw [hrest]
    rfl

/-- What is signed for a subcommittee, where the signature succeeds. -/
def signatureOf (p : SyncAggregation n) (forkInfo : ForkInfo) (dutySlot : ℕ) (duty : SyncDuty)
    (i : ℤ) : Signed SyncCommitteeSelectionProofSignableMessage :=
  (p.signatureProvider.sign (selectionProofMessage forkInfo dutySlot i)
    duty.pubkey).toOption.getD (selectionProofMessage forkInfo dutySlot i, "", duty.pubkey)

def proofOf (p : SyncAggregation n) (forkInfo : ForkInfo) (dutySlot : ℕ) (duty : SyncDuty)
    (i : ℤ) : List UInt8 :=
  (p.ownProof forkInfo dutySlot duty i).getD []

/-- The duty with the proofs of its subcommittees. -/
def proven (p : SyncAggregation n) (forkInfo : ForkInfo) (dutySlot : ℕ) (duty : SyncDuty) :
    SyncDutyWithSelectionProofs :=
  { duty with
    selectionProofs := (subcommitteeOrder p duty).map fun i =>
      ⟨dutySlot, i, p.isAggregator (proofOf p forkInfo dutySlot duty i),
        proofOf p forkInfo dutySlot duty i⟩ }

/-- The key of the validator signs for every subcommittee of the duty. -/
def Signs (p : SyncAggregation n) (forkInfo : ForkInfo) (dutySlot : ℕ) (duty : SyncDuty) :
    Prop :=
  ∀ i ∈ p.subcommittees duty, ∃ proof, p.ownProof forkInfo dutySlot duty i = some proof

lemma mem_subcommitteeOrder {i : ℤ} : i ∈ subcommitteeOrder p duty ↔ i ∈ p.subcommittees duty :=
  (p.subcommitteeSets duty).mem_order

lemma Signs.sign_eq (h : Signs p forkInfo dutySlot duty) {i : ℤ}
    (hi : i ∈ subcommitteeOrder p duty) :
    p.signatureProvider.sign (selectionProofMessage forkInfo dutySlot i) duty.pubkey =
      .ok (signatureOf p forkInfo dutySlot duty i) ∧
    signatureBytes (signatureOf p forkInfo dutySlot duty i).2.1 =
      some (proofOf p forkInfo dutySlot duty i) := by
  obtain ⟨proof, hproof⟩ := h i (mem_subcommitteeOrder.mp hi)
  have hown := hproof
  unfold ownProof at hproof
  unfold signatureOf proofOf
  rw [hown]
  cases hsign : p.signatureProvider.sign (selectionProofMessage forkInfo dutySlot i)
      duty.pubkey with
  | error text => rw [hsign] at hproof; cases hproof
  | ok t =>
    rw [hsign] at hproof
    exact ⟨rfl, hproof⟩

/-- A signature becomes the proof of its subcommittee. -/
lemma selectionProofOf_eq (hint : ∀ k : ℕ, p.int (toString k) = some (k : ℤ))
    (hindexed : Indexed p duty) (hsigns : Signs p forkInfo dutySlot duty) {i : ℤ}
    (hi : i ∈ subcommitteeOrder p duty) :
    p.selectionProofOf (signatureOf p forkInfo dutySlot duty i) =
      .ok ⟨dutySlot, i, p.isAggregator (proofOf p forkInfo dutySlot duty i),
        proofOf p forkInfo dutySlot duty i⟩ := by
  obtain ⟨hsign, hbytes⟩ := hsigns.sign_eq hi
  have hmessage := (p.signatureProvider.sign_eq hsign).1
  obtain ⟨k, rfl⟩ := exists_subcommittee hint hindexed (mem_subcommitteeOrder.mp hi)
  have hslot : p.int (toString dutySlot) = some (dutySlot : ℤ) := hint dutySlot
  have hindex : p.int (toString (k : ℤ)) = some (k : ℤ) := hint k
  unfold selectionProofOf
  rw [hbytes, hmessage]
  dsimp only [selectionProofMessage]
  rw [hslot, hindex]

/-- All signatures, duty by duty. -/
def allSignatures (p : SyncAggregation n) (forkInfo : ForkInfo) (dutySlot : ℕ)
    (duties : List SyncDuty) : List (Signed SyncCommitteeSelectionProofSignableMessage) :=
  duties.flatMap fun duty =>
    (subcommitteeOrder p duty).map (signatureOf p forkInfo dutySlot duty)

/-- **Each duty finds its own proofs** among the signatures of all. -/
lemma withSelectionProofs_eq (hint : ∀ k : ℕ, p.int (toString k) = some (k : ℤ))
    (hnodup : (duties.map fun d => d.pubkey).Nodup)
    (hindexed : ∀ duty ∈ duties, Indexed p duty)
    (hsigns : ∀ duty ∈ duties, Signs p forkInfo dutySlot duty) (hduty : duty ∈ duties) :
    p.withSelectionProofs (allSignatures p forkInfo dutySlot duties) duty =
      .ok (proven p forkInfo dutySlot duty) := by
  have hcarried : ∀ d ∈ duties, ∀ t ∈ (subcommitteeOrder p d).map
      (signatureOf p forkInfo dutySlot d), t.2.2 = d.pubkey := by
    intro d hd t ht
    obtain ⟨i, hi, rfl⟩ := List.mem_map.mp ht
    exact (p.signatureProvider.sign_eq ((hsigns d hd).sign_eq hi).1).2
  have hown := filter_flatMap_key hnodup hcarried hduty
  have hproofs : (((subcommitteeOrder p duty).map (signatureOf p forkInfo dutySlot duty)).mapM
      p.selectionProofOf) = .ok (proven p forkInfo dutySlot duty).selectionProofs := by
    refine ((allDone_mapM _ _).ok_iff _).mpr ?_
    rw [proven, List.map_map, List.map_map]
    exact List.map_congr_left fun i hi =>
      selectionProofOf_eq hint (hindexed duty hduty) (hsigns duty hduty) hi
  unfold withSelectionProofs allSignatures
  rw [hown, hproofs]
  rfl

/-- **The job that is scheduled** has every duty with its proofs. -/
lemma prepareAndAggregateSyncMessages_eq
    (hint : ∀ k : ℕ, p.int (toString k) = some (k : ℤ))
    (hfork : p.genesis.getForkInfo dutySlot = .ok forkInfo)
    (hnodup : (duties.map fun d => d.pubkey).Nodup)
    (hindexed : ∀ duty ∈ duties, Indexed p duty)
    (hsigns : ∀ duty ∈ duties, Signs p forkInfo dutySlot duty) :
    p.prepareAndAggregateSyncMessages dutySlot beaconBlockRoot duties =
      .ok ⟨dutySlot, beaconBlockRoot, duties.map (proven p forkInfo dutySlot),
        p.beaconChain.getTimestampForSlot dutySlot + 2 * p.beaconChain.secondsPerInterval⟩ := by
  have hrequests := selectionProofRequests_eq forkInfo dutySlot hint hindexed
  have hgather : p.signatures.gather ((duties.flatMap fun duty =>
      (subcommitteeOrder p duty).map fun i =>
        (selectionProofMessage forkInfo dutySlot i, duty.pubkey)).map
          fun q => p.signatureProvider.sign q.1 q.2) =
      .ok (allSignatures p forkInfo dutySlot duties) := by
    refine ((p.signatures.allDone_gather _).ok_iff _).mpr ?_
    unfold allSignatures
    rw [List.map_flatMap, List.map_flatMap]
    refine List.flatMap_congr fun duty hduty => ?_
    rw [List.map_map, List.map_map]
    exact List.map_congr_left fun i hi => ((hsigns duty hduty).sign_eq hi).1
  have hjoin : duties.mapM (p.withSelectionProofs (allSignatures p forkInfo dutySlot duties)) =
      .ok (duties.map (proven p forkInfo dutySlot)) := by
    refine ((allDone_mapM _ _).ok_iff _).mpr ?_
    rw [List.map_map]
    exact List.map_congr_left fun duty hduty =>
      withSelectionProofs_eq hint hnodup hindexed hsigns hduty
  unfold prepareAndAggregateSyncMessages
  rw [hfork]
  dsimp only
  rw [hrequests]
  dsimp only
  rw [hgather]
  dsimp only
  rw [hjoin]
  rfl

/-! ### The messages of every contribution -/

/-- The proofs that make their validators aggregators. -/
def aggregatorProofs (duties : List SyncDutyWithSelectionProofs) :
    List (SyncDutyWithSelectionProofs × SyncDutySubCommitteeSelectionProof) :=
  duties.flatMap fun duty => (duty.selectionProofs.filter fun sp => sp.isAggregator).map (duty, ·)

/-- What the contribution of a subcommittee is used for at a proof for it. -/
def serve (p : SyncAggregation n) (forkInfo : ForkInfo) (dutySlot : ℕ) (beaconBlockRoot : Root)
    (i : ℤ) (x : SyncDutyWithSelectionProofs × SyncDutySubCommitteeSelectionProof) :
    Option (SyncCommitteeContributionAndProofSignableMessage n × Pubkey) :=
  (p.getSyncCommitteeContribution dutySlot i beaconBlockRoot).toOption.map fun contribution =>
    (⟨forkInfo, ⟨x.1.validatorIndex, contribution, x.2.selectionProof⟩⟩, x.1.pubkey)

/-- The duties without an aggregator have no such proof. -/
lemma aggregatorProofs_slotSync (duties : List SyncDutyWithSelectionProofs) :
    aggregatorProofs (slotSyncAggregateDuties duties) = aggregatorProofs duties := by
  unfold aggregatorProofs slotSyncAggregateDuties
  induction duties with
  | nil => rfl
  | cons duty duties ih =>
    rw [List.filter_cons, List.flatMap_cons]
    split
    · rw [List.flatMap_cons, ih]
    · next hnone =>
      have hempty : duty.selectionProofs.filter (fun sp => sp.isAggregator) = [] := by
        refine List.filter_eq_nil_iff.mpr fun sp hsp haggregator => hnone ?_
        exact List.any_eq_true.mpr ⟨sp, hsp, haggregator⟩
      rw [ih, hempty, List.map_nil, List.nil_append]

lemma mem_uniqueSubcommitteeIndices {duties : List SyncDutyWithSelectionProofs}
    {x : SyncDutyWithSelectionProofs × SyncDutySubCommitteeSelectionProof}
    (hx : x ∈ aggregatorProofs duties) :
    x.2.subcommitteeIndex ∈ uniqueSubcommitteeIndices duties := by
  obtain ⟨duty, hduty, hx⟩ := List.mem_flatMap.mp hx
  obtain ⟨sp, hsp, rfl⟩ := List.mem_map.mp hx
  exact List.mem_toFinset.mpr (List.mem_flatMap.mpr ⟨duty, hduty, List.mem_map_of_mem hsp⟩)

/-- **One contribution** serves the proofs for its subcommittee. -/
lemma contributionMessages_eq {duties : List SyncDutyWithSelectionProofs} {i : ℤ}
    {contribution : Contribution n}
    (hobtained : p.getSyncCommitteeContribution dutySlot i beaconBlockRoot = .ok contribution)
    (hindex : (contribution.subcommitteeIndex : ℤ) = i) :
    contributionMessages forkInfo duties contribution =
      ((aggregatorProofs duties).filter fun x => x.2.subcommitteeIndex = i).filterMap
        (serve p forkInfo dutySlot beaconBlockRoot i) := by
  unfold contributionMessages aggregatorProofs
  rw [List.filter_flatMap, List.filterMap_flatMap]
  refine List.flatMap_congr fun duty _ => ?_
  rw [List.filter_map, List.filterMap_map, List.filter_filter, List.filterMap_filter]
  refine List.filterMap_congr fun sp _ => ?_
  unfold serve
  rw [hindex, hobtained]
  by_cases hsp : sp.subcommitteeIndex = i
  · cases haggregator : sp.isAggregator with
    | false => simp
    | true => simp [hsp, Except.toOption]
  · simp [hsp]

/-- What is submitted, in the order in which the contributions come. -/
lemma flatten_aggregateSyncMessages {job : AggregationJob} (hslot : job.dutySlot = dutySlot)
    (hfork : p.genesis.getForkInfo dutySlot = .ok forkInfo)
    (hindex : ∀ i contribution,
      p.getSyncCommitteeContribution dutySlot i job.beaconBlockRoot = .ok contribution →
        (contribution.subcommitteeIndex : ℤ) = i) :
    (p.aggregateSyncMessages job).1.flatten.Perm ((aggregatorProofs job.dutiesWithProofs).filterMap
      fun x => serve p forkInfo dutySlot job.beaconBlockRoot x.2.subcommitteeIndex x) := by
  subst hslot
  have hproofs := aggregatorProofs_slotSync job.dutiesWithProofs
  unfold aggregateSyncMessages
  dsimp only
  split
  · next hnone =>
    rw [hnone] at hproofs
    rw [← hproofs]
    rfl
  · rw [hfork]
    dsimp only
    have hanswers : (((p.requests.order (uniqueSubcommitteeIndices
        (slotSyncAggregateDuties job.dutiesWithProofs))).filterMap fun i =>
          (p.getSyncCommitteeContribution job.dutySlot i job.beaconBlockRoot).toOption).flatMap
        (contributionMessages forkInfo (slotSyncAggregateDuties job.dutiesWithProofs))) =
        (p.requests.order (uniqueSubcommitteeIndices
          (slotSyncAggregateDuties job.dutiesWithProofs))).flatMap fun i =>
          ((aggregatorProofs job.dutiesWithProofs).filter fun x =>
            x.2.subcommitteeIndex = i).filterMap
              (serve p forkInfo job.dutySlot job.beaconBlockRoot i) := by
      refine flatMap_answers (fun i _ contribution hobtained => ?_) fun i _ text hraised => ?_
      · rw [contributionMessages_eq hobtained (hindex i contribution hobtained), hproofs]
      · refine List.filterMap_eq_nil_iff.mpr fun x _ => ?_
        rw [serve, hraised]
        rfl
    rw [← List.flatMap_def]
    unfold getSyncCommitteeContributions
    rw [hanswers]
    refine p.requests.fanOut_perm (fun x hx => ?_) _
    rw [← hproofs] at hx
    exact mem_uniqueSubcommitteeIndices hx

/-- The proofs of a validator come to a message each where they make it an aggregator. -/
lemma filterMap_serve_proven (hsigns : ∀ duty ∈ duties, Signs p forkInfo dutySlot duty) :
    (aggregatorProofs (duties.map (proven p forkInfo dutySlot))).filterMap
        (fun x => serve p forkInfo dutySlot beaconBlockRoot x.2.subcommitteeIndex x) =
      duties.flatMap fun duty => (subcommitteeOrder p duty).filterMap
        (p.contributionMessage forkInfo dutySlot beaconBlockRoot duty) := by
  unfold aggregatorProofs
  rw [List.flatMap_map, List.filterMap_flatMap]
  refine List.flatMap_congr fun duty hduty => ?_
  rw [proven, List.filter_map, List.map_map, List.filterMap_map, List.filterMap_filter]
  refine List.filterMap_congr fun i hi => ?_
  obtain ⟨proof, hproof⟩ := hsigns duty hduty i (mem_subcommitteeOrder.mp hi)
  have hvalue : p.ownProof forkInfo dutySlot duty i =
      some (proofOf p forkInfo dutySlot duty i) := by
    rw [proofOf, hproof]
    rfl
  rw [contributionMessage, hvalue]
  unfold serve
  cases houtcome : p.getSyncCommitteeContribution dutySlot i beaconBlockRoot <;>
    cases haggregator : p.isAggregator (proofOf p forkInfo dutySlot duty i) <;>
      simp [houtcome, haggregator, Except.toOption]

/-- A proof of 16 makes an aggregator, and one of 90 does not. -/
def tellingProvider : SignatureProvider SyncCommitteeSelectionProofSignableMessage where
  sign message identifier := .ok (message,
    if message.syncAggregatorSelectionData.subcommitteeIndex = "2" then "0x5a" else "0x10",
    identifier)
  sign_eq h := by
    rw [← Except.ok.inj h]
    exact ⟨rfl, rfl⟩

def contributionOf (i : ℤ) (root : Root) : Contribution 128 :=
  ⟨33, root, i.toNat, .replicate 128 true, "0x"⟩

/-- The request for subcommittee 1 fails. -/
def oneRequestFails : SyncAggregation 128 where
  toContext := mainnet id
  genesis := someGenesis
  syncCommitteeSize := 512
  subnets_dvd := by decide
  subnets_le := by decide
  signatureProvider := tellingProvider
  signatures := .inOrder
  subcommitteeSets _ := .ascending
  getSyncCommitteeContribution _ i root :=
    if 0 ≤ i ∧ i ≠ 1 then .ok (contributionOf i root) else .error "no contribution"
  requests := .ascending
  signInBatches _ _ := .ok []
  publishSyncCommitteeContributionAndProofs _ := .ok ()
  publications := .inOrder

/-- The validator is twice in subcommittee 0. -/
def someDuty : SyncDuty := ⟨"0xa", 7, ["5", "200", "9"]⟩

def otherDuty : SyncDuty := ⟨"0xb", 8, ["300", "511"]⟩

def twoSyncDuties : List SyncDuty := [someDuty, otherDuty]

lemma subcommitteeOrder_oneRequestFails {l : List ℤ} (hsorted : l.Pairwise (· < ·))
    (hset : oneRequestFails.subcommittees duty = l.toFinset) :
    subcommitteeOrder oneRequestFails duty = l := by
  change (oneRequestFails.subcommittees duty).sort = l
  rw [hset]
  exact (List.toFinset_sort (· ≤ ·) (hsorted.imp ne_of_lt)).mpr (hsorted.imp le_of_lt)

end SyncAggregation

end SyncCommitteeService

end Vero
