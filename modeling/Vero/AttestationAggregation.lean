import Vero.BestAggregates
import Vero.SelectionProofs

/-!
`aggregate_attestations`: the aggregates of the committees, each signed for by the aggregators
of its committee.

The committees are asked for as a set and answer in any order, or raise. Every answer is tested
against all duties, by the bit of their committee.
-/

namespace Vero

namespace SpecAttestation

structure AggregateAndProofElectra (n : ℕ) where
  aggregatorIndex : ℤ
  aggregate : AttestationElectra n
  selectionProof : List UInt8
  deriving DecidableEq

end SpecAttestation

namespace SchemaRemoteSigner

structure AggregateAndProofV2SignableMessage (n : ℕ) where
  forkInfo : ForkInfo
  aggregateAndProof : SpecAttestation.AggregateAndProofElectra n
  deriving DecidableEq

end SchemaRemoteSigner

namespace AttestationService

open Lib.Tasks SchemaBeaconAPI SchemaRemoteSigner SpecAttestation
open Keymanager (Signed)

/-- What a call meets: the outcome of the request for each committee, the order in which the
requests come back, and what becomes of the messages it submits. -/
structure Aggregation (n : ℕ) extends Context where
  genesis : Genesis
  currentForkVersion : ForkVersion
  getAggregateAttestationV2 : ℤ → Except String (AttestationElectra n)
  requests : SetOrder ℤ
  signInBatches : List (AggregateAndProofV2SignableMessage n) → List Pubkey →
    Except String (List (Signed (AggregateAndProofV2SignableMessage n)))
  publishAggregateAndProofs : List (AggregateAndProofElectra n × String) → ForkVersion →
    Except String Unit
  publications : Schedule

namespace Aggregation

variable {n : ℕ} (p : Aggregation n) (forkInfo : ForkInfo)

/-- The messages of a call of `sign_in_batches`, with their identifiers. -/
abbrev Submission (n : ℕ) := List (AggregateAndProofV2SignableMessage n × Pubkey)

def signAndPublishAggregates : Submission n → Except Exception Unit :=
  signAndPublish (fun messages identifiers =>
      (p.signInBatches messages identifiers).mapError .raised)
    AggregateAndProofV2SignableMessage.aggregateAndProof
    fun signedAggregateAndProofs =>
      (p.publishAggregateAndProofs signedAggregateAndProofs p.currentForkVersion).mapError
        fun _ => .aggregateAttestationPublish

/-- The aggregates as they come. A request that raises is passed over. -/
def getAggregateAttestationsV2 (committeeIndices : Finset ℤ) : List (AttestationElectra n) :=
  (p.requests.order committeeIndices).filterMap fun k =>
    (p.getAggregateAttestationV2 k).toOption

def committeeBit (aggregate : AttestationElectra n) (k : ℤ) : Except Exception Bool :=
  if k < 0 then .error .index
  else
    match aggregate.committeeBits.toList[k.toNat]? with
    | none => .error .index
    | some bit => .ok bit

/-- The loop over the duties for one aggregate. -/
def aggregateMessages (aggregate : AttestationElectra n) :
    List AttesterDutyWithSelectionProof → Except Exception (Submission n)
  | [] => .ok []
  | duty :: duties =>
    match p.int duty.committeeIndex with
    | none => .error .value
    | some k =>
      match committeeBit aggregate k with
      | .error e => .error e
      | .ok false => aggregateMessages aggregate duties
      | .ok true =>
        match p.int duty.validatorIndex with
        | none => .error .value
        | some v => (aggregateMessages aggregate duties).map fun messages =>
          (⟨forkInfo, ⟨v, aggregate, duty.selectionProof⟩⟩, duty.pubkey) :: messages

/-- The loop over the aggregates, with the tasks it has started when it ends or raises. -/
def aggregateTasks (duties : List AttesterDutyWithSelectionProof) :
    List (AttestationElectra n) → List (Submission n) × Except Exception Unit
  | [] => ([], .ok ())
  | aggregate :: aggregates =>
    match p.aggregateMessages forkInfo aggregate duties with
    | .error e => ([], .error e)
    | .ok submission =>
      let (tasks, result) := aggregateTasks duties aggregates
      (submission :: tasks, result)

/-- What is submitted for signing, call by call, and how the call ends. -/
def aggregateAttestations (slot : ℤ) (aggregatorDuties : List AttesterDutyWithSelectionProof) :
    List (Submission n) × Except Exception Unit :=
  if aggregatorDuties = [] then ([], .ok ())
  else
    match aggregatorDuties.mapM fun d => p.int d.committeeIndex with
    | none => ([], .error .value)
    | some committeeIndices =>
      match p.genesis.getForkInfo slot with
      | .error text => ([], .error (.notImplemented text))
      | .ok forkInfo =>
        let aggregates := p.getAggregateAttestationsV2 committeeIndices.toFinset
        match p.aggregateTasks forkInfo aggregatorDuties aggregates with
        | (tasks, .error e) => (tasks, .error e)
        | (tasks, .ok ()) =>
          (tasks, (p.publications.gather (tasks.map p.signAndPublishAggregates)).map fun _ => ())

/-- The indices of a duty are numbers, and its committee has a bit. -/
structure Readable (duty : AttesterDutyWithSelectionProof) : Prop where
  committee : ∃ k : ℕ, k < n ∧ p.int duty.committeeIndex = some (k : ℤ)
  validator : ∃ v, p.int duty.validatorIndex = some v

/-- The message of a duty whose committee's aggregate was obtained. -/
def aggregateMessage (duty : AttesterDutyWithSelectionProof) :
    Option (AggregateAndProofV2SignableMessage n × Pubkey) := do
  let k ← p.int duty.committeeIndex
  let aggregate ← (p.getAggregateAttestationV2 k).toOption
  let v ← p.int duty.validatorIndex
  return (⟨forkInfo, ⟨v, aggregate, duty.selectionProof⟩⟩, duty.pubkey)

/-- What the aggregate of a committee is used for at a duty of the committee. -/
def serve (k : ℤ) (duty : AttesterDutyWithSelectionProof) :
    Option (AggregateAndProofV2SignableMessage n × Pubkey) := do
  let aggregate ← (p.getAggregateAttestationV2 k).toOption
  let v ← p.int duty.validatorIndex
  return (⟨forkInfo, ⟨v, aggregate, duty.selectionProof⟩⟩, duty.pubkey)

/-- The committee of a readable duty. -/
def committee (duty : AttesterDutyWithSelectionProof) : ℤ := (p.int duty.committeeIndex).getD 0

variable {p forkInfo} {duties : List AttesterDutyWithSelectionProof} {k : ℤ}
  {aggregate : AttestationElectra n}

/-- The aggregate is one of the committee alone. -/
def OnlyBit (k : ℤ) (aggregate : AttestationElectra n) : Prop :=
  ∀ j : ℕ, aggregate.committeeBits.toList[j]? = some true ↔ (j : ℤ) = k

lemma Readable.committee_eq {duty : AttesterDutyWithSelectionProof} (h : p.Readable duty) :
    p.int duty.committeeIndex = some (p.committee duty) := by
  obtain ⟨k, -, hk⟩ := h.committee
  rw [Aggregation.committee, hk]
  rfl

/-- The bit tells whether the aggregate is that of the committee. -/
lemma committeeBit_eq {k' : ℕ} (hbits : OnlyBit k aggregate) (hlt : k' < n) :
    committeeBit aggregate k' = .ok (decide ((k' : ℤ) = k)) := by
  have hlength : k' < aggregate.committeeBits.toList.length := by
    rw [List.Vector.toList_length]
    exact hlt
  have hbit := hbits k'
  rw [List.getElem?_eq_getElem hlength, Option.some.injEq] at hbit
  have hnonneg : ¬ (k' : ℤ) < 0 := by omega
  unfold committeeBit
  rw [if_neg hnonneg, Int.toNat_natCast, List.getElem?_eq_getElem hlength]
  dsimp only
  by_cases hk : (k' : ℤ) = k
  · rw [hbit.mpr hk, decide_eq_true hk]
  · have hfalse := Bool.eq_false_of_not_eq_true fun h => hk (hbit.mp h)
    rw [hfalse, decide_eq_false hk]

/-- **One aggregate** serves the duties of its committee. -/
lemma aggregateMessages_eq (forkInfo : ForkInfo)
    (hreadable : ∀ duty ∈ duties, p.Readable duty)
    (hobtained : p.getAggregateAttestationV2 k = .ok aggregate) (hbits : OnlyBit k aggregate) :
    p.aggregateMessages forkInfo aggregate duties =
      .ok ((duties.filter fun duty => p.committee duty = k).filterMap (p.serve forkInfo k)) := by
  induction duties with
  | nil => rfl
  | cons duty duties ih =>
    have hrest := ih fun d hd => hreadable d (List.mem_cons_of_mem _ hd)
    have hduty := hreadable duty List.mem_cons_self
    obtain ⟨k', hlt, hk'⟩ := hduty.committee
    obtain ⟨v, hv⟩ := hduty.validator
    have hcommittee : p.committee duty = k' := by rw [Aggregation.committee, hk']; rfl
    have hbit := committeeBit_eq hbits hlt
    unfold aggregateMessages
    rw [hk']
    dsimp only
    by_cases hk : (k' : ℤ) = k
    · have hserve : p.serve forkInfo k duty =
          some (⟨forkInfo, ⟨v, aggregate, duty.selectionProof⟩⟩, duty.pubkey) := by
        unfold serve
        rw [hobtained, hv]
        rfl
      have hfilter : (duty :: duties).filter (fun d => p.committee d = k) =
          duty :: duties.filter fun d => p.committee d = k :=
        List.filter_cons_of_pos (by simp [hcommittee, hk])
      rw [hbit, decide_eq_true hk, hv, hrest, hfilter, List.filterMap_cons_some hserve]
      rfl
    · have hfilter : (duty :: duties).filter (fun d => p.committee d = k) =
          duties.filter fun d => p.committee d = k :=
        List.filter_cons_of_neg (by simp [hcommittee, hk])
      rw [hbit, decide_eq_false hk, hrest, hfilter]

/-- Where no loop raises, the tasks are those of all aggregates. -/
lemma flatten_aggregateTasks {aggregates : List (AttestationElectra n)}
    {submission : AttestationElectra n → Submission n}
    (hok : ∀ a ∈ aggregates, p.aggregateMessages forkInfo a duties = .ok (submission a)) :
    (p.aggregateTasks forkInfo duties aggregates).1.flatten = aggregates.flatMap submission := by
  induction aggregates with
  | nil => rfl
  | cons a aggregates ih =>
    have hrest := ih fun a' ha' => hok a' (List.mem_cons_of_mem _ ha')
    rw [aggregateTasks, hok a List.mem_cons_self, List.flatMap_cons, ← hrest]
    rfl

/-- **All aggregates**, in the order in which they come. -/
lemma flatten_obtained (hreadable : ∀ duty ∈ duties, p.Readable duty) {ks : List ℤ}
    (hbits : ∀ k ∈ ks, ∀ a, p.getAggregateAttestationV2 k = .ok a → OnlyBit k a) :
    (p.aggregateTasks forkInfo duties
      (ks.filterMap fun k => (p.getAggregateAttestationV2 k).toOption)).1.flatten =
      ks.flatMap fun k =>
        (duties.filter fun duty => p.committee duty = k).filterMap (p.serve forkInfo k) := by
  have hmessages : ∀ k ∈ ks, ∀ a, p.getAggregateAttestationV2 k = .ok a →
      p.aggregateMessages forkInfo a duties =
        .ok ((duties.filter fun duty => p.committee duty = k).filterMap (p.serve forkInfo k)) :=
    fun k hk a ha => aggregateMessages_eq forkInfo hreadable ha (hbits k hk a ha)
  have hok : ∀ a ∈ ks.filterMap fun k => (p.getAggregateAttestationV2 k).toOption,
      p.aggregateMessages forkInfo a duties =
        .ok ((p.aggregateMessages forkInfo a duties).toOption.getD []) := by
    intro a ha
    obtain ⟨k, hk, hobtained⟩ := mem_answers.mp ha
    rw [hmessages k hk a hobtained]
    rfl
  rw [flatten_aggregateTasks hok]
  refine flatMap_answers (fun k hk a hobtained => ?_) fun k _ text hraised => ?_
  · rw [hmessages k hk a hobtained]
    rfl
  · refine List.filterMap_eq_nil_iff.mpr fun duty _ => ?_
    rw [serve, hraised]
    rfl

lemma mapM_committee (hreadable : ∀ duty ∈ duties, p.Readable duty) :
    (duties.mapM fun d => p.int d.committeeIndex) = some (duties.map p.committee) := by
  induction duties with
  | nil => rfl
  | cons duty duties ih =>
    have hrest := ih fun d hd => hreadable d (List.mem_cons_of_mem _ hd)
    have hduty := (hreadable duty List.mem_cons_self).committee_eq
    rw [List.mapM_cons, hduty, hrest]
    rfl

/-- The calls made are those of the tasks started, however they end. -/
lemma aggregateAttestations_fst {slot : ℤ} (hreadable : ∀ duty ∈ duties, p.Readable duty)
    (hfork : p.genesis.getForkInfo slot = .ok forkInfo) (hne : duties ≠ []) :
    (p.aggregateAttestations slot duties).1 = (p.aggregateTasks forkInfo duties
      (p.getAggregateAttestationsV2 (duties.map p.committee).toFinset)).1 := by
  unfold aggregateAttestations
  rw [if_neg hne, mapM_committee hreadable, hfork]
  dsimp only
  split <;> simp [*]

def aggregateOfCommittee0 : AttestationElectra 2 :=
  ⟨[true, true], ⟨"33", "0", "0xb", ⟨"0", "0xs"⟩, ⟨"1", "0xt"⟩⟩, "0x", ⟨[true, false], rfl⟩⟩

/-- All nodes answer for committee 0, and none does for committee 1. -/
def oneCommitteeFails : Aggregation 2 where
  toContext := mainnet id
  genesis := someGenesis
  currentForkVersion := .fulu
  getAggregateAttestationV2 k := MultiBeaconNode.threeNodes.getAggregateAttestationV2
    (["b", "a", "c"].map fun host => (host, if k = 0 then some aggregateOfCommittee0 else none))
  requests := .ascending
  signInBatches _ _ := .ok []
  publishAggregateAndProofs _ _ := .ok ()
  publications := .inOrder

def aggregatorOf (pubkey : Pubkey) (validatorIndex committeeIndex : String) (proof : UInt8) :
    AttesterDutyWithSelectionProof :=
  .fromDuty ⟨pubkey, validatorIndex, committeeIndex, 128, "2", "5", 33⟩ true [proof]

/-- Two aggregators of committee 0 around one of committee 1. -/
def threeAggregators : List AttesterDutyWithSelectionProof :=
  [aggregatorOf "0xa" "7" "0" 1, aggregatorOf "0xb" "8" "1" 2, aggregatorOf "0xc" "9" "0" 3]

end Aggregation

end AttestationService

end Vero
