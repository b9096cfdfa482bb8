import Mathlib.Data.List.Count
import Mathlib.Data.Vector.Defs
import Vero.Lib.Best
import Vero.Lib.Tasks
import Vero.MultiBeaconNode

/-!
`get_aggregate_attestation_v2` and `get_sync_committee_contribution`: the response of all nodes
in which the most aggregation bits are set.

The scan of the responses stops at one with all bits set.
-/

namespace Vero

namespace SpecAttestation

open SchemaBeaconAPI

/-- `n` is `MAX_COMMITTEES_PER_SLOT`. -/
structure AttestationElectra (n : ℕ) where
  aggregationBits : List Bool
  data : AttestationData
  signature : String
  committeeBits : List.Vector Bool n
  deriving DecidableEq

end SpecAttestation

namespace SpecSyncCommittee

open SchemaBeaconAPI

/-- `n` is the size of a subcommittee. -/
structure Contribution (n : ℕ) where
  slot : ℤ
  beaconBlockRoot : Root
  subcommitteeIndex : ℕ
  aggregationBits : List.Vector Bool n
  signature : String
  deriving DecidableEq

end SpecSyncCommittee

namespace MultiBeaconNode

open Lib Lib.Best Lib.Tasks SpecAttestation SpecSyncCommittee

variable {α : Type*}

/-- `_get_all_beacon_node_responses` of the nodes, once their requests have come back. -/
def getAllBeaconNodeResponses (funcName : String) (nodes : List Host)
    (arrivals : List (Host × Option α)) : Except String (List α) :=
  let responses := (results nodes arrivals).filterMap id
  if responses = [] then
    .error s!"Failed to get a response from all beacon nodes for {funcName}"
  else .ok responses

lemma getAllBeaconNodeResponses_eq {funcName : String} {nodes : List Host}
    {outcome : Host → Option α} {arrivals : List (Host × Option α)}
    (h : Arrive nodes outcome arrivals) : getAllBeaconNodeResponses funcName nodes arrivals =
      if nodes.filterMap outcome = [] then
        .error s!"Failed to get a response from all beacon nodes for {funcName}"
      else .ok (nodes.filterMap outcome) := by
  unfold getAllBeaconNodeResponses
  rw [h.results_eq, List.filterMap_map]
  rfl

/-! ### The loop over the responses -/

/-- Python's `sum` of the bits. -/
def participantCount (bits : List Bool) : ℕ := bits.count true

/-- The loop that both methods have, with the text of the error they raise. -/
def bestResponse (aggregationBits : α → List Bool) (noneText : String) (responses : List α) :
    Except String α :=
  let count := fun r => participantCount (aggregationBits r)
  let best := scanUntil count (fun r => count r = (aggregationBits r).length) (0, none) responses
  match best.2 with
  | some r => .ok r
  | none => .error noneText

def getAggregateAttestationV2 {n : ℕ} (m : MultiBeaconNode)
    (arrivals : List (Host × Option (AttestationElectra n))) :
    Except String (AttestationElectra n) := do
  let aggregates ← getAllBeaconNodeResponses "get_aggregate_attestation_v2"
    m.initializedBeaconNodes arrivals
  bestResponse AttestationElectra.aggregationBits "best_aggregate is None" aggregates

def getSyncCommitteeContribution {n : ℕ} (m : MultiBeaconNode)
    (arrivals : List (Host × Option (Contribution n))) : Except String (Contribution n) := do
  let contributions ← getAllBeaconNodeResponses "get_sync_committee_contribution"
    m.initializedBeaconNodes arrivals
  bestResponse (fun r => r.aggregationBits.toList) "best_contribution is None" contributions

lemma participantCount_le (bits : List Bool) : participantCount bits ≤ bits.length :=
  List.count_le_length

/-- The result is the first response with the most bits set, or an exception where no response
has any. A scan that does not stop early gives the same. -/
structure ReturnsBest (count : α → ℕ) (responses : List α) (result : Except String α) : Prop where
  ok_iff : ∀ r, result = .ok r ↔ 0 < count r ∧ FirstMax count responses r
  error_iff : (∃ text, result = .error text) ↔ ∀ r ∈ responses, count r = 0
  scan : result.toOption = (responses.foldl (keep count) (0, none)).2

/-- **The best response**, where all have as many bits. -/
lemma bestResponse_returnsBest {aggregationBits : α → List Bool} {responses : List α}
    (hlength : ∀ r ∈ responses, ∀ r' ∈ responses,
      (aggregationBits r).length = (aggregationBits r').length) (noneText : String) :
    ReturnsBest (fun r => participantCount (aggregationBits r)) responses
      (bestResponse aggregationBits noneText responses) := by
  unfold bestResponse
  dsimp only
  rw [scanUntil_eq_foldl]
  · have hscanned := scanned_foldl (fun r => participantCount (aggregationBits r)) 0 responses
    generalize hbest : responses.foldl (keep fun r => participantCount (aggregationBits r))
      (0, none) = best at hscanned ⊢
    cases hscanned with
    | none hle =>
      have hzero : ∀ r ∈ responses, participantCount (aggregationBits r) = 0 := fun r hr =>
        Nat.le_zero.mp (hle r hr)
      refine ⟨fun r => iff_of_false (by simp) ?_, iff_of_true ⟨noneText, rfl⟩ hzero, ?_⟩
      · rintro ⟨hpos, hfirst⟩
        exact hpos.ne' (hzero r hfirst.mem)
      · rw [hbest]
        rfl
    | some r first above =>
      refine ⟨fun r' => ⟨fun he => ?_, fun h => ?_⟩, iff_of_false (by simp) fun hzero => ?_, ?_⟩
      · obtain rfl := Except.ok.inj he
        exact ⟨above, first⟩
      · exact congrArg Except.ok (first.unique h.2)
      · exact above.ne' (hzero r first.mem)
      · rw [hbest]
        rfl
  · intro r hr hideal r' hr'
    have hall : participantCount (aggregationBits r) = (aggregationBits r).length :=
      of_decide_eq_true hideal
    have hle := participantCount_le (aggregationBits r')
    have hsame := hlength r hr r' hr'
    omega

/-- No response at all is no response with a bit set. -/
lemma returnsBest_of_responses {aggregationBits : α → List Bool} {nodes : List Host}
    {outcome : Host → Option α} {arrivals : List (Host × Option α)}
    (h : Arrive nodes outcome arrivals) (hlength : ∀ i ∈ nodes, ∀ r ∈ outcome i, ∀ j ∈ nodes,
      ∀ r' ∈ outcome j, (aggregationBits r).length = (aggregationBits r').length)
    (funcName noneText : String) :
    ReturnsBest (fun r => participantCount (aggregationBits r)) (nodes.filterMap outcome)
      (getAllBeaconNodeResponses funcName nodes arrivals >>=
        bestResponse aggregationBits noneText) := by
  rw [getAllBeaconNodeResponses_eq h]
  split
  · next hnone =>
    rw [hnone]
    refine ⟨fun r => iff_of_false (by simp [bind, Except.bind]) fun hr => ?_,
      iff_of_true ⟨_, rfl⟩ (by simp), rfl⟩
    simpa using hr.2.mem
  · refine bestResponse_returnsBest (fun r hr r' hr' => ?_) noneText
    obtain ⟨i, hi, hr⟩ := List.mem_filterMap.mp hr
    obtain ⟨j, hj, hr'⟩ := List.mem_filterMap.mp hr'
    exact hlength i hi r hr j hj r' hr'

/-- **The best aggregate, whatever comes first.** In every order of arrival both methods return
the first of the responses with the most bits set, in the order of the nodes, and they raise if
and only if no response has a bit set. -/
theorem best_of_all_responses (m : MultiBeaconNode) {n k : ℕ}
    {aggregate : Host → Option (AttestationElectra n)}
    {arrivals : List (Host × Option (AttestationElectra n))}
    (h : Arrive m.initializedBeaconNodes aggregate arrivals)
    (hlength : ∀ i ∈ m.initializedBeaconNodes, ∀ r ∈ aggregate i,
      ∀ j ∈ m.initializedBeaconNodes, ∀ r' ∈ aggregate j,
      r.aggregationBits.length = r'.aggregationBits.length)
    {contribution : Host → Option (Contribution k)}
    {arrivals' : List (Host × Option (Contribution k))}
    (h' : Arrive m.initializedBeaconNodes contribution arrivals') :
    ReturnsBest (fun r => participantCount r.aggregationBits)
      (m.initializedBeaconNodes.filterMap aggregate) (m.getAggregateAttestationV2 arrivals) ∧
    ReturnsBest (fun r => participantCount r.aggregationBits.toList)
      (m.initializedBeaconNodes.filterMap contribution)
      (m.getSyncCommitteeContribution arrivals') := by
  refine ⟨returnsBest_of_responses h hlength _ _, returnsBest_of_responses h' ?_ _ _⟩
  intro i _ r _ j _ r' _
  simp

def aggregateOf (bits : List Bool) : AttestationElectra 1 :=
  ⟨bits, ⟨"1", "0", "0xb", ⟨"0", "0xs"⟩, ⟨"0", "0xt"⟩⟩, "0x", ⟨[true], rfl⟩⟩

/-- What the nodes answer: nothing, one attester, both attesters. -/
def answers (host : Host) : Option (AttestationElectra 1) :=
  if host = "b" then some (aggregateOf [true, false])
  else if host = "c" then some (aggregateOf [true, true])
  else none

/-- The last node is the first to answer. -/
theorem best_of_all_responses_threeNodes : threeNodes.getAggregateAttestationV2
    [("c", answers "c"), ("a", answers "a"), ("b", answers "b")] =
      .ok (aggregateOf [true, true]) := by
  have h : Arrive threeNodes.initializedBeaconNodes answers
      [("c", answers "c"), ("a", answers "a"), ("b", answers "b")] := by
    unfold Arrive
    decide
  have h' : Arrive threeNodes.initializedBeaconNodes
      (fun _ => (none : Option (Contribution 1))) [("a", none), ("b", none), ("c", none)] := by
    unfold Arrive
    decide
  have hbest := (best_of_all_responses threeNodes h (by decide) h').1
  exact (hbest.ok_iff _).mpr ⟨by decide, [aggregateOf [true, false]], [], by decide, by decide,
    by simp⟩

end MultiBeaconNode

end Vero
