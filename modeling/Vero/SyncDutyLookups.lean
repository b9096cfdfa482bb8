import Vero.SyncPeriods

/-!
The two places at which `SyncCommitteeService` looks up the duties of a slot.

`has_duty_for_slot`, which a shutdown waits on, takes the period of the slot itself.
`produce_sync_message` takes that of the slot after it.
-/

namespace Vero

namespace SyncBeaconChain

variable (b : SyncBeaconChain)

/-- The last slot of its sync committee period. -/
def LastOfPeriod (slot : ℤ) : Prop :=
  (b.slotsPerEpoch * b.epochsPerSyncCommitteePeriod : ℤ) ∣ slot + 1

instance (slot : ℤ) : Decidable (b.LastOfPeriod slot) := inferInstanceAs (Decidable (_ ∣ _))

lemma computeSyncPeriodForSlot_eq (slot : ℤ) : b.computeSyncPeriodForSlot slot =
    slot / (b.slotsPerEpoch * b.epochsPerSyncCommitteePeriod) := by
  unfold computeSyncPeriodForSlot computeSyncPeriodForEpoch BeaconChain.epoch
  exact Int.ediv_ediv_of_nonneg (by positivity)

/-- The period moves on after its last slot only. -/
lemma computeSyncPeriodForSlot_succ (slot : ℤ) : b.computeSyncPeriodForSlot (slot + 1) =
    b.computeSyncPeriodForSlot slot + if b.LastOfPeriod slot then 1 else 0 := by
  have hn : (0 : ℤ) < b.slotsPerEpoch * b.epochsPerSyncCommitteePeriod := by
    have hslots := b.slotsPerEpoch_pos
    have hepochs := b.epochsPerSyncCommitteePeriod_pos
    positivity
  have hdvd : b.LastOfPeriod slot ↔
      (b.slotsPerEpoch * b.epochsPerSyncCommitteePeriod : ℤ) ∣ slot + 1 := Iff.rfl
  rw [computeSyncPeriodForSlot_eq, computeSyncPeriodForSlot_eq]
  generalize (b.slotsPerEpoch * b.epochsPerSyncCommitteePeriod : ℤ) = n at hn hdvd ⊢
  have hle : slot / n * n ≤ slot := Int.ediv_mul_le slot hn.ne'
  have hlt : slot < (slot / n + 1) * n := Int.lt_ediv_add_one_mul_self slot hn
  rw [Int.ediv_eq_iff_of_pos hn]
  by_cases hlast : b.LastOfPeriod slot
  · obtain ⟨k, hk⟩ := hdvd.mp hlast
    rw [mul_comm n k] at hk
    have h1 : slot / n < k := lt_of_mul_lt_mul_right (by omega) hn.le
    have h2 : k < slot / n + 1 + 1 := by
      refine lt_of_mul_lt_mul_right (a := n) ?_ hn.le
      rw [add_mul _ 1 n, one_mul]
      omega
    obtain rfl : k = slot / n + 1 := by omega
    rw [if_pos hlast]
    omega
  · have hne : slot + 1 ≠ (slot / n + 1) * n := fun he =>
      hlast (hdvd.mpr ⟨_, he.trans (mul_comm _ _)⟩)
    rw [add_mul, one_mul] at hlt hne
    rw [if_neg hlast, add_zero]
    omega

end SyncBeaconChain

end Vero

namespace Vero.SyncCommitteeService

variable {b : SyncBeaconChain} {s : State} {slot : ℤ}

def State.hasDutyForSlot (b : SyncBeaconChain) (s : State) (slot : ℤ) : Bool :=
  0 < (s.dutiesOf (b.computeSyncPeriodForEpoch (b.epoch slot))).length

/-- The members that `produce_sync_message` computes. -/
def State.syncCommitteeMembers (b : SyncBeaconChain) (s : State) (slot : ℤ) :
    Finset ValidatorStatusTrackerService.ValidatorIndexPubkey :=
  validators (s.dutiesOf (b.computeSyncPeriodForSlot (slot + 1)))

lemma hasDutyForSlot_iff : s.hasDutyForSlot b slot = true ↔
    s.dutiesOf (b.computeSyncPeriodForSlot slot) ≠ [] := by
  simp only [State.hasDutyForSlot, decide_eq_true_eq, List.length_pos_iff]
  rfl

lemma nonempty_members_iff : (s.syncCommitteeMembers b slot).Nonempty ↔
    s.dutiesOf (b.computeSyncPeriodForSlot (slot + 1)) ≠ [] := by
  rw [State.syncCommitteeMembers, Finset.nonempty_iff_ne_empty, Ne, validators_eq_empty]

/-- A run for the current slot has these members, whoever starts it. -/
lemma members_of_produce (id : ℕ) (ev : Option SchemaBeaconAPI.HeadEvent)
    (hlast : s.lastSlotDutyStartedFor ≤ slot) (hslot : slot = b.currentSlot s.time) :
    ∃ r, (s.produceSyncMessage b id slot ev).1.produceRuns.get id = some r ∧
      r.members = s.syncCommitteeMembers b slot := by
  obtain ⟨r, hset, -, hr⟩ := produce_started (b := b) s id slot ev
  exact ⟨r, by simp [hset], (hr hlast hslot).1⟩

/-- **When the two lookups agree.** In a slot that is not the last of its period they always
do. In the last one they do where duties are stored for both periods or for neither, so not for
every store. -/
theorem lookups_agree_iff (b : SyncBeaconChain) (slot : ℤ) :
    (∀ s : State, (s.hasDutyForSlot b slot = true ↔ (s.syncCommitteeMembers b slot).Nonempty) ↔
      (b.LastOfPeriod slot → (s.dutiesOf (b.computeSyncPeriodForSlot slot) = [] ↔
        s.dutiesOf (b.computeSyncPeriodForSlot slot + 1) = []))) ∧
    ((∀ s : State, s.hasDutyForSlot b slot = true ↔ (s.syncCommitteeMembers b slot).Nonempty) ↔
      ¬ b.LastOfPeriod slot) := by
  have hiff : ∀ s : State,
      (s.hasDutyForSlot b slot = true ↔ (s.syncCommitteeMembers b slot).Nonempty) ↔
        (b.LastOfPeriod slot → (s.dutiesOf (b.computeSyncPeriodForSlot slot) = [] ↔
          s.dutiesOf (b.computeSyncPeriodForSlot slot + 1) = [])) := by
    intro s
    rw [hasDutyForSlot_iff, nonempty_members_iff, b.computeSyncPeriodForSlot_succ, not_iff_not]
    by_cases hlast : b.LastOfPeriod slot
    · simp [hlast]
    · simp [hlast]
  refine ⟨hiff, fun hall hlast => ?_, fun hlast s => (hiff s).mpr fun h => absurd h hlast⟩
  -- duties for the period that ends, and none for the next
  have hstore := (hiff (.init 0 ((∅ : Lib.Dict ℤ (List SyncDuty)).set
    (b.computeSyncPeriodForSlot slot) [⟨"0xa", 7, ["1"]⟩]))).mp (hall _) hlast
  simp [State.init, State.dutiesOf] at hstore

/-- In the last slot of the first period of mainnet. -/
theorem lookups_disagree : periods.LastOfPeriod 8191 ∧
    ∃ s : State, s.syncDuties.get 0 = some (committee 0) ∧
      s.hasDutyForSlot periods 8191 = true ∧ ¬ (s.syncCommitteeMembers periods 8191).Nonempty :=
  ⟨by decide, .init 0 (Lib.Dict.empty.set 0 (committee 0)), by decide, by decide, by decide⟩

end Vero.SyncCommitteeService
