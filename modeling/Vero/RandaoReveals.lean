import Vero.SlotGuards

/-!
Whose RANDAO reveal a block is produced with.

The reveal for a slot is fetched one slot ahead, for the validator that has the duty then, and
is cached under the slot alone. An update may give the slot to another validator in between.

`Obtained pubkey epoch reveal` says that the signature provider gives the reveal over the epoch
for the identifier.
-/

namespace Vero.BlockProposalService

open Lib Lib.Runs SchemaBeaconAPI

variable {c : Context} {now : Moment} {s s' : State} {a : Action} {o : List Output}

variable {Obtained : Pubkey → ℤ → String → Prop}

/-- The duty for which a task awaits a reveal. -/
def Phase.revealFor : Phase → Option ProposerDuty
  | .fetchingRandao duty | .prefetching duty => some duty
  | _ => none

/-- The duty for which a task fetches the reveal ahead. -/
def Phase.prefetchFor : Phase → Option ProposerDuty
  | .prefetching duty => some duty
  | _ => none

/-- A reveal that arrives is one for the identifier and epoch asked for. -/
def Obtaining (c : Context) (Obtained : Pubkey → ℤ → String → Prop) (s : State) : Action → Prop
  | .randaoReveal id reveal => ∀ t ∈ s.slotTasks.get id, ∀ duty ∈ t.phase.revealFor,
      Obtained duty.pubkey (c.beaconChain.epoch duty.slot) reveal
  | _ => True

/-- An answer keeps the proposer of every slot whose reveal is cached or being fetched ahead. -/
def KeepsProposer (c : Context) (Obtained : Pubkey → ℤ → String → Prop) (now : Moment)
    (s : State) : Action → Prop
  | .dutiesResponse epoch response => ∀ u ∈ s.update, ∀ d ∈ response.data,
      c.currentSlot now ≤ d.slot → d.validatorIndex ∈ u.validatorIndices →
      c.beaconChain.epoch d.slot = epoch →
      (∀ reveal ∈ s.randaoRevealCache.get d.slot, Obtained d.pubkey epoch reveal) ∧
      ∀ t ∈ s.slotTasks.values, ∀ duty ∈ t.phase.prefetchFor, duty.slot = d.slot →
        d.pubkey = duty.pubkey
  | _ => True

instance [∀ pubkey epoch reveal, Decidable (Obtained pubkey epoch reveal)] (s : State)
    (a : Action) : Decidable (Obtaining c Obtained s a) := by
  cases a <;> unfold Obtaining <;> infer_instance

instance [∀ pubkey epoch reveal, Decidable (Obtained pubkey epoch reveal)] (s : State)
    (a : Action) : Decidable (KeepsProposer c Obtained now s a) := by
  cases a <;> unfold KeepsProposer <;> infer_instance

/-- What a task awaits belongs to the duty of the slot: a reveal fetched ahead is for the
validator whom the store has for that slot, if any. -/
def Own (c : Context) (s : State) (t : SlotTask) : Prop :=
  (∀ duty, t.phase = .fetchingRandao duty → duty.slot = t.slot) ∧
  ∀ duty, t.phase = .prefetching duty →
    ∀ d ∈ s.dutiesOf (c.beaconChain.epoch duty.slot), d.slot = duty.slot → d.pubkey = duty.pubkey

/-- The cached reveals, and those fetched ahead, are of the validators that the store has for
their slots. -/
structure Owned (c : Context) (Obtained : Pubkey → ℤ → String → Prop) (s : State) : Prop where
  cached : ∀ slot reveal, s.randaoRevealCache.get slot = some reveal →
    ∀ d ∈ s.dutiesOf (c.beaconChain.epoch slot), d.slot = slot →
      Obtained d.pubkey (c.beaconChain.epoch slot) reveal
  tasks : ∀ id t, s.slotTasks.get id = some t → Own c s t

/-- Every block asked for comes with a reveal of its proposer. -/
def Revealed (c : Context) (Obtained : Pubkey → ℤ → String → Prop) (o : List Output) : Prop :=
  ∀ slot duty reveal, .produceBlock slot duty reveal ∈ o →
    Obtained duty.pubkey (c.beaconChain.epoch slot) reveal

lemma owned_init (duties : Dict ℤ Duties) (roots : Dict ℤ Root) :
    Owned c Obtained (.init duties roots) where
  cached := by simp [State.init]
  tasks := by simp [State.init]

lemma Own.of_idle {t : SlotTask} (h : t.phase.revealFor = none) : Own c s t := by
  refine ⟨fun duty hphase => ?_, fun duty hphase => ?_⟩
  · simp [hphase, Phase.revealFor] at h
  · simp [hphase, Phase.revealFor] at h

/-- The store may lose duties. -/
lemma Own.mono {t : SlotTask} (h : Own c s t)
    (hstore : ∀ e, ∀ d ∈ s'.dutiesOf e, d ∈ s.dutiesOf e) : Own c s' t :=
  ⟨h.1, fun duty hphase d hd => h.2 duty hphase d (hstore _ d hd)⟩

/-- Store and cache may lose entries, and one task may be set that owns what it awaits. -/
lemma Owned.mono (h : Owned c Obtained s)
    (hstore : ∀ e, ∀ d ∈ s'.dutiesOf e, d ∈ s.dutiesOf e)
    (hcache : ∀ slot reveal, s'.randaoRevealCache.get slot = some reveal →
      s.randaoRevealCache.get slot = some reveal)
    (htasks : ∀ id t, s'.slotTasks.get id = some t → s.slotTasks.get id = some t ∨ Own c s' t) :
    Owned c Obtained s' := by
  refine ⟨fun slot reveal hr d hd => h.cached slot reveal (hcache _ _ hr) d (hstore _ d hd), ?_⟩
  intro id t ht
  rcases htasks id t ht with hold | hnew
  · exact (h.tasks id t hold).mono hstore
  · exact hnew

/-- A task is set to a phase in which it owns what it awaits. -/
lemma Owned.setPhase (h : Owned c Obtained s) {id : ℕ} {t : SlotTask} {phase : Phase}
    (hown : Own c s { t with phase }) : Owned c Obtained (s.setPhase id t phase) := by
  refine h.mono (fun _ _ hd => hd) (fun _ _ hr => hr) ?_
  exact Dict.forall_set.mpr ⟨.inr hown, fun i q _ hq => .inl hq⟩

lemma duty_of_dutyForSlot {slot : ℤ} {duty : ProposerDuty}
    (h : s.dutyForSlot c slot = .ok (some duty)) :
    duty.slot = slot ∧ duty ∈ s.dutiesOf (c.beaconChain.epoch slot) ∧
      ∀ d ∈ s.dutiesOf (c.beaconChain.epoch slot), d.slot = slot → d = duty := by
  unfold State.dutyForSlot at h
  split at h
  · simp at h
  · next duty' hlist =>
    obtain rfl := Option.some.inj (Except.ok.inj h)
    have hmem : ∀ d, d ∈ s.dutiesOf (c.beaconChain.epoch slot) ∧ d.slot = slot ↔ d = duty' := by
      intro d
      have hiff : d ∈ (s.dutiesOf (c.beaconChain.epoch slot)).filter
          (fun duty => duty.slot = slot) ↔ d ∈ [duty'] := by rw [hlist]
      simpa using hiff
    exact ⟨((hmem duty').mpr rfl).2, ((hmem duty').mpr rfl).1, fun d hd hslot =>
      (hmem d).mp ⟨hd, hslot⟩⟩
  · simp at h

lemma revealed_of_forall {o : List Output}
    (h : ∀ x ∈ o, ∀ slot duty reveal, x ≠ .produceBlock slot duty reveal) :
    Revealed c Obtained o := fun slot duty reveal hm => absurd rfl (h _ hm slot duty reveal)

lemma owned_prepareNextSlot (h : Owned c Obtained s) (id : ℕ) (t : SlotTask) :
    Owned c Obtained (s.prepareNextSlot c id t).1 ∧
      Revealed c Obtained (s.prepareNextSlot c id t).2 := by
  unfold State.prepareNextSlot
  split
  · next duty hduty =>
    obtain ⟨hslot, -, honly⟩ := duty_of_dutyForSlot hduty
    refine ⟨h.setPhase ⟨by simp, fun duty' hphase d hd he => ?_⟩, revealed_of_forall (by simp)⟩
    obtain rfl := Phase.prefetching.inj hphase
    rw [honly d (hslot ▸ hd) (he.trans hslot)]
  · exact ⟨h.setPhase (.of_idle rfl), revealed_of_forall (by simp)⟩
  · exact ⟨h.setPhase (.of_idle rfl), revealed_of_forall (by simp)⟩

/-- A proposal takes the reveal of its slot out of the cache, or asks for one. -/
lemma owned_startPropose (h : Owned c Obtained s) {id : ℕ} {t : SlotTask} {duty : ProposerDuty}
    (hslot : duty.slot = t.slot)
    (hreveal : ∀ reveal, s.randaoRevealCache.get t.slot = some reveal →
      Obtained duty.pubkey (c.beaconChain.epoch t.slot) reveal) :
    Owned c Obtained (s.startPropose c id t duty).1 ∧
      Revealed c Obtained (s.startPropose c id t duty).2 := by
  unfold State.startPropose
  dsimp only
  split
  · next reveal hcached =>
    refine ⟨h.mono (fun _ _ hd => hd) (fun slot r hr => ?_) ?_, fun slot d r hm => ?_⟩
    · simp only [State.setPhase, Dict.get_filterKeys] at hr
      split at hr
      · exact hr
      · simp at hr
    · exact Dict.forall_set.mpr ⟨.inr (.of_idle rfl), fun i q _ hq => .inl hq⟩
    · simp only [List.mem_cons, List.not_mem_nil, or_false, reduceCtorEq, false_or,
        Output.produceBlock.injEq] at hm
      obtain ⟨rfl, rfl, rfl⟩ := hm
      exact hreveal _ hcached
  · refine ⟨h.mono (fun _ _ hd => hd) (fun _ _ hr => hr) ?_, revealed_of_forall (by simp)⟩
    refine Dict.forall_set.mpr ⟨.inr ⟨fun duty' hphase => ?_, by simp⟩, fun i q _ hq => .inl hq⟩
    obtain rfl := Phase.fetchingRandao.inj hphase
    exact hslot

lemma dutiesOf_set (s : State) (e e' : ℤ) (duties : Duties) :
    ({ s with proposerDuties := s.proposerDuties.set e duties } : State).dutiesOf e' =
      if e' = e then duties else s.dutiesOf e' := by
  simp [State.dutiesOf]

lemma owned_onNewSlot (h : Owned c Obtained s) (id : ℕ) (slot : ℤ) :
    Owned c Obtained (s.onNewSlot c now id slot).1 ∧
      Revealed c Obtained (s.onNewSlot c now id slot).2 := by
  have hended : Owned c Obtained (s.setPhase id ⟨slot, .ended⟩ .ended) ∧
      Revealed c Obtained [] := ⟨h.setPhase (.of_idle rfl), revealed_of_forall (by simp)⟩
  unfold State.onNewSlot
  dsimp only
  split_ifs
  · exact hended
  · exact hended
  · exact hended
  · split
    · exact hended
    · exact owned_prepareNextSlot h id _
    · next duty hduty =>
      obtain ⟨hslot, hin, -⟩ := duty_of_dutyForSlot hduty
      have hremoved : Owned c Obtained (s.removeDuty c slot duty) := by
        refine h.mono (fun e d hd => ?_) (fun _ _ hr => hr) fun i q hq => .inl hq
        have hd' : d ∈ if e = c.beaconChain.epoch slot then
            (s.dutiesOf (c.beaconChain.epoch slot)).erase duty else s.dutiesOf e := by
          rw [← dutiesOf_set]
          exact hd
        split at hd'
        · next he => exact he ▸ List.mem_of_mem_erase hd'
        · exact hd'
      exact owned_startPropose hremoved hslot fun reveal hr =>
        h.cached slot reveal hr duty hin hslot

lemma owned_nextEpoch (h : Owned c Obtained s) (u : UpdateRun) :
    Owned c Obtained (s.nextEpoch c now u).1 ∧ Revealed c Obtained (s.nextEpoch c now u).2 := by
  unfold State.nextEpoch
  split
  · refine ⟨h.mono (fun e d hd => ?_) (fun _ _ hr => hr) fun i q hq => .inl hq,
      revealed_of_forall (by simp)⟩
    simp only [State.dutiesOf, State.pruneDuties, Dict.getD_filterKeys] at hd
    split at hd
    · exact hd
    · simp at hd
  · exact ⟨⟨h.cached, fun i q hq => (h.tasks i q hq).mono fun _ _ hd => hd⟩,
      revealed_of_forall (by simp)⟩

lemma owned_dutiesResponse (h : Owned c Obtained s) {u : UpdateRun} (hu : s.update = some u)
    {response : GetProposerDutiesResponse}
    (hkeep : KeepsProposer c Obtained now s (.dutiesResponse u.epoch response)) :
    Owned c Obtained (s.dutiesResponse c now u response).1 ∧
      Revealed c Obtained (s.dutiesResponse c now u response).2 := by
  let duties : Duties := (response.data.filter fun duty : ProposerDuty =>
    c.currentSlot now ≤ duty.slot ∧ duty.validatorIndex ∈ u.validatorIndices).dedup
  let s₁ : State := { s with
    proposerDutiesDependentRoots :=
      s.proposerDutiesDependentRoots.set u.epoch response.dependentRoot
    proposerDuties := s.proposerDuties.set u.epoch duties }
  have hstore : ∀ e, ∀ d ∈ s₁.dutiesOf e, d ∈ s.dutiesOf e ∨ (e = u.epoch ∧ d ∈ response.data ∧
      c.currentSlot now ≤ d.slot ∧ d.validatorIndex ∈ u.validatorIndices) := by
    intro e d hd
    have hd' : d ∈ if e = u.epoch then duties else s.dutiesOf e := by
      rw [← dutiesOf_set]
      exact hd
    split at hd'
    · next he =>
      obtain ⟨hmem, hkept⟩ := List.mem_filter.mp (List.mem_dedup.mp hd')
      exact .inr ⟨he, hmem, of_decide_eq_true hkept⟩
    · exact .inl hd'
  have howned : Owned c Obtained s₁ := by
    refine ⟨fun slot reveal hr d hd hslot => ?_, fun i t ht => ⟨(h.tasks i t ht).1, ?_⟩⟩
    · rcases hstore _ d hd with hold | ⟨he, hdata, hsoon, hours⟩
      · exact h.cached slot reveal hr d hold hslot
      · subst hslot
        rw [he]
        exact (hkeep u hu d hdata hsoon hours he).1 reveal hr
    · intro duty hphase d hd hslot
      rcases hstore _ d hd with hold | ⟨he, hdata, hsoon, hours⟩
      · exact (h.tasks i t ht).2 duty hphase d hold hslot
      · exact (hkeep u hu d hdata hsoon hours (hslot ▸ he)).2 t
          (Dict.mem_values_iff.mpr ⟨i, ht⟩) duty (by rw [hphase]; rfl) hslot.symm
  exact owned_nextEpoch howned u

/-- A reveal that arrives for the block is of the validator it was asked for. -/
lemma owned_fetched (h : Owned c Obtained s) {id : ℕ} {t : SlotTask} {duty : ProposerDuty}
    {reveal : String} (ht : s.slotTasks.get id = some t) (hphase : t.phase = .fetchingRandao duty)
    (hobtained : Obtaining c Obtained s (.randaoReveal id reveal)) :
    Owned c Obtained ({ s with randaoRevealCache :=
        (s.randaoRevealCache.set duty.slot reveal).filterKeys (· ≠ t.slot) }.setPhase id t
          (.producing duty reveal)) ∧
      Revealed c Obtained [.produceBlock t.slot duty reveal] := by
  have hslot : duty.slot = t.slot := (h.tasks id t ht).1 duty hphase
  have hreveal := hobtained t ht duty (by rw [hphase]; rfl)
  refine ⟨h.mono (fun _ _ hd => hd) (fun slot r hr => ?_) ?_, fun slot d r hm => ?_⟩
  · simp only [State.setPhase, Dict.get_filterKeys, Dict.get_set, decide_eq_true_eq] at hr
    split_ifs at hr with hne he
    · exact absurd (he.trans hslot) hne
    · exact hr
  · exact Dict.forall_set.mpr ⟨.inr (.of_idle rfl), fun i q _ hq => .inl hq⟩
  · simp only [List.mem_singleton, Output.produceBlock.injEq] at hm
    obtain ⟨rfl, rfl, rfl⟩ := hm
    exact hslot ▸ hreveal

/-- So is one that arrives for the next slot. -/
lemma owned_prefetched (h : Owned c Obtained s) {id : ℕ} {t : SlotTask} {duty : ProposerDuty}
    {reveal : String} (ht : s.slotTasks.get id = some t) (hphase : t.phase = .prefetching duty)
    (hobtained : Obtaining c Obtained s (.randaoReveal id reveal)) :
    Owned c Obtained
      ({ s with randaoRevealCache := s.randaoRevealCache.set duty.slot reveal }.setPhase id t
        .preparing) := by
  have hreveal := hobtained t ht duty (by rw [hphase]; rfl)
  refine ⟨?_, ?_⟩
  · refine Dict.forall_set.mpr ⟨fun d hd hslot => ?_, fun slot r _ hr => h.cached slot r hr⟩
    rw [(h.tasks id t ht).2 duty hphase d hd hslot]
    exact hreveal
  · exact Dict.forall_set.mpr
      ⟨.of_idle rfl, fun i q _ hq => (h.tasks i q hq).mono fun _ _ hd => hd⟩

lemma owned_completed (h : Owned c Obtained s) (slot : ℤ) :
    Owned c Obtained { s with lastSlotDutyCompletedFor := slot } :=
  h.mono (fun _ _ hd => hd) (fun _ _ hr => hr) fun _ _ hq => .inl hq

lemma owned_step (h : Owned c Obtained s) (hobtained : Obtaining c Obtained s a)
    (hkeep : KeepsProposer c Obtained now s a) (hs : step c now s a = some (s', o)) :
    Owned c Obtained s' ∧ Revealed c Obtained o := by
  cases transition_of_step hs with
  | onNewSlot id slot => exact owned_onNewSlot h id slot
  | fetched id t duty reveal get phase => exact owned_fetched h get phase hobtained
  | prefetched id t duty reveal get phase =>
    exact ⟨owned_prefetched h get phase hobtained, revealed_of_forall (by simp)⟩
  | produced | signed | prepared | failed =>
    exact ⟨h.setPhase (.of_idle rfl), revealed_of_forall (by simp)⟩
  | published id t => exact owned_prepareNextSlot (owned_completed h t.slot) id t
  | proposalFailed id t =>
    exact ⟨(owned_completed h t.slot).setPhase (.of_idle rfl), revealed_of_forall (by simp)⟩
  | noValidators => exact ⟨h, revealed_of_forall (by simp)⟩
  | updateDuties _ u => exact owned_nextEpoch h u
  | dutiesResponse u response update => exact owned_dutiesResponse h update hkeep
  | updateFailed =>
    exact ⟨h.mono (fun _ _ hd => hd) (fun _ _ hr => hr) fun i q hq => .inl hq,
      revealed_of_forall (by simp)⟩

end Vero.BlockProposalService

namespace Vero.Services

open Lib Lib.Runs SchemaBeaconAPI

variable {c : Context} {s₀ s s' : State} {a : Action} {as : List Action} {o os : List Output}
variable {Obtained : Pubkey → ℤ → String → Prop}

def Action.ofBlockProposal : Action → Option BlockProposalService.Action
  | .blockProposal a => some a
  | _ => none

/-- The reveals that arrive are of the identifiers and epochs asked for. -/
abbrev Obtaining (c : Context) (Obtained : Pubkey → ℤ → String → Prop) :
    Guard State Action Output := fun s _ a => ∀ b ∈ a.ofBlockProposal,
  BlockProposalService.Obtaining c Obtained s.blockProposal b

/-- No answer gives a slot, whose reveal is cached or being fetched ahead, to a validator of
whom that reveal is not. -/
abbrev KeepsProposer (c : Context) (Obtained : Pubkey → ℤ → String → Prop) :
    Guard State Action Output := fun s _ a => ∀ b ∈ a.ofBlockProposal,
  BlockProposalService.KeepsProposer c Obtained s.now s.blockProposal b

/-- **Whose reveal a block is produced with.** In every run that keeps the proposer of each
slot whose reveal is cached or being fetched ahead, each block is asked for with a reveal that
was obtained for its proposer, over the epoch of its slot. -/
theorem reveal_of_proposer {C : Guard State Action Output} (b : Boots (step c) C Fresh Reboot s₀)
    (r : RunIf (step c) (fun s os a => Obtaining c Obtained s os a ∧
      KeepsProposer c Obtained s os a) s₀ as s os)
    {slot : ℤ} {duty : ProposerDuty} {reveal : String}
    (hm : .produceBlock slot duty reveal ∈ blockProposalOutputs os) :
    Obtained duty.pubkey (c.beaconChain.epoch slot) reveal := by
  obtain ⟨-, duties, roots, hinit⟩ := started_of_boots b
  have h : BlockProposalService.Owned c Obtained s.blockProposal ∧
      BlockProposalService.Revealed c Obtained (blockProposalOutputs os) := by
    refine r.invariant (I := fun s os => BlockProposalService.Owned c Obtained s.blockProposal ∧
      BlockProposalService.Revealed c Obtained (blockProposalOutputs os)) ?_ ?_
    · rw [hinit]
      exact ⟨BlockProposalService.owned_init duties roots,
        BlockProposalService.revealed_of_forall (by simp [blockProposalOutputs])⟩
    · rintro s os a s' o ⟨howned, hrevealed⟩ ⟨hobtained, hkeep⟩ hs
      rw [blockProposalOutputs_append]
      rcases blockProposal_of_step hs with ⟨b, o', rfl, ht, rfl, -⟩ | ⟨he, ho⟩
      · obtain ⟨howned', hnew⟩ :=
          BlockProposalService.owned_step howned (hobtained b rfl) (hkeep b rfl) ht
        refine ⟨howned', fun slot duty reveal hm => ?_⟩
        rcases List.mem_append.mp hm with hm | hm
        · exact hrevealed slot duty reveal hm
        · exact hnew slot duty reveal hm
      · rw [he, ho, List.append_nil]
        exact ⟨howned, hrevealed⟩
  exact h.2 slot duty reveal hm

/-! ### A slot given to another validator -/

/-- The reveals over epoch 0 of two validators. -/
def revealOf (pubkey : Pubkey) (epoch : ℤ) (reveal : String) : Prop :=
  epoch = 0 ∧ (pubkey, reveal) ∈ [("0xa", "0xra"), ("0xb", "0xrb")]

instance (pubkey : Pubkey) (epoch : ℤ) (reveal : String) :
    Decidable (revealOf pubkey epoch reveal) := inferInstanceAs (Decidable (_ ∧ _))

/-- In slot 1 the reveal for slot 2 is fetched, then the duties arrive again, and slot 2
begins. -/
def refreshed (duty duty' : ProposerDuty) : List Action :=
  .tracker (.activeValidators [⟨7, "0xa"⟩, ⟨8, "0xb"⟩]) :: proposerUpdate [duty] ++
    [.blockProposal (.onNewSlot 0 1), .blockProposal (.randaoReveal 0 "0xra")] ++
    proposerUpdate [duty'] ++ [.clock 1606824047, .blockProposal (.onNewSlot 1 2)]

theorem reveal_of_proposer_refreshed : ∃ s os, Run (step (mainnet id)) fresh
    (refreshed ⟨"0xa", 7, 2⟩ ⟨"0xa", 7, 2⟩) s os ∧
    .produceBlock 2 ⟨"0xa", 7, 2⟩ "0xra" ∈ blockProposalOutputs os ∧ revealOf "0xa" 0 "0xra" := by
  obtain ⟨s, os, r, hp⟩ := @exec_any _ _ _ (step (mainnet id)) (fun s os a =>
      Obtaining (mainnet id) revealOf s os a ∧ KeepsProposer (mainnet id) revealOf s os a) fresh
    (refreshed ⟨"0xa", 7, 2⟩ ⟨"0xa", 7, 2⟩) _
    (fun _ os => .produceBlock 2 ⟨"0xa", 7, 2⟩ "0xra" ∈ blockProposalOutputs os)
    (by decide +kernel)
  have hm := of_decide_eq_true hp
  have hfresh : Boots (step (mainnet id)) (fun _ _ _ => True) Fresh Reboot fresh :=
    .fresh ⟨rfl, rfl, rfl⟩
  exact ⟨s, os, r.run, hm, reveal_of_proposer hfresh r hm⟩

/-- Slot 2 went to the second validator, and its block is asked for with the reveal of the
first. -/
theorem reveal_of_another : ∃ as s os slot duty reveal, Fresh fresh ∧
    RunIf (step (mainnet id)) (Obtaining (mainnet id) revealOf) fresh as s os ∧
    .produceBlock slot duty reveal ∈ blockProposalOutputs os ∧
    ¬ revealOf duty.pubkey ((mainnet id).beaconChain.epoch slot) reveal := by
  obtain ⟨s, os, r, hp⟩ := @exec_any _ _ _ (step (mainnet id)) (Obtaining (mainnet id) revealOf)
    fresh (refreshed ⟨"0xa", 7, 2⟩ ⟨"0xb", 8, 2⟩) _
    (fun _ os => .produceBlock 2 ⟨"0xb", 8, 2⟩ "0xra" ∈ blockProposalOutputs os)
    (by decide +kernel)
  exact ⟨_, s, os, 2, ⟨"0xb", 8, 2⟩, "0xra", ⟨rfl, rfl, rfl⟩, r, of_decide_eq_true hp, by decide⟩

end Vero.Services
