import Vero.AttestationSlots
import Vero.BlockProposalSlots
import Vero.Services

/-!
No slot is attested to or proposed in twice, by any run of a process.
-/

namespace Vero.Services

open Lib Lib.Runs SchemaBeaconAPI

variable {c : Context} {s₀ s s' : State} {a : Action} {as : List Action} {o os : List Output}

/-- The answers of beacon nodes have one duty at most for a validator. -/
abbrev OnePerValidator : Guard State Action Output := fun _ _ a =>
  ∀ x ∈ a.response, (x.2.data.map AttesterDuty.pubkey).Nodup

/-- A process has not started a duty when it starts. -/
lemma started_of_boots {C : Guard State Action Output} (b : Boots (step c) C Fresh Reboot s₀) :
    (∃ duties roots, s₀.attestation = .init duties roots) ∧
      ∃ duties roots, s₀.blockProposal = .init duties roots := by
  cases b with
  | fresh h => exact ⟨⟨_, _, h.2.1⟩, ⟨_, _, h.2.2⟩⟩
  | reboot _ _ h =>
    refine ⟨?_, ?_⟩
    · rcases h.2.1 with h | h <;> exact ⟨_, _, h⟩
    · rcases h.2.2 with h | h <;> exact ⟨_, _, h⟩

lemma orderly_run {C : Guard State Action Output} (b : Boots (step c) C Fresh Reboot s₀)
    (r : RunIf (step c) C s₀ as s os) :
    AttestationService.Orderly s.attestation (attestationOutputs os) ∧
      BlockProposalService.Orderly s.blockProposal (blockProposalOutputs os) := by
  obtain ⟨⟨duties, roots, ha⟩, duties', roots', hb⟩ := started_of_boots b
  refine r.invariant (I := fun s os =>
    AttestationService.Orderly s.attestation (attestationOutputs os) ∧
      BlockProposalService.Orderly s.blockProposal (blockProposalOutputs os)) ?_ ?_
  · rw [ha, hb]
    have hattest := AttestationService.orderly_init duties roots
    have hpropose := BlockProposalService.orderly_init duties' roots'
    exact ⟨hattest, hpropose⟩
  · intro s os a s' o ⟨h, h'⟩ _ hs
    rw [attestationOutputs_append, blockProposalOutputs_append]
    refine ⟨?_, ?_⟩
    · rcases attestation_of_step hs with ⟨b, o', -, ht, rfl, -⟩ | ⟨he, ho, -⟩
      · exact AttestationService.orderly_step h ht
      · rwa [he, ho, List.append_nil]
    · rcases blockProposal_of_step hs with ⟨b, o', -, ht, rfl, -⟩ | ⟨he, ho⟩
      · exact BlockProposalService.orderly_step h' ht
      · rwa [he, ho, List.append_nil]

lemma onePerValidator_step (h : AttestationService.OnePerValidator s.attestation)
    (ha : OnePerValidator s os a) (hs : step c s a = some (s', o)) :
    AttestationService.OnePerValidator s'.attestation := by
  rcases attestation_of_step hs with ⟨b, o', rfl, ht, -, -⟩ | ⟨he, -, -⟩
  · exact AttestationService.onePerValidator_step h ha ht
  · rwa [he]

/-- The duties an earlier process left are one per validator as well. -/
lemma onePerValidator_of_boots (b : Boots (step c) OnePerValidator Fresh Reboot s₀) :
    AttestationService.OnePerValidator s₀.attestation := by
  have hnone : AttestationService.OnePerValidator (.init ∅ ∅) :=
    AttestationService.onePerValidator_init fun _ => AttestationService.onePer_empty
  refine b.invariant (P := fun s => AttestationService.OnePerValidator s.attestation) ?_ ?_ ?_
  · intro s h
    rwa [h.2.1]
  · intro s₀ as s os h r
    refine r.invariant (I := fun s _ => AttestationService.OnePerValidator s.attestation) h ?_
    intro s os a s' o h ha hs
    exact onePerValidator_step h ha hs
  · intro s s' h hr
    rcases hr.2.1 with he | he
    · rw [he]
      exact AttestationService.onePerValidator_init h.store
    · rwa [he]

lemma signedOnce_run (b : Boots (step c) OnePerValidator Fresh Reboot s₀)
    (r : RunIf (step c) OnePerValidator s₀ as s os) :
    AttestationService.SignedOnce s.attestation (attestationOutputs os) := by
  obtain ⟨⟨duties, roots, ha⟩, -⟩ := started_of_boots b
  refine And.left (b := AttestationService.OnePerValidator s.attestation ∧
    AttestationService.Orderly s.attestation (attestationOutputs os)) ?_
  refine r.invariant (I := fun s os => AttestationService.SignedOnce s.attestation
    (attestationOutputs os) ∧ AttestationService.OnePerValidator s.attestation ∧
      AttestationService.Orderly s.attestation (attestationOutputs os)) ?_ ?_
  · refine ⟨?_, onePerValidator_of_boots b, ?_⟩
    · rw [ha]
      exact AttestationService.signedOnce_init _ _
    · rw [ha]
      exact AttestationService.orderly_init _ _
  · intro s os a s' o ⟨hsigned, hone, horderly⟩ hC hs
    refine ⟨?_, onePerValidator_step hone hC hs, ?_⟩
    all_goals
      rw [attestationOutputs_append]
      rcases attestation_of_step hs with ⟨b, o', rfl, ht, rfl, -⟩ | ⟨he, ho, -⟩
    · exact AttestationService.signedOnce_step hsigned horderly hone ht
    · rwa [he, ho, List.append_nil]
    · exact AttestationService.orderly_step horderly ht
    · rwa [he, ho, List.append_nil]

/-- A start is for the slot the clock shows, at a moment at which duties are not refused. -/
lemma start_guarded (hs : step c s a = some (s', o)) :
    (∀ slot ∈ AttestationService.starts (attestationOutputs o),
      ¬ c.refuses s.now ∧ slot = c.currentSlot s.now) ∧
    ∀ slot ∈ BlockProposalService.starts (blockProposalOutputs o),
      ¬ c.refuses s.now ∧ slot = c.currentSlot s.now := by
  refine ⟨fun slot hslot => ?_, fun slot hslot => ?_⟩
  · rcases attestation_of_step hs with ⟨b, o', -, ht, rfl, -⟩ | ⟨-, ho, -⟩
    · exact AttestationService.start_guarded ht hslot
    · simp [ho] at hslot
  · rcases blockProposal_of_step hs with ⟨b, o', -, ht, rfl, -⟩ | ⟨-, ho⟩
    · exact BlockProposalService.start_guarded ht hslot
    · simp [ho] at hslot

/-- **No slot is attested to or proposed in twice.** Whatever the steps of a process and its
clock: the slots of the starts rise, every start is for the current slot, and no two block
signatures are for one slot. Where beacon nodes have one duty for a validator at most, no two
attestation signatures are for one validator and slot. -/
theorem no_slot_twice {C : Guard State Action Output} (b : Boots (step c) C Fresh Reboot s₀)
    (r : RunIf (step c) C s₀ as s os) :
    (AttestationService.starts (attestationOutputs os)).Pairwise (· < ·) ∧
    (BlockProposalService.starts (blockProposalOutputs os)).Pairwise (· < ·) ∧
    (∀ s a s' o, step c s a = some (s', o) →
      (∀ slot ∈ AttestationService.starts (attestationOutputs o), slot = c.currentSlot s.now) ∧
        ∀ slot ∈ BlockProposalService.starts (blockProposalOutputs o),
          slot = c.currentSlot s.now) ∧
    (BlockProposalService.signed (blockProposalOutputs os)).Nodup ∧
    ((∀ s os a, C s os a → OnePerValidator s os a) →
      (AttestationService.signed (attestationOutputs os)).Nodup) := by
  obtain ⟨ha, hb⟩ := orderly_run b r
  refine ⟨ha.rising.sorted, hb.rising.sorted, fun s a s' o hs => ?_, hb.nodup, fun hC => ?_⟩
  · obtain ⟨hattest, hpropose⟩ := start_guarded hs
    exact ⟨fun slot h => (hattest slot h).2, fun slot h => (hpropose slot h).2⟩
  · exact (signedOnce_run (b.mono hC) (r.mono hC)).nodup

/-! ### Duties stored again after they were performed -/

def moreEvents : List Action :=
  [.blockProposal (.onNewSlot 1 1), .attestation (.onNewSlot 1), .clock 1606824040,
    .attestation (.handleHeadEvent 1 ⟨1, "0xd", "0xp", "0xc"⟩), .attestation (.deadlineJob 2 1)]

/-- The validator attests and proposes in slot 1, is found to have the same duties again, and
more events arrive. -/
def storedAgain : List Action :=
  activated :: attesterUpdate "0x1" [attesterDuty 1] ++ proposerUpdate [⟨"0xa", 7, 1⟩] ++
    proposed ++ attested ++ attesterUpdate "0x2" [attesterDuty 1] ++
    proposerUpdate [⟨"0xa", 7, 1⟩] ++ moreEvents

theorem no_slot_twice_storedAgain : ∃ s os,
    Run (step (mainnet id)) fresh storedAgain s os ∧
    AttestationService.signed (attestationOutputs os) = [("0xa", 1)] ∧
    s.attestation.hasDutyForSlot (mainnet id) 1 ∧
    (AttestationService.starts (attestationOutputs os)).Pairwise (· < ·) ∧
    (AttestationService.signed (attestationOutputs os)).Nodup := by
  obtain ⟨s, os, r, hp⟩ := @exec_any _ _ _ (step (mainnet id)) OnePerValidator fresh storedAgain _
    (fun s os => AttestationService.signed (attestationOutputs os) = [("0xa", 1)] ∧
      s.attestation.hasDutyForSlot (mainnet id) 1) (by decide +kernel)
  obtain ⟨hsigned, hduty⟩ := of_decide_eq_true hp
  have h := no_slot_twice (.fresh ⟨rfl, rfl, rfl⟩) r
  exact ⟨s, os, r.run, hsigned, hduty, h.1, h.2.2.2.2 fun _ _ _ ha => ha⟩

end Vero.Services
