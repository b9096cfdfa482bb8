import Vero.SlotGuards

/-!
What a detected slashing stops.

The flag is tested when a duty starts. A duty that awaits its data when the flag goes up is
not tested again and goes on to sign.
-/

namespace Vero.Services

open Lib Lib.Runs

variable {c : Context} {s₀ s s' : State} {a : Action} {as : List Action} {o os : List Output}
variable {x : Output}

/-- The output was emitted, and before the flag went up. -/
def BeforeDetection (s : State) (os : List Output) (x : Output) : Prop :=
  ∃ post, Since os x post ∧ (s.tracker.slashingDetected = true → .slashingDetected ∈ post)

lemma BeforeDetection.step (h : BeforeDetection s os x) (hs : step c s a = some (s', o)) :
    BeforeDetection s' (os ++ o) x := by
  obtain ⟨post, hsince, hpost⟩ := h
  refine ⟨post ++ o, since_append.mpr (.inr ⟨post, hsince, rfl⟩), fun hflag => ?_⟩
  rcases slashingDetected_of_step hs hflag with hold | hnow
  · exact List.mem_append_left _ (hpost hold)
  · exact List.mem_append_right _ hnow

/-- What a step emits that leaves the flag down. -/
lemma beforeDetection_of_mem (hx : x ∈ o) (hflag : s'.tracker.slashingDetected = false) :
    BeforeDetection s' (os ++ o) x := by
  obtain ⟨post, hpost⟩ := exists_since hx
  exact ⟨post, since_append.mpr (.inl hpost), by simp [hflag]⟩

/-- Every duty started did so before the flag went up. -/
structure StartedBefore (s : State) (os : List Output) : Prop where
  attestation : ∀ slot ∈ AttestationService.starts (attestationOutputs os),
    BeforeDetection s os (.attestation (.attestStarted slot))
  blockProposal : ∀ slot ∈ BlockProposalService.starts (blockProposalOutputs os),
    BeforeDetection s os (.blockProposal (.proposeStarted slot))

lemma flag_of_accepts (hd : c.disableSlashingDetection = false) (hnow : s'.now = s.now)
    (h : ¬ c.refuses s.now) : s'.tracker.slashingDetected = false := by
  rw [← hnow] at h
  exact Bool.eq_false_of_not_eq_true fun hflag => h ⟨hflag, hd⟩

lemma startedBefore_step (hd : c.disableSlashingDetection = false) (h : StartedBefore s os)
    (hs : step c s a = some (s', o)) : StartedBefore s' (os ++ o) := by
  obtain ⟨hattest, hpropose⟩ := start_guarded hs
  refine ⟨fun slot hslot => ?_, fun slot hslot => ?_⟩
  · rw [attestationOutputs_append, AttestationService.starts_append] at hslot
    rcases List.mem_append.mp hslot with hold | hnew
    · exact (h.attestation slot hold).step hs
    · have hx := mem_attestationOutputs.mp (AttestationService.mem_starts.mp hnew)
      rcases attestation_of_step hs with ⟨-, -, -, -, -, hnow⟩ | ⟨-, ho, -⟩
      · exact beforeDetection_of_mem hx (flag_of_accepts hd hnow (hattest slot hnew).1)
      · simp [ho] at hnew
  · rw [blockProposalOutputs_append, BlockProposalService.starts_append] at hslot
    rcases List.mem_append.mp hslot with hold | hnew
    · exact (h.blockProposal slot hold).step hs
    · have hx := mem_blockProposalOutputs.mp (BlockProposalService.mem_starts.mp hnew)
      rcases blockProposal_of_step hs with ⟨-, -, -, -, -, hnow⟩ | ⟨-, ho⟩
      · exact beforeDetection_of_mem hx (flag_of_accepts hd hnow (hpropose slot hnew).1)
      · simp [ho] at hnew

lemma startedBefore_run {C : Guard State Action Output} (hd : c.disableSlashingDetection = false)
    (r : RunIf (step c) C s₀ as s os) : StartedBefore s os := by
  refine r.invariant (I := StartedBefore) ⟨by simp [attestationOutputs], by
    simp [blockProposalOutputs]⟩ ?_
  intro s os a s' o h _ hs
  exact startedBefore_step hd h hs

/-- **A detected slashing stops new duties.** While the flag is up, and the detection is not
disabled, neither an attestation nor a proposal starts, and an attestation or block signature
is requested only for a slot whose duty started before the flag went up. -/
theorem slashing_stops_starts {C : Guard State Action Output}
    (b : Boots (step c) C Fresh Reboot s₀) (r : RunIf (step c) C s₀ as s os)
    (hs : step c s a = some (s', o)) (hflag : s.tracker.slashingDetected = true)
    (hd : c.disableSlashingDetection = false) :
    AttestationService.starts (attestationOutputs o) = [] ∧
    BlockProposalService.starts (blockProposalOutputs o) = [] ∧
    (∀ p ∈ AttestationService.signed (attestationOutputs o), ∃ post,
      Since os (.attestation (.attestStarted p.2)) post ∧ .slashingDetected ∈ post) ∧
    ∀ slot ∈ BlockProposalService.signed (blockProposalOutputs o), ∃ post,
      Since os (.blockProposal (.proposeStarted slot)) post ∧ .slashingDetected ∈ post := by
  obtain ⟨ha, hb⟩ := orderly_run b r
  have hbefore := startedBefore_run hd r
  have hrefuses : c.refuses s.now := ⟨hflag, hd⟩
  obtain ⟨hattest, hpropose⟩ := start_guarded hs
  refine ⟨?_, ?_, fun p hp => ?_, fun slot hslot => ?_⟩
  · exact List.eq_nil_iff_forall_not_mem.mpr fun slot h => (hattest slot h).1 hrefuses
  · exact List.eq_nil_iff_forall_not_mem.mpr fun slot h => (hpropose slot h).1 hrefuses
  · rcases attestation_of_step hs with ⟨b, o', -, ht, rfl, -⟩ | ⟨-, ho, -⟩
    · obtain ⟨post, hsince, hpost⟩ :=
        hbefore.attestation p.2 (AttestationService.signed_started ha ht hp)
      exact ⟨post, hsince, hpost hflag⟩
    · simp [ho] at hp
  · rcases blockProposal_of_step hs with ⟨b, o', -, ht, rfl, -⟩ | ⟨-, ho⟩
    · obtain ⟨post, hsince, hpost⟩ :=
        hbefore.blockProposal slot (BlockProposalService.signed_started hb ht hslot)
      exact ⟨post, hsince, hpost hflag⟩
    · simp [ho] at hslot

/-! ### A duty that signs after the detection -/

/-- The duty of slot 1 awaits its data when a slashing of the validator is seen. -/
def caughtProducing : List Action :=
  activated :: attesterUpdate "0x1" [attesterDuty 1] ++ attested.take 2 ++
    [.tracker (.proposerSlashing ⟨"7", "7"⟩)] ++ (attested.drop 2).take 1

def signDuty : Action := .attestation (.requestSignature 0 (.fromDuty (attesterDuty 1) true [1]))

lemma caughtProducing_run : ∃ s os s' o, Run (step (mainnet id)) fresh caughtProducing s os ∧
    s.tracker.slashingDetected = true ∧ step (mainnet id) s signDuty = some (s', o) ∧
    AttestationService.signed (attestationOutputs o) = [("0xa", 1)] := by
  obtain ⟨s, os, s', o, r, -, hs, hp⟩ := @exec_next _ _ _ (step (mainnet id)) (fun _ _ _ => True)
    fresh caughtProducing _ signDuty (fun s _ o => s.tracker.slashingDetected = true ∧
      AttestationService.signed (attestationOutputs o) = [("0xa", 1)]) (by decide +kernel)
  obtain ⟨hflag, hsigned⟩ := of_decide_eq_true hp
  exact ⟨s, os, s', o, r, hflag, hs, hsigned⟩

/-- The signature is of the duty started before the detection. -/
theorem slashing_stops_starts_caughtProducing : ∃ s os,
    Run (step (mainnet id)) fresh caughtProducing s os ∧ s.tracker.slashingDetected = true ∧
    ∃ post, Since os (.attestation (.attestStarted 1)) post ∧ .slashingDetected ∈ post := by
  obtain ⟨s, os, s', o, r, hflag, hs, hsigned⟩ := caughtProducing_run
  have h := slashing_stops_starts (.fresh ⟨rfl, rfl, rfl⟩) r hs hflag rfl
  exact ⟨s, os, r, hflag, h.2.2.1 ("0xa", 1) (by simp [hsigned])⟩

/-- The signature is requested while the flag is up. -/
theorem signs_after_detection : ∃ as s os a s' o, Run (step (mainnet id)) fresh as s os ∧
    s.tracker.slashingDetected = true ∧ (mainnet id).disableSlashingDetection = false ∧
    step (mainnet id) s a = some (s', o) ∧
    AttestationService.signed (attestationOutputs o) ≠ [] := by
  obtain ⟨s, os, s', o, r, hflag, hs, hsigned⟩ := caughtProducing_run
  exact ⟨caughtProducing, s, os, signDuty, s', o, r, hflag, rfl, hs, by simp [hsigned]⟩

end Vero.Services
