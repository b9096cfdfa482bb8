import Vero.SlotGuards

/-!
How often a validator attests in an epoch.

Performed duties are remembered by their slot alone. A response that moves a validator to
another slot of the epoch, once `_attest` was started for it, makes it attest twice.
-/

namespace Vero.AttestationService

open Lib Lib.Runs SchemaBeaconAPI

variable {c : Context} {now : Moment} {s s' : State} {a : Action} {o os : List Output}
variable {pubkey : Pubkey} {epoch : ℤ}

/-- The run attests for the validator in the epoch. -/
def Attesting (c : Context) (pubkey : Pubkey) (epoch : ℤ) (r : AttestRun) : Prop :=
  c.beaconChain.epoch r.slot = epoch ∧ ∃ d ∈ r.duties, d.pubkey = pubkey

instance (c : Context) (pubkey : Pubkey) (epoch : ℤ) (r : AttestRun) :
    Decidable (Attesting c pubkey epoch r) :=
  inferInstanceAs (Decidable (_ ∧ ∃ d ∈ r.duties, _))

/-- Every run that attests for the validator in the epoch does so in this slot. -/
def NotElsewhere (c : Context) (pubkey : Pubkey) (epoch : ℤ) (s : State) (slot : ℤ) : Prop :=
  ∀ id r, s.attestRuns.get id = some r → Attesting c pubkey epoch r → r.slot = slot

/-- One run at most attests for the validator in the epoch, and no duty in store or about to
be stored is for another slot of the epoch. -/
structure Apart (c : Context) (pubkey : Pubkey) (epoch : ℤ) (s : State) : Prop where
  runs : ∀ i j r r', s.attestRuns.get i = some r → s.attestRuns.get j = some r' →
    Attesting c pubkey epoch r → Attesting c pubkey epoch r' → i = j
  store : ∀ d ∈ s.dutiesOf epoch, d.pubkey = pubkey → c.beaconChain.epoch d.slot = epoch →
    NotElsewhere c pubkey epoch s d.slot
  pending : ∀ u root batch rest, s.update = some u → u.phase = .proving root batch rest →
    u.epoch = epoch → ∀ d ∈ batch ++ rest.flatten, d.pubkey = pubkey →
      c.beaconChain.epoch d.slot = epoch → NotElsewhere c pubkey epoch s d.slot

/-- An answer with a new dependent root gives the validator no duty to come in another slot of
the epoch than the one `_attest` was started for. -/
def Unmoved (c : Context) (pubkey : Pubkey) (epoch : ℤ) (now : Moment) (s : State)
    (a : Action) : Prop :=
  ∀ x ∈ a.response, x.1 = epoch →
    s.attesterDutiesDependentRoots.get epoch ≠ some x.2.dependentRoot →
    ∀ d ∈ x.2.data, d.pubkey = pubkey → c.currentSlot now ≤ d.slot →
      c.beaconChain.epoch d.slot = epoch →
      ∀ r ∈ s.attestRuns.values, Attesting c pubkey epoch r → r.slot = d.slot

instance (c : Context) (pubkey : Pubkey) (epoch : ℤ) (now : Moment) (s : State) (a : Action) :
    Decidable (Unmoved c pubkey epoch now s a) := by
  unfold Unmoved
  infer_instance

lemma apart_init (duties : Dict ℤ Duties) (roots : Dict ℤ Root) :
    Apart c pubkey epoch (.init duties roots) where
  runs := by simp [State.init]
  store := by simp [State.init, NotElsewhere]
  pending := by simp [State.init]

lemma NotElsewhere.congr (hruns : s'.attestRuns = s.attestRuns) {slot : ℤ}
    (h : NotElsewhere c pubkey epoch s slot) : NotElsewhere c pubkey epoch s' slot := by
  unfold NotElsewhere
  rwa [hruns]

/-! ### The update -/

lemma apart_nextEpoch (h : Apart c pubkey epoch s) (u : UpdateRun) :
    Apart c pubkey epoch (s.nextEpoch c now u).1 := by
  have hruns := s.runs_nextEpoch c now u
  refine ⟨by rw [hruns]; exact h.runs, fun d hd hpk hslot => ?_, ?_⟩
  · rw [dutiesOf_nextEpoch] at hd
    split at hd
    · simp at hd
    · exact (h.store d hd hpk hslot).congr hruns
  · intro u' root batch rest hu' hphase
    rw [phase_nextEpoch hu'] at hphase
    cases hphase

/-- Entering the loop over the batches, with duties that are not elsewhere. -/
lemma apart_prove {u : UpdateRun} {root : Root} {batches : List (List AttesterDuty)}
    (hruns : ∀ i j r r', s.attestRuns.get i = some r → s.attestRuns.get j = some r' →
      Attesting c pubkey epoch r → Attesting c pubkey epoch r' → i = j)
    (hstore : ∀ d ∈ s.dutiesOf epoch, d.pubkey = pubkey → c.beaconChain.epoch d.slot = epoch →
      NotElsewhere c pubkey epoch s d.slot)
    (hbatches : u.epoch = epoch → ∀ d ∈ batches.flatten, d.pubkey = pubkey →
      c.beaconChain.epoch d.slot = epoch → NotElsewhere c pubkey epoch s d.slot) :
    Apart c pubkey epoch (s.prove c now u root batches).1 := by
  rcases s.prove_cases c now u root batches with ⟨-, he⟩ | ⟨batch, rest, hflat, -, he⟩
  · rw [he]
    -- a root is set, which the runs, the store and the update do not depend on
    have hset : Apart c pubkey epoch { s with
        update := none
        attesterDutiesDependentRoots := s.attesterDutiesDependentRoots.set u.epoch root } :=
      ⟨hruns, hstore, by simp⟩
    exact apart_nextEpoch hset u
  · rw [he]
    refine ⟨hruns, hstore, fun u' root' batch' rest' hu' hphase hepoch => ?_⟩
    obtain rfl := Option.some.inj hu'
    obtain ⟨rfl, rfl, rfl⟩ := UpdatePhase.proving.inj hphase
    rw [← hflat]
    exact hbatches hepoch

lemma apart_update (h : Apart c pubkey epoch s) (ha : a.updates)
    (hunmoved : Unmoved c pubkey epoch now s a) (hs : step c now s a = some (s', o)) :
    Apart c pubkey epoch s' := by
  cases updateEffect_of_step ha hs with
  | skipped => exact h
  | began u => exact apart_nextEpoch h u
  | repeated u u' => exact apart_nextEpoch h u'
  | failed => exact ⟨h.runs, h.store, by simp⟩
  | replaced u u' s₁ response hu hphase hroot hu' hs₁ =>
    subst hs₁
    refine apart_prove h.runs (fun d hd hpk hslot => ?_) fun hepoch d hd hpk hslot => ?_
    · rw [dutiesOf_set] at hd
      split at hd
      · simp at hd
      · exact h.store d hd hpk hslot
    · have hepoch' : u.epoch = epoch := by rwa [hu'] at hepoch
      have hdata : d ∈ response.data ∧ c.currentSlot now ≤ d.slot := by
        simp only [List.flatten_cons, List.flatten_nil, List.append_nil, List.mem_append,
          State.dueSoon, State.dueLater, List.mem_filter, decide_eq_true_eq] at hd
        rcases hd with ⟨hm, hsoon, -⟩ | ⟨hm, hlater⟩
        · exact ⟨hm, hsoon⟩
        · exact ⟨hm, by omega⟩
      intro id r hr hattesting
      refine hunmoved _ rfl hepoch' (hepoch' ▸ hroot) d hdata.1 hpk hdata.2 hslot r ?_ hattesting
      exact Dict.mem_values_iff.mpr ⟨id, hr⟩
  | proved u s₁ root batch batches signatures duties hu hphase hproofs hs₁ =>
    subst hs₁
    have hpending := h.pending u root batch batches hu hphase
    refine apart_prove h.runs (fun d hd hpk hslot => ?_) fun hepoch d hd hpk hslot => ?_
    · rw [dutiesOf_set] at hd
      split at hd
      · next hepoch =>
        rcases Finset.mem_union.mp hd with hd | hd
        · exact h.store d (hepoch ▸ hd) hpk hslot
        · -- it is one of the batch, with its proof
          have hbatch : d.toAttesterDuty ∈ batch := by
            rw [← map_withSelectionProofs hproofs]
            exact List.mem_map_of_mem (List.mem_toFinset.mp hd)
          exact hpending hepoch.symm _ (List.mem_append_left _ hbatch) hpk hslot
      · exact h.store d hd hpk hslot
    · exact hpending hepoch d (List.mem_append_right _ hd) hpk hslot

/-! ### The other steps -/

/-- A run that moves on is for the same slot and duties. -/
lemma Attesting.of_moves {r r' : AttestRun} {l : List (Pubkey × ℤ)} (hm : RunMoves r r' l) :
    Attesting c pubkey epoch r' ↔ Attesting c pubkey epoch r := by
  unfold Attesting
  rw [hm.slot_eq.1, hm.slot_eq.2]

lemma Apart.move (h : Apart c pubkey epoch s) {id : ℕ} {r r' : AttestRun}
    {l : List (Pubkey × ℤ)} (hget : s.attestRuns.get id = some r) (hm : RunMoves r r' l)
    (hruns : s'.attestRuns = s.attestRuns.set id r')
    (hstore : s'.dutiesOf epoch = s.dutiesOf epoch) (hupdate : s'.update = s.update) :
    Apart c pubkey epoch s' := by
  have hslot := hm.slot_eq.1
  -- every run now is for the slot and duties of a run before, under the same number
  have hbefore : ∀ i q, s'.attestRuns.get i = some q → Attesting c pubkey epoch q →
      ∃ q', s.attestRuns.get i = some q' ∧ Attesting c pubkey epoch q' ∧ q'.slot = q.slot := by
    rw [hruns]
    refine Dict.forall_set.mpr ⟨fun ha => ?_, fun i q _ hq ha => ⟨q, hq, ha, rfl⟩⟩
    exact ⟨r, hget, (Attesting.of_moves hm).mp ha, hslot.symm⟩
  have helse : ∀ slot, NotElsewhere c pubkey epoch s slot →
      NotElsewhere c pubkey epoch s' slot := by
    intro slot hold i q hq ha
    obtain ⟨q', hq', ha', he⟩ := hbefore i q hq ha
    exact he ▸ hold i q' hq' ha'
  refine ⟨fun i j q q' hq hq' ha ha' => ?_, fun d hd hpk hd' => ?_, ?_⟩
  · obtain ⟨p, hp, hpa, -⟩ := hbefore i q hq ha
    obtain ⟨p', hp', hpa', -⟩ := hbefore j q' hq' ha'
    exact h.runs i j p p' hp hp' hpa hpa'
  · exact helse _ (h.store d (hstore ▸ hd) hpk hd')
  · rw [hupdate]
    exact fun u root batch rest hu hphase hepoch d hd hpk hd' =>
      helse _ (h.pending u root batch rest hu hphase hepoch d hd hpk hd')

/-- A start takes the duties of its slot out of a store that has one for each validator. -/
lemma Apart.start (h : Apart c pubkey epoch s) (hone : OnePerValidator s) {id : ℕ} {slot : ℤ}
    (hlast : ∀ i r, s.attestRuns.get i = some r → r.slot < slot) :
    Apart c pubkey epoch
      ((s.popDutiesForSlot c slot).startAttest id slot (s.dutiesForSlot c slot)) := by
  have hsub : ∀ d ∈ ((s.popDutiesForSlot c slot).startAttest id slot
      (s.dutiesForSlot c slot)).dutiesOf epoch, d ∈ s.dutiesOf epoch ∧
      (epoch = c.beaconChain.epoch slot → d.slot ≠ slot) := by
    intro d hd
    have hd' : d ∈ (s.popDutiesForSlot c slot).dutiesOf epoch := hd
    rw [dutiesOf_pop] at hd'
    split_ifs at hd' with he
    · obtain ⟨hin, hout⟩ := Finset.mem_sdiff.mp hd'
      exact ⟨hin, fun _ hslot => hout (mem_dutiesForSlot.mpr ⟨he ▸ hin, hslot⟩)⟩
    · exact ⟨hd', fun he' => absurd he' he⟩
  -- the validator of the new run has its one duty of the epoch there
  have hnew : Attesting c pubkey epoch ⟨slot, s.dutiesForSlot c slot, .producing, none, ∅⟩ →
      epoch = c.beaconChain.epoch slot ∧
        ∃ d ∈ s.dutiesOf epoch, d.pubkey = pubkey ∧ d.slot = slot := by
    rintro ⟨he, d, hd, hpk⟩
    obtain ⟨hin, hslot⟩ := mem_dutiesForSlot.mp hd
    have he' : c.beaconChain.epoch slot = epoch := he
    exact ⟨he'.symm, d, he' ▸ hin, hpk, hslot⟩
  have hother : ∀ i r, s.attestRuns.get i = some r → Attesting c pubkey epoch r →
      ¬ Attesting c pubkey epoch ⟨slot, s.dutiesForSlot c slot, .producing, none, ∅⟩ := by
    intro i r hr ha hstart
    obtain ⟨he, d, hd, hpk, hslot⟩ := hnew hstart
    have hsame : r.slot = d.slot := h.store d hd hpk (hslot ▸ he.symm) i r hr ha
    have hlater := hlast i r hr
    omega
  refine ⟨?_, fun d hd hpk hepoch => ?_, fun u root batch rest hu hphase hue d hd hpk hepoch => ?_⟩
  · intro i j r r' hr hr' ha ha'
    simp only [State.startAttest, State.popDutiesForSlot, Dict.get_set] at hr hr'
    split_ifs at hr hr' with hi hj hj
    · exact hi.trans hj.symm
    · obtain rfl := Option.some.inj hr
      exact absurd ha (hother j r' hr' ha')
    · obtain rfl := Option.some.inj hr'
      exact absurd ha' (hother i r hr ha)
    · exact h.runs i j r r' hr hr' ha ha'
  · obtain ⟨hin, hout⟩ := hsub d hd
    refine Dict.forall_set.mpr ⟨fun ha => ?_, fun i r _ hr ha => h.store d hin hpk hepoch i r hr ha⟩
    obtain ⟨he, d', hd', hpk', hslot⟩ := hnew ha
    have hsame := hone.store epoch d hin d' hd' (hpk.trans hpk'.symm)
    exact absurd (hsame ▸ hslot) (hout he)
  · refine Dict.forall_set.mpr ⟨fun ha => ?_, fun i r _ hr ha =>
      h.pending u root batch rest hu hphase hue d hd hpk hepoch i r hr ha⟩
    obtain ⟨-, d', hd', hpk', -⟩ := hnew ha
    have hnot := (hone.pending u root batch rest hu hphase).2 d' (hue ▸ hd')
    exact absurd (List.mem_map.mpr ⟨d, hd, hpk.trans hpk'.symm⟩) hnot

lemma apart_step (h : Apart c pubkey epoch s) (hone : OnePerValidator s) (ho : Orderly s os)
    (hunmoved : Unmoved c pubkey epoch now s a) (hs : step c now s a = some (s', o)) :
    Apart c pubkey epoch s' := by
  by_cases ha : a.updates
  · exact apart_update h ha hunmoved hs
  · cases effect_of_step ha hs with
    | scheduled | late => exact ⟨h.runs, h.store, h.pending⟩
    | attempted id slot new attempt =>
      have hjobs : Apart c pubkey epoch { s with jobs := s.jobs.erase slot } :=
        ⟨h.runs, h.store, h.pending⟩
      cases attempt with
      | refused => exact hjobs
      | idle none =>
        refine ⟨h.runs, fun d hd hpk hd' => h.store d ?_ hpk hd', h.pending⟩
        rw [dutiesOf_pop] at hd
        split at hd
        · exact (Finset.mem_sdiff.mp hd).1
        · exact hd
      | started _ later =>
        refine hjobs.start ⟨hone.store, hone.pending⟩ fun i r hr => ?_
        have hle := ho.rising.le r.slot (ho.runs i r hr)
        omega
    | moved id r r' completed get moves => exact h.move get moves rfl rfl rfl

/-! ### Signatures -/

/-- What was signed for the validator in the epoch was signed by a run that attests for it. -/
def SignedByRun (c : Context) (pubkey : Pubkey) (epoch : ℤ) (s : State) (os : List Output) : Prop :=
  ∀ p ∈ signed os, p.1 = pubkey → c.beaconChain.epoch p.2 = epoch →
    ∃ id r, s.attestRuns.get id = some r ∧ Attesting c pubkey epoch r ∧ r.slot = p.2

lemma SignedByRun.keep (h : SignedByRun c pubkey epoch s os) (hsigned : signed o = [])
    (hruns : ∀ id r, s.attestRuns.get id = some r → Attesting c pubkey epoch r →
      ∃ r', s'.attestRuns.get id = some r' ∧ Attesting c pubkey epoch r' ∧ r'.slot = r.slot) :
    SignedByRun c pubkey epoch s' (os ++ o) := by
  intro p hp hpk hepoch
  rw [signed_append, hsigned, List.append_nil] at hp
  obtain ⟨id, r, hr, ha, hslot⟩ := h p hp hpk hepoch
  obtain ⟨r', hr', ha', hslot'⟩ := hruns id r hr ha
  exact ⟨id, r', hr', ha', hslot'.trans hslot⟩

lemma signedByRun_step (h : SignedByRun c pubkey epoch s os) (hsigned : SignedOnce s os)
    (hs : step c now s a = some (s', o)) : SignedByRun c pubkey epoch s' (os ++ o) := by
  by_cases ha : a.updates
  · obtain ⟨-, -, hruns, -, hnone⟩ := update_frame ha hs
    exact h.keep hnone fun id r hr hatt => ⟨r, by rwa [hruns], hatt, rfl⟩
  · cases effect_of_step ha hs with
    | scheduled | late => exact h.keep rfl fun id r hr hatt => ⟨r, hr, hatt, rfl⟩
    | attempted id slot new attempt =>
      cases attempt with
      | refused => exact h.keep rfl fun id r hr hatt => ⟨r, hr, hatt, rfl⟩
      | idle _ _ _ hnone => exact h.keep hnone fun id r hr hatt => ⟨r, hr, hatt, rfl⟩
      | started _ _ _ _ hnone =>
        refine h.keep hnone fun i r hr hatt => ⟨r, ?_, hatt, rfl⟩
        have hne : i ≠ id := fun he => by simp [he, new] at hr
        simpa [State.startAttest, State.popDutiesForSlot, hne] using hr
    | moved id r r' completed get moves =>
      have hslot := moves.slot_eq.1
      have hiff : Attesting c pubkey epoch r' ↔ Attesting c pubkey epoch r :=
        Attesting.of_moves moves
      have hruns : ∀ i q, s.attestRuns.get i = some q → Attesting c pubkey epoch q →
          ∃ q', (s.attestRuns.set id r').get i = some q' ∧ Attesting c pubkey epoch q' ∧
            q'.slot = q.slot := by
        intro i q hq hatt
        by_cases hi : i = id
        · subst hi
          obtain rfl := Option.some.inj (get.symm.trans hq)
          exact ⟨r', by simp, hiff.mpr hatt, hslot⟩
        · exact ⟨q, by simp [hi, hq], hatt, rfl⟩
      generalize hl : signed o = l at moves
      cases moves with
      | data | ended => exact h.keep hl hruns
      | signature duty mem =>
        intro p hp hpk hepoch
        rw [signed_append, hl] at hp
        rcases List.mem_append.mp hp with hp | hp
        · obtain ⟨i, q, hq, hatt, hq'⟩ := h p hp hpk hepoch
          obtain ⟨q', hq'', hatt', hslot'⟩ := hruns i q hq hatt
          exact ⟨i, q', hq'', hatt', hslot'.trans hq'⟩
        · obtain rfl := List.mem_singleton.mp hp
          refine ⟨id, { r with unsigned := r.unsigned.erase duty }, by simp,
            ⟨hepoch, duty, ?_, hpk⟩, rfl⟩
          exact (hsigned.unsigned id r get).1 mem

/-- What bounds the signatures of one validator and epoch: their slots are those of one run. -/
lemma length_signed_le_one (h : Apart c pubkey epoch s) (hby : SignedByRun c pubkey epoch s os)
    (hsigned : SignedOnce s os) :
    ((signed os).filter fun p => p.1 = pubkey ∧ c.beaconChain.epoch p.2 = epoch).length ≤ 1 := by
  have hnodup := hsigned.nodup.filter fun p => p.1 = pubkey ∧ c.beaconChain.epoch p.2 = epoch
  rw [← List.toFinset_card_of_nodup hnodup, Finset.card_le_one]
  intro p hp q hq
  simp only [List.mem_toFinset, List.mem_filter, decide_eq_true_eq] at hp hq
  obtain ⟨hp, hpk, hpe⟩ := hp
  obtain ⟨hq, hqk, hqe⟩ := hq
  obtain ⟨i, r, hr, ha, hslot⟩ := hby p hp hpk hpe
  obtain ⟨j, r', hr', ha', hslot'⟩ := hby q hq hqk hqe
  obtain rfl := h.runs i j r r' hr hr' ha ha'
  obtain rfl := Option.some.inj (hr.symm.trans hr')
  exact Prod.ext (hpk.trans hqk.symm) (hslot.symm.trans hslot')

end Vero.AttestationService

namespace Vero.Services

open Lib Lib.Runs SchemaBeaconAPI

variable {c : Context} {s₀ s s' : State} {a : Action} {as : List Action} {o os : List Output}
variable {pubkey : Pubkey} {epoch : ℤ}

/-- The answers of beacon nodes have one duty at most for a validator, and do not move this one
within the epoch after `_attest` was started for it. -/
abbrev Unmoved (c : Context) (pubkey : Pubkey) (epoch : ℤ) : Guard State Action Output :=
  fun s os a => OnePerValidator s os a ∧
    ∀ b ∈ a.ofAttestation, AttestationService.Unmoved c pubkey epoch s.now s.attestation b

lemma onePerValidator_run (b : Boots (step c) OnePerValidator Fresh Reboot s₀)
    (r : RunIf (step c) OnePerValidator s₀ as s os) :
    AttestationService.OnePerValidator s.attestation := by
  refine r.invariant (I := fun s _ => AttestationService.OnePerValidator s.attestation)
    (onePerValidator_of_boots b) ?_
  intro s os a s' o h ha hs
  exact onePerValidator_step h ha hs

lemma apart_run (b : Boots (step c) OnePerValidator Fresh Reboot s₀)
    (r : RunIf (step c) (Unmoved c pubkey epoch) s₀ as s os) :
    AttestationService.Apart c pubkey epoch s.attestation ∧
      AttestationService.SignedByRun c pubkey epoch s.attestation (attestationOutputs os) := by
  induction r with
  | nil =>
    obtain ⟨⟨duties, roots, hinit⟩, -⟩ := started_of_boots b
    rw [hinit]
    exact ⟨AttestationService.apart_init duties roots,
      fun p hp => by simp [attestationOutputs] at hp⟩
  | snoc r hC hs ih =>
    obtain ⟨hapart, hby⟩ := ih
    have hrun := r.mono (D := OnePerValidator) fun _ _ _ h => h.1
    rw [attestationOutputs_append]
    rcases attestation_of_step hs with ⟨b', o', rfl, ht, rfl, -⟩ | ⟨he, ho, -⟩
    · refine ⟨?_, AttestationService.signedByRun_step hby (signedOnce_run b hrun) ht⟩
      exact AttestationService.apart_step hapart (onePerValidator_run b hrun)
        (orderly_run b hrun).1 (hC.2 _ rfl) ht
    · rw [he, ho, List.append_nil]
      exact ⟨hapart, hby⟩

/-- **How often a validator attests in an epoch.** Where beacon nodes have one duty for a
validator at most, no two attestation signatures are for one validator and slot. Where no
answer moves a validator within an epoch after `_attest` was started for it there, at most one
is for that validator and epoch. -/
theorem one_attestation_per_epoch (b : Boots (step c) OnePerValidator Fresh Reboot s₀)
    (r : RunIf (step c) OnePerValidator s₀ as s os) :
    (AttestationService.signed (attestationOutputs os)).Nodup ∧
    ∀ pubkey epoch, RunIf (step c) (Unmoved c pubkey epoch) s₀ as s os →
      ((AttestationService.signed (attestationOutputs os)).filter fun p =>
        p.1 = pubkey ∧ c.beaconChain.epoch p.2 = epoch).length ≤ 1 := by
  have hsigned := signedOnce_run b r
  refine ⟨hsigned.nodup, fun pubkey epoch r' => ?_⟩
  obtain ⟨hapart, hby⟩ := apart_run b r'
  exact AttestationService.length_signed_le_one hapart hby hsigned

/-- The validator attests in slot 1, and the duties arrive again under another root. -/
def sameDutyAgain : List Action :=
  activated :: attesterUpdate "0x1" [attesterDuty 1] ++ attested ++
    attesterUpdate "0x2" [attesterDuty 1]

theorem one_attestation_per_epoch_again : ∃ s os,
    Run (step (mainnet id)) fresh sameDutyAgain s os ∧
    AttestationService.signed (attestationOutputs os) = [("0xa", 1)] ∧
    ((AttestationService.signed (attestationOutputs os)).filter fun p =>
      p.1 = "0xa" ∧ (mainnet id).beaconChain.epoch p.2 = 0).length ≤ 1 := by
  obtain ⟨s, os, r, hp⟩ := @exec_any _ _ _ (step (mainnet id)) (Unmoved (mainnet id) "0xa" 0) fresh
    sameDutyAgain _ (fun _ os => AttestationService.signed (attestationOutputs os) = [("0xa", 1)])
    (by decide +kernel)
  have hrun := r.mono (D := OnePerValidator) fun _ _ _ h => h.1
  exact ⟨s, os, r.run, of_decide_eq_true hp,
    (one_attestation_per_epoch (.fresh ⟨rfl, rfl, rfl⟩) hrun).2 "0xa" 0 r⟩

/-- After the validator attested in slot 1, an answer under another root has its duty in slot
2. -/
def movedToNextSlot : List Action :=
  activated :: attesterUpdate "0x1" [attesterDuty 1] ++ attested ++
    attesterUpdate "0x2" [attesterDuty 2] ++
    [.clock 1606824047, .attestation (.onNewSlot 2),
      .attestation (.handleHeadEvent 1 ⟨2, "0xd", "0xp", "0xc"⟩),
      .attestation (.attestationData 1 ⟨"2", "0", "0xd", ⟨"0", "0xs"⟩, ⟨"0", "0xt"⟩⟩),
      .attestation (.requestSignature 1 (.fromDuty (attesterDuty 2) true [1]))]

/-- Both slots are of epoch 0. -/
theorem attests_twice_in_epoch : ∃ as s os, Fresh fresh ∧
    RunIf (step (mainnet id)) OnePerValidator fresh as s os ∧
    AttestationService.signed (attestationOutputs os) = [("0xa", 1), ("0xa", 2)] ∧
    (mainnet id).beaconChain.epoch 1 = 0 ∧ (mainnet id).beaconChain.epoch 2 = 0 := by
  obtain ⟨s, os, r, hp⟩ := @exec_any _ _ _ (step (mainnet id)) OnePerValidator fresh
    movedToNextSlot _
    (fun _ os => AttestationService.signed (attestationOutputs os) = [("0xa", 1), ("0xa", 2)])
    (by decide +kernel)
  exact ⟨movedToNextSlot, s, os, ⟨rfl, rfl, rfl⟩, r, of_decide_eq_true hp, by decide, by decide⟩

end Vero.Services
