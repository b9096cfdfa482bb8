import Vero.Services

/-!
The job that attests at the deadline of a slot.

The slot handler schedules it, and every attempt to attest removes it, also one that finds no
duty. A duty of the slot that an update stores after that has no job.
-/

namespace Vero.AttestationService

open Lib SchemaBeaconAPI

variable {c : Context} {now now' : Moment} {s s' : State} {a : Action} {o os : List Output}

/-- The slot handler has run for the current slot, its deadline is ahead, and no attestation
was started for it. -/
def Due (c : Context) (now : Moment) (s : State) (os : List Output) : Prop :=
  .jobScheduled (c.currentSlot now) ∈ os ∧
    now.time < c.beaconChain.attestationDeadline (c.currentSlot now) ∧
    now.tracker.slashingDetected = false ∧ s.lastSlotDutyStartedFor < c.currentSlot now

instance : Decidable (Due c now s os) := inferInstanceAs (Decidable (_ ∧ _))

/-- The epoch a step adds duties to, with the duties. -/
def State.arriving (c : Context) (s : State) :
    Action → Option (ℤ × List AttesterDutyWithSelectionProof)
  | .selectionProofs signatures =>
    s.update.bind fun u =>
      match u.phase with
      | .fetching => none
      | .proving _ batch _ =>
        (withSelectionProofs c batch signatures).map fun duties => (u.epoch, duties)
  | _ => none

/-- A duty of the current slot arrives only while the job of the slot is there, if it is due. -/
def Backed (c : Context) (now : Moment) (s : State) (os : List Output) (a : Action) : Prop :=
  ∀ x ∈ s.arriving c a, x.1 = c.currentEpoch now → (∃ d ∈ x.2, d.slot = c.currentSlot now) →
    Due c now s os → c.currentSlot now ∈ s.jobs

instance : Decidable (Backed c now s os a) := inferInstanceAs (Decidable (∀ x ∈ _, _))

/-- The jobs scheduled are of no later slot, and a duty that is due has its job. -/
structure Scheduling (c : Context) (now : Moment) (s : State) (os : List Output) : Prop where
  past : ∀ slot, .jobScheduled slot ∈ os → slot ≤ c.currentSlot now
  job : Due c now s os → s.hasDutyForSlot c (c.currentSlot now) → c.currentSlot now ∈ s.jobs

lemma Scheduling.later (h : Scheduling c now s os) (htime : now.time ≤ now'.time)
    (hflag : now.tracker.slashingDetected = true → now'.tracker.slashingDetected = true) :
    Scheduling c now' s os := by
  have hslot : c.currentSlot now ≤ c.currentSlot now' := c.beaconChain.currentSlot_mono htime
  refine ⟨fun slot hs => ?_, fun hdue hduty => ?_⟩
  · calc slot ≤ c.currentSlot now := h.past slot hs
      _ ≤ c.currentSlot now' := hslot
  obtain ⟨hhandled, hearly, hundetected, hlast⟩ := hdue
  -- the job of a slot is not scheduled before the slot
  have hsame : c.currentSlot now' = c.currentSlot now := le_antisymm (h.past _ hhandled) hslot
  rw [hsame] at hhandled hearly hlast hduty ⊢
  refine h.job ⟨hhandled, htime.trans_lt hearly, ?_, hlast⟩ hduty
  refine Bool.eq_false_of_not_eq_true fun hold => ?_
  simp [hflag hold] at hundetected

/-! ### Duties of the current slot -/

lemma dutiesOf_prove (u : UpdateRun) (root : Root) (batches : List (List AttesterDuty)) :
    (s.prove c now u root batches).1.dutiesOf (c.currentEpoch now) =
      s.dutiesOf (c.currentEpoch now) := by
  rcases s.prove_cases c now u root batches with ⟨-, he⟩ | ⟨batch, rest, -, -, he⟩
  · rw [he, dutiesOf_nextEpoch, if_neg fun h => lt_irrefl _ h.2]
    rfl
  · rw [he]
    rfl

lemma hasDutyForSlot_iff : s.hasDutyForSlot c (c.currentSlot now) ↔
    ∃ d ∈ s.dutiesOf (c.currentEpoch now), d.slot = c.currentSlot now := by
  simp only [State.hasDutyForSlot, Finset.Nonempty, mem_dutiesForSlot]
  rfl

lemma hasDutyForSlot_pop {slot : ℤ} : ¬ (s.popDutiesForSlot c slot).hasDutyForSlot c slot := by
  rintro ⟨d, hd⟩
  obtain ⟨hin, hslot⟩ := mem_dutiesForSlot.mp hd
  rw [dutiesOf_pop, if_pos rfl] at hin
  obtain ⟨hold, hnot⟩ := Finset.mem_sdiff.mp hin
  exact hnot (mem_dutiesForSlot.mpr ⟨hold, hslot⟩)

/-- A step of the update leads to a duty of the current slot that was there, or arrived. -/
lemma hasDuty_of_update (ha : a.updates) (hs : step c now s a = some (s', o))
    (h : s'.hasDutyForSlot c (c.currentSlot now)) : s.hasDutyForSlot c (c.currentSlot now) ∨
      ∃ x ∈ s.arriving c a, x.1 = c.currentEpoch now ∧
        ∃ d ∈ x.2, d.slot = c.currentSlot now := by
  rw [hasDutyForSlot_iff] at h ⊢
  obtain ⟨d, hd, hslot⟩ := h
  cases updateEffect_of_step ha hs with
  | skipped | failed => exact .inl ⟨d, hd, hslot⟩
  | began u | repeated _ u =>
    rw [dutiesOf_nextEpoch, if_neg fun h => lt_irrefl _ h.2] at hd
    exact .inl ⟨d, hd, hslot⟩
  | replaced u u' s₁ response _ _ _ _ hs₁ =>
    subst hs₁
    rw [dutiesOf_prove, dutiesOf_set] at hd
    split_ifs at hd
    · simp at hd
    · exact .inl ⟨d, hd, hslot⟩
  | proved u s₁ root batch batches signatures duties hupdate hphase hproofs hs₁ =>
    subst hs₁
    rw [dutiesOf_prove, dutiesOf_set] at hd
    split_ifs at hd with hepoch
    · rcases Finset.mem_union.mp hd with hold | hnew
      · exact .inl ⟨d, hepoch ▸ hold, hslot⟩
      · refine .inr ⟨(u.epoch, duties), ?_, hepoch.symm, d, List.mem_toFinset.mp hnew, hslot⟩
        simp [State.arriving, hupdate, hphase, hproofs]
    · exact .inl ⟨d, hd, hslot⟩

lemma mem_arriving {x : ℤ × List AttesterDutyWithSelectionProof} (hx : x ∈ s.arriving c a) :
    ∃ signatures u root batch batches, a = .selectionProofs signatures ∧ s.update = some u ∧
      u.phase = .proving root batch batches ∧ u.epoch = x.1 ∧
      State.withSelectionProofs c batch signatures = some x.2 := by
  cases a with
  | selectionProofs signatures =>
    obtain ⟨u, hu, hx⟩ := Option.bind_eq_some_iff.mp hx
    split at hx
    · simp at hx
    · next root batch batches hphase =>
      obtain ⟨duties, hproofs, rfl⟩ := Option.map_eq_some_iff.mp hx
      exact ⟨signatures, u, root, batch, batches, rfl, hu, hphase, rfl, hproofs⟩
  | _ => simp [State.arriving] at hx

/-- What arrives is stored, at a step that neither starts an attestation nor adds a job. -/
lemma hasDuty_of_arriving (hs : step c now s a = some (s', o))
    {x : ℤ × List AttesterDutyWithSelectionProof} (hx : x ∈ s.arriving c a)
    (hepoch : x.1 = c.currentEpoch now) (hd : ∃ d ∈ x.2, d.slot = c.currentSlot now) :
    s'.hasDutyForSlot c (c.currentSlot now) ∧
      s'.lastSlotDutyStartedFor = s.lastSlotDutyStartedFor ∧ s'.jobs = s.jobs := by
  obtain ⟨signatures, u, root, batch, batches, rfl, hu, hphase, he, hproofs⟩ := mem_arriving hx
  obtain ⟨hlast, hjobs, -⟩ := update_frame (a := .selectionProofs signatures) trivial hs
  refine ⟨?_, hlast, hjobs⟩
  have hstep : step c now s (.selectionProofs signatures) =
      some (s.selectionProofs c now u root batch batches signatures) := by
    simp only [step, hu, Option.bind_some, hphase]
  have hs' := congrArg Prod.fst (Option.some.inj (hs.symm.trans hstep))
  simp only [State.selectionProofs, hproofs] at hs'
  obtain ⟨d, hd, hslot⟩ := hd
  rw [hasDutyForSlot_iff]
  refine ⟨d, ?_, hslot⟩
  rw [hs', dutiesOf_prove, dutiesOf_set, if_pos (he.trans hepoch).symm]
  exact Finset.mem_union_right _ (List.mem_toFinset.mpr hd)

lemma scheduling_step (h : Scheduling c now s os)
    (hnew : ∀ slot, a = .onNewSlot slot → slot ≤ c.currentSlot now)
    (hbacked : Backed c now s os a) (hs : step c now s a = some (s', o)) :
    Scheduling c now s' (os ++ o) := by
  refine ⟨fun slot hslot => ?_, fun hdue hduty => ?_⟩
  · rcases List.mem_append.mp hslot with hold | hnow
    · exact h.past slot hold
    · exact hnew slot (output_of_step hs _ hnow)
  · obtain ⟨hhandled, hearly, hundetected, hlast⟩ := hdue
    rcases List.mem_append.mp hhandled with hin | hnow
    · by_cases hu : a.updates
      · obtain ⟨hlast', hjobs, -⟩ := update_frame hu hs
        rw [hlast'] at hlast
        rw [hjobs]
        have hdue : Due c now s os := ⟨hin, hearly, hundetected, hlast⟩
        rcases hasDuty_of_update hu hs hduty with hold | ⟨x, hx, hepoch, hd⟩
        · exact h.job hdue hold
        · exact hbacked x hx hepoch hd hdue
      · cases effect_of_step hu hs with
        | scheduled slot =>
          exact Finset.mem_insert_of_mem (h.job ⟨hin, hearly, hundetected, hlast⟩ hduty)
        | late | moved => exact h.job ⟨hin, hearly, hundetected, hlast⟩ hduty
        | attempted id slot new attempt =>
          cases attempt with
          | refused why =>
            have hne : slot ≠ c.currentSlot now := by
              rintro rfl
              rcases why with hrefuses | hstarted | hslot
              · simp [hrefuses.1] at hundetected
              · exact absurd hlast (not_lt.mpr hstarted)
              · exact hslot rfl
            refine Finset.mem_erase.mpr ⟨hne.symm, ?_⟩
            exact h.job ⟨hin, hearly, hundetected, hlast⟩ hduty
          | idle _ current =>
            subst current
            exact absurd hduty hasDutyForSlot_pop
          | started _ _ current => exact absurd hlast (current ▸ lt_irrefl _)
    · -- the step is the slot handler, which has just scheduled the job
      obtain rfl : a = .onNewSlot (c.currentSlot now) := output_of_step hs _ hnow
      obtain ⟨rfl, -⟩ := Prod.mk.inj (Option.some.inj hs)
      exact Finset.mem_insert_self _ _

end Vero.AttestationService

namespace Vero.Services

open Lib Lib.Runs SchemaBeaconAPI AttestationService

variable {c : Context} {s₀ s s' : State} {a : Action} {as : List Action} {o os : List Output}

/-- A clock that does not go back, and a slot handler that runs for slots that have begun. -/
abbrev Ticking (c : Context) : Guard State Action Output := fun s os a =>
  Forward s os a ∧ ∀ slot ∈ a.newSlot, slot ≤ c.currentSlot s.now

/-- No duty of the current slot arrives after its job was removed, while it is due. -/
abbrev Backed (c : Context) : Guard State Action Output := fun s os a =>
  ∀ b ∈ a.ofAttestation, AttestationService.Backed c s.now s.attestation (attestationOutputs os) b

lemma scheduling_next (h : Scheduling c s.now s.attestation (attestationOutputs os))
    (htick : Ticking c s os a) (hbacked : Backed c s os a) (hs : step c s a = some (s', o)) :
    Scheduling c s'.now s'.attestation (attestationOutputs (os ++ o)) := by
  rw [attestationOutputs_append]
  rcases attestation_or_later htick.1 hs with ⟨b, o', rfl, ht, rfl, hnow⟩ | ⟨he, ho, htime⟩
  · rw [hnow]
    refine scheduling_step h (fun slot hb => ?_) (hbacked b rfl) ht
    subst hb
    exact htick.2 slot rfl
  · rw [he, ho, List.append_nil]
    exact h.later htime (slashingDetected_stays hs)

/-- A duty that arrives when its job is gone is left without one. -/
lemma backed_of_job (hs : step c s a = some (s', o))
    (h : Due c s'.now s'.attestation (attestationOutputs (os ++ o)) →
      s'.attestation.hasDutyForSlot c (c.currentSlot s'.now) →
      c.currentSlot s'.now ∈ s'.attestation.jobs) : Backed c s os a := by
  intro b hb x hx hepoch hd hdue
  obtain rfl := eq_of_ofAttestation hb
  obtain ⟨⟨t, o'⟩, ht, he⟩ := Option.map_eq_some_iff.mp hs
  obtain ⟨rfl, rfl⟩ := Prod.mk.inj he
  obtain ⟨hduty, hlast, hjobs⟩ := hasDuty_of_arriving ht hx hepoch hd
  rw [← hjobs]
  refine h ⟨?_, hdue.2.1, hdue.2.2.1, ?_⟩ hduty
  · rw [attestationOutputs_append]
    exact List.mem_append_left _ hdue.1
  · exact hlast ▸ hdue.2.2.2

/-- **No attestation duty is stranded** as long as no duty of the current slot arrives after
its job was removed, and one that does is. -/
theorem job_scheduled_iff (hstart : ∃ duties roots, s₀.attestation = .init duties roots)
    (r : RunIf (step c) (fun s os a => Ticking c s os a ∧ Backed c s os a) s₀ as s os) :
    (Due c s.now s.attestation (attestationOutputs os) →
      s.attestation.hasDutyForSlot c (c.currentSlot s.now) →
      c.currentSlot s.now ∈ s.attestation.jobs) ∧
    ∀ a s' o, Ticking c s os a → step c s a = some (s', o) →
      (Backed c s os a ↔ (Due c s'.now s'.attestation (attestationOutputs (os ++ o)) →
        s'.attestation.hasDutyForSlot c (c.currentSlot s'.now) →
        c.currentSlot s'.now ∈ s'.attestation.jobs)) := by
  obtain ⟨duties, roots, hinit⟩ := hstart
  have hrun : Scheduling c s.now s.attestation (attestationOutputs os) := by
    refine r.invariant (I := fun s os => Scheduling c s.now s.attestation (attestationOutputs os))
      ?_ ?_
    · rw [hinit]
      exact ⟨by simp [attestationOutputs], by simp [Due, attestationOutputs]⟩
    · intro s os a s' o h hguard hs
      exact scheduling_next h hguard.1 hguard.2 hs
  refine ⟨hrun.job, fun a s' o htick hs => ⟨fun hbacked => ?_, backed_of_job hs⟩⟩
  have hnext := scheduling_next hrun htick hbacked hs
  exact hnext.job

/-! ### A duty that arrives after the head event -/

/-- The duty of slot 1 is stored before the slot handler runs. -/
def inTime : List Action :=
  activated :: attesterUpdate "0xA" [attesterDuty 1] ++ [.attestation (.onNewSlot 1)]

theorem job_scheduled_iff_inTime : ∃ s os, Run (step (mainnet id)) fresh inTime s os ∧
    s.attestation.hasDutyForSlot (mainnet id) 1 ∧ 1 ∈ s.attestation.jobs := by
  obtain ⟨s, os, r, hp⟩ := @exec_any _ _ _ (step (mainnet id))
    (fun s os a => Ticking (mainnet id) s os a ∧ Backed (mainnet id) s os a) fresh inTime _
    (fun s os => (mainnet id).currentSlot s.now = 1 ∧
      Due (mainnet id) s.now s.attestation (attestationOutputs os) ∧
      s.attestation.hasDutyForSlot (mainnet id) 1) (by decide +kernel)
  obtain ⟨hslot, hdue, hduty⟩ := of_decide_eq_true hp
  have h := (job_scheduled_iff ⟨∅, ∅, rfl⟩ r).1 hdue
  rw [hslot] at h
  exact ⟨s, os, r.run, hduty, h hduty⟩

/-- The head event arrives while an update awaits the selection proof of the duty. -/
def overtaken : List Action :=
  [activated, .attestation .updateDuties,
    .attestation (.dutiesResponse 0 ⟨"0xA", [attesterDuty 1]⟩), .attestation (.onNewSlot 1),
    .attestation (.handleHeadEvent 0 ⟨1, "0xb", "0xp", "0xc"⟩),
    .attestation (.selectionProofs [("0xa", [1])])]

/-- The deadline is four seconds ahead, and no job is left to perform it. -/
theorem overtaken_without_job : ∃ as s os,
    RunIf (step (mainnet id)) (Ticking (mainnet id)) fresh as s os ∧
    Due (mainnet id) s.now s.attestation (attestationOutputs os) ∧
    s.attestation.hasDutyForSlot (mainnet id) ((mainnet id).currentSlot s.now) ∧
    (mainnet id).currentSlot s.now ∉ s.attestation.jobs := by
  obtain ⟨s, os, r, hp⟩ := @exec_any _ _ _ (step (mainnet id)) (Ticking (mainnet id)) fresh
    overtaken _ (fun s os => Due (mainnet id) s.now s.attestation (attestationOutputs os) ∧
      s.attestation.hasDutyForSlot (mainnet id) ((mainnet id).currentSlot s.now) ∧
      (mainnet id).currentSlot s.now ∉ s.attestation.jobs) (by decide +kernel)
  exact ⟨overtaken, s, os, r, of_decide_eq_true hp⟩

end Vero.Services
