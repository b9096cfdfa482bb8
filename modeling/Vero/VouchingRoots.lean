import Vero.CoveredDuties
import Vero.Services

/-!
What a stored dependent root says about the stored attester duties.

An update empties the store of an epoch, refills it in batches with awaits between them, and
sets the dependent root last. Until then the root of an earlier response stays.
-/

namespace Vero.AttestationService

open Lib SchemaBeaconAPI

variable {c : Context} {now now' : Moment} {s s' : State} {a : Action} {o : List Output}

/-- Every stored dependent root vouches for the duties beacon nodes return with it. -/
def Vouches (c : Context) (answer : ℤ → Root → List AttesterDuty) (now : Moment) (s : State) :
    Prop :=
  ∀ e r, s.attesterDutiesDependentRoots.get e = some r →
    Covers (c.currentSlot now) (s.dutiesOf e) (answer e r) []

/-- The duties of the epoch being refilled are stored or in the batches left. -/
structure Vouching (c : Context) (answer : ℤ → Root → List AttesterDuty) (now : Moment)
    (s : State) : Prop where
  vouches : Vouches c answer now s
  proving : ∀ u root batch batches, s.update = some u → u.phase = .proving root batch batches →
    Covers (c.currentSlot now) (s.dutiesOf u.epoch) (answer u.epoch root)
      (batch ++ batches.flatten)

variable {answer : ℤ → Root → List AttesterDuty}

lemma vouches_iff : Vouches c answer now s ↔
    ∀ e root, s.attesterDutiesDependentRoots.get e = some root →
      ∀ d ∈ answer e root, c.currentSlot now < d.slot →
        ∃ p ∈ s.dutiesOf e, p.toAttesterDuty = d := by
  simp [Vouches, Covers]

lemma Vouching.later (h : Vouching c answer now s)
    (hnow : c.currentSlot now ≤ c.currentSlot now') : Vouching c answer now' s where
  vouches e r hr := (h.vouches e r hr).mono hnow fun _ hp _ => hp
  proving u root batch batches hu hphase :=
    (h.proving u root batch batches hu hphase).mono hnow fun _ hp _ => hp

lemma root_nextEpoch (u : UpdateRun) (e : ℤ) :
    (s.nextEpoch c now u).1.attesterDutiesDependentRoots.get e =
      if u.epochs = [] ∧ e < c.currentEpoch now then none
      else s.attesterDutiesDependentRoots.get e := by
  unfold State.nextEpoch
  split
  · next hnil =>
    simp only [State.pruneDuties, Dict.get_filterKeys, decide_eq_true_eq]
    by_cases he : e < c.currentEpoch now
    · rw [if_neg (not_le.mpr he), if_pos ⟨hnil, he⟩]
    · rw [if_pos (not_lt.mp he), if_neg fun h => he h.2]
  · next hcons => rw [if_neg fun h => by simp [h.1] at hcons]

/-- Duties and roots of an epoch are pruned together. -/
lemma vouching_nextEpoch (h : Vouches c answer now s) (u : UpdateRun) :
    Vouching c answer now (s.nextEpoch c now u).1 where
  vouches := by
    intro e r hr
    rw [root_nextEpoch] at hr
    rw [dutiesOf_nextEpoch]
    split_ifs at hr ⊢
    exact h e r hr
  proving := by
    intro u' root batch batches hu' hphase
    rw [phase_nextEpoch hu'] at hphase
    cases hphase

/-- Going on with the batches of an epoch. Where none is left the root is set, and vouches for
what is stored; where the update suspends, the root that stands there has to. -/
lemma vouching_prove {u : UpdateRun} {root : Root} {batches : List (List AttesterDuty)}
    (hother : ∀ e r, e ≠ u.epoch → s.attesterDutiesDependentRoots.get e = some r →
      Covers (c.currentSlot now) (s.dutiesOf e) (answer e r) [])
    (hnew : Covers (c.currentSlot now) (s.dutiesOf u.epoch) (answer u.epoch root) batches.flatten)
    (hold : batches.flatten ≠ [] → ∀ r, s.attesterDutiesDependentRoots.get u.epoch = some r →
      Covers (c.currentSlot now) (s.dutiesOf u.epoch) (answer u.epoch r) []) :
    Vouching c answer now (s.prove c now u root batches).1 := by
  rcases s.prove_cases c now u root batches with ⟨hflat, he⟩ | ⟨batch, rest, hflat, hne, he⟩
  · rw [he]
    refine vouching_nextEpoch (fun e r hr => ?_) u
    rw [Dict.get_set] at hr
    split_ifs at hr with heq
    · obtain rfl := Option.some.inj hr
      rw [heq, ← hflat]
      exact hnew
    · exact hother e r heq hr
  · rw [he]
    have hsome : batches.flatten ≠ [] := by simp [hflat, hne]
    refine ⟨fun e r hr => ?_, fun u' root' batch' rest' hu' hphase => ?_⟩
    · by_cases heq : e = u.epoch
      · subst heq
        exact hold hsome r hr
      · exact hother e r heq hr
    · obtain rfl := Option.some.inj hu'
      obtain ⟨rfl, rfl, rfl⟩ := UpdatePhase.proving.inj hphase
      rw [← hflat]
      exact hnew

/-- A response that is going to be processed: the duties of the dependent root stored for its
epoch are over, or it has no duties to prove. -/
def Replaceable (c : Context) (answer : ℤ → Root → List AttesterDuty) (now : Moment) (s : State)
    (epoch : ℤ) (response : GetAttesterDutiesResponse) : Prop :=
  ∀ r ∈ s.attesterDutiesDependentRoots.get epoch, r ≠ response.dependentRoot →
    (∃ d ∈ response.data, c.currentSlot now ≤ d.slot) →
    ∀ d ∈ answer epoch r, d.slot ≤ c.currentSlot now

instance (epoch : ℤ) (response : GetAttesterDutiesResponse) :
    Decidable (Replaceable c answer now s epoch response) :=
  inferInstanceAs (Decidable (∀ r ∈ _, _))

lemma vouching_step (h : Vouching c answer now s)
    (hanswer : ∀ x ∈ a.response, x.2.data = answer x.1 x.2.dependentRoot)
    (hreplace : ∀ x ∈ a.response, Replaceable c answer now s x.1 x.2)
    (hs : step c now s a = some (s', o)) : Vouching c answer now s' := by
  by_cases hu : a.updates
  · cases updateEffect_of_step hu hs with
    | skipped => exact h
    | began u => exact vouching_nextEpoch h.vouches u
    | repeated u u' => exact vouching_nextEpoch h.vouches u'
    | failed => exact ⟨h.vouches, by simp⟩
    | replaced u u' s₁ response hupdate hfetching hroot hu' hs₁ =>
      subst hu' hs₁
      have hdata : response.data = answer u.epoch response.dependentRoot := hanswer _ rfl
      refine vouching_prove (fun e r he hr => ?_) ?_ fun hsome r hr => ?_
      · have hkept := h.vouches e r hr
        rwa [dutiesOf_set, if_neg he]
      · rw [← hdata]
        exact covers_due response
      · obtain ⟨d, hd⟩ := List.exists_mem_of_ne_nil _ hsome
        refine covers_past (hreplace _ rfl r hr ?_ ⟨d, mem_due.mp hd⟩)
        rintro rfl
        exact hroot hr
    | proved u s₁ root batch batches signatures duties hupdate hphase hproofs hs₁ =>
      subst hs₁
      have hpending := h.proving u root batch batches hupdate hphase
      refine vouching_prove (fun e r he hr => ?_) ?_ fun _ r hr => ?_
      · have hkept := h.vouches e r hr
        rwa [dutiesOf_set, if_neg he]
      · rw [dutiesOf_set, if_pos rfl]
        exact hpending.store (map_withSelectionProofs hproofs)
      · rw [dutiesOf_set, if_pos rfl]
        exact (h.vouches u.epoch r hr).mono le_rfl fun p hp _ => Finset.mem_union_left _ hp
  · -- an attempt to attest takes duties of the current slot only
    have heffect := effect_of_step hu hs
    obtain ⟨hupdate, hroots, -⟩ := heffect.store
    refine ⟨fun e r hr => ?_, fun u root batch batches hu' hphase => ?_⟩
    · rw [hroots] at hr
      exact (h.vouches e r hr).mono le_rfl fun p => heffect.keeps
    · rw [hupdate] at hu'
      exact (h.proving u root batch batches hu' hphase).mono le_rfl fun p => heffect.keeps

/-- A response that must not be processed breaks the root it replaces: the store of its epoch
is empty while the root stands. -/
lemma not_vouches_of_step {epoch : ℤ} {response : GetAttesterDutiesResponse}
    (hbad : ¬ Replaceable c answer now s epoch response)
    (hs : step c now s (.dutiesResponse epoch response) = some (s', o)) :
    ¬ Vouches c answer now s' := by
  simp only [Replaceable, not_forall, not_le, exists_prop] at hbad
  obtain ⟨r, hr, hne, ⟨d', hd', hdue⟩, d, hd, hlater⟩ := hbad
  cases updateEffect_of_step (a := .dutiesResponse epoch response) trivial hs with
  | repeated u u' response _ _ hroot => exact absurd (Option.some.inj (hr.symm.trans hroot)) hne
  | failed _ noResponse => exact absurd rfl (noResponse epoch response)
  | replaced u u' s₁ response hupdate hfetching hroot hu' hs₁ =>
    subst hu' hs₁
    intro hv
    have hmem := mem_due.mpr ⟨hd', hdue⟩
    rcases State.prove_cases c now _ _ _ _ with ⟨hflat, -⟩ | ⟨batch, rest, -, -, he⟩
    · exact List.not_mem_nil (hflat ▸ hmem)
    · rw [he] at hv
      rcases hv u.epoch r hr d hd hlater with ⟨p, hp, -⟩ | hnone
      · simp [State.dutiesOf] at hp
      · simp at hnone

end Vero.AttestationService

namespace Vero.Services

open Lib Lib.Runs SchemaBeaconAPI AttestationService

variable {c : Context} {s₀ s s' : State} {a : Action} {as : List Action} {o os : List Output}
variable {answer : ℤ → Root → List AttesterDuty}

/-- Nodes give the same duties for the same epoch and dependent root, and the clock does not
go back. -/
abbrev Consistent (answer : ℤ → Root → List AttesterDuty) : Guard State Action Output :=
  fun s os a => Forward s os a ∧ ∀ x ∈ a.response, x.2.data = answer x.1 x.2.dependentRoot

/-- No response replaces a stored dependent root while duties that came with it are due. -/
abbrev Settled (c : Context) (answer : ℤ → Root → List AttesterDuty) :
    Guard State Action Output :=
  fun s _ a => ∀ x ∈ a.response, Replaceable c answer s.now s.attestation x.1 x.2

abbrev Guarded (c : Context) (answer : ℤ → Root → List AttesterDuty) : Guard State Action Output :=
  fun s os a => Consistent answer s os a ∧ Settled c answer s os a

/-- A process starts with the duties of an earlier one, and after it. -/
def Restart (s s' : State) : Prop := Reboot s s' ∧ s.time ≤ s'.time

lemma vouching_run (hstart : Vouching c answer s₀.now s₀.attestation)
    (r : RunIf (step c) (Guarded c answer) s₀ as s os) :
    Vouching c answer s.now s.attestation := by
  refine r.invariant (I := fun s _ => Vouching c answer s.now s.attestation) hstart ?_
  intro s os a s' o h ⟨⟨hclock, hanswer⟩, hsettled⟩ hs
  rcases attestation_or_later hclock hs with ⟨b, o', rfl, ht, -, hnow⟩ | ⟨he, -, hlater⟩
  · rw [hnow]
    exact vouching_step h hanswer hsettled ht
  · rw [he]
    exact h.later (c.beaconChain.currentSlot_mono hlater)

lemma vouching_of_boots (b : Boots (step c) (Guarded c answer) Fresh Restart s₀) :
    Vouching c answer s₀.now s₀.attestation := by
  have hnone : ∀ now, Vouching c answer now (.init ∅ ∅) := fun now =>
    ⟨by simp [Vouches, AttestationService.State.init], by
      simp [AttestationService.State.init]⟩
  refine b.invariant (P := fun s => Vouching c answer s.now s.attestation) ?_ ?_ ?_
  · intro s h
    rw [h.2.1]
    exact hnone _
  · intro s₀ as s os h r
    exact vouching_run h r
  · rintro s s' h ⟨hreboot, htime⟩
    rcases hreboot.2.1 with he | he
    · have hlater : Vouching c answer s'.now s.attestation :=
        h.later (c.beaconChain.currentSlot_mono htime)
      rw [he]
      exact ⟨hlater.vouches, by simp [AttestationService.State.init]⟩
    · rw [he]
      exact hnone _

/-- **A stored dependent root vouches for the stored duties** as long as no response replaces
it while duties that came with it are due, and a response that does breaks it. -/
theorem root_vouches_iff (b : Boots (step c) (Guarded c answer) Fresh Restart s₀)
    (r : RunIf (step c) (Guarded c answer) s₀ as s os) :
    (∀ e root, s.attestation.attesterDutiesDependentRoots.get e = some root →
      ∀ d ∈ answer e root, c.currentSlot s.now < d.slot →
        ∃ p ∈ s.attestation.dutiesOf e, p.toAttesterDuty = d) ∧
    ∀ a s' o, Consistent answer s os a → step c s a = some (s', o) →
      (Settled c answer s os a ↔
        ∀ e root, s'.attestation.attesterDutiesDependentRoots.get e = some root →
          ∀ d ∈ answer e root, c.currentSlot s'.now < d.slot →
            ∃ p ∈ s'.attestation.dutiesOf e, p.toAttesterDuty = d) := by
  have hrun := vouching_run (vouching_of_boots b) r
  refine ⟨vouches_iff.mp hrun.vouches, fun a s' o hconsistent hs => ?_⟩
  rw [← vouches_iff]
  constructor
  · intro hsettled
    exact (vouching_run (vouching_of_boots b) (r.snoc ⟨hconsistent, hsettled⟩ hs)).vouches
  · rintro hv ⟨epoch, response⟩ hx
    by_contra hbad
    obtain rfl := eq_of_response hx
    obtain ⟨⟨t, o'⟩, ht, he⟩ := Option.map_eq_some_iff.mp hs
    obtain ⟨rfl, -⟩ := Prod.mk.inj he
    exact not_vouches_of_step hbad ht hv

/-! ### A root that came back -/

/-- The dependent root of epoch 0 changes, the update that replaces its duties fails, and the
root changes back. -/
def cameBack : List Action :=
  activated :: attesterUpdate "0xA" [attesterDuty 5] ++
    [.attestation .updateDuties, .attestation (.dutiesResponse 0 ⟨"0xB", [attesterDuty 6]⟩),
      .attestation .updateFailed, .attestation .updateDuties,
      .attestation (.dutiesResponse 0 ⟨"0xA", [attesterDuty 5]⟩),
      .attestation (.dutiesResponse 1 ⟨"0xA", []⟩)]

def answers (epoch : ℤ) (root : Root) : List AttesterDuty :=
  if epoch = 0 then
    if root = "0xA" then [attesterDuty 5] else if root = "0xB" then [attesterDuty 6] else []
  else []

/-- The root stands for a duty of slot 5, and no duty is stored. -/
theorem cameBack_unvouched : ∃ answer as s os,
    RunIf (step (mainnet id)) (Consistent answer) fresh as s os ∧
    ∃ e root, s.attestation.attesterDutiesDependentRoots.get e = some root ∧
      ∃ d ∈ answer e root, (mainnet id).currentSlot s.now < d.slot ∧
        ¬ ∃ p ∈ s.attestation.dutiesOf e, p.toAttesterDuty = d := by
  obtain ⟨s, os, r, hp⟩ := @exec_any _ _ _ (step (mainnet id)) (Consistent answers) fresh cameBack _
    (fun s _ => s.attestation.attesterDutiesDependentRoots.get 0 = some "0xA" ∧
      (mainnet id).currentSlot s.now = 1 ∧ s.attestation.dutiesOf 0 = ∅) (by decide +kernel)
  obtain ⟨hroot, hslot, hnone⟩ := of_decide_eq_true hp
  refine ⟨answers, cameBack, s, os, r, 0, "0xA", hroot, attesterDuty 5, by decide, ?_⟩
  rw [hslot, hnone]
  decide

theorem root_vouches_iff_once : ∃ s os, Run (step (mainnet id)) fresh once s os ∧
    s.attestation.attesterDutiesDependentRoots.get 0 = some "0xA" ∧
    ∃ p ∈ s.attestation.dutiesOf 0, p.toAttesterDuty = attesterDuty 5 := by
  obtain ⟨s, os, r, hp⟩ := @exec_any _ _ _ (step (mainnet id)) (Guarded (mainnet id) answers)
    fresh once _ (fun s _ => s.attestation.attesterDutiesDependentRoots.get 0 = some "0xA" ∧
      (mainnet id).currentSlot s.now = 1) (by decide +kernel)
  obtain ⟨hroot, hslot⟩ := of_decide_eq_true hp
  refine ⟨s, os, r.run, hroot, (root_vouches_iff (.fresh ⟨rfl, rfl, rfl⟩) r).1 0 "0xA" hroot
    (attesterDuty 5) (by decide) ?_⟩
  rw [hslot]
  decide

end Vero.Services
