import Mathlib.Data.Int.ConditionallyCompleteOrder
import Vero.AttestationSteps

/-!
The slots `AttestationService` attests to, and what it signs for them.

The guard on the last slot started keeps the slots of all starts rising, whatever the clock
and the updates of the duties do. What one run signs is bounded by its duties, of which every
validator has at most one.
-/

namespace Vero.AttestationService

open Lib Lib.Runs SchemaBeaconAPI

variable {c : Context} {now : Moment} {s s' : State} {a : Action} {o os : List Output}

/-! ### Starts -/

/-- The slots of the starts rise, and every run is the only one of a slot started. -/
structure Orderly (s : State) (os : List Output) : Prop where
  rising : Rising (starts os) s.lastSlotDutyStartedFor
  runs : ∀ id r, s.attestRuns.get id = some r → r.slot ∈ starts os
  distinct : s.attestRuns.Distinct (fun _ => True) AttestRun.slot

lemma orderly_init (duties : Dict ℤ Duties) (roots : Dict ℤ Root) :
    Orderly (.init duties roots) [] where
  rising := .nil _
  runs := by simp [State.init]
  distinct := by simp [State.init, Dict.Distinct]

lemma RunMoves.slot_eq {r r' : AttestRun} {l : List (Pubkey × ℤ)} (h : RunMoves r r' l) :
    r'.slot = r.slot ∧ r'.duties = r.duties := by
  cases h with
  | data | ended | signature => exact ⟨rfl, rfl⟩

lemma Orderly.keep (h : Orderly s os) (hlast : s'.lastSlotDutyStartedFor = s.lastSlotDutyStartedFor)
    (hruns : s'.attestRuns = s.attestRuns) (hstarts : starts o = []) : Orderly s' (os ++ o) where
  rising := by simpa [hstarts, hlast] using h.rising
  runs := by simpa [hstarts, hruns] using h.runs
  distinct := hruns ▸ h.distinct

/-- Another run is of another slot. -/
lemma Orderly.slot_ne (h : Orderly s os) {i j : ℕ} {r r' : AttestRun}
    (hi : s.attestRuns.get i = some r) (hj : s.attestRuns.get j = some r') (hne : i ≠ j) :
    r.slot ≠ r'.slot :=
  fun he => hne (h.distinct i j r r' hi hj trivial trivial he)

lemma orderly_step (h : Orderly s os) (hs : step c now s a = some (s', o)) :
    Orderly s' (os ++ o) := by
  by_cases ha : a.updates
  · obtain ⟨hlast, -, hruns, hstarts, -⟩ := update_frame ha hs
    exact h.keep hlast hruns hstarts
  · cases effect_of_step ha hs with
    | scheduled | late => exact h.keep rfl rfl rfl
    | attempted id slot new attempt =>
      cases attempt with
      | refused => exact h.keep rfl rfl rfl
      | idle _ _ hstarts => exact h.keep rfl rfl hstarts
      | started _ later _ hstarts =>
        -- the slot is beyond every slot started before
        have hnew := h.rising.notMem later
        refine ⟨?_, ?_, h.distinct.set fun _ i r _ hr _ he => hnew ?_⟩
        · rw [starts_append, hstarts]
          exact h.rising.snoc later
        · rw [starts_append, hstarts]
          refine Dict.forall_set.mpr ⟨by simp, fun i r _ hr => ?_⟩
          exact List.mem_append_left _ (h.runs i r hr)
        · have hslot : r.slot = slot := he
          exact hslot ▸ h.runs i r hr
    | moved id r r' completed get moves hstarts =>
      have hslot := moves.slot_eq.1
      have hruns : ∀ i q, (s.attestRuns.set id r').get i = some q → q.slot ∈ starts os :=
        Dict.forall_set.mpr ⟨hslot ▸ h.runs id r get, fun i q _ hq => h.runs i q hq⟩
      refine ⟨by simpa [hstarts] using h.rising, by simpa [hstarts] using hruns, ?_⟩
      refine h.distinct.set fun _ i q hi hq _ => ?_
      rw [hslot]
      exact h.slot_ne hq get hi

/-- `_attest` starts behind its guards only. -/
lemma start_guarded (hs : step c now s a = some (s', o)) {slot : ℤ} (h : slot ∈ starts o) :
    ¬ c.refuses now ∧ slot = c.currentSlot now := by
  by_cases ha : a.updates
  · simp [(update_frame ha hs).2.2.2.1] at h
  · cases effect_of_step ha hs with
    | scheduled | late => simp [starts] at h
    | attempted id slot' new attempt =>
      cases attempt with
      | refused => simp at h
      | idle _ _ hstarts => simp [hstarts] at h
      | started accepts _ current hstarts =>
        rw [hstarts, List.mem_singleton] at h
        exact ⟨accepts, h.trans current⟩
    | moved _ _ _ _ _ _ hstarts => simp [hstarts] at h

/-- A signature is asked for by a run, so its slot was started. -/
lemma signed_started (ho : Orderly s os) (hs : step c now s a = some (s', o)) {p : Pubkey × ℤ}
    (hp : p ∈ signed o) : p.2 ∈ starts os := by
  by_cases ha : a.updates
  · simp [(update_frame ha hs).2.2.2.2] at hp
  · cases effect_of_step ha hs with
    | scheduled | late => simp [signed] at hp
    | attempted id slot new attempt =>
      cases attempt with
      | refused => simp at hp
      | idle _ _ _ hsigned | started _ _ _ _ hsigned => simp [hsigned] at hp
    | moved id r r' completed get moves =>
      generalize signed o = l at moves hp
      cases moves with
      | data | ended => simp at hp
      | signature duty mem =>
        rw [List.mem_singleton] at hp
        exact hp ▸ ho.runs id r get

/-! ### One duty per validator -/

/-- No two duties are of one validator. -/
def OnePer (duties : Duties) : Prop :=
  ∀ d ∈ duties, ∀ d' ∈ duties, d.pubkey = d'.pubkey → d = d'

/-- Every epoch has at most one duty per validator, also with those still to be stored. -/
structure OnePerValidator (s : State) : Prop where
  store : ∀ e, OnePer (s.dutiesOf e)
  pending : ∀ u root batch rest, s.update = some u → u.phase = .proving root batch rest →
    ((batch ++ rest.flatten).map AttesterDuty.pubkey).Nodup ∧
      ∀ d ∈ s.dutiesOf u.epoch, d.pubkey ∉ (batch ++ rest.flatten).map AttesterDuty.pubkey

lemma OnePer.mono {duties duties' : Duties} (h : OnePer duties) (hs : duties' ⊆ duties) :
    OnePer duties' := fun d hd d' hd' => h d (hs hd) d' (hs hd')

lemma onePer_empty : OnePer ∅ := fun d hd => by simp at hd

/-- Adding duties of validators that have none yet. -/
lemma onePer_union {duties : Duties} {l : List AttesterDutyWithSelectionProof}
    {b : List AttesterDuty} (h : OnePer duties)
    (hl : l.map AttesterDutyWithSelectionProof.toAttesterDuty = b)
    (hb : (b.map AttesterDuty.pubkey).Nodup)
    (hnew : ∀ d ∈ duties, d.pubkey ∉ b.map AttesterDuty.pubkey) : OnePer (duties ∪ l.toFinset) := by
  have hkeys : l.map (fun d => d.pubkey) = b.map AttesterDuty.pubkey := by
    rw [← hl, List.map_map]
    rfl
  have hin : ∀ d ∈ l, d.pubkey ∈ b.map AttesterDuty.pubkey := fun d hd =>
    hkeys ▸ List.mem_map_of_mem hd
  have hinj : ∀ d ∈ l, ∀ d' ∈ l, d.pubkey = d'.pubkey → d = d' := fun d hd d' hd' =>
    List.inj_on_of_nodup_map (hkeys ▸ hb) hd hd'
  intro d hd d' hd' he
  rcases Finset.mem_union.mp hd with hd | hd <;> rcases Finset.mem_union.mp hd' with hd' | hd'
  · exact h d hd d' hd' he
  · exact absurd (he ▸ hin d' (List.mem_toFinset.mp hd')) (hnew d hd)
  · exact absurd (he ▸ hin d (List.mem_toFinset.mp hd)) (hnew d' hd')
  · exact hinj d (List.mem_toFinset.mp hd) d' (List.mem_toFinset.mp hd') he

lemma onePerValidator_init {duties : Dict ℤ Duties} {roots : Dict ℤ Root}
    (h : ∀ e, OnePer (duties.getD e ∅)) : OnePerValidator (.init duties roots) where
  store := h
  pending := by simp [State.init]

lemma onePer_nextEpoch (h : ∀ e, OnePer (s.dutiesOf e)) (u : UpdateRun) :
    OnePerValidator (s.nextEpoch c now u).1 where
  store := by
    intro e
    rw [dutiesOf_nextEpoch]
    split
    · exact onePer_empty
    · exact h e
  pending := by
    intro u' root batch rest hu' hphase
    rw [phase_nextEpoch hu'] at hphase
    cases hphase

/-- Entering the loop over the batches, with duties of validators that have none yet. -/
lemma onePer_prove {u : UpdateRun} {root : Root} {batches : List (List AttesterDuty)}
    (h : ∀ e, OnePer (s.dutiesOf e)) (hb : (batches.flatten.map AttesterDuty.pubkey).Nodup)
    (hnew : ∀ d ∈ s.dutiesOf u.epoch, d.pubkey ∉ batches.flatten.map AttesterDuty.pubkey) :
    OnePerValidator (s.prove c now u root batches).1 := by
  rcases s.prove_cases c now u root batches with ⟨-, he⟩ | ⟨batch, rest, hflat, -, he⟩
  · rw [he]
    refine onePer_nextEpoch ?_ u
    exact h
  · rw [he]
    refine ⟨h, fun u' root' batch' rest' hu' hphase => ?_⟩
    obtain rfl := Option.some.inj hu'
    obtain ⟨rfl, rfl, rfl⟩ := UpdatePhase.proving.inj hphase
    rw [← hflat]
    exact ⟨hb, hnew⟩

lemma nodup_due {response : GetAttesterDutiesResponse}
    (h : (response.data.map AttesterDuty.pubkey).Nodup) :
    ([State.dueSoon c now response, State.dueLater c now response].flatten.map
      AttesterDuty.pubkey).Nodup := by
  have hsub : ∀ p : AttesterDuty → Bool,
      ((response.data.filter p).map AttesterDuty.pubkey).Nodup := fun p =>
    h.sublist (List.filter_sublist.map _)
  simp only [List.flatten_cons, List.flatten_nil, List.append_nil, List.map_append]
  refine List.nodup_append.mpr ⟨hsub _, hsub _, fun x hx y hy he => ?_⟩
  obtain ⟨d, hd, rfl⟩ := List.mem_map.mp hx
  obtain ⟨d', hd', rfl⟩ := List.mem_map.mp hy
  obtain ⟨hm, hsoon⟩ := List.mem_filter.mp hd
  obtain ⟨hm', hlater⟩ := List.mem_filter.mp hd'
  obtain rfl := List.inj_on_of_nodup_map h hm hm' he
  simp only [decide_eq_true_eq] at hsoon hlater
  omega

lemma onePerValidator_step (h : OnePerValidator s)
    (ha : ∀ x ∈ a.response, (x.2.data.map AttesterDuty.pubkey).Nodup)
    (hs : step c now s a = some (s', o)) : OnePerValidator s' := by
  by_cases hu : a.updates
  · cases updateEffect_of_step hu hs with
    | skipped => exact h
    | began u => exact onePer_nextEpoch h.store u
    | repeated u u' => exact onePer_nextEpoch h.store u'
    | failed => exact ⟨h.store, by simp⟩
    | replaced u u' s₁ response _ _ _ hu' hs₁ =>
      subst hs₁
      refine onePer_prove (fun e => ?_) (nodup_due (ha _ rfl)) ?_
      · rw [dutiesOf_set]
        split
        · exact onePer_empty
        · exact h.store e
      · rw [hu', dutiesOf_set]
        simp
    | proved u s₁ root batch batches signatures duties hupdate hphase hproofs hs₁ =>
      subst hs₁
      obtain ⟨hnodup, hnew⟩ := h.pending u root batch batches hupdate hphase
      have hmap := map_withSelectionProofs hproofs
      rw [List.map_append, List.nodup_append] at hnodup
      simp only [List.map_append, List.mem_append, not_or] at hnew
      refine onePer_prove (fun e => ?_) hnodup.2.1 ?_
      · rw [dutiesOf_set]
        split
        · exact onePer_union (h.store _) hmap hnodup.1 fun d hd => (hnew d hd).1
        · exact h.store e
      · rw [dutiesOf_set, if_pos rfl]
        intro d hd
        rcases Finset.mem_union.mp hd with hd | hd
        · exact (hnew d hd).2
        · have hb : d.pubkey ∈ batch.map AttesterDuty.pubkey := by
            rw [← hmap, List.map_map]
            exact List.mem_map_of_mem (List.mem_toFinset.mp hd)
          exact fun hr => hnodup.2.2 _ hb _ hr rfl
  · obtain ⟨hupdate, -, hstore⟩ := (effect_of_step hu hs).store
    refine ⟨fun e => (h.store e).mono (hstore e).1, fun u root batch rest hu' hphase => ?_⟩
    obtain ⟨hnodup, hnew⟩ := h.pending u root batch rest (hupdate ▸ hu') hphase
    exact ⟨hnodup, fun d hd => hnew d ((hstore _).1 hd)⟩

/-! ### Signatures -/

/-- What was signed belongs to a slot started, and what a run has yet to sign was not signed
before. -/
structure SignedOnce (s : State) (os : List Output) : Prop where
  nodup : (signed os).Nodup
  started : ∀ p ∈ signed os, p.2 ∈ starts os
  onePer : ∀ id r, s.attestRuns.get id = some r → OnePer r.duties
  producing : ∀ id r, s.attestRuns.get id = some r → r.phase = .producing →
    r.unsigned = ∅ ∧ ∀ p ∈ signed os, p.2 ≠ r.slot
  unsigned : ∀ id r, s.attestRuns.get id = some r → r.unsigned ⊆ r.duties ∧
    ∀ d ∈ r.unsigned, (d.pubkey, r.slot) ∉ signed os

lemma signedOnce_init (duties : Dict ℤ Duties) (roots : Dict ℤ Root) :
    SignedOnce (.init duties roots) [] where
  nodup := by simp
  started := by simp
  onePer := by simp [State.init]
  producing := by simp [State.init]
  unsigned := by simp [State.init]

lemma SignedOnce.keep (h : SignedOnce s os) (hruns : s'.attestRuns = s.attestRuns)
    (hsigned : signed o = []) : SignedOnce s' (os ++ o) where
  nodup := by simpa [hsigned] using h.nodup
  started := fun p hp => by
    rw [signed_append, hsigned, List.append_nil] at hp
    simp [h.started p hp]
  onePer := by simpa [hruns] using h.onePer
  producing := by simpa [hruns, hsigned] using h.producing
  unsigned := by simpa [hruns, hsigned] using h.unsigned

/-- Setting a run that asks for no signature at this step. -/
lemma SignedOnce.set (h : SignedOnce s os) {id : ℕ} {r : AttestRun}
    (hruns : s'.attestRuns = s.attestRuns.set id r) (hsigned : signed o = [])
    (hone : OnePer r.duties)
    (hproducing : r.phase = .producing → r.unsigned = ∅ ∧ ∀ p ∈ signed os, p.2 ≠ r.slot)
    (hunsigned : r.unsigned ⊆ r.duties ∧ ∀ d ∈ r.unsigned, (d.pubkey, r.slot) ∉ signed os) :
    SignedOnce s' (os ++ o) := by
  have hos : signed (os ++ o) = signed os := by rw [signed_append, hsigned, List.append_nil]
  refine ⟨hos ▸ h.nodup, fun p hp => ?_, ?_, ?_, ?_⟩
  · simp [h.started p (hos ▸ hp)]
  all_goals rw [hruns]
  · exact Dict.forall_set.mpr ⟨hone, fun i q _ => h.onePer i q⟩
  · rw [hos]
    exact Dict.forall_set.mpr ⟨hproducing, fun i q _ => h.producing i q⟩
  · rw [hos]
    exact Dict.forall_set.mpr ⟨hunsigned, fun i q _ => h.unsigned i q⟩

/-- The signature of a duty that was not asked for before, by the only run of its slot. -/
lemma SignedOnce.sign (h : SignedOnce s os) {id : ℕ} {r : AttestRun}
    {duty : AttesterDutyWithSelectionProof} (hget : s.attestRuns.get id = some r)
    (hmem : duty ∈ r.unsigned) (hslot : r.slot ∈ starts os)
    (hother : ∀ i q, i ≠ id → s.attestRuns.get i = some q → q.slot ≠ r.slot)
    (hruns : s'.attestRuns =
      s.attestRuns.set id { r with unsigned := r.unsigned.erase duty })
    (hsigned : signed o = [(duty.pubkey, r.slot)]) : SignedOnce s' (os ++ o) := by
  obtain ⟨hsub, hnew⟩ := h.unsigned id r hget
  have hos : ∀ p, p ∈ signed (os ++ o) ↔ p ∈ signed os ∨ p = (duty.pubkey, r.slot) := by
    simp [hsigned]
  refine ⟨?_, fun p hp => ?_, ?_, ?_, ?_⟩
  · rw [signed_append, hsigned]
    exact h.nodup.append (List.nodup_singleton _) (List.disjoint_singleton.mpr (hnew duty hmem))
  · rw [starts_append]
    rcases (hos p).mp hp with hp | rfl
    · exact List.mem_append_left _ (h.started p hp)
    · exact List.mem_append_left _ hslot
  all_goals rw [hruns]
  · exact Dict.forall_set.mpr ⟨h.onePer id r hget, fun i q _ => h.onePer i q⟩
  · refine Dict.forall_set.mpr ⟨fun hphase => ?_, fun i q hi hq hphase => ?_⟩
    · -- a run still producing has no task that signs
      exact absurd ((h.producing id r hget hphase).1 ▸ hmem) (by simp)
    · obtain ⟨hnone, hp⟩ := h.producing i q hq hphase
      refine ⟨hnone, fun p hm => ?_⟩
      rcases (hos p).mp hm with hm | rfl
      · exact hp p hm
      · exact (hother i q hi hq).symm
  · refine Dict.forall_set.mpr ⟨?_, fun i q hi hq => ?_⟩
    · refine ⟨(Finset.erase_subset _ _).trans hsub, fun d hd hm => ?_⟩
      obtain ⟨hne, hd⟩ := Finset.mem_erase.mp hd
      rcases (hos _).mp hm with hm | he
      · exact hnew d hd hm
      · exact hne (h.onePer id r hget d (hsub hd) duty (hsub hmem) (Prod.mk.inj he).1)
    · obtain ⟨hs, hn⟩ := h.unsigned i q hq
      refine ⟨hs, fun d hd hm => ?_⟩
      rcases (hos _).mp hm with hm | he
      · exact hn d hd hm
      · exact hother i q hi hq (Prod.mk.inj he).2

lemma signedOnce_step (h : SignedOnce s os) (ho : Orderly s os) (hone : OnePerValidator s)
    (hs : step c now s a = some (s', o)) : SignedOnce s' (os ++ o) := by
  by_cases ha : a.updates
  · obtain ⟨-, -, hruns, -, hsigned⟩ := update_frame ha hs
    exact h.keep hruns hsigned
  · cases effect_of_step ha hs with
    | scheduled | late => exact h.keep rfl rfl
    | attempted id slot new attempt =>
      cases attempt with
      | refused => exact h.keep rfl rfl
      | idle _ _ _ hsigned => exact h.keep rfl hsigned
      | started _ later _ _ hsigned =>
        have hfresh : ∀ p ∈ signed os, p.2 ≠ slot := fun p hp he =>
          ho.rising.notMem later (he ▸ h.started p hp)
        refine h.set rfl hsigned ?_ (fun _ => ⟨rfl, hfresh⟩) (by simp)
        exact (hone.store _).mono (Finset.filter_subset _ _)
    | moved id r r' completed get moves =>
      generalize hl : signed o = l at moves
      obtain ⟨hsub, hnew⟩ := h.unsigned id r get
      cases moves with
      | data attData producing =>
        have hp := (h.producing id r get producing).2
        exact h.set rfl hl (h.onePer id r get) (by simp)
          ⟨Finset.Subset.refl _, fun d _ hm => hp _ hm rfl⟩
      | ended => exact h.set rfl hl (h.onePer id r get) (by simp) ⟨hsub, hnew⟩
      | signature duty mem =>
        exact h.sign get mem (ho.runs id r get) (fun i q hi hq => ho.slot_ne hq get hi) rfl hl

end Vero.AttestationService
