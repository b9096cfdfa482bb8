import Vero.CoveredDuties
import Vero.Services

/-!
What an update that ends normally has stored of the responses it received, and with which proofs.

A response that repeats the stored dependent root is not processed, whatever its duties.
-/

namespace Vero.AttestationService

open Lib SchemaBeaconAPI

variable {c : Context} {now now' : Moment} {s s' : State} {a : Action} {o : List Output}
variable {duties rest : List AttesterDuty}

/-- The epochs an update works on, with those it has its response for. -/
def UpdateRun.asked (u : UpdateRun) : List ℤ :=
  match u.phase with
  | .fetching => u.received.map Prod.fst ++ u.epoch :: u.epochs
  | .proving _ _ _ => u.received.map Prod.fst ++ u.epochs

/-- The duties of an epoch whose proofs are not there yet. -/
def UpdateRun.pending (u : UpdateRun) (epoch : ℤ) : List AttesterDuty :=
  match u.phase with
  | .fetching => []
  | .proving _ batch batches => if epoch = u.epoch then batch ++ batches.flatten else []

/-- An update has asked for two epochs one after the other, and what it received is stored or
pending. -/
structure Receiving (c : Context) (now : Moment) (s : State) : Prop where
  asked : ∀ u, s.update = some u → ∃ e, u.asked = [e, e + 1]
  covered : ∀ u, s.update = some u → ∀ x ∈ u.received,
    Covers (c.currentSlot now) (s.dutiesOf x.1) x.2.data (u.pending x.1)
  inEpoch : ∀ u, s.update = some u → ∀ x ∈ u.received, ∀ d ∈ x.2.data,
    c.beaconChain.epoch d.slot = x.1

/-- The responses of an update that ended are of two epochs, and all that is later than the
current slot is stored. -/
def Complete (c : Context) (now : Moment) (s : State)
    (received : List (ℤ × GetAttesterDutiesResponse)) : Prop :=
  (∃ e, received.map Prod.fst = [e, e + 1]) ∧
    ∀ x ∈ received, Covers (c.currentSlot now) (s.dutiesOf x.1) x.2.data []

/-- A step leads to a state that covers what its update received, and ends none that is not
complete. -/
structure Delivers (c : Context) (now : Moment) (s' : State) (o : List Output) : Prop where
  receiving : Receiving c now s'
  complete : ∀ received, .dutiesUpdated received ∈ o → Complete c now s' received

lemma Receiving.later (h : Receiving c now s) (hnow : c.currentSlot now ≤ c.currentSlot now') :
    Receiving c now' s where
  asked := h.asked
  covered u hu x hx := (h.covered u hu x hx).mono hnow fun _ hp _ => hp
  inEpoch := h.inEpoch

/-- Only duties of past epochs are pruned. -/
lemma covers_nextEpoch {e : ℤ} (h : Covers (c.currentSlot now) (s.dutiesOf e) duties rest)
    (hin : ∀ d ∈ duties, c.beaconChain.epoch d.slot = e) (u : UpdateRun) :
    Covers (c.currentSlot now) ((s.nextEpoch c now u).1.dutiesOf e) duties rest := by
  rw [dutiesOf_nextEpoch]
  split
  · next hpast =>
    refine covers_past fun d hd => not_lt.mp fun hlater => absurd hpast.2 (not_lt.mpr ?_)
    rw [← hin d hd]
    exact c.beaconChain.epoch_mono hlater.le
  · exact h

lemma delivers_nextEpoch {u : UpdateRun}
    (hasked : ∃ e, u.received.map Prod.fst ++ u.epochs = [e, e + 1])
    (hcovered : ∀ x ∈ u.received, Covers (c.currentSlot now) (s.dutiesOf x.1) x.2.data [])
    (hin : ∀ x ∈ u.received, ∀ d ∈ x.2.data, c.beaconChain.epoch d.slot = x.1) :
    Delivers c now (s.nextEpoch c now u).1 (s.nextEpoch c now u).2 := by
  have hkept : ∀ x ∈ u.received,
      Covers (c.currentSlot now) ((s.nextEpoch c now u).1.dutiesOf x.1) x.2.data [] :=
    fun x hx => covers_nextEpoch (hcovered x hx) (hin x hx) u
  rcases @update_nextEpoch c now s u with ⟨hnil, hnone⟩ | ⟨e, es, hcons, hsome⟩
  · refine ⟨⟨by simp [hnone], by simp [hnone], by simp [hnone]⟩, fun received hr => ?_⟩
    have hreceived : received = u.received := by
      unfold State.nextEpoch at hr
      split at hr
      · simpa using hr
      · simp at hr
    rw [hnil, List.append_nil] at hasked
    exact hreceived ▸ ⟨hasked, hkept⟩
  · refine ⟨⟨?_, ?_, ?_⟩, fun received hr => ?_⟩
    · intro u' hu'
      obtain rfl := Option.some.inj (hsome.symm.trans hu')
      rwa [hcons] at hasked
    · intro u' hu'
      obtain rfl := Option.some.inj (hsome.symm.trans hu')
      exact hkept
    · intro u' hu'
      obtain rfl := Option.some.inj (hsome.symm.trans hu')
      exact hin
    · unfold State.nextEpoch at hr
      split at hr
      · next hnil => simp [hnil] at hcons
      · simp at hr

lemma delivers_prove {u : UpdateRun} {root : Root} {batches : List (List AttesterDuty)}
    (hasked : ∃ e, u.received.map Prod.fst ++ u.epochs = [e, e + 1])
    (hcovered : ∀ x ∈ u.received, Covers (c.currentSlot now) (s.dutiesOf x.1) x.2.data
      (if x.1 = u.epoch then batches.flatten else []))
    (hin : ∀ x ∈ u.received, ∀ d ∈ x.2.data, c.beaconChain.epoch d.slot = x.1) :
    Delivers c now (s.prove c now u root batches).1 (s.prove c now u root batches).2 := by
  rcases s.prove_cases c now u root batches with ⟨hflat, he⟩ | ⟨batch, rest, hflat, -, he⟩
  · rw [he]
    refine delivers_nextEpoch hasked (fun x hx => ?_) hin
    have h := hcovered x hx
    rwa [hflat, ite_self] at h
  · rw [he]
    refine ⟨⟨?_, ?_, ?_⟩, by simp⟩
    · intro u' hu'
      obtain rfl := Option.some.inj hu'
      exact hasked
    · intro u' hu' x hx
      obtain rfl := Option.some.inj hu'
      have h := hcovered x hx
      rwa [hflat] at h
    · intro u' hu'
      obtain rfl := Option.some.inj hu'
      exact hin

/-- A response that repeats the stored dependent root has no duty later than the current slot
that is not stored. -/
def Repeatable (c : Context) (now : Moment) (s : State) (epoch : ℤ)
    (response : GetAttesterDutiesResponse) : Prop :=
  s.attesterDutiesDependentRoots.get epoch = some response.dependentRoot →
    Covers (c.currentSlot now) (s.dutiesOf epoch) response.data []

instance (epoch : ℤ) (response : GetAttesterDutiesResponse) :
    Decidable (Repeatable c now s epoch response) :=
  inferInstanceAs (Decidable (_ → _))

/-- An update that awaits a response has received others for other epochs only. -/
lemma Receiving.awaiting (h : Receiving c now s) {u : UpdateRun} (hupdate : s.update = some u)
    (hfetching : u.phase = .fetching) (response : GetAttesterDutiesResponse) :
    (∃ e, (u.received ++ [(u.epoch, response)]).map Prod.fst ++ u.epochs = [e, e + 1]) ∧
      ∀ x ∈ u.received, x.1 ≠ u.epoch ∧
        Covers (c.currentSlot now) (s.dutiesOf x.1) x.2.data [] := by
  obtain ⟨e, he⟩ := h.asked u hupdate
  rw [UpdateRun.asked, hfetching] at he
  dsimp only at he
  have hnodup : (u.received.map Prod.fst ++ u.epoch :: u.epochs).Nodup := by
    rw [he]
    simp
  have hnew : u.epoch ∉ u.received.map Prod.fst := fun hm =>
    (List.nodup_cons.mp (List.nodup_middle.mp hnodup)).1 (List.mem_append_left _ hm)
  refine ⟨⟨e, by simpa using he⟩, fun x hx => ⟨fun heq => hnew ?_, ?_⟩⟩
  · exact heq ▸ List.mem_map_of_mem hx
  · have hcovered := h.covered u hupdate x hx
    rwa [UpdateRun.pending, hfetching] at hcovered

lemma receiving_step (h : Receiving c now s)
    (hin : ∀ x ∈ a.response, ∀ d ∈ x.2.data, c.beaconChain.epoch d.slot = x.1)
    (hrepeat : ∀ x ∈ a.response, Repeatable c now s x.1 x.2)
    (hs : step c now s a = some (s', o)) : Delivers c now s' o := by
  have hinEpoch : ∀ u response, s.update = some u →
      (∀ d ∈ response.data, c.beaconChain.epoch d.slot = u.epoch) →
      ∀ x ∈ u.received ++ [(u.epoch, response)], ∀ d ∈ x.2.data,
        c.beaconChain.epoch d.slot = x.1 := by
    intro u response hupdate hin x hx
    rcases List.mem_append.mp hx with hold | hnew
    · exact h.inEpoch u hupdate x hold
    · obtain rfl := List.mem_singleton.mp hnew
      exact hin
  by_cases hu : a.updates
  · cases updateEffect_of_step hu hs with
    | skipped => exact ⟨h, by simp⟩
    | began u hidle hepochs hreceived =>
      refine delivers_nextEpoch ⟨c.currentEpoch now, ?_⟩ ?_ ?_
      · rw [hreceived, hepochs]
        rfl
      · simp [hreceived]
      · simp [hreceived]
    | repeated u u' response hupdate hfetching hroot hu' =>
      subst hu'
      obtain ⟨hasked, hothers⟩ := h.awaiting hupdate hfetching response
      refine delivers_nextEpoch hasked (fun x hx => ?_) (hinEpoch u response hupdate (hin _ rfl))
      rcases List.mem_append.mp hx with hold | hnew
      · exact (hothers x hold).2
      · obtain rfl := List.mem_singleton.mp hnew
        exact hrepeat _ rfl hroot
    | failed => exact ⟨⟨by simp, by simp, by simp⟩, by simp⟩
    | replaced u u' s₁ response hupdate hfetching hroot hu' hs₁ =>
      subst hu' hs₁
      obtain ⟨hasked, hothers⟩ := h.awaiting hupdate hfetching response
      refine delivers_prove hasked (fun x hx => ?_) (hinEpoch u response hupdate (hin _ rfl))
      rcases List.mem_append.mp hx with hold | hnew
      · obtain ⟨hne, hcovered⟩ := hothers x hold
        rwa [dutiesOf_set, if_neg hne, if_neg hne]
      · obtain rfl := List.mem_singleton.mp hnew
        rw [if_pos rfl]
        exact covers_due response
    | proved u s₁ root batch batches signatures duties hupdate hphase hproofs hs₁ =>
      subst hs₁
      have hasked := h.asked u hupdate
      rw [UpdateRun.asked, hphase] at hasked
      refine delivers_prove hasked (fun x hx => ?_) (h.inEpoch u hupdate)
      have hcovered := h.covered u hupdate x hx
      rw [UpdateRun.pending, hphase] at hcovered
      rw [dutiesOf_set]
      split_ifs at hcovered ⊢ with heq
      · rw [heq] at hcovered
        exact hcovered.store (map_withSelectionProofs hproofs)
      · exact hcovered
  · have heffect := effect_of_step hu hs
    have hupdate := heffect.store.1
    refine ⟨⟨fun u hu' => ?_, fun u hu' x hx => ?_, fun u hu' => ?_⟩, fun received hr =>
      absurd (output_of_step hs _ hr) hu⟩
    · exact h.asked u (hupdate ▸ hu')
    · exact (h.covered u (hupdate ▸ hu') x hx).mono le_rfl fun p => heffect.keeps
    · exact h.inEpoch u (hupdate ▸ hu')

/-! ### Selection proofs -/

/-- A duty of the batch with the signature that came back for its key. -/
structure WithProof (c : Context) (batch : List AttesterDuty)
    (signatures : List (Pubkey × List UInt8)) (p : AttesterDutyWithSelectionProof) : Prop where
  duty : p.toAttesterDuty ∈ batch
  proof : (Dict.ofList signatures).get p.pubkey = some p.selectionProof
  aggregator : p.isAggregator =
    State.isAggregatorByCommitteeLength c p.committeeLength p.selectionProof

/-- The signatures for a batch of the epoch came back, and the duty is stored with its own. -/
def Proves (c : Context) (s : State) (a : Action) (epoch : ℤ)
    (p : AttesterDutyWithSelectionProof) : Prop :=
  ∃ u root batch batches signatures, a = .selectionProofs signatures ∧ s.update = some u ∧
    u.epoch = epoch ∧ u.phase = .proving root batch batches ∧ WithProof c batch signatures p

lemma withProof_of_mem {batch : List AttesterDuty} {signatures : List (Pubkey × List UInt8)}
    {duties : List AttesterDutyWithSelectionProof} {p : AttesterDutyWithSelectionProof}
    (h : State.withSelectionProofs c batch signatures = some duties) (hp : p ∈ duties) :
    WithProof c batch signatures p := by
  unfold State.withSelectionProofs at h
  dsimp only at h
  induction batch generalizing duties with
  | nil =>
    obtain rfl : duties = [] := by simpa [eq_comm] using h
    cases hp
  | cons duty batch ih =>
    simp only [List.mapM_cons, Option.bind_eq_bind, Option.bind_eq_some_iff,
      Option.map_eq_some_iff, Option.pure_def, Option.some.injEq] at h
    obtain ⟨_, ⟨proof, hproof, rfl⟩, rest, hrest, rfl⟩ := h
    rcases List.mem_cons.mp hp with rfl | hp
    · exact ⟨List.mem_cons_self, hproof, rfl⟩
    · have hrec := ih hrest hp
      exact ⟨List.mem_cons_of_mem _ hrec.duty, hrec.proof, hrec.aggregator⟩

lemma mem_nextEpoch {u : UpdateRun} {e : ℤ} {p : AttesterDutyWithSelectionProof}
    (h : p ∈ (s.nextEpoch c now u).1.dutiesOf e) : p ∈ s.dutiesOf e := by
  rw [dutiesOf_nextEpoch] at h
  split at h
  · simp at h
  · exact h

lemma mem_prove {u : UpdateRun} {root : Root} {batches : List (List AttesterDuty)} {e : ℤ}
    {p : AttesterDutyWithSelectionProof} (h : p ∈ (s.prove c now u root batches).1.dutiesOf e) :
    p ∈ s.dutiesOf e := by
  rcases s.prove_cases c now u root batches with ⟨-, he⟩ | ⟨batch, rest, -, -, he⟩
  · rw [he] at h
    have hkept := mem_nextEpoch h
    exact hkept
  · rw [he] at h
    exact h

/-- **A duty gets into the store with the signature that came back for its key.** -/
lemma proves_of_step (hs : step c now s a = some (s', o)) {e : ℤ}
    {p : AttesterDutyWithSelectionProof} (hp : p ∈ s'.dutiesOf e) :
    p ∈ s.dutiesOf e ∨ Proves c s a e p := by
  by_cases hu : a.updates
  · cases updateEffect_of_step hu hs with
    | skipped | failed => exact .inl hp
    | began | repeated => exact .inl (mem_nextEpoch hp)
    | replaced u u' s₁ response _ _ _ _ hs₁ =>
      subst hs₁
      have hkept := mem_prove hp
      rw [dutiesOf_set] at hkept
      split at hkept
      · simp at hkept
      · exact .inl hkept
    | proved u s₁ root batch batches signatures duties hupdate hphase hproofs hs₁ =>
      subst hs₁
      have hkept := mem_prove hp
      rw [dutiesOf_set] at hkept
      split at hkept
      case isTrue he =>
        rcases Finset.mem_union.mp hkept with hold | hnew
        · exact .inl (he ▸ hold)
        · exact .inr ⟨u, root, batch, batches, signatures, rfl, hupdate, he.symm, hphase,
            withProof_of_mem hproofs (List.mem_toFinset.mp hnew)⟩
      case isFalse => exact .inl hkept
  · exact .inl (((effect_of_step hu hs).store.2.2 e).1 hp)

end Vero.AttestationService

namespace Vero.Services

open Lib Lib.Runs SchemaBeaconAPI AttestationService

variable {c : Context} {s₀ s s' : State} {a : Action} {as : List Action} {o os : List Output}

/-- The duties of a response lie in its epoch, and the clock does not go back. -/
abbrev Timely (c : Context) : Guard State Action Output := fun s os a =>
  Forward s os a ∧ ∀ x ∈ a.response, ∀ d ∈ x.2.data, c.beaconChain.epoch d.slot = x.1

/-- No response repeats the stored dependent root with a duty that is missing. -/
abbrev Unchanged (c : Context) : Guard State Action Output := fun s _ a =>
  ∀ x ∈ a.response, Repeatable c s.now s.attestation x.1 x.2

lemma delivers_step (h : Receiving c s.now s.attestation) (htimely : Timely c s os a)
    (hunchanged : Unchanged c s os a) (hs : step c s a = some (s', o)) :
    Delivers c s'.now s'.attestation (attestationOutputs o) := by
  rcases attestation_or_later htimely.1 hs with ⟨b, o', rfl, ht, rfl, hnow⟩ | ⟨he, ho, hlater⟩
  · rw [hnow]
    exact receiving_step h htimely.2 hunchanged ht
  · rw [he, ho]
    exact ⟨h.later (c.beaconChain.currentSlot_mono hlater), by simp⟩

/-- Somewhere in a run the signatures for a batch of the epoch came back, with that of the duty's
key. -/
def BroughtBack (c : Context) (s₀ : State) (as : List Action) (epoch : ℤ)
    (p : AttesterDutyWithSelectionProof) : Prop :=
  ∃ before a after s os, as = before ++ .attestation a :: after ∧ Run (step c) s₀ before s os ∧
    Proves c s.attestation a epoch p

/-- What is stored was in the cache, or its signature came back. -/
lemma broughtBack_of_run (r : Run (step c) s₀ as s os) {e : ℤ} {p : AttesterDutyWithSelectionProof}
    (hp : p ∈ s.attestation.dutiesOf e) :
    p ∈ s₀.attestation.dutiesOf e ∨ BroughtBack c s₀ as e p := by
  induction r with
  | nil => exact .inl hp
  | @snoc as s s' os o a r _ hs ih =>
    have hkept : p ∈ s.attestation.dutiesOf e ∨ BroughtBack c s₀ (as ++ [a]) e p := by
      rcases attestation_of_step hs with ⟨b, o', rfl, hb, -, -⟩ | ⟨he, -, -⟩
      · rcases proves_of_step hb hp with hold | hnew
        · exact .inl hold
        · exact .inr ⟨as, b, [], s, os, rfl, r, hnew⟩
      · exact .inl (he ▸ hp)
    rcases hkept with hold | hnew
    · rcases ih hold with hcached | ⟨before, b, after, s₁, os₁, rfl, r₁, hproves⟩
      · exact .inl hcached
      · exact .inr ⟨before, b, after ++ [a], s₁, os₁, by simp, r₁, hproves⟩
    · exact .inr hnew

/-- **A successful update loses no returned duty** as long as no response repeats the stored
dependent root with a duty that is missing, and each is stored with the signature that came back
for its key, or as it was in the cache. The process may start with any duties and roots in its
cache, and the validators may change. -/
theorem update_complete (hstart : ∃ duties roots, s₀.attestation = .init duties roots)
    (r : RunIf (step c) (fun s os a => Timely c s os a ∧ Unchanged c s os a) s₀ as s os)
    (ha : Timely c s os a) (ha' : Unchanged c s os a) (hs : step c s a = some (s', o))
    {received : List (ℤ × GetAttesterDutiesResponse)}
    (hupdated : .attestation (.dutiesUpdated received) ∈ o) :
    (∃ e, received.map Prod.fst = [e, e + 1]) ∧
      ∀ x ∈ received, ∀ d ∈ x.2.data, c.currentSlot s'.now < d.slot →
        ∃ p ∈ s'.attestation.dutiesOf x.1, p.toAttesterDuty = d ∧
          (p ∈ s₀.attestation.dutiesOf x.1 ∨ BroughtBack c s₀ (as ++ [a]) x.1 p) := by
  have hrun : Run (step c) s₀ (as ++ [a]) s' (os ++ o) := .snoc r.run trivial hs
  obtain ⟨duties, roots, hinit⟩ := hstart
  have hreceiving : Receiving c s.now s.attestation := by
    refine r.invariant (I := fun s _ => Receiving c s.now s.attestation) ?_ ?_
    · rw [hinit]
      exact ⟨by simp [AttestationService.State.init], by simp [AttestationService.State.init],
        by simp [AttestationService.State.init]⟩
    · intro s os a s' o h ⟨ha, ha'⟩ hs
      exact (delivers_step h ha ha' hs).receiving
  obtain ⟨hasked, hcovers⟩ := (delivers_step hreceiving ha ha' hs).complete received
    (mem_attestationOutputs.mpr hupdated)
  refine ⟨hasked, fun x hx d hd hlater => ?_⟩
  obtain ⟨p, hp, hduty⟩ := (hcovers x hx d hd hlater).resolve_right List.not_mem_nil
  exact ⟨p, hp, hduty, broughtBack_of_run hrun hp⟩

/-! ### A validator that joined -/

def answerA (epoch : ℤ) (duties : List AttesterDuty) : Action :=
  .attestation (.dutiesResponse epoch ⟨"0xA", duties⟩)

theorem update_complete_once : ∃ s s' os o, Run (step (mainnet id)) fresh once.dropLast s os ∧
    step (mainnet id) s (answerA 1 []) = some (s', o) ∧
    ∃ p ∈ s'.attestation.dutiesOf 0, p.toAttesterDuty = attesterDuty 5 ∧
      BroughtBack (mainnet id) fresh (once.dropLast ++ [answerA 1 []]) 0 p := by
  obtain ⟨s, os, s', o, r, hC, hs, hp⟩ := @exec_next _ _ _ (step (mainnet id))
    (fun s os a => Timely (mainnet id) s os a ∧ Unchanged (mainnet id) s os a) fresh
    once.dropLast _ (answerA 1 []) (fun _ s' o => (mainnet id).currentSlot s'.now = 1 ∧
      .attestation (.dutiesUpdated [(0, ⟨"0xA", [attesterDuty 5]⟩), (1, ⟨"0xA", []⟩)]) ∈ o)
    (by decide +kernel)
  obtain ⟨hslot, hupdated⟩ := of_decide_eq_true hp
  have h := update_complete ⟨∅, ∅, rfl⟩ r hC.1 hC.2 hs hupdated
  have hlater : (mainnet id).currentSlot s'.now < (attesterDuty 5).slot := by
    rw [hslot]
    decide
  obtain ⟨p, hp, hduty, hcached | hsigned⟩ :=
    h.2 _ (List.mem_cons_self ..) (attesterDuty 5) (by simp) hlater
  · simp [fresh, AttestationService.State.init, AttestationService.State.dutiesOf] at hcached
  · exact ⟨s, s', os, o, r.run, hs, p, hp, hduty, hsigned⟩

def newDuty : AttesterDuty := { attesterDuty 6 with pubkey := "0xb", validatorIndex := "8" }

/-- Validator 8 becomes active after the duties of epoch 0 were stored, and the answer that
has its duty has the same dependent root. -/
def joined : List Action :=
  once ++ [.tracker (.activeValidators [⟨7, "0xa"⟩, ⟨8, "0xb"⟩]), .attestation .updateDuties,
    answerA 0 [attesterDuty 5, newDuty]]

/-- The update ends as a success, without the duty of the validator that joined. -/
theorem joined_without_duty : ∃ as s os a s' o received,
    RunIf (step (mainnet id)) (Timely (mainnet id)) fresh as s os ∧
    Timely (mainnet id) s os a ∧ step (mainnet id) s a = some (s', o) ∧
    .attestation (.dutiesUpdated received) ∈ o ∧
    ∃ x ∈ received, ∃ d ∈ x.2.data, (mainnet id).currentSlot s'.now < d.slot ∧
      ¬ ∃ p ∈ s'.attestation.dutiesOf x.1, p.toAttesterDuty = d := by
  obtain ⟨s, os, s', o, r, hC, hs, hp⟩ := @exec_next _ _ _ (step (mainnet id))
    (Timely (mainnet id)) fresh joined _ (answerA 1 [])
    (fun _ s' o => (mainnet id).currentSlot s'.now = 1 ∧
      .attestation (.dutiesUpdated [(0, ⟨"0xA", [attesterDuty 5, newDuty]⟩), (1, ⟨"0xA", []⟩)]) ∈
        o ∧ ¬ ∃ p ∈ s'.attestation.dutiesOf 0, p.toAttesterDuty = newDuty) (by decide +kernel)
  obtain ⟨hslot, hupdated, hmissing⟩ := of_decide_eq_true hp
  refine ⟨joined, s, os, answerA 1 [], s', o, _, r, hC, hs, hupdated, _, List.mem_cons_self ..,
    newDuty, by simp, ?_, hmissing⟩
  rw [hslot]
  decide

end Vero.Services
