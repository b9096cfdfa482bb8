import Vero.AttestationService

/-!
What a step of `AttestationService` can do, said once: to the runs of `_attest` and the last
slot started, and to the store of duties.
-/

namespace Vero.AttestationService

open Lib SchemaBeaconAPI

/-! ### Starts and signatures -/

/-- The slots `_attest` was started for. -/
def starts (os : List Output) : List ℤ :=
  os.filterMap fun
    | .attestStarted slot => some slot
    | _ => none

/-- The validators and slots of the attestation signatures requested. -/
def signed (os : List Output) : List (Pubkey × ℤ) :=
  os.filterMap fun
    | .signAttestation pubkey slot _ => some (pubkey, slot)
    | _ => none

@[simp] lemma starts_append (os o : List Output) : starts (os ++ o) = starts os ++ starts o := by
  simp [starts]

@[simp] lemma signed_append (os o : List Output) : signed (os ++ o) = signed os ++ signed o := by
  simp [signed]

lemma mem_starts {os : List Output} {slot : ℤ} :
    slot ∈ starts os ↔ .attestStarted slot ∈ os :=
  Runs.mem_filterMap_iff fun x slot => by cases x <;> simp [eq_comm]

@[simp] lemma starts_nil : starts [] = [] := rfl
@[simp] lemma signed_nil : signed [] = [] := rfl

/-! ### Frames of the update -/

namespace State

variable (c : Context) (now : Moment) (s : State) (u : UpdateRun) (root : Root)

@[simp] lemma last_nextEpoch :
    (s.nextEpoch c now u).1.lastSlotDutyStartedFor = s.lastSlotDutyStartedFor := by
  unfold nextEpoch; split <;> rfl

@[simp] lemma jobs_nextEpoch : (s.nextEpoch c now u).1.jobs = s.jobs := by
  unfold nextEpoch; split <;> rfl

@[simp] lemma runs_nextEpoch : (s.nextEpoch c now u).1.attestRuns = s.attestRuns := by
  unfold nextEpoch; split <;> rfl

@[simp] lemma starts_nextEpoch : starts (s.nextEpoch c now u).2 = [] := by
  unfold nextEpoch; split <;> rfl

@[simp] lemma signed_nextEpoch : signed (s.nextEpoch c now u).2 = [] := by
  unfold nextEpoch; split <;> rfl

/-- The loop over the batches stops at the first that is not empty, or goes on to the next
epoch with the root set. -/
lemma prove_cases (batches : List (List AttesterDuty)) :
    (batches.flatten = [] ∧ s.prove c now u root batches =
      { s with
        attesterDutiesDependentRoots :=
          s.attesterDutiesDependentRoots.set u.epoch root }.nextEpoch c now u) ∨
    ∃ batch rest, batches.flatten = batch ++ rest.flatten ∧ batch ≠ [] ∧
      s.prove c now u root batches =
        ({ s with update := some { u with phase := .proving root batch rest } }, []) := by
  induction batches with
  | nil => exact .inl ⟨rfl, rfl⟩
  | cons batch rest ih =>
    cases batch with
    | nil => simpa [prove] using ih
    | cons duty batch => exact .inr ⟨duty :: batch, rest, rfl, by simp, rfl⟩

/-- What the loop over the batches leaves alone. -/
lemma prove_frame (batches : List (List AttesterDuty)) :
    (s.prove c now u root batches).1.lastSlotDutyStartedFor = s.lastSlotDutyStartedFor ∧
      (s.prove c now u root batches).1.jobs = s.jobs ∧
      (s.prove c now u root batches).1.attestRuns = s.attestRuns ∧
      starts (s.prove c now u root batches).2 = [] ∧
      signed (s.prove c now u root batches).2 = [] := by
  rcases s.prove_cases c now u root batches with ⟨-, he⟩ | ⟨batch, rest, -, -, he⟩
  · rw [he]
    simp
  · rw [he]
    simp

end State

/-- The actions of `_update_duties`. -/
def Action.updates : Action → Prop
  | .updateDuties | .dutiesResponse _ _ | .selectionProofs _ | .updateFailed => True
  | _ => False

def Action.newSlot : Action → Option ℤ
  | .onNewSlot slot => some slot
  | _ => none

/-- The answer of a beacon node a step is about, with the epoch asked for. -/
def Action.response : Action → Option (ℤ × GetAttesterDutiesResponse)
  | .dutiesResponse epoch response => some (epoch, response)
  | _ => none

variable {c : Context} {now : Moment} {s s' : State} {a : Action} {o os : List Output}

/-- What a step of the update does: it finds no validators, begins, skips or replaces the
duties of an epoch, stores a batch of duties with their proofs, or fails. -/
inductive UpdateEffect (c : Context) (now : Moment) (s : State) :
    Action → State → List Output → Prop
  | skipped (idle : s.update = none) : UpdateEffect c now s .updateDuties s []
  | began (u : UpdateRun) (idle : s.update = none)
      (epochs : u.epochs = [c.currentEpoch now, c.currentEpoch now + 1])
      (received : u.received = []) :
      UpdateEffect c now s .updateDuties (s.nextEpoch c now u).1 (s.nextEpoch c now u).2
  | repeated (u u' : UpdateRun) (response : GetAttesterDutiesResponse)
      (update : s.update = some u) (fetching : u.phase = .fetching)
      (root : s.attesterDutiesDependentRoots.get u.epoch = some response.dependentRoot)
      (next : u' = { u with received := u.received ++ [(u.epoch, response)] }) :
      UpdateEffect c now s (.dutiesResponse u.epoch response) (s.nextEpoch c now u').1
        (s.nextEpoch c now u').2
  | replaced (u u' : UpdateRun) (s₁ : State) (response : GetAttesterDutiesResponse)
      (update : s.update = some u) (fetching : u.phase = .fetching)
      (root : s.attesterDutiesDependentRoots.get u.epoch ≠ some response.dependentRoot)
      (next : u' = { u with received := u.received ++ [(u.epoch, response)] })
      (emptied : s₁ = { s with attesterDuties := s.attesterDuties.set u.epoch ∅ }) :
      UpdateEffect c now s (.dutiesResponse u.epoch response)
        (s₁.prove c now u' response.dependentRoot
          [State.dueSoon c now response, State.dueLater c now response]).1
        (s₁.prove c now u' response.dependentRoot
          [State.dueSoon c now response, State.dueLater c now response]).2
  | proved (u : UpdateRun) (s₁ : State) (root : Root) (batch : List AttesterDuty)
      (batches : List (List AttesterDuty)) (signatures : List (Pubkey × List UInt8))
      (duties : List AttesterDutyWithSelectionProof) (update : s.update = some u)
      (proving : u.phase = .proving root batch batches)
      (proofs : State.withSelectionProofs c batch signatures = some duties)
      (stored : s₁ = { s with
        attesterDuties :=
          s.attesterDuties.set u.epoch (s.dutiesOf u.epoch ∪ duties.toFinset) }) :
      UpdateEffect c now s (.selectionProofs signatures) (s₁.prove c now u root batches).1
        (s₁.prove c now u root batches).2
  | failed (a : Action) (noResponse : ∀ epoch response, a ≠ .dutiesResponse epoch response) :
      UpdateEffect c now s a { s with update := none } []

/-- **What a step of the update does.** -/
lemma updateEffect_of_step (ha : a.updates) (h : step c now s a = some (s', o)) :
    UpdateEffect c now s a s' o := by
  cases a with
  | updateDuties =>
    simp only [step] at h
    split_ifs at h with hidle
    have he := Option.some.inj h
    unfold State.updateDuties at he
    dsimp only at he
    split at he
    · obtain ⟨rfl, rfl⟩ := Prod.ext_iff.mp he
      exact .skipped (Option.isNone_iff_eq_none.mp hidle)
    · obtain ⟨rfl, rfl⟩ := Prod.ext_iff.mp he
      exact .began _ (Option.isNone_iff_eq_none.mp hidle) rfl rfl
  | dutiesResponse epoch response =>
    obtain ⟨u, hu, hs⟩ := Option.bind_eq_some_iff.mp h
    split at hs
    · next hphase =>
      split_ifs at hs with hepoch
      subst hepoch
      have he := Option.some.inj hs
      unfold State.dutiesResponse at he
      dsimp only at he
      split at he
      · next hroot =>
        obtain ⟨rfl, rfl⟩ := Prod.ext_iff.mp he
        exact .repeated u _ response hu hphase hroot rfl
      · next hroot =>
        obtain ⟨rfl, rfl⟩ := Prod.ext_iff.mp he
        exact .replaced u _ _ response hu hphase hroot rfl rfl
    · simp at hs
  | selectionProofs signatures =>
    obtain ⟨u, hu, hs⟩ := Option.bind_eq_some_iff.mp h
    split at hs
    · simp at hs
    · next root batch batches hphase =>
      have he := Option.some.inj hs
      unfold State.selectionProofs at he
      split at he
      · obtain ⟨rfl, rfl⟩ := Prod.mk.inj he
        exact .failed _ (by simp)
      · next duties hproofs =>
        obtain ⟨rfl, rfl⟩ := Prod.ext_iff.mp he
        exact .proved u _ root batch batches signatures duties hu hphase hproofs rfl
  | updateFailed =>
    obtain ⟨u, hu, he⟩ := Option.map_eq_some_iff.mp h
    obtain ⟨rfl, rfl⟩ := Prod.mk.inj he
    exact .failed _ (by simp)
  | _ => exact absurd ha id

/-- An update never starts an attestation, asks for a signature or touches a job. -/
lemma update_frame (ha : a.updates) (h : step c now s a = some (s', o)) :
    s'.lastSlotDutyStartedFor = s.lastSlotDutyStartedFor ∧ s'.jobs = s.jobs ∧
      s'.attestRuns = s.attestRuns ∧ starts o = [] ∧ signed o = [] := by
  cases updateEffect_of_step ha h with
  | skipped | failed => exact ⟨rfl, rfl, rfl, rfl, rfl⟩
  | began | repeated => simp
  | replaced u u' s₁ response _ _ _ _ hs₁ =>
    subst hs₁
    exact State.prove_frame _ _ _ _ _ _
  | proved u s₁ root batch batches signatures duties _ _ _ hs₁ =>
    subst hs₁
    exact State.prove_frame _ _ _ _ _ _

/-! ### The other steps -/

/-- The branches of a step outside the update, with what they find in the service. -/
inductive Transition (c : Context) (now : Moment) (s : State) :
    Action → State → List Output → Prop
  | onNewSlot (slot : ℤ) :
      Transition c now s (.onNewSlot slot) (s.onNewSlot slot) [.jobScheduled slot]
  | lateHeadEvent (id : ℕ) (event : HeadEvent) (late : event.slot ≤ s.lastSlotDutyStartedFor)
      (new : s.attestRuns.get id = none) : Transition c now s (.handleHeadEvent id event) s []
  | handleHeadEvent (id : ℕ) (event : HeadEvent) (new : s.attestRuns.get id = none) :
      Transition c now s (.handleHeadEvent id event)
        (s.attestIfNotYetAttested c now id event.slot (some event)).1
        (s.attestIfNotYetAttested c now id event.slot (some event)).2
  | deadlineJob (id : ℕ) (slot : ℤ) (new : s.attestRuns.get id = none) :
      Transition c now s (.deadlineJob id slot) (s.deadlineJob c now id slot).1
        (s.deadlineJob c now id slot).2
  | produced (id : ℕ) (r : AttestRun) (attData : AttestationData)
      (get : s.attestRuns.get id = some r) (producing : r.phase = .producing) :
      Transition c now s (.attestationData id attData)
        { s with
          attestRuns := s.attestRuns.set id
            { r with phase := .signing, attData := some attData, unsigned := r.duties } } []
  | refused (id : ℕ) (r : AttestRun) (attData : AttestationData)
      (get : s.attestRuns.get id = some r) (producing : r.phase = .producing) :
      Transition c now s (.attestationData id attData) (s.endAttest id r) []
  | requestSignature (id : ℕ) (r : AttestRun) (duty : AttesterDutyWithSelectionProof)
      (attData : AttestationData) (get : s.attestRuns.get id = some r)
      (mem : duty ∈ r.unsigned) :
      Transition c now s (.requestSignature id duty)
        { s with attestRuns := s.attestRuns.set id { r with unsigned := r.unsigned.erase duty } }
        [.signAttestation duty.pubkey r.slot attData]
  | attestEnded (id : ℕ) (r : AttestRun) (get : s.attestRuns.get id = some r)
      (running : r.phase ≠ .ended) :
      Transition c now s (.attestEnded id) (s.endAttest id r) []

/-- **Every step outside the update takes one of them.** -/
lemma transition_of_step (ha : ¬ a.updates) (h : step c now s a = some (s', o)) :
    Transition c now s a s' o := by
  cases a with
  | onNewSlot slot =>
    obtain ⟨rfl, rfl⟩ := Prod.mk.inj (Option.some.inj h)
    exact .onNewSlot slot
  | handleHeadEvent id event =>
    simp only [step, State.handleHeadEvent] at h
    split_ifs at h with hnew hlate
    · obtain ⟨rfl, rfl⟩ := Prod.mk.inj (Option.some.inj h)
      exact .lateHeadEvent id event hlate hnew
    · obtain ⟨rfl, rfl⟩ := Prod.ext_iff.mp (Option.some.inj h)
      exact .handleHeadEvent id event hnew
  | deadlineJob id slot =>
    simp only [step] at h
    split_ifs at h with hjob
    obtain ⟨rfl, rfl⟩ := Prod.ext_iff.mp (Option.some.inj h)
    exact .deadlineJob id slot hjob.1
  | attestationData id attData =>
    obtain ⟨r, hr, he⟩ := Option.map_eq_some_iff.mp h
    obtain ⟨hget, hphase⟩ := Option.filter_eq_some_iff.mp hr
    obtain ⟨rfl, rfl⟩ := Prod.mk.inj he
    unfold State.attestationData
    split_ifs
    · exact .produced id r attData hget (of_decide_eq_true hphase)
    · exact .refused id r attData hget (of_decide_eq_true hphase)
  | requestSignature id duty =>
    obtain ⟨r, hget, he⟩ := Option.bind_eq_some_iff.mp h
    unfold State.requestSignature at he
    split_ifs at he with hmem
    obtain ⟨attData, -, he⟩ := Option.map_eq_some_iff.mp he
    obtain ⟨rfl, rfl⟩ := Prod.mk.inj he
    exact .requestSignature id r duty attData hget hmem
  | attestEnded id =>
    obtain ⟨r, hr, he⟩ := Option.map_eq_some_iff.mp h
    obtain ⟨hget, hphase⟩ := Option.filter_eq_some_iff.mp hr
    obtain ⟨rfl, rfl⟩ := Prod.mk.inj he
    exact .attestEnded id r hget (of_decide_eq_true hphase)
  | _ => exact absurd trivial ha

/-- What an attempt to attest leads to: its guards refuse it, the slot has no duty, or
`_attest` starts. The deadline job of the slot is gone in any case. -/
inductive Attempt (c : Context) (now : Moment) (s : State) (id : ℕ) (slot : ℤ) :
    State → List Output → Prop
  | refused (why : c.refuses now ∨ slot ≤ s.lastSlotDutyStartedFor ∨ slot ≠ c.currentSlot now) :
      Attempt c now s id slot { s with jobs := s.jobs.erase slot } []
  | idle {o : List Output} (none : s.dutiesForSlot c slot = ∅) (current : slot = c.currentSlot now)
      (starts : starts o = []) (signed : signed o = []) :
      Attempt c now s id slot ({ s with jobs := s.jobs.erase slot }.popDutiesForSlot c slot) o
  | started {o : List Output} (accepts : ¬ c.refuses now) (later : s.lastSlotDutyStartedFor < slot)
      (current : slot = c.currentSlot now) (starts : starts o = [slot]) (signed : signed o = []) :
      Attempt c now s id slot
        (({ s with jobs := s.jobs.erase slot }.popDutiesForSlot c slot).startAttest id slot
          (s.dutiesForSlot c slot)) o

/-- How a run of `_attest` moves on, with the signatures it asks for. -/
inductive RunMoves : AttestRun → AttestRun → List (Pubkey × ℤ) → Prop
  | data (r : AttestRun) (attData : AttestationData) (producing : r.phase = .producing) :
      RunMoves r { r with phase := .signing, attData := some attData, unsigned := r.duties } []
  | ended (r : AttestRun) : RunMoves r { r with phase := .ended } []
  | signature (r : AttestRun) (duty : AttesterDutyWithSelectionProof) (mem : duty ∈ r.unsigned) :
      RunMoves r { r with unsigned := r.unsigned.erase duty } [(duty.pubkey, r.slot)]

/-- What a step outside the update does. -/
inductive Effect (c : Context) (now : Moment) (s : State) : State → List Output → Prop
  | scheduled (slot : ℤ) : Effect c now s (s.onNewSlot slot) [.jobScheduled slot]
  | late : Effect c now s s []
  | attempted {s' : State} {o : List Output} (id : ℕ) (slot : ℤ) (new : s.attestRuns.get id = none)
      (attempt : Attempt c now s id slot s' o) : Effect c now s s' o
  | moved {o : List Output} (id : ℕ) (r r' : AttestRun) (completed : ℤ)
      (get : s.attestRuns.get id = some r) (moves : RunMoves r r' (signed o))
      (starts : starts o = []) :
      Effect c now s
        { s with
          attestRuns := s.attestRuns.set id r'
          lastSlotDutyCompletedFor := completed } o

lemma attempt_of_eq {s₁ : State} {id : ℕ} {slot : ℤ} {ev : Option HeadEvent}
    (hs₁ : (if ev.isSome then { s₁ with jobs := s₁.jobs.erase slot } else s₁) =
      { s with jobs := s.jobs.erase slot })
    (h : s₁.attestIfNotYetAttested c now id slot ev = (s', o)) : Attempt c now s id slot s' o := by
  simp only [State.attestIfNotYetAttested, hs₁] at h
  by_cases h1 : c.refuses now
  · rw [if_pos h1] at h
    obtain ⟨rfl, rfl⟩ := Prod.mk.inj h
    exact .refused (.inl h1)
  · by_cases h2 : slot ≤ s.lastSlotDutyStartedFor
    · rw [if_neg h1, if_pos h2] at h
      obtain ⟨rfl, rfl⟩ := Prod.mk.inj h
      exact .refused (.inr (.inl h2))
    · by_cases h3 : slot = c.currentSlot now
      · rw [if_neg h1, if_neg h2, if_neg (not_not.mpr h3)] at h
        have hsame : State.dutiesForSlot c { s with jobs := s.jobs.erase slot } slot =
            s.dutiesForSlot c slot := rfl
        unfold State.attest at h
        dsimp only at h
        rw [hsame] at h
        by_cases h4 : (s.dutiesForSlot c slot).Nonempty
        · rw [if_pos h4] at h
          obtain ⟨rfl, rfl⟩ := Prod.mk.inj h
          exact .started h1 (not_le.mp h2) h3 rfl rfl
        · rw [if_neg h4] at h
          have hnone := Finset.not_nonempty_iff_eq_empty.mp h4
          split at h
          · obtain ⟨rfl, rfl⟩ := Prod.mk.inj h
            exact .idle hnone h3 rfl rfl
          · obtain ⟨rfl, rfl⟩ := Prod.mk.inj h
            exact .idle hnone h3 rfl rfl
      · rw [if_neg h1, if_neg h2, if_pos h3] at h
        obtain ⟨rfl, rfl⟩ := Prod.mk.inj h
        exact .refused (.inr (.inr h3))

/-- **What a step does**, outside the update of the duties. -/
lemma effect_of_step (ha : ¬ a.updates) (h : step c now s a = some (s', o)) :
    Effect c now s s' o := by
  cases transition_of_step ha h with
  | onNewSlot slot => exact .scheduled slot
  | lateHeadEvent => exact .late
  | handleHeadEvent id event new => exact .attempted id event.slot new (attempt_of_eq rfl rfl)
  | deadlineJob id slot new => exact .attempted id slot new (attempt_of_eq rfl rfl)
  | produced id r attData get producing =>
    exact .moved id r _ s.lastSlotDutyCompletedFor get (.data r attData producing) rfl
  | refused id r attData get => exact .moved id r _ r.slot get (.ended r) rfl
  | requestSignature id r duty attData get mem =>
    exact .moved id r _ s.lastSlotDutyCompletedFor get (.signature r duty mem) rfl
  | attestEnded id r get => exact .moved id r _ r.slot get (.ended r) rfl

/-! ### The outputs -/

/-- What kind of step an output comes from: the slot handler, an update, or an attestation. -/
def Output.Of (a : Action) : Output → Prop
  | .jobScheduled slot => a = .onNewSlot slot
  | .getAttesterDuties _ _ | .dutiesUpdated _ => a.updates
  | .attestStarted _ | .produceAttestationData _ _ | .signAttestation _ _ _ => ¬ a.updates

lemma output_nextEpoch (ha : a.updates) (u : UpdateRun) :
    ∀ x ∈ (s.nextEpoch c now u).2, x.Of a := by
  unfold State.nextEpoch
  split
  · simpa [Output.Of] using ha
  · simpa [Output.Of] using ha

lemma output_prove (ha : a.updates) (u : UpdateRun) (root : Root)
    (batches : List (List AttesterDuty)) : ∀ x ∈ (s.prove c now u root batches).2, x.Of a := by
  rcases s.prove_cases c now u root batches with ⟨-, he⟩ | ⟨batch, rest, -, -, he⟩
  · rw [he]
    exact output_nextEpoch ha u
  · simp [he]

lemma output_attempt (ha : ¬ a.updates) (id : ℕ) (slot : ℤ) (ev : Option HeadEvent) :
    ∀ x ∈ (s.attestIfNotYetAttested c now id slot ev).2, x.Of a := by
  simp only [State.attestIfNotYetAttested, State.attest]
  split_ifs <;> simp [Output.Of, ha]

/-- Every output is of the kind its step emits. -/
lemma output_of_step (h : step c now s a = some (s', o)) : ∀ x ∈ o, x.Of a := by
  by_cases ha : a.updates
  · cases updateEffect_of_step ha h with
    | skipped | failed => simp
    | began | repeated => exact output_nextEpoch ha _
    | replaced | proved => exact output_prove ha _ _ _
  · cases transition_of_step ha h with
    | onNewSlot | lateHeadEvent | produced | refused | attestEnded => simp [Output.Of]
    | handleHeadEvent id event => exact output_attempt ha id event.slot _
    | deadlineJob id slot => exact output_attempt ha id slot none
    | requestSignature => simpa [Output.Of] using ha

/-! ### The store -/

lemma dutiesOf_set (s : State) (e e' : ℤ) (duties : Duties) :
    ({ s with attesterDuties := s.attesterDuties.set e duties } : State).dutiesOf e' =
      if e' = e then duties else s.dutiesOf e' := by
  simp [State.dutiesOf]

lemma dutiesOf_pop (slot e : ℤ) : (s.popDutiesForSlot c slot).dutiesOf e =
    if e = c.beaconChain.epoch slot then s.dutiesOf e \ s.dutiesForSlot c slot
    else s.dutiesOf e := by
  unfold State.popDutiesForSlot State.dutiesOf
  rw [Dict.getD_set]
  split
  · next he =>
    subst he
    rfl
  · rfl

lemma mem_dutiesForSlot {slot : ℤ} {d : AttesterDutyWithSelectionProof} :
    d ∈ s.dutiesForSlot c slot ↔ d ∈ s.dutiesOf (c.beaconChain.epoch slot) ∧ d.slot = slot := by
  simp [State.dutiesForSlot]

/-- Outside the update the store only loses duties, and only those of the current slot. -/
lemma Effect.store (h : Effect c now s s' o) : s'.update = s.update ∧
    s'.attesterDutiesDependentRoots = s.attesterDutiesDependentRoots ∧
    ∀ e, s'.dutiesOf e ⊆ s.dutiesOf e ∧
      ∀ d ∈ s.dutiesOf e, d ∈ s'.dutiesOf e ∨ d.slot = c.currentSlot now := by
  have hpop : ∀ (s₁ : State) {slot : ℤ}, slot = c.currentSlot now → ∀ e,
      (s₁.popDutiesForSlot c slot).dutiesOf e ⊆ s₁.dutiesOf e ∧ ∀ d ∈ s₁.dutiesOf e,
        d ∈ (s₁.popDutiesForSlot c slot).dutiesOf e ∨ d.slot = c.currentSlot now := by
    intro s₁ slot hslot e
    rw [dutiesOf_pop]
    split_ifs with he
    · refine ⟨Finset.sdiff_subset, fun d hd => ?_⟩
      by_cases hm : d ∈ s₁.dutiesForSlot c slot
      · exact .inr ((mem_dutiesForSlot.mp hm).2.trans hslot)
      · exact .inl (Finset.mem_sdiff.mpr ⟨hd, hm⟩)
    · exact ⟨Finset.Subset.refl _, fun d hd => .inl hd⟩
  cases h with
  | scheduled | late | moved =>
    exact ⟨rfl, rfl, fun e => ⟨Finset.Subset.refl _, fun d hd => .inl hd⟩⟩
  | attempted id slot _ attempt =>
    cases attempt with
    | refused => exact ⟨rfl, rfl, fun e => ⟨Finset.Subset.refl _, fun d hd => .inl hd⟩⟩
    | idle _ current =>
      exact ⟨rfl, rfl, hpop { s with jobs := s.jobs.erase slot } current⟩
    | started _ _ current =>
      exact ⟨rfl, rfl, hpop { s with jobs := s.jobs.erase slot } current⟩

/-- Duties later than the current slot stay in the store outside the update. -/
lemma Effect.keeps (h : Effect c now s s' o) {e : ℤ} {p : AttesterDutyWithSelectionProof}
    (hp : p ∈ s.dutiesOf e) (hlater : c.currentSlot now < p.slot) : p ∈ s'.dutiesOf e := by
  rcases (h.store.2.2 e).2 p hp with hin | hcurrent
  · exact hin
  · exact absurd hcurrent hlater.ne'

lemma dutiesOf_prune (e : ℤ) : (s.pruneDuties c now).dutiesOf e =
    if c.currentEpoch now ≤ e then s.dutiesOf e else ∅ := by
  simp only [State.pruneDuties, State.dutiesOf, Dict.getD_filterKeys, decide_eq_true_eq]

lemma dutiesOf_nextEpoch (u : UpdateRun) (e : ℤ) : (s.nextEpoch c now u).1.dutiesOf e =
    if u.epochs = [] ∧ e < c.currentEpoch now then ∅ else s.dutiesOf e := by
  unfold State.nextEpoch
  split
  · next hnil =>
    have hp : ({ s.pruneDuties c now with update := none } : State).dutiesOf e =
      (s.pruneDuties c now).dutiesOf e := rfl
    rw [hp, dutiesOf_prune]
    by_cases he : e < c.currentEpoch now
    · rw [if_neg (not_le.mpr he), if_pos ⟨hnil, he⟩]
    · rw [if_pos (not_lt.mp he), if_neg fun h => he h.2]
  · next hcons =>
    rw [if_neg fun h => by simp [h.1] at hcons]
    rfl

/-- After the loop went on the update has ended, or it awaits the duties of the next epoch. -/
lemma update_nextEpoch (u : UpdateRun) :
    (u.epochs = [] ∧ (s.nextEpoch c now u).1.update = none) ∨
      ∃ e es, u.epochs = e :: es ∧ (s.nextEpoch c now u).1.update =
        some { u with epoch := e, epochs := es, phase := .fetching } := by
  unfold State.nextEpoch
  split
  · next h => exact .inl ⟨h, rfl⟩
  · next e es h => exact .inr ⟨e, es, h, rfl⟩

/-- The next epoch is begun with its request. -/
lemma phase_nextEpoch {u u' : UpdateRun} (h : (s.nextEpoch c now u).1.update = some u') :
    u'.phase = .fetching := by
  rcases @update_nextEpoch c now s u with ⟨-, hnone⟩ | ⟨e, es, -, hsome⟩
  · rw [hnone] at h
    cases h
  · rw [hsome] at h
    obtain rfl := Option.some.inj h
    rfl

/-- A batch of duties with their proofs consists of the duties asked for. -/
lemma map_withSelectionProofs {batch : List AttesterDuty}
    {signatures : List (Pubkey × List UInt8)} {duties : List AttesterDutyWithSelectionProof}
    (h : State.withSelectionProofs c batch signatures = some duties) :
    duties.map AttesterDutyWithSelectionProof.toAttesterDuty = batch := by
  unfold State.withSelectionProofs at h
  dsimp only at h
  induction batch generalizing duties with
  | nil =>
    obtain rfl : duties = [] := by simpa [eq_comm] using h
    rfl
  | cons duty batch ih =>
    simp only [List.mapM_cons, Option.bind_eq_bind, Option.bind_eq_some_iff,
      Option.map_eq_some_iff, Option.pure_def, Option.some.injEq] at h
    obtain ⟨_, ⟨proof, -, rfl⟩, rest, hrest, rfl⟩ := h
    rw [List.map_cons, ih hrest]
    rfl

end Vero.AttestationService
