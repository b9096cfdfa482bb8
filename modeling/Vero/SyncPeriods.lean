import Vero.SyncCommitteeService

/-!
Whose sync messages are signed in which slot.

An update fetches the duties of the period of the current epoch. The messages of the last slot
of a period are those of the next period, whose duties nobody has fetched then.
-/

namespace Vero.SyncCommitteeService

open Lib Lib.Runs SchemaBeaconAPI ValidatorStatusTrackerService

variable {b : SyncBeaconChain} {members : ℤ → List SyncDuty}
variable {s₀ s s' : State} {a : Action} {as : List Action} {o os : List Output}

/-! ### What a run of the process keeps to -/

/-- The clock does not go back, and every answer has the managed members of the committee of
the period asked for. -/
structure Answered (b : SyncBeaconChain) (members : ℤ → List SyncDuty) (s : State) (_ : List Output)
    (a : Action) : Prop where
  forward : ∀ time, a = .clock time → s.time ≤ time
  answers : ∀ data, a = .dutiesResponse data → ∀ epoch ∈ s.update,
    data = members (b.computeSyncPeriodForEpoch epoch)

/-- What is stored is the committee of a period not after the current one. -/
structure Stored (b : SyncBeaconChain) (members : ℤ → List SyncDuty) (s : State) : Prop where
  duties : ∀ p ds, s.syncDuties.get p = some ds → p ≤ b.currentSyncPeriod s.time ∧ ds = members p
  update : ∀ epoch ∈ s.update, epoch ≤ b.currentEpoch s.time

/-- The last slot started has begun, and what was updated in the current period is stored. -/
structure Updated (b : SyncBeaconChain) (members : ℤ → List SyncDuty) (s : State)
    (os : List Output) : Prop where
  last : s.lastSlotDutyStartedFor ≤ b.currentSlot s.time
  past : ∀ epoch, .dutiesUpdated epoch ∈ os → epoch ≤ b.currentEpoch s.time
  kept : ∀ epoch, .dutiesUpdated epoch ∈ os → members (b.computeSyncPeriodForEpoch epoch) ≠ [] →
    b.computeSyncPeriodForEpoch epoch = b.currentSyncPeriod s.time →
    s.syncDuties.get (b.currentSyncPeriod s.time) = some (members (b.currentSyncPeriod s.time))

lemma currentSyncPeriod_mono {t t' : ℚ} (h : t ≤ t') :
    b.currentSyncPeriod t ≤ b.currentSyncPeriod t' :=
  b.computeSyncPeriodForEpoch_mono (b.epoch_mono (b.currentSlot_mono h))

lemma get_pruneDuties (s : State) (p : ℤ) : (s.pruneDuties b).syncDuties.get p =
    if b.currentSyncPeriod s.time ≤ p then s.syncDuties.get p else none := by
  simp [State.pruneDuties]

/-! ### The steps -/

/-- The branches of a step, with what they find in the service. -/
inductive Transition (b : SyncBeaconChain) (s : State) : Action → State → List Output → Prop
  | clock (time : ℚ) : Transition b s (.clock time) { s with time } []
  | onNewSlot (slot : ℤ) :
      Transition b s (.onNewSlot slot) { s with jobs := insert slot s.jobs } [.jobScheduled slot]
  | handleHeadEvent (id : ℕ) (event : HeadEvent) (new : s.produceRuns.get id = none) :
      Transition b s (.handleHeadEvent id event)
        (s.produceSyncMessage b id event.slot (some event)).1
        (s.produceSyncMessage b id event.slot (some event)).2
  | deadlineJob (id : ℕ) (slot : ℤ) (new : s.produceRuns.get id = none) :
      Transition b s (.deadlineJob id slot)
        ({ s with jobs := s.jobs.erase slot }.produceSyncMessage b id slot none).1
        ({ s with jobs := s.jobs.erase slot }.produceSyncMessage b id slot none).2
  | rooted (id : ℕ) (r : ProduceRun) (syncPeriod : ℤ) (root : Root)
      (get : s.produceRuns.get id = some r) (phase : r.phase = .gettingRoot syncPeriod) :
      Transition b s (.blockRoot id root) (s.signMessages id r syncPeriod root).1
        (s.signMessages id r syncPeriod root).2
  | rootFailed (id : ℕ) (r : ProduceRun) (syncPeriod : ℤ) (get : s.produceRuns.get id = some r)
      (phase : r.phase = .gettingRoot syncPeriod) :
      Transition b s (.produceFailed id) (s.endRun id r .failed) []
  | signingFailed (id : ℕ) (r : ProduceRun) (get : s.produceRuns.get id = some r)
      (phase : r.phase = .signing) : Transition b s (.produceFailed id) (s.endRun id r .ended) []
  | published (id : ℕ) (r : ProduceRun) (get : s.produceRuns.get id = some r)
      (phase : r.phase = .signing) :
      Transition b s (.messagesPublished id) (s.endRun id r .ended) []
  | noValidators : Transition b s (.updateDuties []) s []
  | updateDuties (validatorIndices : List ℤ) :
      Transition b s (.updateDuties validatorIndices)
        { s with update := some (b.currentEpoch s.time) }
        [.getSyncDuties (b.currentEpoch s.time) validatorIndices]
  | dutiesResponse (data : List SyncDuty) (epoch : ℤ) (update : s.update = some epoch) :
      Transition b s (.dutiesResponse data) (s.dutiesResponse b epoch data).1
        (s.dutiesResponse b epoch data).2
  | updateFailed : Transition b s .updateFailed { s with update := none } []

/-- **Every step takes one of them.** -/
lemma transition_of_step (h : step b s a = some (s', o)) : Transition b s a s' o := by
  cases a with
  | clock time =>
    obtain ⟨rfl, rfl⟩ := Prod.mk.inj (Option.some.inj h)
    exact .clock time
  | onNewSlot slot =>
    obtain ⟨rfl, rfl⟩ := Prod.mk.inj (Option.some.inj h)
    exact .onNewSlot slot
  | handleHeadEvent id event =>
    simp only [step] at h
    split_ifs at h with hnew
    obtain ⟨rfl, rfl⟩ := Prod.ext_iff.mp (Option.some.inj h)
    exact .handleHeadEvent id event hnew
  | deadlineJob id slot =>
    simp only [step] at h
    split_ifs at h with hjob
    obtain ⟨rfl, rfl⟩ := Prod.ext_iff.mp (Option.some.inj h)
    exact .deadlineJob id slot hjob.1
  | blockRoot id root =>
    obtain ⟨r, hr, he⟩ := Option.bind_eq_some_iff.mp h
    split at he
    · next p hphase =>
      obtain ⟨rfl, rfl⟩ := Prod.ext_iff.mp (Option.some.inj he)
      exact .rooted id r p root hr hphase
    · simp at he
  | produceFailed id =>
    obtain ⟨r, hr, he⟩ := Option.bind_eq_some_iff.mp h
    split at he
    · next p hphase =>
      obtain ⟨rfl, rfl⟩ := Prod.mk.inj (Option.some.inj he)
      exact .rootFailed id r p hr hphase
    · next hphase =>
      obtain ⟨rfl, rfl⟩ := Prod.mk.inj (Option.some.inj he)
      exact .signingFailed id r hr hphase
    · simp at he
  | messagesPublished id =>
    obtain ⟨r, hr, he⟩ := Option.map_eq_some_iff.mp h
    obtain ⟨hget, hphase⟩ := Option.filter_eq_some_iff.mp hr
    obtain ⟨rfl, rfl⟩ := Prod.mk.inj he
    exact .published id r hget (of_decide_eq_true hphase)
  | updateDuties validatorIndices =>
    simp only [step] at h
    split_ifs at h
    have he := Option.some.inj h
    unfold State.updateDuties at he
    split at he
    · next hempty =>
      subst hempty
      obtain ⟨rfl, rfl⟩ := Prod.mk.inj he
      exact .noValidators
    · obtain ⟨rfl, rfl⟩ := Prod.mk.inj he
      exact .updateDuties validatorIndices
  | dutiesResponse data =>
    obtain ⟨epoch, hu, he⟩ := Option.map_eq_some_iff.mp h
    obtain ⟨rfl, rfl⟩ := Prod.ext_iff.mp he
    exact .dutiesResponse data epoch hu
  | updateFailed =>
    obtain ⟨epoch, -, he⟩ := Option.map_eq_some_iff.mp h
    obtain ⟨rfl, rfl⟩ := Prod.mk.inj he
    exact .updateFailed

/-- What producing a message leaves alone, and the slot it starts for. -/
lemma produce_frame (s : State) (id : ℕ) (slot : ℤ) (ev : Option HeadEvent) :
    let s' := (s.produceSyncMessage b id slot ev).1
    s'.time = s.time ∧ s'.syncDuties = s.syncDuties ∧ s'.update = s.update ∧
      (s'.lastSlotDutyStartedFor = s.lastSlotDutyStartedFor ∨
        s'.lastSlotDutyStartedFor = b.currentSlot s.time) := by
  unfold State.produceSyncMessage
  dsimp only
  split_ifs with h1 h2 h3 h4
  all_goals try exact ⟨rfl, rfl, rfl, .inl rfl⟩
  all_goals
    have hslot := not_not.mp h2
    cases ev <;> exact ⟨rfl, rfl, rfl, .inr hslot⟩

lemma produce_output (s : State) (id : ℕ) (slot : ℤ) (ev : Option HeadEvent) (epoch : ℤ) :
    .dutiesUpdated epoch ∉ (s.produceSyncMessage b id slot ev).2 := by
  unfold State.produceSyncMessage
  dsimp only
  split_ifs
  all_goals try simp
  all_goals cases ev <;> simp [State.signMessages]

/-- What a step does to the duties: nothing, an update that begins or fails, or an answer. -/
inductive Effect (b : SyncBeaconChain) (s : State) (a : Action) : State → List Output → Prop
  | frame {s' : State} {o : List Output} (time : s'.time = s.time ∨ a = .clock s'.time)
      (duties : s'.syncDuties = s.syncDuties) (update : s'.update = s.update)
      (last : s'.lastSlotDutyStartedFor = s.lastSlotDutyStartedFor ∨
        s'.lastSlotDutyStartedFor = b.currentSlot s.time)
      (updated : ∀ epoch, .dutiesUpdated epoch ∉ o) : Effect b s a s' o
  | began (validatorIndices : List ℤ) :
      Effect b s a { s with update := some (b.currentEpoch s.time) }
        [.getSyncDuties (b.currentEpoch s.time) validatorIndices]
  | answered (data : List SyncDuty) (epoch : ℤ) (action : a = .dutiesResponse data)
      (update : s.update = some epoch) :
      Effect b s a (s.dutiesResponse b epoch data).1 (s.dutiesResponse b epoch data).2
  | failed : Effect b s a { s with update := none } []

lemma effect_of_step (h : step b s a = some (s', o)) : Effect b s a s' o := by
  have hproduce : ∀ (s₁ : State) id slot ev, s₁.time = s.time → s₁.syncDuties = s.syncDuties →
      s₁.update = s.update → s₁.lastSlotDutyStartedFor = s.lastSlotDutyStartedFor →
      Effect b s a (s₁.produceSyncMessage b id slot ev).1
        (s₁.produceSyncMessage b id slot ev).2 := by
    intro s₁ id slot ev ht hd hu hl
    obtain ⟨ht', hd', hu', hl'⟩ := produce_frame (b := b) s₁ id slot ev
    rw [hl, ht] at hl'
    exact .frame (.inl (ht'.trans ht)) (hd'.trans hd) (hu'.trans hu) hl'
      (produce_output s₁ id slot ev)
  cases transition_of_step h with
  | clock time => exact .frame (.inr rfl) rfl rfl (.inl rfl) (by simp)
  | handleHeadEvent id event => exact hproduce s id event.slot (some event) rfl rfl rfl rfl
  | deadlineJob id slot =>
    exact hproduce { s with jobs := s.jobs.erase slot } id slot none rfl rfl rfl rfl
  | rooted => exact .frame (.inl rfl) rfl rfl (.inl rfl) (by simp [State.signMessages])
  | onNewSlot | rootFailed | signingFailed | published | noValidators =>
    exact .frame (.inl rfl) rfl rfl (.inl rfl) (by simp)
  | updateDuties validatorIndices => exact .began validatorIndices
  | dutiesResponse data epoch update => exact .answered data epoch rfl update
  | updateFailed => exact .failed

lemma response_frame (s : State) (epoch : ℤ) (data : List SyncDuty) :
    let s' := (s.dutiesResponse b epoch data).1
    s'.time = s.time ∧ s'.lastSlotDutyStartedFor = s.lastSlotDutyStartedFor ∧ s'.update = none := by
  unfold State.dutiesResponse
  dsimp only
  split_ifs
  · exact ⟨rfl, rfl, rfl⟩
  · exact ⟨rfl, rfl, rfl⟩

/-- What an answer leaves in the store: current periods only, with the answer as its own. -/
lemma get_response (s : State) (epoch : ℤ) (data : List SyncDuty) (p : ℤ) :
    (s.dutiesResponse b epoch data).1.syncDuties.get p =
      if b.currentSyncPeriod s.time ≤ p then
        if data ≠ [] ∧ p = b.computeSyncPeriodForEpoch epoch then some data
        else s.syncDuties.get p
      else none := by
  unfold State.dutiesResponse
  dsimp only
  by_cases hdata : data = []
  · rw [if_pos hdata, get_pruneDuties]
    simp [hdata]
  · rw [if_neg hdata, get_pruneDuties]
    simp [hdata]

lemma stored_step (h : Stored b members s) (hC : Answered b members s os a)
    (hs : step b s a = some (s', o)) : Stored b members s' := by
  cases effect_of_step hs with
  | frame time duties update =>
    have hle : s.time ≤ s'.time := by
      rcases time with ht | ht
      · exact ht.ge
      · exact hC.forward _ ht
    refine ⟨fun p ds hget => ?_, fun epoch he => ?_⟩
    · obtain ⟨hp, hds⟩ := h.duties p ds (duties ▸ hget)
      exact ⟨hp.trans (currentSyncPeriod_mono hle), hds⟩
    · exact (h.update epoch (update ▸ he)).trans (b.epoch_mono (b.currentSlot_mono hle))
  | began =>
    refine ⟨h.duties, fun epoch he => ?_⟩
    exact (Option.some.inj he).ge
  | answered data epoch action update =>
    obtain ⟨ht, -, hu⟩ := response_frame (b := b) s epoch data
    refine ⟨fun p ds hget => ?_, fun e he => by simp [hu] at he⟩
    rw [ht]
    rw [get_response] at hget
    split_ifs at hget with hp hnew
    · obtain rfl := Option.some.inj hget
      obtain ⟨-, rfl⟩ := hnew
      exact ⟨b.computeSyncPeriodForEpoch_mono (h.update epoch update),
        hC.answers data action epoch update⟩
    · exact h.duties p ds hget
  | failed => exact ⟨h.duties, by simp⟩

lemma updated_response {epoch : ℤ} {data : List SyncDuty} {e : ℤ}
    (h : .dutiesUpdated e ∈ (s.dutiesResponse b epoch data).2) : e = epoch := by
  unfold State.dutiesResponse at h
  dsimp only at h
  split_ifs at h
  · simpa using h
  · simpa using h

lemma updated_step (h : Updated b members s os) (hst : Stored b members s)
    (hC : Answered b members s os a) (hs : step b s a = some (s', o)) :
    Updated b members s' (os ++ o) := by
  cases effect_of_step hs with
  | frame time duties update last hnone =>
    have hle : s.time ≤ s'.time := by
      rcases time with ht | ht
      · exact ht.ge
      · exact hC.forward _ ht
    have hslot := b.currentSlot_mono hle
    have hold : ∀ epoch, .dutiesUpdated epoch ∈ os ++ o → .dutiesUpdated epoch ∈ os :=
      fun epoch hm => (List.mem_append.mp hm).resolve_right (hnone epoch)
    refine ⟨?_, fun epoch hm => ?_, fun epoch hm hne hp => ?_⟩
    · have hlast := h.last
      omega
    · exact (h.past epoch (hold epoch hm)).trans (b.epoch_mono hslot)
    · -- the period of that update is current still, so it was before
      have hbefore : b.computeSyncPeriodForEpoch epoch ≤ b.currentSyncPeriod s.time :=
        b.computeSyncPeriodForEpoch_mono (h.past epoch (hold epoch hm))
      have hafter := currentSyncPeriod_mono (b := b) hle
      have hsame : b.currentSyncPeriod s'.time = b.currentSyncPeriod s.time := by omega
      rw [duties, hsame]
      exact h.kept epoch (hold epoch hm) hne (hp.trans hsame)
  | began =>
    refine ⟨h.last, fun epoch hm => h.past epoch ?_, fun epoch hm => h.kept epoch ?_⟩
    · simpa using hm
    · simpa using hm
  | answered data epoch action update =>
    obtain ⟨ht, hl, -⟩ := response_frame (b := b) s epoch data
    have hdata := hC.answers data action epoch update
    have hle := b.computeSyncPeriodForEpoch_mono (hst.update epoch update)
    refine ⟨by rw [hl, ht]; exact h.last, fun e hm => ?_, fun e hm hne hp => ?_⟩
    · rw [ht]
      rcases List.mem_append.mp hm with hm | hm
      · exact h.past e hm
      · exact updated_response hm ▸ hst.update epoch update
    · rw [ht] at hp ⊢
      rw [get_response, if_pos le_rfl]
      split_ifs with hnew
      · rw [hdata, ← hnew.2]
      · rcases List.mem_append.mp hm with hm | hm
        · exact h.kept e hm hne hp
        · obtain rfl := updated_response hm
          exact absurd ⟨hdata ▸ hne, hp.symm⟩ hnew
  | failed =>
    refine ⟨h.last, fun epoch hm => h.past epoch ?_, fun epoch hm => h.kept epoch ?_⟩
    · simpa using hm
    · simpa using hm

/-! ### The runs of `produce_sync_message` -/

/-- A signature of the validator is asked for by the run. -/
def Requested (os : List Output) (id : ℕ) (v : ValidatorIndexPubkey) : Prop :=
  ∃ slot root members, .signSyncMessages id slot root members ∈ os ∧ v ∈ members

/-- The run has asked for its signatures. -/
def Phase.signed : Phase → Bool
  | .signing | .ended => true
  | _ => false

/-- The signatures asked for are those of the members that the runs found. -/
def Traced (s : State) (os : List Output) : Prop :=
  ∀ id v, Requested os id v ↔ ∃ r, s.produceRuns.get id = some r ∧ r.phase.signed ∧ v ∈ r.members

/-- How a run goes on. -/
inductive Moves : ProduceRun → ProduceRun → Prop
  | signing (r : ProduceRun) (p : ℤ) (h : r.phase = .gettingRoot p) :
      Moves r { r with phase := .signing }
  | failed (r : ProduceRun) (p : ℤ) (h : r.phase = .gettingRoot p) :
      Moves r { r with phase := .failed }
  | ended (r : ProduceRun) (h : r.phase = .signing) : Moves r { r with phase := .ended }

/-- What a step does to the runs: nothing, one starts, or one goes on. The signatures are asked
for by a run that comes to sign. -/
inductive RunEffect (s s' : State) (o : List Output) : Prop
  | frame (runs : s'.produceRuns = s.produceRuns) (requests : ∀ i v, ¬ Requested o i v)
  | started (id : ℕ) (r : ProduceRun) (new : s.produceRuns.get id = none)
      (runs : s'.produceRuns = s.produceRuns.set id r)
      (requests : ∀ i v, Requested o i v ↔ i = id ∧ r.phase.signed ∧ v ∈ r.members)
  | moved (id : ℕ) (r r' : ProduceRun) (get : s.produceRuns.get id = some r) (moves : Moves r r')
      (runs : s'.produceRuns = s.produceRuns.set id r')
      (requests : ∀ i v, Requested o i v ↔
        i = id ∧ (r'.phase.signed ∧ ¬ r.phase.signed) ∧ v ∈ r'.members)

lemma not_requested_nil (i : ℕ) (v : ValidatorIndexPubkey) : ¬ Requested [] i v := by
  simp [Requested]

lemma requested_append {o : List Output} {i : ℕ} {v : ValidatorIndexPubkey} :
    Requested (os ++ o) i v ↔ Requested os i v ∨ Requested o i v := by
  constructor
  · rintro ⟨slot, root, ms, hm, hv⟩
    rcases List.mem_append.mp hm with hm | hm
    · exact .inl ⟨slot, root, ms, hm, hv⟩
    · exact .inr ⟨slot, root, ms, hm, hv⟩
  · rintro (⟨slot, root, ms, hm, hv⟩ | ⟨slot, root, ms, hm, hv⟩)
    · exact ⟨slot, root, ms, List.mem_append_left _ hm, hv⟩
    · exact ⟨slot, root, ms, List.mem_append_right _ hm, hv⟩

lemma requested_signMessages (s : State) (id : ℕ) (r : ProduceRun) (p : ℤ) (root : Root) (i : ℕ)
    (v : ValidatorIndexPubkey) :
    Requested (s.signMessages id r p root).2 i v ↔ i = id ∧ v ∈ r.members := by
  simp only [State.signMessages, Requested, List.mem_cons, List.not_mem_nil, or_false,
    reduceCtorEq, false_or, Output.signSyncMessages.injEq]
  constructor
  · rintro ⟨slot, root', ms, ⟨rfl, -, -, rfl⟩, hv⟩
    exact ⟨rfl, hv⟩
  · rintro ⟨rfl, hv⟩
    exact ⟨r.slot, root, r.members, ⟨rfl, rfl, rfl, rfl⟩, hv⟩

/-- A run starts with the members of the period of the slot after its own. -/
lemma produce_started (s : State) (id : ℕ) (slot : ℤ) (ev : Option HeadEvent) :
    ∃ r, (s.produceSyncMessage b id slot ev).1.produceRuns = s.produceRuns.set id r ∧
      (∀ i v, Requested (s.produceSyncMessage b id slot ev).2 i v ↔
        i = id ∧ r.phase.signed ∧ v ∈ r.members) ∧
      (s.lastSlotDutyStartedFor ≤ slot → slot = b.currentSlot s.time →
        r.members = validators (s.dutiesOf (b.computeSyncPeriodForSlot (slot + 1))) ∧
        (r.phase = .noDuties ∧ r.members = ∅ ∨ r.phase = .signing ∨
          ∃ p, r.phase = .gettingRoot p)) := by
  have hidle : ∀ {r : ProduceRun}, r.phase.signed = false →
      ∀ i v, Requested [] i v ↔ i = id ∧ r.phase.signed ∧ v ∈ r.members := fun {r} hr i v => by
    simp [not_requested_nil, hr]
  unfold State.produceSyncMessage
  dsimp only
  by_cases h1 : slot < s.lastSlotDutyStartedFor
  · rw [if_pos h1]
    exact ⟨_, rfl, hidle rfl, fun hlast => absurd h1 (not_lt.mpr hlast)⟩
  · by_cases h2 : slot = b.currentSlot s.time
    · rw [if_neg h1, if_neg (not_not.mpr h2)]
      by_cases h3 : validators (s.dutiesOf (b.computeSyncPeriodForSlot (slot + 1))) = ∅
      · rw [if_pos h3]
        refine ⟨⟨slot, validators (s.dutiesOf (b.computeSyncPeriodForSlot (slot + 1))), .noDuties⟩,
          ?_, hidle rfl, fun _ _ => ⟨rfl, .inl ⟨rfl, h3⟩⟩⟩
        split_ifs <;> rfl
      · rw [if_neg h3]
        cases ev with
        | some event =>
          refine ⟨⟨slot, validators (s.dutiesOf (b.computeSyncPeriodForSlot (slot + 1))),
            .signing⟩, rfl, fun i v => ?_, fun _ _ => ⟨rfl, .inr (.inl rfl)⟩⟩
          exact (requested_signMessages _ _ _ _ _ i v).trans (by simp [Phase.signed])
        | none =>
          refine ⟨⟨slot, validators (s.dutiesOf (b.computeSyncPeriodForSlot (slot + 1))),
            .gettingRoot (b.computeSyncPeriodForSlot (slot + 1))⟩, rfl, fun i v => ?_,
            fun _ _ => ⟨rfl, .inr (.inr ⟨_, rfl⟩)⟩⟩
          simp [Requested, Phase.signed]
    · rw [if_neg h1, if_pos h2]
      exact ⟨_, rfl, hidle rfl, fun _ he => absurd he h2⟩

lemma requested_response (s : State) (epoch : ℤ) (data : List SyncDuty) (i : ℕ)
    (v : ValidatorIndexPubkey) : ¬ Requested (s.dutiesResponse b epoch data).2 i v := by
  unfold State.dutiesResponse
  dsimp only
  split_ifs
  · simp [Requested]
  · simp [Requested]

lemma response_runs (s : State) (epoch : ℤ) (data : List SyncDuty) :
    (s.dutiesResponse b epoch data).1.produceRuns = s.produceRuns := by
  unfold State.dutiesResponse
  dsimp only
  split_ifs
  · rfl
  · rfl

lemma runEffect_of_step (h : step b s a = some (s', o)) : RunEffect s s' o := by
  have hproduce : ∀ (s₁ : State) id slot ev, s₁.produceRuns = s.produceRuns →
      s.produceRuns.get id = none → RunEffect s (s₁.produceSyncMessage b id slot ev).1
        (s₁.produceSyncMessage b id slot ev).2 := by
    intro s₁ id slot ev hruns hnew
    obtain ⟨r, hset, hreq, -⟩ := produce_started (b := b) s₁ id slot ev
    rw [hruns] at hset
    exact .started id r hnew hset hreq
  cases transition_of_step h with
  | handleHeadEvent id event new => exact hproduce s id event.slot (some event) rfl new
  | deadlineJob id slot new =>
    exact hproduce { s with jobs := s.jobs.erase slot } id slot none rfl new
  | rooted id r p root get phase =>
    refine .moved id r { r with phase := .signing } get (.signing r p phase) rfl fun i v => ?_
    rw [requested_signMessages]
    simp [Phase.signed, phase]
  | rootFailed id r p get phase =>
    refine .moved id r { r with phase := .failed } get (.failed r p phase) rfl fun i v => ?_
    simp [not_requested_nil, Phase.signed]
  | signingFailed id r get phase | published id r get phase =>
    refine .moved id r { r with phase := .ended } get (.ended r phase) rfl fun i v => ?_
    simp [not_requested_nil, Phase.signed, phase]
  | clock | noValidators | updateFailed => exact .frame rfl not_requested_nil
  | onNewSlot | updateDuties => exact .frame rfl (by simp [Requested])
  | dutiesResponse data epoch =>
    exact .frame (response_runs s epoch data) (requested_response s epoch data)

lemma traced_step (h : Traced s os) (hs : step b s a = some (s', o)) : Traced s' (os ++ o) := by
  intro i v
  rw [requested_append, h i v]
  cases runEffect_of_step hs with
  | frame runs requests => rw [runs, or_iff_left (requests i v)]
  | started id r new runs requests =>
    rw [runs, requests i v, Dict.get_set]
    by_cases hi : i = id
    · subst hi
      simp [new]
    · simp [hi]
  | moved id r r' get moves runs requests =>
    rw [runs, requests i v, Dict.get_set]
    by_cases hi : i = id
    · subst hi
      cases moves with
      | signing p hp => simp [get, hp, Phase.signed]
      | failed p hp => simp [get, hp, Phase.signed]
      | ended hp => simp [get, hp, Phase.signed]
    · simp [hi]

/-! ### Whole runs -/

lemma stored_init {time : ℚ} {duties : Dict ℤ (List SyncDuty)}
    (h : ∀ p ds, duties.get p = some ds → p ≤ b.currentSyncPeriod time ∧ ds = members p) :
    Stored b members (.init time duties) :=
  ⟨h, by simp [State.init]⟩

lemma stored_boots (hb : Boots (step b) (Answered b members) Fresh Reboot s₀) :
    Stored b members s₀ := by
  induction hb with
  | fresh hs =>
    obtain ⟨time, rfl⟩ := hs
    exact stored_init (by simp)
  | @reboot s₀ s s' as os _ r hs ih =>
    have hst : Stored b members s := by
      refine r.invariant (I := fun s _ => Stored b members s) ih ?_
      intro s os a s' o h hC hm
      exact stored_step h hC hm
    obtain ⟨time, hle, rfl | rfl⟩ := hs
    · refine stored_init fun p ds hget => ?_
      obtain ⟨hp, hds⟩ := hst.duties p ds hget
      exact ⟨hp.trans (currentSyncPeriod_mono hle), hds⟩
    · exact stored_init (by simp)

/-- Every process begins where nothing has started and nothing is asked for. -/
lemma init_of_boots {C : Guard State Action Output}
    (hb : Boots (step b) C Fresh Reboot s₀) : ∃ time duties, s₀ = .init time duties := by
  cases hb with
  | fresh hs =>
    obtain ⟨time, rfl⟩ := hs
    exact ⟨time, ∅, rfl⟩
  | reboot _ r hs =>
    obtain ⟨time, -, rfl | rfl⟩ := hs
    · exact ⟨time, _, rfl⟩
    · exact ⟨time, ∅, rfl⟩

lemma run_invariant (hb : Boots (step b) (Answered b members) Fresh Reboot s₀)
    (r : RunIf (step b) (Answered b members) s₀ as s os) :
    Stored b members s ∧ Updated b members s os ∧ Traced s os := by
  have hst := stored_boots hb
  obtain ⟨time, duties, rfl⟩ := init_of_boots hb
  refine r.invariant (I := fun s os => Stored b members s ∧ Updated b members s os ∧ Traced s os)
    ⟨hst, ⟨?_, by simp, by simp⟩, ?_⟩ ?_
  · have hslot := b.currentSlot_nonneg time
    change (-1 : ℤ) ≤ b.currentSlot time
    omega
  · intro i v
    simp [State.init, not_requested_nil]
  · rintro s os a s' o ⟨hst, hup, htr⟩ hC hs
    exact ⟨stored_step hst hC hs, updated_step hup hst hC hs, traced_step htr hs⟩

/-- The run has what it needs to go on: a head block root, unless nobody is to sign. -/
def Phase.rooted : Phase → Bool
  | .gettingRoot _ | .failed => false
  | _ => true

/-- A run for the current slot, with the members it was started with. -/
structure Begun (ms : Finset ValidatorIndexPubkey) (r : ProduceRun) : Prop where
  members : r.members = ms
  phase : r.phase.rooted → r.phase.signed ∨ ms = ∅

lemma Begun.moves {ms : Finset ValidatorIndexPubkey} {r r' : ProduceRun} (h : Begun ms r)
    (hm : Moves r r') : Begun ms r' := by
  cases hm with
  | signing => exact ⟨h.members, fun _ => .inl rfl⟩
  | failed => exact ⟨h.members, fun hp => by simp [Phase.rooted] at hp⟩
  | ended => exact ⟨h.members, fun _ => .inl rfl⟩

lemma begun_step {ms : Finset ValidatorIndexPubkey} {id : ℕ} {r : ProduceRun}
    (hget : s.produceRuns.get id = some r) (h : Begun ms r) (hs : step b s a = some (s', o)) :
    ∃ r', s'.produceRuns.get id = some r' ∧ Begun ms r' := by
  cases runEffect_of_step hs with
  | frame runs => exact ⟨r, runs ▸ hget, h⟩
  | started i r' new runs =>
    have hne : id ≠ i := by
      rintro rfl
      simp [new] at hget
    exact ⟨r, by rw [runs, Dict.get_set, if_neg hne, hget], h⟩
  | moved i r₁ r₂ get moves runs =>
    by_cases hi : id = i
    · subst hi
      obtain rfl : r₁ = r := Option.some.inj (get.symm.trans hget)
      exact ⟨r₂, by rw [runs, Dict.get_set, if_pos rfl], h.moves moves⟩
    · exact ⟨r, by rw [runs, Dict.get_set, if_neg hi, hget], h⟩

/-- The call of `produce_sync_message` for a slot, by a head event or by the deadline job. -/
def Produces (id : ℕ) (slot : ℤ) : Action → Prop
  | .handleHeadEvent i event => i = id ∧ event.slot = slot
  | .deadlineJob i n => i = id ∧ n = slot
  | _ => False

/-- A call for the current slot starts a run with the members stored for the period of the
next slot. -/
lemma begun_of_produces {id : ℕ} {slot : ℤ} (hlast : s.lastSlotDutyStartedFor ≤ slot)
    (hslot : b.currentSlot s.time = slot) (ha : Produces id slot a)
    (hs : step b s a = some (s', o)) : ∃ r, s'.produceRuns.get id = some r ∧
      Begun (validators (s.dutiesOf (b.computeSyncPeriodForSlot (slot + 1)))) r := by
  have hbegun : ∀ (s₁ : State) ev, s₁.time = s.time → s₁.syncDuties = s.syncDuties →
      s₁.lastSlotDutyStartedFor = s.lastSlotDutyStartedFor →
      ∃ r, (s₁.produceSyncMessage b id slot ev).1.produceRuns.get id = some r ∧
        Begun (validators (s.dutiesOf (b.computeSyncPeriodForSlot (slot + 1)))) r := by
    intro s₁ ev ht hd hl
    obtain ⟨r, hset, -, hr⟩ := produce_started (b := b) s₁ id slot ev
    obtain ⟨hms, hphase⟩ := hr (hl ▸ hlast) (ht ▸ hslot.symm)
    have hduties : s₁.dutiesOf (b.computeSyncPeriodForSlot (slot + 1)) =
        s.dutiesOf (b.computeSyncPeriodForSlot (slot + 1)) := by
      unfold State.dutiesOf
      rw [hd]
    rw [hduties] at hms
    refine ⟨r, by rw [hset, Dict.get_set, if_pos rfl], hms, fun hrooted => ?_⟩
    rcases hphase with ⟨-, hempty⟩ | hsigning | ⟨p, hp⟩
    · exact .inr (hms ▸ hempty)
    · exact .inl (by rw [hsigning, Phase.signed])
    · simp [hp, Phase.rooted] at hrooted
  cases transition_of_step hs with
  | handleHeadEvent i event =>
    obtain ⟨rfl, rfl⟩ := ha
    exact hbegun s (some event) rfl rfl rfl
  | deadlineJob i n =>
    obtain ⟨rfl, rfl⟩ := ha
    exact hbegun { s with jobs := s.jobs.erase n } none rfl rfl rfl
  | clock | onNewSlot | rooted | rootFailed | signingFailed | published | noValidators
  | updateDuties | dutiesResponse | updateFailed => exact absurd ha (by simp [Produces])

lemma validators_eq_empty {duties : List SyncDuty} : validators duties = ∅ ↔ duties = [] := by
  simp [validators]

/-- **Who signs in a slot.** After the duties of its epoch have been updated, the signatures
asked for in a slot are those of the committee of the next slot, as far as it is managed,
exactly where that is the committee of the slot itself or nobody of it is managed. -/
theorem signed_by_committee (hb : Boots (step b) (Answered b members) Fresh Reboot s₀)
    (r : RunIf (step b) (Answered b members) s₀ as s os) {id : ℕ} {slot : ℤ}
    (hupdated : .dutiesUpdated (b.epoch slot) ∈ os)
    (hsome : members (b.computeSyncPeriodForSlot slot) ≠ [])
    (hslot : b.currentSlot s.time = slot) (ha : Produces id slot a)
    (hs : step b s a = some (s', o)) {as' : List Action} {s'' : State} {os' : List Output}
    (r' : Run (step b) s' as' s'' os')
    (hrooted : ∀ p, s''.produceRuns.get id = some p → p.phase.rooted) :
    (∀ v, Requested (os ++ o ++ os') id v ↔
      v ∈ validators (members (b.computeSyncPeriodForSlot (slot + 1)))) ↔
    b.computeSyncPeriodForSlot (slot + 1) = b.computeSyncPeriodForSlot slot ∨
      members (b.computeSyncPeriodForSlot (slot + 1)) = [] := by
  obtain ⟨hst, hup, htr⟩ := run_invariant hb r
  have hperiod : b.currentSyncPeriod s.time = b.computeSyncPeriodForSlot slot := by
    rw [← hslot]
    rfl
  set next := b.computeSyncPeriodForSlot (slot + 1) with hnext
  have hle : b.computeSyncPeriodForSlot slot ≤ next :=
    b.computeSyncPeriodForSlot_mono (by omega)
  -- the run signs for those whose duties are stored, if it gets as far
  have hbegun := begun_of_produces (hslot ▸ hup.last) hslot ha hs
  obtain ⟨htr', p, hget, hp⟩ : Traced s'' (os ++ o ++ os') ∧
      ∃ p, s''.produceRuns.get id = some p ∧ Begun (validators (s.dutiesOf next)) p := by
    refine r'.invariant (I := fun t l => Traced t (os ++ o ++ l) ∧ ∃ p,
      t.produceRuns.get id = some p ∧ Begun (validators (s.dutiesOf next)) p) ?_ ?_
    · rw [List.append_nil]
      exact ⟨traced_step htr hs, hbegun⟩
    · rintro t l a t' o' ⟨ht, p, hget, hp⟩ - hm
      rw [← List.append_assoc]
      exact ⟨traced_step ht hm, begun_step hget hp hm⟩
  have hrequested : ∀ v, Requested (os ++ o ++ os') id v ↔ v ∈ validators (s.dutiesOf next) := by
    intro v
    rw [htr' id v]
    constructor
    · rintro ⟨q, hq, -, hv⟩
      obtain rfl : p = q := Option.some.inj (hget.symm.trans hq)
      exact hp.members ▸ hv
    · intro hv
      refine ⟨p, hget, (hp.phase (hrooted p hget)).resolve_right fun he => ?_, hp.members ▸ hv⟩
      simp [he] at hv
  have hduties : validators (s.dutiesOf next) = if next = b.computeSyncPeriodForSlot slot then
      validators (members next) else ∅ := by
    unfold State.dutiesOf
    split_ifs with heq
    · have hkept := hup.kept _ hupdated hsome hperiod.symm
      rw [hperiod, ← heq] at hkept
      simp [Dict.getD, hkept]
    · have hnone : s.syncDuties.get next = none := by
        rw [Option.eq_none_iff_forall_not_mem]
        intro ds hds
        obtain ⟨hcurrent, -⟩ := hst.duties next ds hds
        omega
      simp [Dict.getD, hnone, validators]
  simp only [hrequested, hduties]
  split_ifs with heq
  · simp [heq]
  · rw [or_iff_right heq, ← validators_eq_empty, Finset.eq_empty_iff_forall_notMem]
    simp

/-! ### The last slot of a period -/

instance : Decidable (Answered b members s os a) :=
  match a with
  | .clock time => decidable_of_iff (s.time ≤ time)
      ⟨fun h => ⟨by simpa using h, by simp⟩, fun h => h.forward time rfl⟩
  | .dutiesResponse data => decidable_of_iff
      (∀ epoch ∈ s.update, data = members (b.computeSyncPeriodForEpoch epoch))
      ⟨fun h => ⟨by simp, by simpa using h⟩, fun h => h.answers data rfl⟩
  | .onNewSlot _ | .handleHeadEvent _ _ | .deadlineJob _ _ | .blockRoot _ _ | .produceFailed _
  | .messagesPublished _ | .updateDuties _ | .updateFailed => isTrue ⟨by simp, by simp⟩

instance (id : ℕ) (slot : ℤ) : Decidable (Produces id slot a) := by
  unfold Produces
  split <;> infer_instance

/-- Two validators, one in the committee of each of the first two periods of mainnet. -/
def periods : SyncBeaconChain :=
  { (mainnet id).beaconChain with
    epochsPerSyncCommitteePeriod := 256
    epochsPerSyncCommitteePeriod_pos := by decide }

def committee (syncPeriod : ℤ) : List SyncDuty :=
  if syncPeriod = 0 then [⟨"0xa", 7, ["1"]⟩]
  else if syncPeriod = 1 then [⟨"0xb", 8, ["2"]⟩]
  else []

def headEvent (slot : ℤ) : HeadEvent := ⟨slot, "0x1", "0x2", "0x3"⟩

/-- The duties are updated in the first slot of the last epoch of period 0, and the clock goes
on to a slot. -/
def updatedBefore (slot : ℤ) : List Action :=
  [.clock (periods.getTimestampForSlot 8160), .updateDuties [7, 8], .dutiesResponse (committee 0),
    .clock (periods.getTimestampForSlot slot)]

theorem signed_by_committee_before_last : ∃ s os s' o,
    RunIf (step periods) (Answered periods committee) (.init 0 ∅) (updatedBefore 8190) s os ∧
    step periods s (.handleHeadEvent 0 (headEvent 8190)) = some (s', o) ∧
    ((∀ v, Requested (os ++ o ++ []) 0 v ↔
      v ∈ validators (committee (periods.computeSyncPeriodForSlot (8190 + 1)))) ↔
    periods.computeSyncPeriodForSlot (8190 + 1) = periods.computeSyncPeriodForSlot 8190 ∨
      committee (periods.computeSyncPeriodForSlot (8190 + 1)) = []) := by
  obtain ⟨s, os, r, hp⟩ := @exec_any _ _ _ (step periods) (Answered periods committee)
    (.init 0 ∅) (updatedBefore 8190) _ (fun s os => .dutiesUpdated (periods.epoch 8190) ∈ os ∧
      periods.currentSlot s.time = 8190 ∧
      (step periods s (.handleHeadEvent 0 (headEvent 8190))).any fun t =>
        (t.1.produceRuns.get 0).all fun p => p.phase.rooted) (by decide +kernel)
  obtain ⟨hupdated, hslot, hnext⟩ := of_decide_eq_true hp
  obtain ⟨⟨s', o⟩, hs, hrooted⟩ := (Option.any_eq_true _ _).mp hnext
  have hproduces : Produces 0 8190 (.handleHeadEvent 0 (headEvent 8190)) := ⟨rfl, rfl⟩
  refine ⟨s, os, s', o, r, hs, signed_by_committee (.fresh ⟨0, rfl⟩) r hupdated (by decide) hslot
    hproduces hs .nil fun p hp => ?_⟩
  simpa [hp] using hrooted

/-- In the last slot of the period nobody is asked to sign. -/
theorem last_slot_unsigned : ∃ s os s' o,
    RunIf (step periods) (Answered periods committee) (.init 0 ∅) (updatedBefore 8191) s os ∧
    .dutiesUpdated (periods.epoch 8191) ∈ os ∧
    committee (periods.computeSyncPeriodForSlot 8191) ≠ [] ∧
    periods.currentSlot s.time = 8191 ∧
    step periods s (.handleHeadEvent 0 (headEvent 8191)) = some (s', o) ∧
    ¬ ∀ v, Requested (os ++ o) 0 v ↔
      v ∈ validators (committee (periods.computeSyncPeriodForSlot (8191 + 1))) := by
  obtain ⟨s, os, r, hp⟩ := @exec_any _ _ _ (step periods) (Answered periods committee)
    (.init 0 ∅) (updatedBefore 8191) _ (fun s os =>
      os = [.getSyncDuties 255 [7, 8], .prepareSyncCommitteeSubscriptions [⟨7, ["1"], 256⟩],
        .dutiesUpdated 255] ∧ periods.currentSlot s.time = 8191 ∧
      (step periods s (.handleHeadEvent 0 (headEvent 8191))).any fun t => t.2 = [])
    (by decide +kernel)
  obtain ⟨rfl, hslot, hnext⟩ := of_decide_eq_true hp
  obtain ⟨⟨s', o⟩, hs, ho⟩ := (Option.any_eq_true _ _).mp hnext
  obtain rfl : o = [] := of_decide_eq_true ho
  refine ⟨s, _, s', [], r, by decide, by decide, hslot, hs, fun h => ?_⟩
  obtain ⟨slot, root, ms, hm, -⟩ := (h ⟨8, "0xb"⟩).mpr (by decide)
  simp at hm

end Vero.SyncCommitteeService
