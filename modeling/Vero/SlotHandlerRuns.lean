import Vero.RandaoReveals
import Vero.SlotFollowUps

/-!
`on_new_slot` as one coroutine, and as the steps its task takes between two awaits: as long as
nothing else happens to the service, the two leave it the same.
-/

namespace Vero.BlockProposalService

open Lib Lib.Runs SchemaBeaconAPI

def State.withTasks (s : State) (tasks : Dict ℕ SlotTask) : State := { s with slotTasks := tasks }

/-! ### Coroutines that leave the service as it is -/

namespace Coroutine

variable {α β : Type} {x : Coroutine α} {f : α → Coroutine β}

def Stays (x : Coroutine α) : Prop := ∀ s, (x.outcome s).1 = s

lemma Stays.outcome (hx : x.Stays) (s : State) :
    (∃ e, x.outcome s = (s, .error e)) ∨ ∃ a, x.outcome s = (s, .ok a) := by
  have hs := hx s
  cases hout : x.outcome s with
  | mk s' result =>
    rw [hout] at hs
    obtain rfl : s' = s := hs
    cases result with
    | error e => exact .inl ⟨e, rfl⟩
    | ok a => exact .inr ⟨a, rfl⟩

lemma stays_pure (a : α) : (pure a : Coroutine α).Stays := fun _ => rfl

lemma stays_throw (e : Exception) : (throw e : Coroutine α).Stays := fun _ => rfl

lemma Stays.bind (hx : x.Stays) (hf : ∀ a, (f a).Stays) : (x >>= f : Coroutine β).Stays := by
  intro s
  rw [outcome_bind]
  rcases hx.outcome s with ⟨e, hout⟩ | ⟨a, hout⟩
  · rw [hout]
  · rw [hout]
    exact hf a s

lemma Stays.handled (hx : x.Stays) (errorType : ErrorType) : (x.handled errorType).Stays := by
  intro s
  rw [outcome_handled]
  exact hx s

end Coroutine

namespace SlotHandler

variable {h : SlotHandler} {now : Moment} {s : State} {id : ℕ} {slot : ℤ} {α β : Type}

/-- The requests leave the service as it is, however they end. -/
structure Quiet (h : SlotHandler) : Prop where
  sign : ∀ message pubkey, (h.sign message pubkey).Stays
  produceBlockV3 : ∀ slot graffiti randaoReveal, (h.produceBlockV3 slot graffiti randaoReveal).Stays
  publishBlockV2 : ∀ slot block signature, (h.publishBlockV2 slot block signature).Stays
  prepareBeaconProposer : h.prepareBeaconProposer.Stays

lemma stays_getForkInfo (h : SlotHandler) (slot : ℤ) : (h.getForkInfo slot).Stays := by
  unfold getForkInfo
  split
  · exact Coroutine.stays_pure _
  · exact Coroutine.stays_throw _

lemma stays_dutyGraffiti (h : SlotHandler) (duty : ProposerDuty) : (h.dutyGraffiti duty).Stays := by
  unfold dutyGraffiti
  split
  · exact Coroutine.stays_pure _
  · split
    · exact Coroutine.stays_pure _
    · exact Coroutine.stays_throw _

lemma Quiet.produceBlock (hq : h.Quiet) (slot : ℤ) (duty : ProposerDuty) (randaoReveal : String) :
    (h.produceBlock slot duty randaoReveal).Stays :=
  (stays_dutyGraffiti h duty).bind fun graffiti =>
    (hq.produceBlockV3 slot graffiti randaoReveal).handled .blockProduce

lemma Quiet.signBlock (hq : h.Quiet) (slot : ℤ) (duty : ProposerDuty) (block : ProducedBlock) :
    (h.signBlock slot duty block).Stays := by
  refine Coroutine.Stays.handled ?_ .signature
  exact (stays_getForkInfo h slot).bind fun forkInfo =>
    hq.sign (.beaconBlockV2 forkInfo block.version block.blockHeader) duty.pubkey

lemma Quiet.fetchRandaoReveal (hq : h.Quiet) (s : State) (duty : ProposerDuty) :
    (∃ e, (h.fetchRandaoReveal duty).outcome s = (s, .error e)) ∨
    ∃ reveal, (h.fetchRandaoReveal duty).outcome s =
      ({ s with randaoRevealCache := s.randaoRevealCache.set duty.slot reveal }, .ok ()) := by
  unfold SlotHandler.fetchRandaoReveal
  rw [Coroutine.outcome_bind]
  rcases (stays_getForkInfo h duty.slot).outcome s with ⟨e, hfork⟩ | ⟨forkInfo, hfork⟩
  · exact .inl ⟨e, by rw [hfork]⟩
  · rw [hfork]
    dsimp only
    rw [Coroutine.outcome_bind]
    rcases (hq.sign (.randaoReveal forkInfo (h.beaconChain.epoch duty.slot)) duty.pubkey).outcome s
      with ⟨e, hsign⟩ | ⟨reveal, hsign⟩
    · exact .inl ⟨e, by rw [hsign]⟩
    · exact .inr ⟨reveal, by rw [hsign]; rfl⟩

lemma popRandaoReveal_outcome (s : State) (slot : ℤ) : (popRandaoReveal slot).outcome s =
    match s.randaoRevealCache.get slot with
    | none => (s, .error (.keyError slot))
    | some reveal =>
      ({ s with randaoRevealCache := s.randaoRevealCache.filterKeys (· ≠ slot) }, .ok reveal) := by
  unfold popRandaoReveal
  rw [Coroutine.outcome_bind, Coroutine.outcome_get]
  dsimp only
  cases s.randaoRevealCache.get slot <;> rfl

/-! ### Coroutines and steps -/

/-- From a phase in which the task proposes, its steps leave the service as the coroutine does.
Where the coroutine returns, they lead to the phase in which its result is used. -/
def Follows (h : SlotHandler) (now : Moment) (id : ℕ) (slot : ℤ) (s : State) (phase : Phase)
    (x : Coroutine α) (next : α → Phase) : Prop :=
  ∀ tasks : Dict ℕ SlotTask, tasks.get id = some ⟨slot, phase⟩ → ∃ as os tasks' phase',
    Run (step h.toContext now) (s.withTasks tasks) as ((x.outcome s).1.withTasks tasks') os ∧
    tasks'.get id = some ⟨slot, phase'⟩ ∧ phase'.proposing = true ∧
    ∀ a, (x.outcome s).2 = .ok a → phase' = next a

/-- A coroutine that needs no step. -/
lemma follows_of_stays {phase : Phase} {x : Coroutine α} {next : α → Phase}
    (hphase : phase.proposing = true) (hx : (x.outcome s).1 = s)
    (hnext : ∀ a, (x.outcome s).2 = .ok a → phase = next a) :
    h.Follows now id slot s phase x next := by
  intro tasks hget
  refine ⟨[], [], tasks, phase, ?_, hget, hphase, hnext⟩
  rw [hx]
  exact .nil

lemma follows_of_error {phase : Phase} {x : Coroutine α} {next : α → Phase} {e : Exception}
    (hphase : phase.proposing = true) (hx : x.outcome s = (s, .error e)) :
    h.Follows now id slot s phase x next :=
  follows_of_stays hphase (by rw [hx]) (by simp [hx])

/-- One that takes a step of the task. -/
lemma follows_of_step {phase : Phase} {x : Coroutine α} {next : α → Phase} (s' : State) (v : α)
    (action : Action) (hx : x.outcome s = (s', .ok v)) (hnext : (next v).proposing = true)
    (hstep : ∀ tasks : Dict ℕ SlotTask, tasks.get id = some ⟨slot, phase⟩ →
      ∃ o, step h.toContext now (s.withTasks tasks) action =
        some (s'.withTasks (tasks.set id ⟨slot, next v⟩), o)) :
    h.Follows now id slot s phase x next := by
  intro tasks hget
  obtain ⟨o, ho⟩ := hstep tasks hget
  refine ⟨[action], o, tasks.set id ⟨slot, next v⟩, next v, ?_, by simp, hnext, ?_⟩
  · rw [hx]
    exact run_step ho
  · rw [hx]
    intro a ha
    rw [Except.ok.inj ha]

/-- **The rule of sequence.** -/
lemma Follows.bind {phase : Phase} {x : Coroutine α} {f : α → Coroutine β} {next : α → Phase}
    {last : β → Phase} (hx : h.Follows now id slot s phase x next)
    (hf : ∀ a, h.Follows now id slot (x.outcome s).1 (next a) (f a) last) :
    h.Follows now id slot s phase (x >>= f) last := by
  intro tasks hget
  obtain ⟨as, os, tasks₁, phase₁, r, hget₁, hproposing, hnext⟩ := hx tasks hget
  rw [Coroutine.outcome_bind]
  cases hout : x.outcome s with
  | mk s₁ result =>
    rw [hout] at r hf hnext
    cases result with
    | error e => exact ⟨as, os, tasks₁, phase₁, r, hget₁, hproposing, by simp⟩
    | ok a =>
      rw [hnext a rfl] at hget₁
      obtain ⟨as', os', tasks₂, phase₂, r', hget₂, hproposing₂, hlast⟩ := hf a tasks₁ hget₁
      exact ⟨as ++ as', os ++ os', tasks₂, phase₂, Run.trans r r', hget₂, hproposing₂, hlast⟩

/-! ### The proposal -/

/-- The reveal is fetched, cached and taken out of the cache again. -/
lemma Quiet.follows_fetch (hq : h.Quiet) {duty : ProposerDuty} (hslot : duty.slot = slot) :
    h.Follows now id slot s (.fetchingRandao duty)
      (do (h.fetchRandaoReveal duty).handled .blockProduce; popRandaoReveal slot)
      (.producing duty) := by
  rcases hq.fetchRandaoReveal s duty with ⟨e, hfetch⟩ | ⟨reveal, hfetch⟩
  · refine follows_of_error rfl (e := .handledRuntimeError .blockProduce) ?_
    rw [Coroutine.outcome_bind, Coroutine.outcome_handled, hfetch]
    rfl
  · refine follows_of_step { s with randaoRevealCache :=
        (s.randaoRevealCache.set duty.slot reveal).filterKeys (· ≠ slot) } reveal
      (.randaoReveal id reveal) ?_ rfl fun tasks hget => ⟨[.produceBlock slot duty reveal], ?_⟩
    · rw [Coroutine.outcome_bind, Coroutine.outcome_handled, hfetch]
      simp [Except.mapError, popRandaoReveal_outcome, hslot]
    · simp [step, State.withTasks, hget, State.randaoReveal, State.setPhase]

lemma Quiet.follows_produce (hq : h.Quiet) {duty : ProposerDuty} {reveal : String} :
    h.Follows now id slot s (.producing duty reveal) (h.produceBlock slot duty reveal)
      (.signing duty) := by
  rcases (hq.produceBlock slot duty reveal).outcome s with ⟨e, hout⟩ | ⟨block, hout⟩
  · exact follows_of_error rfl hout
  · refine follows_of_step s block (.blockProduced id block) hout rfl fun tasks hget =>
      ⟨[.signBlock duty.pubkey slot block.version block.blockHeader], ?_⟩
    simp [step, State.withTasks, hget, State.blockProduced, State.setPhase]

lemma Quiet.follows_sign (hq : h.Quiet) {duty : ProposerDuty} {block : ProducedBlock} :
    h.Follows now id slot s (.signing duty block) (h.signBlock slot duty block)
      (fun _ => .publishing duty) := by
  rcases (hq.signBlock slot duty block).outcome s with ⟨e, hout⟩ | ⟨signature, hout⟩
  · exact follows_of_error rfl hout
  · refine follows_of_step s signature (.blockSigned id signature) hout rfl fun tasks hget =>
      ⟨[.publishBlock slot block.executionPayloadBlinded signature], ?_⟩
    simp [step, State.withTasks, hget, State.blockSigned, State.setPhase]

/-- From the reveal to the publication. -/
lemma Quiet.follows_reveal (hq : h.Quiet) {duty : ProposerDuty} {reveal : String} :
    h.Follows now id slot s (.producing duty reveal)
      (do
        let block ← h.produceBlock slot duty reveal
        let signature ← h.signBlock slot duty block
        (h.publishBlockV2 slot block signature).handled .blockPublish)
      (fun _ => .publishing duty) := by
  refine hq.follows_produce.bind fun block => hq.follows_sign.bind fun signature => ?_
  exact follows_of_stays rfl ((hq.publishBlockV2 slot block signature).handled .blockPublish _)
    fun _ _ => rfl

lemma getRandaoReveal_cached {duty : ProposerDuty} {reveal : String}
    (hcached : s.randaoRevealCache.get slot = some reveal) :
    (h.getRandaoReveal slot duty).outcome s =
      ({ s with randaoRevealCache := s.randaoRevealCache.filterKeys (· ≠ slot) },
        .ok reveal) := by
  have hmem : slot ∈ s.randaoRevealCache.keys := Dict.mem_keys_iff.mpr ⟨reveal, hcached⟩
  unfold getRandaoReveal
  rw [Coroutine.outcome_bind, Coroutine.outcome_get]
  dsimp only
  rw [if_pos hmem, popRandaoReveal_outcome, hcached]

lemma getRandaoReveal_missing {duty : ProposerDuty}
    (hmissing : s.randaoRevealCache.get slot = none) :
    (h.getRandaoReveal slot duty).outcome s =
      (do (h.fetchRandaoReveal duty).handled .blockProduce; popRandaoReveal slot :
        Coroutine String).outcome s := by
  have hmem : slot ∉ s.randaoRevealCache.keys := fun hin => by
    obtain ⟨reveal, hget⟩ := Dict.mem_keys_iff.mp hin
    simp [hmissing] at hget
  unfold getRandaoReveal
  rw [Coroutine.outcome_bind, Coroutine.outcome_get]
  dsimp only
  rw [if_neg hmem]

variable (now id) in
/-- `_propose_block` from its first await on. -/
lemma Quiet.propose_run (hq : h.Quiet) {duty : ProposerDuty} (hslot : duty.slot = slot) :
    ∃ as os tasks phase,
      Run (step h.toContext now) (s.startPropose h.toContext id ⟨slot, .ended⟩ duty).1 as
        (((h.proposeDuty slot duty).outcome s).1.withTasks tasks) os ∧
      tasks.get id = some ⟨slot, phase⟩ ∧ phase.proposing = true ∧
      ∀ u, ((h.proposeDuty slot duty).outcome s).2 = .ok u → phase = .publishing duty := by
  unfold proposeDuty
  rw [Coroutine.outcome_bind, Coroutine.outcome_modify]
  dsimp only
  cases hcached : s.randaoRevealCache.get slot with
  | some reveal =>
    have hstart : (s.startPropose h.toContext id ⟨slot, .ended⟩ duty).1 =
        ({ s with
          lastSlotDutyStartedFor := slot
          randaoRevealCache := s.randaoRevealCache.filterKeys (· ≠ slot) } : State).withTasks
          (s.slotTasks.set id ⟨slot, .producing duty reveal⟩) := by
      unfold State.startPropose
      dsimp only
      rw [hcached]
      rfl
    have hcached' : ({ s with lastSlotDutyStartedFor := slot } : State).randaoRevealCache.get
        slot = some reveal := hcached
    rw [hstart, Coroutine.outcome_bind, getRandaoReveal_cached hcached']
    exact hq.follows_reveal _ (by simp)
  | none =>
    have hstart : (s.startPropose h.toContext id ⟨slot, .ended⟩ duty).1 =
        ({ s with lastSlotDutyStartedFor := slot } : State).withTasks
          (s.slotTasks.set id ⟨slot, .fetchingRandao duty⟩) := by
      unfold State.startPropose
      dsimp only
      rw [hcached]
      rfl
    have hmissing : ({ s with lastSlotDutyStartedFor := slot } : State).randaoRevealCache.get
        slot = none := hcached
    rw [hstart, Coroutine.outcome_bind, getRandaoReveal_missing hmissing,
      ← Coroutine.outcome_bind]
    exact (hq.follows_fetch hslot).bind (fun _ => hq.follows_reveal) _ (by simp)

/-! ### The whole handler -/

variable (now id) in
lemma Quiet.prepareNextSlot_run (hq : h.Quiet) {t : SlotTask} (ht : t.slot = slot)
    (tasks : Dict ℕ SlotTask) :
    ∃ as os tasks',
      Run (step h.toContext now) ((s.withTasks tasks).prepareNextSlot h.toContext id t).1 as
        ((h.prepareNextSlot s slot).1.withTasks tasks') os ∧
      tasks'.get id = some ⟨slot, .ended⟩ := by
  subst ht
  have hduty : (s.withTasks tasks).dutyForSlot h.toContext (t.slot + 1) =
      s.dutyForSlot h.toContext (t.slot + 1) := rfl
  unfold State.prepareNextSlot SlotHandler.prepareNextSlot
  rw [hduty]
  cases s.dutyForSlot h.toContext (t.slot + 1) with
  | error duties => exact ⟨[], [], tasks.set id ⟨t.slot, .ended⟩, .nil, by simp⟩
  | ok found =>
    cases found with
    | none => exact ⟨[], [], tasks.set id ⟨t.slot, .ended⟩, .nil, by simp⟩
    | some duty =>
      dsimp only
      rcases hq.fetchRandaoReveal s duty with ⟨e, hfetch⟩ | ⟨reveal, hfetch⟩
      · rw [hfetch]
        refine ⟨[.failed id], [], (tasks.set id ⟨t.slot, .prefetching duty⟩).set id
          ⟨t.slot, .ended⟩, run_step ?_, by simp⟩
        simp [step, State.withTasks, State.setPhase, State.failed, Phase.proposing]
      · rw [hfetch]
        dsimp only
        set tasks₁ := (tasks.set id ⟨t.slot, .prefetching duty⟩).set id ⟨t.slot, .preparing⟩
          with htasks₁
        have hprefetched : step h.toContext now
            ((s.withTasks tasks).setPhase id t (.prefetching duty)) (.randaoReveal id reveal) =
              some (({ s with
                randaoRevealCache := s.randaoRevealCache.set duty.slot reveal } : State).withTasks
                  tasks₁, [.prepareBeaconProposer]) := by
          simp [step, State.withTasks, State.setPhase, State.randaoReveal, htasks₁]
        have hpreparing : tasks₁.get id = some ⟨t.slot, .preparing⟩ := by simp [htasks₁]
        rcases hq.prepareBeaconProposer.outcome
          { s with randaoRevealCache := s.randaoRevealCache.set duty.slot reveal } with
          ⟨e, hprepare⟩ | ⟨_, hprepare⟩
        · rw [hprepare]
          refine ⟨_, _, tasks₁.set id ⟨t.slot, .ended⟩, Run.trans (run_step hprefetched)
            (run_step (a := .failed id) (o := []) ?_), by simp⟩
          simp [step, State.withTasks, State.setPhase, State.failed, hpreparing, Phase.proposing]
        · rw [hprepare]
          refine ⟨_, _, tasks₁.set id ⟨t.slot, .ended⟩, Run.trans (run_step hprefetched)
            (run_step (a := .proposerPrepared id) (o := []) ?_), by simp⟩
          simp [step, State.withTasks, State.setPhase, State.proposerPrepared, hpreparing]

/-- However the proposal ends, the slot counts as completed. -/
lemma proposed_of_begun {s' : State} {duty : ProposerDuty}
    (hbegin : s.beginPropose h.toContext now slot = .ok (some (s', duty))) :
    h.proposed now s slot =
      ({ ((h.proposeDuty slot duty).outcome s').1 with lastSlotDutyCompletedFor := slot },
        ((h.proposeDuty slot duty).outcome s').2) := by
  unfold proposed proposeBlock
  rw [Coroutine.outcome_bind, Coroutine.outcome_get]
  dsimp only
  rw [hbegin]
  dsimp only
  rw [Coroutine.outcome_bind, Coroutine.outcome_set]
  dsimp only
  rw [Coroutine.outcome_tryFinally]

lemma proposed_of_error {e : Exception}
    (hbegin : s.beginPropose h.toContext now slot = .error e) :
    h.proposed now s slot = (s, .error e) := by
  unfold proposed proposeBlock
  rw [Coroutine.outcome_bind, Coroutine.outcome_get]
  dsimp only
  rw [hbegin]
  rfl

lemma proposed_of_none (hbegin : s.beginPropose h.toContext now slot = .ok none) :
    h.proposed now s slot = (s, .ok ()) := by
  unfold proposed proposeBlock
  rw [Coroutine.outcome_bind, Coroutine.outcome_get]
  dsimp only
  rw [hbegin]
  rfl

lemma slot_of_beginPropose {s' : State} {duty : ProposerDuty}
    (hbegin : s.beginPropose h.toContext now slot = .ok (some (s', duty))) :
    duty.slot = slot := by
  unfold State.beginPropose at hbegin
  split_ifs at hbegin
  cases hduty : s.dutyForSlot h.toContext slot with
  | error duties => simp [hduty] at hbegin
  | ok found =>
    cases found with
    | none => simp [hduty] at hbegin
    | some duty' =>
      obtain ⟨-, rfl⟩ : s.removeDuty h.toContext slot duty' = s' ∧ duty' = duty := by
        simpa [hduty] using hbegin
      exact (duty_of_dutyForSlot hduty).1

lemma onNewSlot_fst_of_error {s' : State} {e : Exception} (isNewEpoch : Bool)
    (hproposed : h.proposed now s slot = (s', .error e)) :
    (h.onNewSlot now s slot isNewEpoch).1 = s' := by
  unfold proposed at hproposed
  unfold SlotHandler.onNewSlot
  rw [hproposed]

lemma onNewSlot_fst_of_ok {s' : State} (isNewEpoch : Bool)
    (hproposed : h.proposed now s slot = (s', .ok ())) :
    (h.onNewSlot now s slot isNewEpoch).1 = (h.prepareNextSlot s' slot).1 := by
  unfold proposed at hproposed
  unfold SlotHandler.onNewSlot
  rw [hproposed]
  dsimp only
  rcases h.prepareNextSlot s' slot with ⟨s'', followUps, _ | _⟩ <;> rfl

variable (id) in
/-- From the first await of the proposal to the end of the task. -/
lemma Quiet.begun_run (hq : h.Quiet) {s' : State} {duty : ProposerDuty} (isNewEpoch : Bool)
    (hbegin : s.beginPropose h.toContext now slot = .ok (some (s', duty))) :
    ∃ as os tasks,
      Run (step h.toContext now) (s'.startPropose h.toContext id ⟨slot, .ended⟩ duty).1 as
        ((h.onNewSlot now s slot isNewEpoch).1.withTasks tasks) os ∧
      tasks.get id = some ⟨slot, .ended⟩ := by
  obtain ⟨as, os, tasks, phase, r, hget, hproposing, hpublishing⟩ :=
    hq.propose_run now id (s := s') (slot_of_beginPropose hbegin)
  have hproposed := proposed_of_begun hbegin
  cases hout : (h.proposeDuty slot duty).outcome s' with
  | mk s₁ result =>
    rw [hout] at r hpublishing hproposed
    cases result with
    | error e =>
      rw [onNewSlot_fst_of_error isNewEpoch hproposed]
      refine ⟨_, _, tasks.set id ⟨slot, .ended⟩, Run.trans r
        (run_step (a := .failed id) (o := []) ?_), by simp⟩
      simp [step, State.withTasks, hget, State.failed, hproposing, State.setPhase]
    | ok _ =>
      obtain rfl := hpublishing () rfl
      rw [onNewSlot_fst_of_ok isNewEpoch hproposed]
      obtain ⟨as', os', tasks', r', hget'⟩ := hq.prepareNextSlot_run now id
        (s := { s₁ with lastSlotDutyCompletedFor := slot }) (t := ⟨slot, .publishing duty⟩) rfl
        tasks
      have hpublished : step h.toContext now (s₁.withTasks tasks) (.blockPublished id) =
          some ((({ s₁ with lastSlotDutyCompletedFor := slot } : State).withTasks
            tasks).prepareNextSlot h.toContext id ⟨slot, .publishing duty⟩) := by
        simp [step, State.withTasks, hget, State.blockPublished]
      exact ⟨_, _, tasks', Run.trans (Run.trans r (run_step hpublished)) r', hget'⟩

/-- **A task of `on_new_slot` that nothing comes between.** Its steps leave the service as the
coroutine does, and the task has ended. -/
theorem Quiet.onNewSlot_run (hq : h.Quiet) (hnew : s.slotTasks.get id = none)
    (isNewEpoch : Bool) : ∃ as os tasks,
      Run (step h.toContext now) s as ((h.onNewSlot now s slot isNewEpoch).1.withTasks tasks) os ∧
      tasks.get id = some ⟨slot, .ended⟩ := by
  have hstart : step h.toContext now s (.onNewSlot id slot) =
      some (s.onNewSlot h.toContext now id slot) := if_pos hnew
  rw [onNewSlot_eq_beginPropose] at hstart
  cases hbegin : s.beginPropose h.toContext now slot with
  | error e =>
    rw [hbegin] at hstart
    rw [onNewSlot_fst_of_error isNewEpoch (proposed_of_error hbegin)]
    exact ⟨_, _, s.slotTasks.set id ⟨slot, .ended⟩, run_step hstart, by simp⟩
  | ok found =>
    rw [hbegin] at hstart
    cases found with
    | none =>
      rw [onNewSlot_fst_of_ok isNewEpoch (proposed_of_none hbegin)]
      obtain ⟨as, os, tasks, r, hget⟩ := hq.prepareNextSlot_run now id (s := s)
        (t := ⟨slot, .ended⟩) rfl s.slotTasks
      exact ⟨_, _, tasks, Run.trans (run_step hstart) r, hget⟩
    | some begun =>
      obtain ⟨as, os, tasks, r, hget⟩ := hq.begun_run id isNewEpoch hbegin
      exact ⟨_, _, tasks, Run.trans (run_step hstart) r, hget⟩

end SlotHandler

end Vero.BlockProposalService
