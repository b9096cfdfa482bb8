import Vero.BlockProposalService

/-!
What a step of `BlockProposalService` can do, said once: to the last slot started and to the
tasks that have a block to sign.
-/

namespace Vero.BlockProposalService

open Lib SchemaBeaconAPI

/-! ### Starts and signatures -/

/-- The slots `_propose_block` was started for. -/
def starts (os : List Output) : List ℤ :=
  os.filterMap fun
    | .proposeStarted slot => some slot
    | _ => none

/-- The slots of the block signatures requested. -/
def signed (os : List Output) : List ℤ :=
  os.filterMap fun
    | .signBlock _ slot _ _ => some slot
    | _ => none

@[simp] lemma starts_append (os o : List Output) : starts (os ++ o) = starts os ++ starts o := by
  simp [starts]

@[simp] lemma signed_append (os o : List Output) : signed (os ++ o) = signed os ++ signed o := by
  simp [signed]

lemma mem_starts {os : List Output} {slot : ℤ} :
    slot ∈ starts os ↔ .proposeStarted slot ∈ os :=
  Runs.mem_filterMap_iff fun x slot => by cases x <;> simp [eq_comm]

@[simp] lemma starts_nil : starts [] = [] := rfl
@[simp] lemma signed_nil : signed [] = [] := rfl

/-- The task is on its way to ask for the signature of a block. -/
def Phase.unsigned : Phase → Bool
  | fetchingRandao _ | producing _ _ => true
  | _ => false

/-! ### The steps -/

variable {c : Context} {now : Moment} {s s' : State} {a : Action} {o os : List Output}

/-- The branches of a step, with what they find in the service. -/
inductive Transition (c : Context) (now : Moment) (s : State) :
    Action → State → List Output → Prop
  | onNewSlot (id : ℕ) (slot : ℤ) (new : s.slotTasks.get id = none) :
      Transition c now s (.onNewSlot id slot) (s.onNewSlot c now id slot).1
        (s.onNewSlot c now id slot).2
  | fetched (id : ℕ) (t : SlotTask) (duty : ProposerDuty) (reveal : String)
      (get : s.slotTasks.get id = some t) (phase : t.phase = .fetchingRandao duty) :
      Transition c now s (.randaoReveal id reveal)
        ({ s with randaoRevealCache :=
          (s.randaoRevealCache.set duty.slot reveal).filterKeys (· ≠ t.slot) }.setPhase id t
            (.producing duty reveal))
        [.produceBlock t.slot duty reveal]
  | prefetched (id : ℕ) (t : SlotTask) (duty : ProposerDuty) (reveal : String)
      (get : s.slotTasks.get id = some t) (phase : t.phase = .prefetching duty) :
      Transition c now s (.randaoReveal id reveal)
        ({ s with randaoRevealCache := s.randaoRevealCache.set duty.slot reveal }.setPhase id t
          .preparing)
        [.prepareBeaconProposer]
  | produced (id : ℕ) (t : SlotTask) (duty : ProposerDuty) (reveal : String)
      (block : ProducedBlock) (get : s.slotTasks.get id = some t)
      (phase : t.phase = .producing duty reveal) :
      Transition c now s (.blockProduced id block) (s.setPhase id t (.signing duty block))
        [.signBlock duty.pubkey t.slot block.version block.blockHeader]
  | signed (id : ℕ) (t : SlotTask) (duty : ProposerDuty) (block : ProducedBlock)
      (signature : String) (get : s.slotTasks.get id = some t)
      (phase : t.phase = .signing duty block) :
      Transition c now s (.blockSigned id signature) (s.setPhase id t (.publishing duty))
        [.publishBlock t.slot block.executionPayloadBlinded signature]
  | published (id : ℕ) (t : SlotTask) (duty : ProposerDuty) (get : s.slotTasks.get id = some t)
      (phase : t.phase = .publishing duty) :
      Transition c now s (.blockPublished id)
        ({ s with lastSlotDutyCompletedFor := t.slot }.prepareNextSlot c id t).1
        ({ s with lastSlotDutyCompletedFor := t.slot }.prepareNextSlot c id t).2
  | prepared (id : ℕ) (t : SlotTask) (get : s.slotTasks.get id = some t)
      (phase : t.phase = .preparing) :
      Transition c now s (.proposerPrepared id) (s.setPhase id t .ended) []
  | proposalFailed (id : ℕ) (t : SlotTask) (get : s.slotTasks.get id = some t)
      (proposing : t.phase.proposing = true) :
      Transition c now s (.failed id)
        ({ s with lastSlotDutyCompletedFor := t.slot }.setPhase id t .ended) []
  | failed (id : ℕ) (t : SlotTask) (get : s.slotTasks.get id = some t)
      (idle : t.phase.proposing = false) :
      Transition c now s (.failed id) (s.setPhase id t .ended) []
  | noValidators (indices : now.tracker.activeOrPendingIndices = []) :
      Transition c now s .updateDuties s []
  | updateDuties (update : s.update.isNone) (u : UpdateRun) :
      Transition c now s .updateDuties (s.nextEpoch c now u).1 (s.nextEpoch c now u).2
  | dutiesResponse (u : UpdateRun) (response : GetProposerDutiesResponse)
      (update : s.update = some u) :
      Transition c now s (.dutiesResponse u.epoch response) (s.dutiesResponse c now u response).1
        (s.dutiesResponse c now u response).2
  | updateFailed (u : UpdateRun) (update : s.update = some u) :
      Transition c now s .updateFailed { s with update := none } []

/-- **Every step takes one of them.** -/
lemma transition_of_step (h : step c now s a = some (s', o)) : Transition c now s a s' o := by
  cases a with
  | onNewSlot id slot =>
    simp only [step] at h
    split_ifs at h with hnew
    obtain ⟨rfl, rfl⟩ := Prod.ext_iff.mp (Option.some.inj h)
    exact .onNewSlot id slot hnew
  | randaoReveal id reveal =>
    obtain ⟨t, ht, he⟩ := Option.bind_eq_some_iff.mp h
    unfold State.randaoReveal at he
    split at he
    · next duty hphase =>
      obtain ⟨rfl, rfl⟩ := Prod.mk.inj (Option.some.inj he)
      exact .fetched id t duty reveal ht hphase
    · next duty hphase =>
      obtain ⟨rfl, rfl⟩ := Prod.mk.inj (Option.some.inj he)
      exact .prefetched id t duty reveal ht hphase
    · simp at he
  | blockProduced id block =>
    obtain ⟨t, ht, he⟩ := Option.bind_eq_some_iff.mp h
    unfold State.blockProduced at he
    split at he
    · next duty reveal hphase =>
      obtain ⟨rfl, rfl⟩ := Prod.mk.inj (Option.some.inj he)
      exact .produced id t duty reveal block ht hphase
    · simp at he
  | blockSigned id signature =>
    obtain ⟨t, ht, he⟩ := Option.bind_eq_some_iff.mp h
    unfold State.blockSigned at he
    split at he
    · next duty block hphase =>
      obtain ⟨rfl, rfl⟩ := Prod.mk.inj (Option.some.inj he)
      exact .signed id t duty block signature ht hphase
    · simp at he
  | blockPublished id =>
    obtain ⟨t, ht, he⟩ := Option.bind_eq_some_iff.mp h
    unfold State.blockPublished at he
    split at he
    · next duty hphase =>
      obtain ⟨rfl, rfl⟩ := Prod.ext_iff.mp (Option.some.inj he)
      exact .published id t duty ht hphase
    · simp at he
  | proposerPrepared id =>
    obtain ⟨t, ht, he⟩ := Option.bind_eq_some_iff.mp h
    unfold State.proposerPrepared at he
    split at he
    · next hphase =>
      obtain ⟨rfl, rfl⟩ := Prod.mk.inj (Option.some.inj he)
      exact .prepared id t ht hphase
    · simp at he
  | failed id =>
    obtain ⟨t, ht, he⟩ := Option.map_eq_some_iff.mp h
    obtain ⟨rfl, rfl⟩ := Prod.mk.inj he
    unfold State.failed
    split_ifs with hphase
    · exact .proposalFailed id t ht hphase
    · exact .failed id t ht (Bool.eq_false_of_not_eq_true hphase)
  | updateDuties =>
    simp only [step] at h
    split_ifs at h with hidle
    obtain ⟨rfl, rfl⟩ := Prod.ext_iff.mp (Option.some.inj h)
    unfold State.updateDuties
    dsimp only
    split_ifs with hindices
    · exact .noValidators hindices
    · exact .updateDuties hidle _
  | dutiesResponse epoch response =>
    obtain ⟨u, hu, he⟩ := Option.bind_eq_some_iff.mp h
    split_ifs at he with hepoch
    subst hepoch
    obtain ⟨rfl, rfl⟩ := Prod.ext_iff.mp (Option.some.inj he)
    exact .dutiesResponse u response hu
  | updateFailed =>
    obtain ⟨u, hu, he⟩ := Option.map_eq_some_iff.mp h
    obtain ⟨rfl, rfl⟩ := Prod.mk.inj he
    exact .updateFailed u hu

/-- What a step does to the tasks that have a block to sign: nothing, moving one on or away,
asking for its signature, or starting a new one. -/
inductive Effect (c : Context) (now : Moment) (s s' : State) (o : List Output) : Prop
  | frame (last : s'.lastSlotDutyStartedFor = s.lastSlotDutyStartedFor)
      (tasks : s'.slotTasks = s.slotTasks) (starts : starts o = []) (signed : signed o = [])
  | moved (id : ℕ) (t' : SlotTask)
      (unsigned : t'.phase.unsigned → ∃ t, s.slotTasks.get id = some t ∧ t.slot = t'.slot ∧
        t.phase.unsigned)
      (last : s'.lastSlotDutyStartedFor = s.lastSlotDutyStartedFor)
      (tasks : s'.slotTasks = s.slotTasks.set id t') (starts : starts o = [])
      (signed : signed o = [])
  | signature (id : ℕ) (t t' : SlotTask) (get : s.slotTasks.get id = some t)
      (unsigned : t.phase.unsigned) (unsigned' : t'.phase.unsigned = false)
      (last : s'.lastSlotDutyStartedFor = s.lastSlotDutyStartedFor)
      (tasks : s'.slotTasks = s.slotTasks.set id t') (starts : starts o = [])
      (signed : signed o = [t.slot])
  | started (id : ℕ) (t : SlotTask) (accepts : ¬ c.refuses now)
      (later : s.lastSlotDutyStartedFor < t.slot) (current : t.slot = c.currentSlot now)
      (last : s'.lastSlotDutyStartedFor = t.slot) (tasks : s'.slotTasks = s.slotTasks.set id t)
      (starts : starts o = [t.slot]) (signed : signed o = [])

/-- What a step does to the tasks and to the slots the service keeps: nothing, setting a task
to a phase in which it proposes no block, moving a proposal on, ending it, or starting a new
one. -/
inductive TaskEffect (c : Context) (now : Moment) (s s' : State) (o : List Output) : Prop
  | frame (started : s'.lastSlotDutyStartedFor = s.lastSlotDutyStartedFor)
      (completed : s'.lastSlotDutyCompletedFor = s.lastSlotDutyCompletedFor)
      (tasks : s'.slotTasks = s.slotTasks) (starts : starts o = []) (signed : signed o = [])
  | idle (id : ℕ) (t' : SlotTask) (phase : t'.phase.proposing = false)
      (started : s'.lastSlotDutyStartedFor = s.lastSlotDutyStartedFor)
      (completed : s'.lastSlotDutyCompletedFor = s.lastSlotDutyCompletedFor)
      (tasks : s'.slotTasks = s.slotTasks.set id t') (starts : starts o = [])
      (signed : signed o = [])
  | moved (id : ℕ) (t : SlotTask) (phase' : Phase) (get : s.slotTasks.get id = some t)
      (proposing : t.phase.proposing) (unsigned : phase'.unsigned → t.phase.unsigned)
      (started : s'.lastSlotDutyStartedFor = s.lastSlotDutyStartedFor)
      (completed : s'.lastSlotDutyCompletedFor = s.lastSlotDutyCompletedFor)
      (tasks : s'.slotTasks = s.slotTasks.set id { t with phase := phase' })
      (starts : starts o = []) (signed : signed o = [])
  | signature (id : ℕ) (t : SlotTask) (phase' : Phase) (get : s.slotTasks.get id = some t)
      (unsigned : t.phase.unsigned) (unsigned' : phase'.unsigned = false)
      (started : s'.lastSlotDutyStartedFor = s.lastSlotDutyStartedFor)
      (completed : s'.lastSlotDutyCompletedFor = s.lastSlotDutyCompletedFor)
      (tasks : s'.slotTasks = s.slotTasks.set id { t with phase := phase' })
      (starts : starts o = []) (signed : signed o = [t.slot])
  | ended (id : ℕ) (t : SlotTask) (phase' : Phase) (get : s.slotTasks.get id = some t)
      (proposing : t.phase.proposing) (phase : phase'.proposing = false)
      (started : s'.lastSlotDutyStartedFor = s.lastSlotDutyStartedFor)
      (completed : s'.lastSlotDutyCompletedFor = t.slot)
      (tasks : s'.slotTasks = s.slotTasks.set id { t with phase := phase' })
      (starts : starts o = []) (signed : signed o = [])
  | started (id : ℕ) (t : SlotTask) (accepts : ¬ c.refuses now) (proposing : t.phase.proposing)
      (later : s.lastSlotDutyStartedFor < t.slot) (current : t.slot = c.currentSlot now)
      (started : s'.lastSlotDutyStartedFor = t.slot)
      (completed : s'.lastSlotDutyCompletedFor = s.lastSlotDutyCompletedFor)
      (tasks : s'.slotTasks = s.slotTasks.set id t) (starts : starts o = [t.slot])
      (signed : signed o = [])

lemma Phase.proposing_of_unsigned {phase : Phase} (h : phase.unsigned = true) :
    phase.proposing = true := by
  cases phase with
  | fetchingRandao | producing => rfl
  | signing | publishing | prefetching | preparing | ended => simp [unsigned] at h

/-- Preparing for the next slot sets the task to a phase in which it proposes no block. -/
lemma prepareNextSlot_idle (s₁ : State) (id : ℕ) (t : SlotTask) : ∃ phase : Phase,
    phase.proposing = false ∧ (s₁.prepareNextSlot c id t).1 = s₁.setPhase id t phase ∧
      starts (s₁.prepareNextSlot c id t).2 = [] ∧ signed (s₁.prepareNextSlot c id t).2 = [] := by
  unfold State.prepareNextSlot
  split
  · exact ⟨_, rfl, rfl, rfl, rfl⟩
  · exact ⟨_, rfl, rfl, rfl, rfl⟩
  · exact ⟨_, rfl, rfl, rfl, rfl⟩

lemma taskEffect_startPropose {id : ℕ} {t : SlotTask} {duty : ProposerDuty} {s₁ : State}
    (accepts : ¬ c.refuses now) (later : s.lastSlotDutyStartedFor < t.slot)
    (current : t.slot = c.currentSlot now) (htasks : s₁.slotTasks = s.slotTasks)
    (hcompleted : s₁.lastSlotDutyCompletedFor = s.lastSlotDutyCompletedFor) :
    TaskEffect c now s (s₁.startPropose c id t duty).1 (s₁.startPropose c id t duty).2 := by
  unfold State.startPropose
  dsimp only
  split
  · exact .started id { t with phase := .producing duty _ } accepts rfl later current rfl
      hcompleted (by rw [← htasks]; rfl) rfl rfl
  · exact .started id { t with phase := .fetchingRandao duty } accepts rfl later current rfl
      hcompleted (by rw [← htasks]; rfl) rfl rfl

lemma taskEffect_onNewSlot (id : ℕ) (slot : ℤ) :
    TaskEffect c now s (s.onNewSlot c now id slot).1 (s.onNewSlot c now id slot).2 := by
  have hended : TaskEffect c now s (s.setPhase id ⟨slot, .ended⟩ .ended) [] :=
    .idle id ⟨slot, .ended⟩ rfl rfl rfl rfl rfl rfl
  unfold State.onNewSlot
  dsimp only
  split
  · exact hended
  · next accepts =>
    split
    · exact hended
    · next later =>
      split
      · exact hended
      · next current =>
        split
        · exact hended
        · obtain ⟨phase, hphase, hs, hstarts, hsigned⟩ :=
            prepareNextSlot_idle (c := c) s id ⟨slot, .ended⟩
          rw [hs]
          exact .idle id ⟨slot, phase⟩ hphase rfl rfl rfl hstarts hsigned
        · exact taskEffect_startPropose accepts (not_le.mp later) (not_not.mp current) rfl rfl

lemma taskEffect_nextEpoch {s₁ : State} (u : UpdateRun)
    (hstarted : s₁.lastSlotDutyStartedFor = s.lastSlotDutyStartedFor)
    (hcompleted : s₁.lastSlotDutyCompletedFor = s.lastSlotDutyCompletedFor)
    (htasks : s₁.slotTasks = s.slotTasks) :
    TaskEffect c now s (s₁.nextEpoch c now u).1 (s₁.nextEpoch c now u).2 := by
  unfold State.nextEpoch
  split
  · exact .frame hstarted hcompleted htasks rfl rfl
  · exact .frame hstarted hcompleted htasks rfl rfl

/-- **What a step does.** -/
lemma taskEffect_of_step (h : step c now s a = some (s', o)) : TaskEffect c now s s' o := by
  cases transition_of_step h with
  | onNewSlot id slot => exact taskEffect_onNewSlot id slot
  | fetched id t duty reveal get phase =>
    exact .moved id t (.producing duty reveal) get (by simp [phase, Phase.proposing])
      (fun _ => by simp [phase, Phase.unsigned]) rfl rfl rfl rfl rfl
  | prefetched id t => exact .idle id { t with phase := .preparing } rfl rfl rfl rfl rfl rfl
  | produced id t duty reveal block get phase =>
    exact .signature id t (.signing duty block) get (by simp [phase, Phase.unsigned]) rfl rfl rfl
      rfl rfl rfl
  | signed id t duty block signature get phase =>
    exact .moved id t (.publishing duty) get (by simp [phase, Phase.proposing])
      (by simp [Phase.unsigned]) rfl rfl rfl rfl rfl
  | published id t duty get phase =>
    obtain ⟨phase', hidle, hs, hstarts, hsigned⟩ :=
      prepareNextSlot_idle (c := c) { s with lastSlotDutyCompletedFor := t.slot } id t
    rw [hs]
    exact .ended id t phase' get (by simp [phase, Phase.proposing]) hidle rfl rfl rfl hstarts
      hsigned
  | prepared id t => exact .idle id { t with phase := .ended } rfl rfl rfl rfl rfl rfl
  | proposalFailed id t get proposing =>
    exact .ended id t .ended get proposing rfl rfl rfl rfl rfl rfl
  | failed id t => exact .idle id { t with phase := .ended } rfl rfl rfl rfl rfl rfl
  | noValidators => exact .frame rfl rfl rfl rfl rfl
  | updateDuties _ u => exact taskEffect_nextEpoch u rfl rfl rfl
  | dutiesResponse u => exact taskEffect_nextEpoch u rfl rfl rfl
  | updateFailed => exact .frame rfl rfl rfl rfl rfl

lemma effect_of_step (h : step c now s a = some (s', o)) : Effect c now s s' o := by
  have hidle : ∀ {phase : Phase}, phase.proposing = false → ¬ phase.unsigned := fun hp hu => by
    simp [Phase.proposing_of_unsigned hu] at hp
  cases taskEffect_of_step h with
  | frame started _ tasks hstarts hsigned => exact .frame started tasks hstarts hsigned
  | idle id t' phase started _ tasks hstarts hsigned =>
    exact .moved id t' (fun hu => absurd hu (hidle phase)) started tasks hstarts hsigned
  | moved id t phase' get _ unsigned started _ tasks hstarts hsigned =>
    exact .moved id { t with phase := phase' } (fun hu => ⟨t, get, rfl, unsigned hu⟩) started tasks
      hstarts hsigned
  | signature id t phase' get unsigned unsigned' started _ tasks hstarts hsigned =>
    exact .signature id t { t with phase := phase' } get unsigned unsigned' started tasks hstarts
      hsigned
  | ended id t phase' get _ phase started _ tasks hstarts hsigned =>
    exact .moved id { t with phase := phase' } (fun hu => absurd hu (hidle phase)) started tasks
      hstarts hsigned
  | started id t accepts _ later current started _ tasks hstarts hsigned =>
    exact .started id t accepts later current started tasks hstarts hsigned

end Vero.BlockProposalService
