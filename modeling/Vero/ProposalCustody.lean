import Vero.Lib.Chains
import Vero.ProposalRuns
import Vero.RandaoReveals

/-!
The chain of custody of a block.

Proposals of several slots may be under way at once, and their answers come in any order. What
happens for one slot is the beginning of one proposal: the block that is signed is the one that was
asked for with the duty of the slot, and what is published has the signature over it.
-/

namespace Vero.BlockProposalService

open Lib Lib.Runs Lib.Chains SchemaBeaconAPI

/-- What happens to the block of a slot. -/
inductive Custody
  | started
  | requested (duty : ProposerDuty) (randaoReveal : String)
  | produced (block : ProducedBlock)
  | signatureRequested (pubkey : Pubkey) (version : String) (blockHeader : BeaconBlockHeader)
  | signed (signature : String)
  | published (blinded : Bool) (signature : String)
  deriving DecidableEq

/-- What an answer gives the slot of the task that awaits it. -/
def received (s : State) : Action → List (ℤ × Custody)
  | .blockProduced id block =>
    ((s.slotTasks.get id).map fun t => (t.slot, Custody.produced block)).toList
  | .blockSigned id signature =>
    ((s.slotTasks.get id).map fun t => (t.slot, Custody.signed signature)).toList
  | _ => []

def sent : Output → Option (ℤ × Custody)
  | .proposeStarted slot => some (slot, .started)
  | .produceBlock slot duty randaoReveal => some (slot, .requested duty randaoReveal)
  | .signBlock pubkey slot version blockHeader =>
    some (slot, .signatureRequested pubkey version blockHeader)
  | .publishBlock slot blinded signature => some (slot, .published blinded signature)
  | .signRandaoReveal _ _ | .prepareBeaconProposer | .getProposerDuties _ => none

def custody (s : State) (a : Action) (o : List Output) : List (ℤ × Custody) :=
  received s a ++ o.filterMap sent

/-- The service, each step at a moment of its own, told by the custody of its blocks. -/
def traced (c : Context) : Machine State (Moment × Action) (ℤ × Custody) := fun s a =>
  (step c a.1 s a.2).map fun p => (p.1, custody s a.2 p.2)

/-- A proposal that is carried through. -/
def proposal (duty : ProposerDuty) (randaoReveal : String) (block : ProducedBlock)
    (signature : String) : List Custody :=
  [.started, .requested duty randaoReveal, .produced block,
    .signatureRequested duty.pubkey block.version block.blockHeader, .signed signature,
    .published block.executionPayloadBlinded signature]

/-- What happened is the beginning of one proposal, with a duty of the slot. -/
def Unbroken (slot : ℤ) (l : List Custody) : Prop :=
  ∃ duty randaoReveal block signature, duty.slot = slot ∧
    l <+: proposal duty randaoReveal block signature

/-- What happened for the slot of a task by the time it awaits something. -/
inductive Holds (slot : ℤ) : Phase → List Custody → Prop
  | fetchingRandao (duty : ProposerDuty) (own : duty.slot = slot) :
      Holds slot (.fetchingRandao duty) [.started]
  | producing (duty : ProposerDuty) (randaoReveal : String) (own : duty.slot = slot) :
      Holds slot (.producing duty randaoReveal) [.started, .requested duty randaoReveal]
  | signing (duty : ProposerDuty) (randaoReveal : String) (block : ProducedBlock)
      (own : duty.slot = slot) :
      Holds slot (.signing duty block) [.started, .requested duty randaoReveal, .produced block,
        .signatureRequested duty.pubkey block.version block.blockHeader]
  | publishing (duty : ProposerDuty) (randaoReveal : String) (block : ProducedBlock)
      (signature : String) (own : duty.slot = slot) :
      Holds slot (.publishing duty) (proposal duty randaoReveal block signature)

variable {c : Context} {now : Moment} {s s' : State} {a : Action} {o : List Output}
variable {es : List (ℤ × Custody)} {l : List Custody} {slot : ℤ} {t : SlotTask}

lemma unbroken_nil (slot : ℤ) : Unbroken slot [] :=
  ⟨⟨"", 0, slot⟩, "", ⟨"", false, ⟨"", "", "", "", ""⟩⟩, "", rfl, List.nil_prefix⟩

lemma Holds.unbroken {phase : Phase} (h : Holds slot phase l) : Unbroken slot l := by
  cases h with
  | fetchingRandao duty own =>
    exact ⟨duty, "", ⟨"", false, ⟨"", "", "", "", ""⟩⟩, "", own, ⟨_, rfl⟩⟩
  | producing duty randaoReveal own =>
    exact ⟨duty, randaoReveal, ⟨"", false, ⟨"", "", "", "", ""⟩⟩, "", own, ⟨_, rfl⟩⟩
  | signing duty randaoReveal block own => exact ⟨duty, randaoReveal, block, "", own, ⟨_, rfl⟩⟩
  | publishing duty randaoReveal block signature own =>
    exact ⟨duty, randaoReveal, block, signature, own, List.prefix_refl _⟩

/-! ### What a step keeps -/

/-- A task that proposes a block knows what happened for its slot. -/
def account : Account ℤ Custody SlotTask where
  key := SlotTask.slot
  active t := t.phase.proposing
  Holds t := Holds t.slot t.phase
  Whole := Unbroken
  whole_nil := unbroken_nil
  whole_of_holds _ _ h := h.unbroken

def Kept (s : State) (es : List (ℤ × Custody)) : Prop :=
  account.Kept s.lastSlotDutyStartedFor s.slotTasks.get es

lemma kept_init (duties : Dict ℤ Duties) (roots : Dict ℤ Root) : Kept (.init duties roots) [] :=
  Account.Kept.nil fun _ => rfl

lemma Kept.of_get (h : Kept s es) {id : ℕ} (get : s.slotTasks.get id = some t)
    (proposing : t.phase.proposing) : Holds t.slot t.phase (chain t.slot es) :=
  Account.Kept.holds h id t get proposing

lemma Kept.setPhase (h : Kept s es) {id : ℕ} {phase : Phase} (hidle : phase.proposing = false) :
    Kept (s.setPhase id t phase) es := by
  refine Account.Kept.idle h (Dict.forall_set.mpr ⟨fun hp => ?_, fun _ _ _ hget _ => hget⟩)
  change phase.proposing = true at hp
  rw [hidle] at hp
  exact absurd hp Bool.false_ne_true

/-- A task goes on with the proposal of its slot. -/
lemma Kept.advance (h : Kept s es) (htracked : Tracked s) {id : ℕ} {phase : Phase}
    (get : s.slotTasks.get id = some t) (proposing : t.phase.proposing)
    (hnew : Holds t.slot phase (chain t.slot es ++ l))
    (started : s'.lastSlotDutyStartedFor = s.lastSlotDutyStartedFor)
    (tasks : s'.slotTasks = s.slotTasks.set id { t with phase }) :
    Kept s' (es ++ l.map (Prod.mk t.slot)) := by
  have hdistinct : ∀ i q, i ≠ id → s.slotTasks.get i = some q → q.phase.proposing →
      q.slot ≠ t.slot :=
    fun i q hi hq hp he => hi (htracked.distinct i id q t hq get hp proposing he)
  have hid : s'.slotTasks.get id = some { t with phase } := by
    rw [tasks, Dict.get_set, if_pos rfl]
  have hother : ∀ i, i ≠ id → s'.slotTasks.get i = s.slotTasks.get i := fun i hi => by
    rw [tasks, Dict.get_set, if_neg hi]
  have hkey : account.key { t with phase } = account.key t := rfl
  unfold Kept
  rw [started]
  exact Account.Kept.advance h (htracked.started id t get proposing) hdistinct hkey hnew hid hother

/-- A proposal starts for a slot for which nothing has happened. -/
lemma Kept.start (h : Kept s es) (htracked : Tracked s) {id : ℕ}
    (later : s.lastSlotDutyStartedFor < t.slot) (hnew : Holds t.slot t.phase l)
    (started : s'.lastSlotDutyStartedFor = t.slot) (tasks : s'.slotTasks = s.slotTasks.set id t) :
    Kept s' (es ++ l.map (Prod.mk t.slot)) := by
  have hid : s'.slotTasks.get id = some t := by rw [tasks, Dict.get_set, if_pos rfl]
  have hother : ∀ i, i ≠ id → s'.slotTasks.get i = s.slotTasks.get i := fun i hi => by
    rw [tasks, Dict.get_set, if_neg hi]
  unfold Kept
  rw [started]
  exact Account.Kept.start h later htracked.started hnew hid hother

/-! ### The steps -/

/-- Outputs with which nothing happens to a block. -/
lemma custody_eq_nil (hr : received s a = []) (ho : ∀ x ∈ o, sent x = none) :
    custody s a o = [] := by
  rw [custody, hr, List.nil_append, List.filterMap_eq_nil_iff]
  exact ho

lemma kept_prepareNextSlot (h : Kept s es) (id : ℕ) (t : SlotTask) :
    Kept (s.prepareNextSlot c id t).1
      (es ++ (s.prepareNextSlot c id t).2.filterMap sent) := by
  unfold State.prepareNextSlot
  split
  · rw [show List.filterMap sent [_] = [] from rfl, List.append_nil]
    exact h.setPhase rfl
  · rw [List.filterMap_nil, List.append_nil]
    exact h.setPhase rfl
  · rw [List.filterMap_nil, List.append_nil]
    exact h.setPhase rfl

lemma kept_startPropose (h : Kept s es) (htracked : Tracked s) {s₁ : State} {id : ℕ}
    {duty : ProposerDuty} (later : s.lastSlotDutyStartedFor < t.slot) (own : duty.slot = t.slot)
    (tasks : s₁.slotTasks = s.slotTasks) :
    Kept (s₁.startPropose c id t duty).1
      (es ++ (s₁.startPropose c id t duty).2.filterMap sent) := by
  unfold State.startPropose
  dsimp only
  split
  · next reveal _ =>
    exact h.start (t := { t with phase := .producing duty reveal })
      (l := [.started, .requested duty reveal]) htracked later (.producing duty reveal own) rfl
      (by rw [← tasks]; rfl)
  · exact h.start (t := { t with phase := .fetchingRandao duty }) (l := [.started]) htracked later
      (.fetchingRandao duty own) rfl (by rw [← tasks]; rfl)

lemma kept_onNewSlot (h : Kept s es) (htracked : Tracked s) (id : ℕ) (slot : ℤ) :
    Kept (s.onNewSlot c now id slot).1
      (es ++ (s.onNewSlot c now id slot).2.filterMap sent) := by
  have hended : Kept (s.setPhase id ⟨slot, .ended⟩ .ended) (es ++ [].filterMap sent) := by
    rw [List.filterMap_nil, List.append_nil]
    exact h.setPhase rfl
  unfold State.onNewSlot
  dsimp only
  split
  · exact hended
  · split
    · exact hended
    · next later =>
      split
      · exact hended
      · split
        · exact hended
        · exact kept_prepareNextSlot h id _
        · next duty hduty =>
          obtain ⟨own, -, -⟩ := duty_of_dutyForSlot hduty
          exact kept_startPropose h htracked (t := ⟨slot, .ended⟩) (not_le.mp later) own rfl

lemma kept_nextEpoch {s₁ : State} (h : Kept s₁ es) (u : UpdateRun) :
    Kept (s₁.nextEpoch c now u).1 (es ++ (s₁.nextEpoch c now u).2.filterMap sent) := by
  unfold State.nextEpoch
  split
  · rw [List.filterMap_nil, List.append_nil]
    exact Account.Kept.idle h fun _ _ hget _ => hget
  · rw [show List.filterMap sent [_] = [] from rfl, List.append_nil]
    exact Account.Kept.idle h fun _ _ hget _ => hget

lemma kept_step (h : Kept s es) (htracked : Tracked s) (hs : step c now s a = some (s', o)) :
    Kept s' (es ++ custody s a o) := by
  cases transition_of_step hs with
  | onNewSlot id slot => exact kept_onNewSlot h htracked id slot
  | fetched id t duty reveal get phase =>
    have hold := h.of_get get (by simp [phase, Phase.proposing])
    rw [phase] at hold
    generalize hl : chain t.slot es = l at hold
    cases hold with
    | fetchingRandao _ own =>
      exact h.advance (l := [.requested duty reveal]) htracked get
        (by simp [phase, Phase.proposing]) (hl ▸ .producing duty reveal own) rfl rfl
  | prefetched id t duty reveal get phase =>
    rw [custody_eq_nil rfl (by simp [sent]), List.append_nil]
    refine Kept.setPhase ?_ rfl
    exact Account.Kept.idle h fun _ _ hget _ => hget
  | produced id t duty reveal block get phase =>
    have hold := h.of_get get (by simp [phase, Phase.proposing])
    rw [phase] at hold
    generalize hl : chain t.slot es = l at hold
    have hnow : custody s (.blockProduced id block)
        [.signBlock duty.pubkey t.slot block.version block.blockHeader] =
        [Custody.produced block, .signatureRequested duty.pubkey block.version
          block.blockHeader].map (Prod.mk t.slot) := by
      simp [custody, received, get, sent]
    rw [hnow]
    cases hold with
    | producing _ _ own =>
      exact h.advance htracked get (by simp [phase, Phase.proposing])
        (hl ▸ .signing duty reveal block own) rfl rfl
  | signed id t duty block signature get phase =>
    have hold := h.of_get get (by simp [phase, Phase.proposing])
    rw [phase] at hold
    generalize hl : chain t.slot es = l at hold
    have hnow : custody s (.blockSigned id signature)
        [.publishBlock t.slot block.executionPayloadBlinded signature] =
        [Custody.signed signature, .published block.executionPayloadBlinded signature].map
          (Prod.mk t.slot) := by
      simp [custody, received, get, sent]
    rw [hnow]
    cases hold with
    | signing _ reveal _ own =>
      exact h.advance htracked get (by simp [phase, Phase.proposing])
        (hl ▸ .publishing duty reveal block signature own) rfl rfl
  | published id t duty get phase =>
    refine kept_prepareNextSlot ?_ id t
    exact Account.Kept.idle h fun _ _ hget _ => hget
  | prepared id t =>
    rw [custody_eq_nil rfl (by simp), List.append_nil]
    exact h.setPhase rfl
  | proposalFailed id t =>
    rw [custody_eq_nil rfl (by simp), List.append_nil]
    refine Kept.setPhase ?_ rfl
    exact Account.Kept.idle h fun _ _ hget _ => hget
  | failed id t =>
    rw [custody_eq_nil rfl (by simp), List.append_nil]
    exact h.setPhase rfl
  | noValidators =>
    rw [custody_eq_nil rfl (by simp), List.append_nil]
    exact h
  | updateDuties _ u => exact kept_nextEpoch h u
  | dutiesResponse u response =>
    refine kept_nextEpoch ?_ u
    exact Account.Kept.idle h fun _ _ hget _ => hget
  | updateFailed =>
    rw [custody_eq_nil rfl (by simp), List.append_nil]
    exact Account.Kept.idle h fun _ _ hget _ => hget

/-- A publication ends the proposal, so all of it has happened. -/
lemma Unbroken.complete (h : Unbroken slot l) {blinded : Bool} {signature : String}
    (hm : .published blinded signature ∈ l) : ∃ duty randaoReveal block, duty.slot = slot ∧
      l = proposal duty randaoReveal block signature ∧
      blinded = block.executionPayloadBlinded := by
  obtain ⟨duty, randaoReveal, block, signature', own, rest, hl⟩ := h
  have hrest : rest = [] := by
    rcases List.eq_nil_or_concat rest with hnil | ⟨init, last, rfl⟩
    · exact hnil
    · -- the publication would come before the last event of the proposal, which it is
      exfalso
      have hall : l ++ init = [.started, .requested duty randaoReveal, .produced block,
          .signatureRequested duty.pubkey block.version block.blockHeader,
          .signed signature'] := by
        have hsplit : (l ++ init) ++ [last] = [.started, .requested duty randaoReveal,
            .produced block, .signatureRequested duty.pubkey block.version block.blockHeader,
            .signed signature'] ++ [.published block.executionPayloadBlinded signature'] := by
          rw [List.append_assoc, ← List.concat_eq_append, hl]
          rfl
        exact (List.append_inj' hsplit rfl).1
      have hmem := List.mem_append_left init hm
      rw [hall] at hmem
      simp at hmem
  rw [hrest, List.append_nil] at hl
  rw [hl, proposal] at hm
  simp only [List.mem_cons, List.not_mem_nil, or_false, reduceCtorEq, false_or,
    Custody.published.injEq] at hm
  obtain ⟨rfl, rfl⟩ := hm
  exact ⟨duty, randaoReveal, block, own, hl, rfl⟩

/-- **The chain of custody of a block.** In every interleaving of proposals, updates and failures,
what happens for a slot is the beginning of one proposal with a duty of the slot, and all of it has
happened where a block is published. -/
theorem custody_of_run {duties : Dict ℤ Duties} {roots : Dict ℤ Root}
    {as : List (Moment × Action)} (r : Run (traced c) (.init duties roots) as s es) (slot : ℤ) :
    Unbroken slot (chain slot es) ∧
      ∀ blinded signature, (slot, .published blinded signature) ∈ es →
        ∃ duty randaoReveal block, duty.slot = slot ∧
          chain slot es = proposal duty randaoReveal block signature ∧
          blinded = block.executionPayloadBlinded := by
  have hkept : Tracked s ∧ Kept s es := by
    refine r.invariant (I := fun s es => Tracked s ∧ Kept s es)
      ⟨tracked_init duties roots, kept_init duties roots⟩ ?_
    rintro s es ⟨now, a⟩ s' o ⟨htracked, hkept⟩ - hs
    obtain ⟨⟨s₁, o₁⟩, hstep, he⟩ := Option.map_eq_some_iff.mp hs
    obtain ⟨rfl, rfl⟩ := Prod.mk.inj he
    exact ⟨tracked_step htracked hstep, kept_step hkept htracked hstep⟩
  have hunbroken : Unbroken slot (chain slot es) := hkept.2.whole slot
  refine ⟨hunbroken, fun blinded signature hm => hunbroken.complete ?_⟩
  exact mem_chain hm

/-! ### Two proposals at once -/

def dutyFor (pubkey : Pubkey) (slot : ℤ) : ProposerDuty := ⟨pubkey, 7, slot⟩

def blockFor (slot : String) : ProducedBlock :=
  ⟨"electra", false, ⟨slot, "7", "0xparent", "0xstate", "0xbody"⟩⟩

/-- Both slots of the first epoch that have a duty. -/
def twoDuties : Dict ℤ Duties := (∅ : Dict ℤ Duties).set 0 [dutyFor "0xa" 1, dutyFor "0xb" 2]

def inSlot (slot : ℤ) : Moment := ⟨1606824023 + 12 * slot, .init⟩

/-- The block for slot 1 comes only after that for slot 2 was asked for. -/
def overlapping : List (Moment × Action) :=
  [(inSlot 1, .onNewSlot 0 1), (inSlot 1, .randaoReveal 0 "0xra"), (inSlot 2, .onNewSlot 1 2),
    (inSlot 2, .randaoReveal 1 "0xrb"), (inSlot 2, .blockProduced 1 (blockFor "2")),
    (inSlot 2, .blockProduced 0 (blockFor "1")), (inSlot 2, .blockSigned 0 "0xsa"),
    (inSlot 2, .blockSigned 1 "0xsb")]

theorem custody_of_run_overlapping : ∃ s es,
    Run (traced (mainnet id)) (.init twoDuties ∅) overlapping s es ∧
      chain 1 es = proposal (dutyFor "0xa" 1) "0xra" (blockFor "1") "0xsa" ∧
      Unbroken 1 (chain 1 es) ∧ Unbroken 2 (chain 2 es) := by
  obtain ⟨s, es, r, hp⟩ := @exec_any _ _ _ (traced (mainnet id)) (fun _ _ _ => True)
    (.init twoDuties ∅) overlapping _
    (fun _ es => chain 1 es = proposal (dutyFor "0xa" 1) "0xra" (blockFor "1") "0xsa")
    (by decide +kernel)
  exact ⟨s, es, r, of_decide_eq_true hp, (custody_of_run r 1).1, (custody_of_run r 2).1⟩

end Vero.BlockProposalService
