import Vero.DutyRuns
import Vero.SignatureProvider

/-!
What `on_new_slot` goes on to once the proposal for the slot is over.

It awaits `propose_block`, and for a duty in the next slot the RANDAO reveal and
`prepare_beacon_proposer`. Only then it starts the tasks that are due, so a call that raises
takes along whatever comes after it.
-/

namespace Vero

/-- `encode_graffiti`: the text in UTF-8, filled up with zeros to 32 bytes. -/
def encodeGraffiti (graffitiString : String) : Except String (List UInt8) :=
  let encoded := graffitiString.toUTF8.toList.rightpad 32 0
  if 32 < encoded.length then
    .error "Encoded graffiti exceeds the maximum length of 32 bytes"
  else .ok encoded

end Vero

namespace Vero.BlockProposalService

open Lib SchemaBeaconAPI

inductive ErrorType
  | blockProduce
  | blockPublish
  | signature
  deriving DecidableEq

inductive Exception
  | runtimeError (text : String)
  | handledRuntimeError (errorType : ErrorType)
  | valueError (text : String)
  | unexpectedDuties (duties : Duties)
  | keyError (slot : ℤ)
  deriving DecidableEq

/-- What a run of `on_new_slot` sets off besides the proposal. -/
inductive FollowUp
  | fetchRandaoReveal (duty : ProposerDuty)
  | prepareBeaconProposer
  | registerValidators (currentSlot : ℤ)
  | updateDuties
  deriving DecidableEq

/-- The guards of `propose_block`, behind which the duty is taken out of the store. -/
def State.beginPropose (c : Context) (now : Moment) (s : State) (slot : ℤ) :
    Except Exception (Option (State × ProposerDuty)) :=
  if c.refuses now then .error (.runtimeError "Slashing detected, not producing block")
  else if slot ≤ s.lastSlotDutyStartedFor then
    .error (.runtimeError (s!"Not producing block for slot {slot} (already started producing a " ++
      s!"block for slot {s.lastSlotDutyStartedFor})"))
  else if slot ≠ c.currentSlot now then
    .error (.runtimeError
      s!"Invalid slot for block proposal: {slot}. Current slot: {c.currentSlot now}")
  else
    match s.dutyForSlot c slot with
    | .error duties => .error (.unexpectedDuties duties)
    | .ok none => .ok none
    | .ok (some duty) => .ok (some (s.removeDuty c slot duty, duty))

/-- The task of a slot begins with these guards. -/
lemma onNewSlot_eq_beginPropose (c : Context) (now : Moment) (s : State) (id : ℕ) (slot : ℤ) :
    s.onNewSlot c now id slot = match s.beginPropose c now slot with
      | .error _ => (s.setPhase id ⟨slot, .ended⟩ .ended, [])
      | .ok none => s.prepareNextSlot c id ⟨slot, .ended⟩
      | .ok (some (s', duty)) => s'.startPropose c id ⟨slot, .ended⟩ duty := by
  unfold State.onNewSlot State.beginPropose
  dsimp only
  split
  · rfl
  · split
    · rfl
    · split
      · rfl
      · cases s.dutyForSlot c slot with
        | error duties => rfl
        | ok found => cases found <;> rfl

/-- A coroutine of the service: it raises or returns, and leaves the service in some state. -/
abbrev Coroutine := ExceptT Exception (StateM State)

def Coroutine.outcome {α : Type} (x : Coroutine α) (s : State) : State × Except Exception α :=
  let (result, s) := x.run.run s
  (s, result)

/-- The `except` clauses of a proposal. -/
def Coroutine.handled {α : Type} (errorType : ErrorType) (x : Coroutine α) : Coroutine α :=
  tryCatch x fun _ => throw (.handledRuntimeError errorType)

namespace Coroutine

variable {α β : Type}

@[simp] lemma outcome_pure (a : α) (s : State) :
    (pure a : Coroutine α).outcome s = (s, .ok a) := rfl

@[simp] lemma outcome_throw (e : Exception) (s : State) :
    (throw e : Coroutine α).outcome s = (s, .error e) := rfl

@[simp] lemma outcome_get (s : State) : (get : Coroutine State).outcome s = (s, .ok s) := rfl

@[simp] lemma outcome_set (s s' : State) :
    (set s' : Coroutine PUnit).outcome s = (s', .ok ()) := rfl

@[simp] lemma outcome_modify (f : State → State) (s : State) :
    (modify f : Coroutine PUnit).outcome s = (f s, .ok ()) := rfl

lemma outcome_bind (x : Coroutine α) (f : α → Coroutine β) (s : State) :
    (x >>= f : Coroutine β).outcome s = match x.outcome s with
      | (s, .error e) => (s, .error e)
      | (s, .ok a) => (f a).outcome s := by
  unfold outcome
  simp only [ExceptT.run_bind, StateT.run_bind]
  cases x.run.run s with
  | mk result s => cases result <;> rfl

lemma outcome_handled (errorType : ErrorType) (x : Coroutine α) (s : State) :
    (x.handled errorType).outcome s =
      ((x.outcome s).1, (x.outcome s).2.mapError fun _ => .handledRuntimeError errorType) := by
  -- the clause sees what the coroutine comes to in this state only
  have hconst : (x.handled errorType).outcome s =
      (handled errorType (fun _ => x.run.run s : Coroutine α)).outcome s := rfl
  rw [hconst]
  unfold outcome
  cases x.run.run s with
  | mk result s => cases result <;> rfl

lemma outcome_tryFinally (x : Coroutine Unit) (f : State → State) (s : State) :
    (tryFinally x (modify f) : Coroutine Unit).outcome s =
      (f (x.outcome s).1, (x.outcome s).2) := by
  have hconst : (tryFinally x (modify f) : Coroutine Unit).outcome s =
      (tryFinally (fun _ => x.run.run s : Coroutine Unit) (modify f) :
        Coroutine Unit).outcome s := rfl
  rw [hconst]
  unfold outcome
  cases x.run.run s with
  | mk result s => cases result <;> rfl

end Coroutine

inductive SignableMessage
  | randaoReveal (forkInfo : ForkInfo) (epoch : ℤ)
  | beaconBlockV2 (forkInfo : ForkInfo) (version : String) (blockHeader : BeaconBlockHeader)
  deriving DecidableEq

/-- The service, and the requests that it awaits. Other tasks may have changed the service when
one of them ends. Without the Keymanager API nothing overrides the graffiti. -/
structure SlotHandler extends Context where
  genesis : Genesis
  genesis_chain : genesis.toBeaconChain = beaconChain
  useExternalBuilder : Bool
  graffiti : List UInt8
  pubkeyToGraffitiOverride : Option (Dict Pubkey String)
  sign : SignableMessage → Pubkey → Coroutine String
  produceBlockV3 : ℤ → List UInt8 → String → Coroutine ProducedBlock
  publishBlockV2 : ℤ → ProducedBlock → String → Coroutine Unit
  prepareBeaconProposer : Coroutine Unit

namespace SlotHandler

variable (h : SlotHandler) (now : Moment) (s : State) (slot : ℤ) (isNewEpoch : Bool)

def getForkInfo (slot : ℤ) : Coroutine ForkInfo :=
  match h.genesis.getForkInfo slot with
  | .ok forkInfo => return forkInfo
  | .error text => throw (.runtimeError text)

def fetchRandaoReveal (duty : ProposerDuty) : Coroutine Unit := do
  let forkInfo ← h.getForkInfo duty.slot
  let reveal ← h.sign (.randaoReveal forkInfo (h.beaconChain.epoch duty.slot)) duty.pubkey
  modify fun s => { s with randaoRevealCache := s.randaoRevealCache.set duty.slot reveal }

/-- `pop` on the cache. -/
def popRandaoReveal : Coroutine String := do
  match (← get).randaoRevealCache.get slot with
  | none => throw (.keyError slot)
  | some reveal =>
    modify fun s => { s with randaoRevealCache := s.randaoRevealCache.filterKeys (· ≠ slot) }
    return reveal

def getRandaoReveal (duty : ProposerDuty) : Coroutine String := do
  if slot ∈ (← get).randaoRevealCache.keys then popRandaoReveal slot
  else
    (h.fetchRandaoReveal duty).handled .blockProduce
    popRandaoReveal slot

/-- The graffiti with which a block is produced. -/
def dutyGraffiti (duty : ProposerDuty) : Coroutine (List UInt8) :=
  match h.pubkeyToGraffitiOverride.bind fun graffitis => graffitis.get duty.pubkey with
  | none => return h.graffiti
  | some graffitiString =>
    match encodeGraffiti graffitiString with
    | .ok graffiti => return graffiti
    | .error text => throw (.valueError text)

def produceBlock (duty : ProposerDuty) (randaoReveal : String) : Coroutine ProducedBlock := do
  let graffiti ← h.dutyGraffiti duty
  (h.produceBlockV3 slot graffiti randaoReveal).handled .blockProduce

def signBlock (duty : ProposerDuty) (block : ProducedBlock) : Coroutine String :=
  Coroutine.handled .signature do
    let forkInfo ← h.getForkInfo slot
    h.sign (.beaconBlockV2 forkInfo block.version block.blockHeader) duty.pubkey

/-- `_propose_block`. -/
def proposeDuty (duty : ProposerDuty) : Coroutine Unit := do
  modify fun s => { s with lastSlotDutyStartedFor := slot }
  let reveal ← h.getRandaoReveal slot duty
  let block ← h.produceBlock slot duty reveal
  let signature ← h.signBlock slot duty block
  (h.publishBlockV2 slot block signature).handled .blockPublish

/-- However `_propose_block` ends, the slot counts as completed. -/
def proposeBlock : Coroutine Unit := do
  match (← get).beginPropose h.toContext now slot with
  | .error e => throw e
  | .ok none => return ()
  | .ok (some (s, duty)) =>
    set s
    try h.proposeDuty slot duty
    finally modify fun s => { s with lastSlotDutyCompletedFor := slot }

/-- The part between the proposal and the tasks. -/
def prepareNextSlot : State × List FollowUp × Except Exception Unit :=
  match s.dutyForSlot h.toContext (slot + 1) with
  | .error duties => (s, [], .error (.unexpectedDuties duties))
  | .ok none => (s, [], .ok ())
  | .ok (some duty) =>
    match (h.fetchRandaoReveal duty).outcome s with
    | (s, .error e) => (s, [.fetchRandaoReveal duty], .error e)
    | (s, .ok ()) =>
      let (s, result) := h.prepareBeaconProposer.outcome s
      (s, [.fetchRandaoReveal duty, .prepareBeaconProposer], result)

/-- The tasks created at the end. -/
def tasks : List FollowUp :=
  (if h.useExternalBuilder then [.registerValidators slot] else []) ++
    if isNewEpoch then [.updateDuties, .prepareBeaconProposer] else []

/-- What a run sets off, and how it ends. -/
def onNewSlot : State × List FollowUp × Except Exception Unit :=
  match (h.proposeBlock now slot).outcome s with
  | (s, .error e) => (s, [], .error e)
  | (s, .ok ()) =>
    match h.prepareNextSlot s slot with
    | (s, followUps, .error e) => (s, followUps, .error e)
    | (s, followUps, .ok ()) => (s, followUps ++ h.tasks slot isNewEpoch, .ok ())

/-! ### What is due -/

/-- The service when the proposal is over, and how it ended. -/
def proposed : State × Except Exception Unit := (h.proposeBlock now slot).outcome s

/-- The duties stored for the next slot by then. -/
def nextDuties : Duties := (h.proposed now s slot).1.slotDuties h.toContext (slot + 1)

/-- Everything that is due in the slot was set off. -/
structure FollowsUp (followUps : List FollowUp) : Prop where
  newEpoch : isNewEpoch → .updateDuties ∈ followUps ∧ .prepareBeaconProposer ∈ followUps
  externalBuilder : h.useExternalBuilder → .registerValidators slot ∈ followUps
  nextDuty : h.nextDuties now s slot ≠ [] →
    ∃ duty ∈ h.nextDuties now s slot, .fetchRandaoReveal duty ∈ followUps

/-- The reveal is fetched and the beacon nodes are prepared without an exception. -/
def Prepares (duty : ProposerDuty) : Prop :=
  ((do h.fetchRandaoReveal duty; h.prepareBeaconProposer : Coroutine Unit).outcome s).2 = .ok ()

/-- No call raises on the way to the tasks. -/
def Undisturbed : Prop :=
  (h.proposed now s slot).2 = .ok () ∧ (h.nextDuties now s slot).length ≤ 1 ∧
    ∀ duty ∈ h.nextDuties now s slot, h.Prepares (h.proposed now s slot).1 duty

/-- No task is due, and the reveal is asked for if there is a duty in the next slot. -/
def NothingBehind : Prop :=
  isNewEpoch = false ∧ h.useExternalBuilder = false ∧ (h.nextDuties now s slot = [] ∨
    (h.proposed now s slot).2 = .ok () ∧ (h.nextDuties now s slot).length = 1)

variable {h now s slot isNewEpoch} {followUps : List FollowUp}

/-! ### How a run ends -/

/-- What a run has set off when it ends: nothing where the proposal raises or the next slot has
several duties, the tasks where it has none, and otherwise the reveal, with the tasks only where
nothing raises on the way. -/
inductive Ran (h : SlotHandler) (now : Moment) (s : State) (slot : ℤ) (isNewEpoch : Bool)
    (followUps : List FollowUp) : Prop
  | raised (e : Exception) (proposal : (h.proposed now s slot).2 = .error e)
      (followUps : followUps = [])
  | ambiguous (proposal : (h.proposed now s slot).2 = .ok ())
      (next : 2 ≤ (h.nextDuties now s slot).length) (followUps : followUps = [])
  | idle (proposal : (h.proposed now s slot).2 = .ok ())
      (next : h.nextDuties now s slot = []) (followUps : followUps = h.tasks slot isNewEpoch)
  | disturbed (duty : ProposerDuty) (proposal : (h.proposed now s slot).2 = .ok ())
      (next : h.nextDuties now s slot = [duty])
      (prepares : ¬ h.Prepares (h.proposed now s slot).1 duty)
      (followUps : followUps = [.fetchRandaoReveal duty] ∨
        followUps = [.fetchRandaoReveal duty, .prepareBeaconProposer])
  | prepared (duty : ProposerDuty) (proposal : (h.proposed now s slot).2 = .ok ())
      (next : h.nextDuties now s slot = [duty])
      (prepares : h.Prepares (h.proposed now s slot).1 duty)
      (followUps : followUps =
        [.fetchRandaoReveal duty, .prepareBeaconProposer] ++ h.tasks slot isNewEpoch)

lemma prepareNextSlot_nil (hnext : s.slotDuties h.toContext (slot + 1) = []) :
    h.prepareNextSlot s slot = (s, [], .ok ()) := by
  unfold State.slotDuties at hnext
  unfold prepareNextSlot State.dutyForSlot
  rw [hnext]

lemma prepareNextSlot_several {duty duty' : ProposerDuty} {duties : Duties}
    (hnext : s.slotDuties h.toContext (slot + 1) = duty :: duty' :: duties) :
    h.prepareNextSlot s slot = (s, [], .error (.unexpectedDuties (duty :: duty' :: duties))) := by
  unfold State.slotDuties at hnext
  unfold prepareNextSlot State.dutyForSlot
  rw [hnext]

/-- With one duty, the reveal is asked for, and the preparation ends the way it prepares. -/
lemma prepareNextSlot_one {duty : ProposerDuty}
    (hnext : s.slotDuties h.toContext (slot + 1) = [duty]) :
    (h.Prepares s duty ∧ ∃ s', h.prepareNextSlot s slot =
      (s', [.fetchRandaoReveal duty, .prepareBeaconProposer], .ok ())) ∨
    (¬ h.Prepares s duty ∧ ∃ s' followUps e,
      h.prepareNextSlot s slot = (s', followUps, .error e) ∧
      (followUps = [.fetchRandaoReveal duty] ∨
        followUps = [.fetchRandaoReveal duty, .prepareBeaconProposer])) := by
  have hduty : s.dutyForSlot h.toContext (slot + 1) = .ok (some duty) := by
    unfold State.slotDuties at hnext
    unfold State.dutyForSlot
    rw [hnext]
  unfold prepareNextSlot Prepares
  rw [hduty, Coroutine.outcome_bind]
  dsimp only
  cases hfetch : (h.fetchRandaoReveal duty).outcome s with
  | mk s₁ fetched =>
    cases fetched with
    | error e => exact .inr ⟨by simp, s₁, _, e, rfl, .inl rfl⟩
    | ok =>
      cases hprepare : h.prepareBeaconProposer.outcome s₁ with
      | mk s₂ prepared =>
        cases prepared with
        | error e => exact .inr ⟨by simp [hprepare], s₂, _, e, by simp only [hprepare], .inr rfl⟩
        | ok => exact .inl ⟨by simp [hprepare], s₂, by simp only [hprepare]⟩

/-- **Every run ends in one of these ways.** -/
lemma ran_onNewSlot : Ran h now s slot isNewEpoch (h.onNewSlot now s slot isNewEpoch).2.1 := by
  unfold onNewSlot
  cases hproposal : (h.proposeBlock now slot).outcome s with
  | mk s₁ result =>
    have hproposed : h.proposed now s slot = (s₁, result) := hproposal
    have hresult : (h.proposed now s slot).2 = result := by rw [hproposed]
    have hstate : (h.proposed now s slot).1 = s₁ := by rw [hproposed]
    have hnext : h.nextDuties now s slot = s₁.slotDuties h.toContext (slot + 1) := by
      rw [nextDuties, hstate]
    cases result with
    | error e => exact .raised e hresult rfl
    | ok =>
      cases hduties : s₁.slotDuties h.toContext (slot + 1) with
      | nil =>
        rw [hduties] at hnext
        simp only [prepareNextSlot_nil hduties]
        exact .idle hresult hnext rfl
      | cons duty duties =>
        rw [hduties] at hnext
        cases duties with
        | cons duty' duties =>
          simp only [prepareNextSlot_several hduties]
          exact .ambiguous hresult (by rw [hnext, List.length_cons, List.length_cons]; omega) rfl
        | nil =>
          rw [← hstate] at hduties
          rcases prepareNextSlot_one hduties with
            ⟨hprepares, s₂, hrun⟩ | ⟨hfails, s₂, followUps, e, hrun, hfollow⟩
          · rw [hstate] at hrun
            simp only [hrun]
            exact .prepared duty hresult hnext hprepares rfl
          · rw [hstate] at hrun
            simp only [hrun]
            exact .disturbed duty hresult hnext hfails hfollow

/-! ### When nothing is skipped -/

lemma mem_tasks {followUp : FollowUp} :
    followUp ∈ h.tasks slot isNewEpoch ↔
      (h.useExternalBuilder = true ∧ followUp = .registerValidators slot) ∨
      (isNewEpoch = true ∧ (followUp = .updateDuties ∨ followUp = .prepareBeaconProposer)) := by
  unfold tasks
  cases h.useExternalBuilder <;> cases isNewEpoch <;> simp

/-- With the tasks and the reveal, nothing is missing. -/
lemma followsUp_of_tasks (htasks : ∀ followUp ∈ h.tasks slot isNewEpoch, followUp ∈ followUps)
    (hreveal : ∀ duty ∈ h.nextDuties now s slot, .fetchRandaoReveal duty ∈ followUps) :
    h.FollowsUp now s slot isNewEpoch followUps where
  newEpoch hepoch :=
    ⟨htasks _ (mem_tasks.mpr (.inr ⟨hepoch, .inl rfl⟩)),
      htasks _ (mem_tasks.mpr (.inr ⟨hepoch, .inr rfl⟩))⟩
  externalBuilder hbuilder := htasks _ (mem_tasks.mpr (.inl ⟨hbuilder, rfl⟩))
  nextDuty hduties := by
    obtain ⟨duty, hduty⟩ := List.exists_mem_of_ne_nil _ hduties
    exact ⟨duty, hduty, hreveal duty hduty⟩

/-- A run that creates no tasks leaves nothing out only where none are due. -/
lemma followsUp_iff_of_no_tasks
    (hnone : ∀ followUp ∈ followUps, followUp ≠ .updateDuties ∧
      followUp ≠ .registerValidators slot) :
    h.FollowsUp now s slot isNewEpoch followUps ↔
      isNewEpoch = false ∧ h.useExternalBuilder = false ∧ (h.nextDuties now s slot = [] ∨
        ∃ duty ∈ h.nextDuties now s slot, .fetchRandaoReveal duty ∈ followUps) := by
  constructor
  · intro hfollows
    refine ⟨?_, ?_, ?_⟩
    · rw [← Bool.not_eq_true]
      exact fun hepoch => (hnone _ (hfollows.newEpoch hepoch).1).1 rfl
    · rw [← Bool.not_eq_true]
      exact fun hbuilder => (hnone _ (hfollows.externalBuilder hbuilder)).2 rfl
    · exact or_iff_not_imp_left.mpr hfollows.nextDuty
  · rintro ⟨hepoch, hbuilder, hduty⟩
    refine ⟨fun he => ?_, fun hb => ?_, or_iff_not_imp_left.mp hduty⟩
    · rw [hepoch] at he
      cases he
    · rw [hbuilder] at hb
      cases hb

/-- **Exactly when a run of `on_new_slot` skips nothing.** -/
theorem followsUp_iff :
    h.FollowsUp now s slot isNewEpoch (h.onNewSlot now s slot isNewEpoch).2.1 ↔
      h.Undisturbed now s slot ∨ h.NothingBehind now s slot isNewEpoch := by
  have hran : Ran h now s slot isNewEpoch (h.onNewSlot now s slot isNewEpoch).2.1 := ran_onNewSlot
  generalize (h.onNewSlot now s slot isNewEpoch).2.1 = followUps at hran
  unfold Undisturbed NothingBehind
  cases hran with
  | raised e hproposal hrun =>
    rw [followsUp_iff_of_no_tasks (by simp [hrun]), hproposal, hrun]
    simp
  | ambiguous hproposal hnext hrun =>
    rw [followsUp_iff_of_no_tasks (by simp [hrun]), hrun]
    have hne : h.nextDuties now s slot ≠ [] := fun he => by simp [he] at hnext
    have hle : ¬ (h.nextDuties now s slot).length ≤ 1 := by omega
    have hone : ¬ (h.nextDuties now s slot).length = 1 := by omega
    simp [hne, hle, hone]
  | idle hproposal hnext hrun =>
    refine iff_of_true (followsUp_of_tasks ?_ ?_) (.inl ⟨hproposal, ?_, ?_⟩)
    · exact fun followUp hin => hrun ▸ hin
    · simp [hnext]
    · simp [hnext]
    · simp [hnext]
  | disturbed duty hproposal hnext hfails hrun =>
    have hreveal : .fetchRandaoReveal duty ∈ followUps := by
      rcases hrun with rfl | rfl <;> simp
    rw [followsUp_iff_of_no_tasks (by rcases hrun with rfl | rfl <;> simp), hnext]
    simp [hproposal, hfails, hreveal]
  | prepared duty hproposal hnext hprepares hrun =>
    refine iff_of_true (followsUp_of_tasks ?_ ?_) (.inl ⟨hproposal, ?_, ?_⟩)
    · exact fun followUp hin => hrun ▸ List.mem_append_right _ hin
    · simp [hnext, hrun]
    · simp [hnext]
    · simp [hnext, hprepares]

/-! ### A failed proposal -/

/-- Every key signs, and no beacon node produces a block. -/
def nodesDown : SlotHandler where
  toContext := mainnet id
  genesis := someGenesis
  genesis_chain := rfl
  useExternalBuilder := true
  graffiti := List.replicate 32 0
  pubkeyToGraffitiOverride := none
  sign _ _ := pure "0x00"
  produceBlockV3 _ _ _ := throw (.runtimeError "Failed to get a response from all beacon nodes")
  publishBlockV2 _ _ _ := pure ()
  prepareBeaconProposer := pure ()

/-- Epoch 1 begins with slot 32, and its first two blocks are proposed by one validator. -/
def twoProposals : State :=
  .init (Dict.empty.set 1 [⟨"0xa", 0, 32⟩, ⟨"0xa", 0, 33⟩]) Dict.empty

/-- **Once no block can be produced, a new epoch does not update the duties.** -/
theorem failed_proposal_skips :
    (nodesDown.proposed ⟨1606824407, .init⟩ twoProposals 32).2 =
      .error (.handledRuntimeError .blockProduce) ∧
    (nodesDown.onNewSlot ⟨1606824407, .init⟩ twoProposals 32 true).2.1 = [] ∧
    ¬ nodesDown.FollowsUp ⟨1606824407, .init⟩ twoProposals 32 true
      (nodesDown.onNewSlot ⟨1606824407, .init⟩ twoProposals 32 true).2.1 := by
  have hrun : (nodesDown.onNewSlot ⟨1606824407, .init⟩ twoProposals 32 true).2.1 = [] := by
    decide +kernel
  refine ⟨by decide +kernel, hrun, fun hfollows => ?_⟩
  rw [hrun] at hfollows
  cases (hfollows.newEpoch rfl).1

end SlotHandler

end Vero.BlockProposalService
