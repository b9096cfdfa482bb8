import Vero.AttestationSteps
import Vero.BlockProposalService

/-!
The services of one process: the clock, the validator status tracker and the two services
that request slashable signatures.

Every step is a step of one of them, taken at the moment the clock and the tracker show. The
clock may be set to anything: whatever depends on its moving forward says so.
-/

namespace Vero.Services

open Lib Lib.Runs

structure State where
  time : ℚ
  tracker : ValidatorStatusTrackerService.State
  attestation : AttestationService.State
  blockProposal : BlockProposalService.State

inductive Action
  | clock (time : ℚ)
  | tracker (action : ValidatorStatusTrackerService.Action)
  | attestation (action : AttestationService.Action)
  | blockProposal (action : BlockProposalService.Action)

inductive Output
  | slashingDetected
  | attestation (output : AttestationService.Output)
  | blockProposal (output : BlockProposalService.Output)
  deriving DecidableEq

def State.now (s : State) : Moment := ⟨s.time, s.tracker⟩

/-- What the clock is set to by a step. -/
def Action.time : Action → Option ℚ
  | .clock time => some time
  | _ => none

def Action.ofAttestation : Action → Option AttestationService.Action
  | .attestation a => some a
  | _ => none

/-- The slot that a step hands to the slot handler of the attestation service. -/
def Action.newSlot (a : Action) : Option ℤ := a.ofAttestation.bind AttestationService.Action.newSlot

/-- The answer a step is about, to a request for attester duties. -/
def Action.response (a : Action) : Option (ℤ × SchemaBeaconAPI.GetAttesterDutiesResponse) :=
  a.ofAttestation.bind AttestationService.Action.response

lemma eq_of_ofAttestation {a : Action} {b : AttestationService.Action}
    (h : b ∈ a.ofAttestation) : a = .attestation b := by
  cases a with
  | attestation b' => rw [Option.some.inj h]
  | _ => simp [Action.ofAttestation] at h

lemma eq_of_response {a : Action} {x : ℤ × SchemaBeaconAPI.GetAttesterDutiesResponse}
    (h : x ∈ a.response) : a = .attestation (.dutiesResponse x.1 x.2) := by
  obtain ⟨b, hb, hx⟩ := Option.bind_eq_some_iff.mp h
  rw [eq_of_ofAttestation hb]
  cases b with
  | dutiesResponse epoch response => rw [← Option.some.inj hx]
  | _ => simp [AttestationService.Action.response] at hx

variable (c : Context)

def step : Machine State Action Output
  | s, .clock time => some ({ s with time }, [])
  | s, .tracker a =>
    let tracker := ValidatorStatusTrackerService.step c.int s.tracker a
    some ({ s with tracker },
      if tracker.slashingDetected ∧ ¬ s.tracker.slashingDetected then [.slashingDetected] else [])
  | s, .attestation a =>
    (AttestationService.step c s.now s.attestation a).map fun p =>
      ({ s with attestation := p.1 }, p.2.map .attestation)
  | s, .blockProposal a =>
    (BlockProposalService.step c s.now s.blockProposal a).map fun p =>
      ({ s with blockProposal := p.1 }, p.2.map .blockProposal)

/-! ### Starting -/

/-- A process without cached duties. -/
def Fresh (s : State) : Prop :=
  s.tracker = .init ∧ s.attestation = .init ∅ ∅ ∧ s.blockProposal = .init ∅ ∅

/-- A process after another: each service starts with the duties and roots the earlier
process left in its cache, or with none where they fail to load. -/
def Reboot (s s' : State) : Prop :=
  s'.tracker = .init ∧
    (s'.attestation = .init s.attestation.attesterDuties
        s.attestation.attesterDutiesDependentRoots ∨ s'.attestation = .init ∅ ∅) ∧
    (s'.blockProposal = .init s.blockProposal.proposerDuties
        s.blockProposal.proposerDutiesDependentRoots ∨ s'.blockProposal = .init ∅ ∅)

/-! ### The outputs of each service -/

def attestationOutputs (os : List Output) : List AttestationService.Output :=
  os.filterMap fun
    | .attestation o => some o
    | _ => none

def blockProposalOutputs (os : List Output) : List BlockProposalService.Output :=
  os.filterMap fun
    | .blockProposal o => some o
    | _ => none

@[simp] lemma attestationOutputs_append (os o : List Output) :
    attestationOutputs (os ++ o) = attestationOutputs os ++ attestationOutputs o := by
  simp [attestationOutputs]

@[simp] lemma blockProposalOutputs_append (os o : List Output) :
    blockProposalOutputs (os ++ o) = blockProposalOutputs os ++ blockProposalOutputs o := by
  simp [blockProposalOutputs]

lemma mem_attestationOutputs {os : List Output} {x : AttestationService.Output} :
    x ∈ attestationOutputs os ↔ .attestation x ∈ os :=
  mem_filterMap_iff fun y x => by cases y <;> simp [eq_comm]

lemma mem_blockProposalOutputs {os : List Output} {x : BlockProposalService.Output} :
    x ∈ blockProposalOutputs os ↔ .blockProposal x ∈ os :=
  mem_filterMap_iff fun y x => by cases y <;> simp [eq_comm]

@[simp] lemma attestationOutputs_map (o : List AttestationService.Output) :
    attestationOutputs (o.map .attestation) = o := by
  simp [attestationOutputs, List.filterMap_map]

@[simp] lemma blockProposalOutputs_map (o : List BlockProposalService.Output) :
    blockProposalOutputs (o.map .blockProposal) = o := by
  simp [blockProposalOutputs, List.filterMap_map]

@[simp] lemma attestationOutputs_map_blockProposal (o : List BlockProposalService.Output) :
    attestationOutputs (o.map .blockProposal) = [] := by
  simp [attestationOutputs, List.filterMap_map]

@[simp] lemma blockProposalOutputs_map_attestation (o : List AttestationService.Output) :
    blockProposalOutputs (o.map .attestation) = [] := by
  simp [blockProposalOutputs, List.filterMap_map]

/-! ### What a step does to each part -/

variable {c} {s s' : State} {a : Action} {o os : List Output}

/-- A step of the attestation service, or one that leaves it alone and may set the clock. -/
lemma attestation_of_step (h : step c s a = some (s', o)) :
    (∃ b o', a = .attestation b ∧ AttestationService.step c s.now s.attestation b =
        some (s'.attestation, o') ∧ attestationOutputs o = o' ∧ s'.now = s.now) ∨
      (s'.attestation = s.attestation ∧ attestationOutputs o = [] ∧
        (s'.time = s.time ∨ a = .clock s'.time)) := by
  cases a with
  | clock t =>
    obtain ⟨rfl, rfl⟩ := Prod.mk.inj (Option.some.inj h)
    exact .inr ⟨rfl, rfl, .inr rfl⟩
  | tracker b =>
    obtain ⟨rfl, rfl⟩ := Prod.mk.inj (Option.some.inj h)
    refine .inr ⟨rfl, ?_, .inl rfl⟩
    split <;> rfl
  | attestation b =>
    obtain ⟨⟨t, o'⟩, ht, he⟩ := Option.map_eq_some_iff.mp h
    obtain ⟨rfl, rfl⟩ := Prod.mk.inj he
    exact .inl ⟨b, o', rfl, ht, attestationOutputs_map o', rfl⟩
  | blockProposal b =>
    obtain ⟨⟨t, o'⟩, ht, he⟩ := Option.map_eq_some_iff.mp h
    obtain ⟨rfl, rfl⟩ := Prod.mk.inj he
    exact .inr ⟨rfl, attestationOutputs_map_blockProposal o', .inl rfl⟩

/-- A step of the block proposal service, or one that leaves it alone. -/
lemma blockProposal_of_step (h : step c s a = some (s', o)) :
    (∃ b o', a = .blockProposal b ∧ BlockProposalService.step c s.now s.blockProposal b =
        some (s'.blockProposal, o') ∧ blockProposalOutputs o = o' ∧ s'.now = s.now) ∨
      (s'.blockProposal = s.blockProposal ∧ blockProposalOutputs o = []) := by
  cases a with
  | clock t =>
    obtain ⟨rfl, rfl⟩ := Prod.mk.inj (Option.some.inj h)
    exact .inr ⟨rfl, rfl⟩
  | tracker b =>
    obtain ⟨rfl, rfl⟩ := Prod.mk.inj (Option.some.inj h)
    refine .inr ⟨rfl, ?_⟩
    split <;> rfl
  | attestation b =>
    obtain ⟨⟨t, o'⟩, ht, he⟩ := Option.map_eq_some_iff.mp h
    obtain ⟨rfl, rfl⟩ := Prod.mk.inj he
    exact .inr ⟨rfl, blockProposalOutputs_map_attestation o'⟩
  | blockProposal b =>
    obtain ⟨⟨t, o'⟩, ht, he⟩ := Option.map_eq_some_iff.mp h
    obtain ⟨rfl, rfl⟩ := Prod.mk.inj he
    exact .inl ⟨b, o', rfl, ht, blockProposalOutputs_map o', rfl⟩

/-- A step of the validator status tracker, or one that leaves it alone. -/
lemma tracker_of_step (h : step c s a = some (s', o)) : s'.tracker = s.tracker ∨
    ∃ b, s'.tracker = ValidatorStatusTrackerService.step c.int s.tracker b ∧
      o = if s'.tracker.slashingDetected ∧ ¬ s.tracker.slashingDetected then [.slashingDetected]
        else [] := by
  cases a with
  | clock t =>
    obtain ⟨rfl, -⟩ := Prod.mk.inj (Option.some.inj h)
    exact .inl rfl
  | tracker b =>
    obtain ⟨rfl, rfl⟩ := Prod.mk.inj (Option.some.inj h)
    exact .inr ⟨b, rfl, rfl⟩
  | attestation b | blockProposal b =>
    obtain ⟨p, -, he⟩ := Option.map_eq_some_iff.mp h
    obtain ⟨rfl, -⟩ := Prod.mk.inj he
    exact .inl rfl

/-- When the flag is up it was up before, or this step says that a slashing was detected. -/
lemma slashingDetected_of_step (h : step c s a = some (s', o))
    (hflag : s'.tracker.slashingDetected = true) :
    s.tracker.slashingDetected = true ∨ .slashingDetected ∈ o := by
  rcases tracker_of_step h with he | ⟨b, -, ho⟩
  · exact .inl (he ▸ hflag)
  · by_cases hs : s.tracker.slashingDetected
    · exact .inl hs
    · rw [if_pos ⟨hflag, hs⟩] at ho
      exact .inr (by simp [ho])

lemma slashingDetected_stays (h : step c s a = some (s', o))
    (hflag : s.tracker.slashingDetected = true) : s'.tracker.slashingDetected = true := by
  rcases tracker_of_step h with he | ⟨b, he, -⟩
  · rwa [he]
  · rw [he]
    exact ValidatorStatusTrackerService.slashingDetected_step b hflag

/-- A clock that does not go back. -/
abbrev Forward : Guard State Action Output := fun s _ a => ∀ time ∈ a.time, s.time ≤ time

/-- A step of the attestation service, or one that leaves it alone and moves time forward. -/
lemma attestation_or_later (hclock : Forward s os a) (hs : step c s a = some (s', o)) :
    (∃ b o', a = .attestation b ∧ AttestationService.step c s.now s.attestation b =
        some (s'.attestation, o') ∧ attestationOutputs o = o' ∧ s'.now = s.now) ∨
      (s'.attestation = s.attestation ∧ attestationOutputs o = [] ∧ s.time ≤ s'.time) := by
  rcases attestation_of_step hs with h | ⟨he, ho, ht⟩
  · exact .inl h
  · refine .inr ⟨he, ho, ?_⟩
    rcases ht with ht | ht
    · exact ht.ge
    · exact hclock _ (by rw [ht]; rfl)

/-! ### A process with one validator -/

open SchemaBeaconAPI

/-- On mainnet slot 1 has begun. -/
def fresh : State := ⟨1606824035, .init, .init ∅ ∅, .init ∅ ∅⟩

def activated : Action := .tracker (.activeValidators [⟨7, "0xa"⟩])

/-- Too small a committee for the hash to decide who aggregates. -/
def attesterDuty (slot : ℤ) : AttesterDuty := ⟨"0xa", "7", "0", 8, "1", "0", slot⟩

/-- An update that is answered with the duties and the dependent root for epoch 0. -/
def attesterUpdate (root : Root) (duties : List AttesterDuty) : List Action :=
  [.attestation .updateDuties, .attestation (.dutiesResponse 0 ⟨root, duties⟩),
    .attestation (.selectionProofs [("0xa", [1])]), .attestation (.dutiesResponse 1 ⟨root, []⟩)]

/-- One update that finds a duty of slot 5. -/
def once : List Action := activated :: attesterUpdate "0xA" [attesterDuty 5]

def proposerUpdate (duties : List ProposerDuty) : List Action :=
  [.blockProposal .updateDuties, .blockProposal (.dutiesResponse 0 ⟨"0xr", duties⟩),
    .blockProposal (.dutiesResponse 1 ⟨"0xr", []⟩)]

def proposed : List Action :=
  [.blockProposal (.onNewSlot 0 1), .blockProposal (.randaoReveal 0 "0xf"),
    .blockProposal (.blockProduced 0 ⟨"electra", true, ⟨"1", "7", "0xp", "0xs", "0xb"⟩⟩)]

/-- The validator attests in slot 1 to the head of an event. -/
def attested : List Action :=
  [.attestation (.onNewSlot 1), .attestation (.handleHeadEvent 0 ⟨1, "0xb", "0xp", "0xc"⟩),
    .attestation (.attestationData 0 ⟨"1", "0", "0xb", ⟨"0", "0xs"⟩, ⟨"0", "0xt"⟩⟩),
    .attestation (.requestSignature 0 (.fromDuty (attesterDuty 1) true [1]))]

end Vero.Services
