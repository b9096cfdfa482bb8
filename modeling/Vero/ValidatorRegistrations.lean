import Mathlib.Data.List.Perm.Basic
import Vero.Context
import Vero.SignatureProvider

/-!
`register_validators` and `prepare_beacon_proposer`: what builders and beacon nodes are told
about the validators.

Every slot has its share of the validators, by their indices. They are registered in batches, and
a batch that cannot be signed is passed over.
-/

namespace Vero

/-- The arguments that block proposals go by. -/
structure CLIArgs where
  feeRecipient : String
  gasLimit : ℤ
  graffiti : List UInt8

namespace SchemaRemoteSigner

structure ValidatorRegistration where
  feeRecipient : String
  gasLimit : String
  timestamp : String
  pubkey : String
  deriving DecidableEq

structure ValidatorRegistrationSignableMessage where
  validatorRegistration : ValidatorRegistration
  deriving DecidableEq

end SchemaRemoteSigner

namespace BlockProposalService

open Lib.Batches Lib.Tasks SchemaRemoteSigner ValidatorStatusTrackerService

/-! ### Settings -/

/-- The manager is there where the Keymanager API is enabled. -/
structure ProposerSettings where
  cliArgs : CLIArgs
  keymanager : Option Keymanager.State

namespace ProposerSettings

variable (p : ProposerSettings)

/-- A default, unless it is overridden. -/
def overridden (col : Keymanager.Column) (pubkey default : String) : String :=
  match p.keymanager with
  | none => default
  | some s => (s.overrides col).getD pubkey default

def feeRecipient (pubkey : String) : String :=
  p.overridden .feeRecipient pubkey p.cliArgs.feeRecipient

def gasLimit (pubkey : String) : String :=
  p.overridden .gasLimit pubkey (toString p.cliArgs.gasLimit)

def validatorRegistration (timestamp : ℤ) (v : ValidatorIndexPubkey) : ValidatorRegistration where
  feeRecipient := p.feeRecipient v.pubkey
  gasLimit := p.gasLimit v.pubkey
  timestamp := toString timestamp
  pubkey := v.pubkey

structure Preparation where
  validatorIndex : String
  feeRecipient : String
  deriving DecidableEq

def preparation (v : ValidatorIndexPubkey) : Preparation :=
  ⟨toString v.index, p.feeRecipient v.pubkey⟩

/-- The data of `prepare_beacon_proposer`, which nothing is sent of without validators. -/
def prepareBeaconProposer (ourValidators : List ValidatorIndexPubkey) : Option (List Preparation) :=
  if ourValidators = [] then none else some (ourValidators.map p.preparation)

end ProposerSettings

/-! ### Registrations -/

/-- What a batch meets when its turn has come: the settings, how its requests end and in which
order, and what becomes of its publication. -/
structure Round where
  settings : ProposerSettings
  signatureProvider : SignatureProvider ValidatorRegistrationSignableMessage
  order : Schedule
  registerValidator : List (ValidatorRegistration × String) → Except String Unit

/-- A call of `register_validators`, with a round for each offset. -/
structure RegistrationCall where
  timestamp : ℤ
  round : ℕ → Round

def batchSize : ℕ := 512

/-- The validators whose turn is in the slot. -/
def validatorsToRegister (b : BeaconChain) (validators : List ValidatorIndexPubkey)
    (currentSlot : ℤ) : List ValidatorIndexPubkey :=
  validators.filter fun v => v.index % b.slotsPerEpoch = currentSlot % b.slotsPerEpoch

def Round.sign (r : Round) (timestamp : ℤ) (v : ValidatorIndexPubkey) :
    Except String (Keymanager.Signed ValidatorRegistrationSignableMessage) :=
  r.signatureProvider.sign ⟨r.settings.validatorRegistration timestamp v⟩ v.pubkey

/-- The signed registrations of a batch, in the order of its validators. -/
def Round.signBatch (r : Round) (timestamp : ℤ) (batch : List ValidatorIndexPubkey) :
    Except String (List (ValidatorRegistration × String)) := do
  let responses ← r.order.gather (batch.map (r.sign timestamp))
  return responses.map fun t => (t.1.validatorRegistration, t.2.1)

/-- The loop over the offsets: the batches that are published, and how the call ends. -/
def registerBatches (call : RegistrationCall) (validators : List ValidatorIndexPubkey) :
    List ℕ → List (List (ValidatorRegistration × String)) × Except String Unit
  | [] => ([], .ok ())
  | i :: is =>
    match (call.round i).signBatch call.timestamp (slice validators i batchSize) with
    | .error _ => registerBatches call validators is
    | .ok signedRegistrations =>
      match (call.round i).registerValidator signedRegistrations with
      | .error e => ([], .error e)
      | .ok () =>
        let (batches, result) := registerBatches call validators is
        (signedRegistrations :: batches, result)

def registerValidators (b : BeaconChain) (validators : List ValidatorIndexPubkey)
    (call : RegistrationCall) (currentSlot : ℤ) :
    List (List (ValidatorRegistration × String)) × Except String Unit :=
  let vs := validatorsToRegister b validators currentSlot
  registerBatches call vs (offsets vs.length batchSize)

/-! ### What is published -/

variable {b : BeaconChain} {r : Round} {call : RegistrationCall} {timestamp : ℤ}
variable {validators vs : List ValidatorIndexPubkey} {is : List ℕ}
variable {signed : List (ValidatorRegistration × String)}

/-- An entry has the validator's own registration, and the signature over it. -/
structure Round.Own (r : Round) (timestamp : ℤ) (v : ValidatorIndexPubkey)
    (entry : ValidatorRegistration × String) : Prop where
  registration : entry.1 = r.settings.validatorRegistration timestamp v
  signature : ∃ t, r.sign timestamp v = .ok t ∧ entry.2 = t.2.1

/-- The entry was made for the validator in a round of the call. -/
def RegistrationCall.Registers (call : RegistrationCall) (v : ValidatorIndexPubkey)
    (entry : ValidatorRegistration × String) : Prop :=
  ∃ i, (call.round i).Own call.timestamp v entry

def RegistrationCall.Publishes (call : RegistrationCall) : Prop :=
  ∀ i signed, (call.round i).registerValidator signed = .ok ()

def RegistrationCall.Signs (call : RegistrationCall) (validators : List ValidatorIndexPubkey) :
    Prop :=
  ∀ i, ∀ v ∈ validators, ∃ t, (call.round i).sign call.timestamp v = .ok t

/-- The entries of a batch are those of its validators. -/
lemma Round.forall₂_of_signBatch (h : r.signBatch timestamp vs = .ok signed) :
    List.Forall₂ (r.Own timestamp) vs signed := by
  unfold signBatch at h
  cases hgather : r.order.gather (vs.map (r.sign timestamp)) with
  | error e => rw [hgather] at h; cases h
  | ok responses =>
    rw [hgather] at h
    rw [← Except.ok.inj h]
    have hall := ((r.order.allDone_gather _).ok_iff responses).mp hgather
    clear h hgather
    induction vs generalizing responses with
    | nil =>
      rw [List.map_eq_nil_iff.mp hall.symm]
      exact .nil
    | cons v vs ih =>
      cases responses with
      | nil => cases hall
      | cons t responses =>
        rw [List.map_cons, List.map_cons, List.cons.injEq] at hall
        have hmessage := (r.signatureProvider.sign_eq hall.1).1
        have hown : t.1.validatorRegistration = r.settings.validatorRegistration timestamp v := by
          rw [hmessage]
        exact .cons ⟨hown, t, hall.1, rfl⟩ (ih responses hall.2)

lemma Round.exists_signBatch (h : ∀ v ∈ vs, ∃ t, r.sign timestamp v = .ok t) :
    ∃ signed, r.signBatch timestamp vs = .ok signed := by
  have hok : ∀ x ∈ vs.map (r.sign timestamp), ∃ t, x = .ok t := by
    intro x hx
    obtain ⟨v, hv, rfl⟩ := List.mem_map.mp hx
    exact h v hv
  obtain ⟨responses, hresponses⟩ := (r.order.allDone_gather _).exists_ok hok
  unfold signBatch
  rw [hresponses]
  exact ⟨_, rfl⟩

lemma signBatch_of_mem (h : signed ∈ (registerBatches call vs is).1) :
    ∃ i ∈ is, (call.round i).signBatch call.timestamp (slice vs i batchSize) = .ok signed := by
  induction is with
  | nil => cases h
  | cons i is ih =>
    have hlater : signed ∈ (registerBatches call vs is).1 → ∃ j ∈ i :: is,
        (call.round j).signBatch call.timestamp (slice vs j batchSize) = .ok signed := by
      intro hmem
      obtain ⟨j, hj, hsigned⟩ := ih hmem
      exact ⟨j, List.mem_cons_of_mem _ hj, hsigned⟩
    unfold registerBatches at h
    split at h
    · exact hlater h
    · next signed' hsigned =>
      split at h
      · cases h
      · rcases List.mem_cons.mp h with rfl | h
        · exact ⟨i, List.mem_cons_self, hsigned⟩
        · exact hlater h

/-- As long as the beacon nodes take them, all batches that are signed are published. -/
lemma registerBatches_eq (h : call.Publishes) : registerBatches call vs is =
    (is.filterMap fun i =>
      ((call.round i).signBatch call.timestamp (slice vs i batchSize)).toOption, .ok ()) := by
  induction is with
  | nil => rfl
  | cons i is ih =>
    unfold registerBatches
    rw [List.filterMap_cons, ih]
    cases hsigned : (call.round i).signBatch call.timestamp (slice vs i batchSize) with
    | error e => rfl
    | ok signed =>
      dsimp only
      rw [h i signed]
      rfl

variable (is) in
lemma forall₂_registerBatches (hpublish : call.Publishes) (hsign : call.Signs vs) :
    List.Forall₂ call.Registers (is.flatMap fun i => slice vs i batchSize)
      (registerBatches call vs is).1.flatten := by
  rw [registerBatches_eq hpublish]
  induction is with
  | nil => exact .nil
  | cons i is ih =>
    have hslice : ∀ v ∈ slice vs i batchSize, v ∈ vs := fun v hv =>
      List.mem_of_mem_drop (List.mem_of_mem_take hv)
    obtain ⟨signed, hsigned⟩ := (call.round i).exists_signBatch fun v hv => hsign i v (hslice v hv)
    rw [List.flatMap_cons, List.filterMap_cons, hsigned]
    refine List.rel_append ?_ ih
    exact (Round.forall₂_of_signBatch hsigned).imp fun v entry hown => ⟨i, hown⟩

/-! ### A window of slots -/

/-- Every validator has its turn once in a window of one epoch's length, wherever it begins. -/
lemma validatorsToRegister_perm {start : ℤ} {slots : List ℤ}
    (hslots : slots.Perm ((List.range b.slotsPerEpoch).map fun k : ℕ => start + k)) :
    (slots.flatMap fun slot => validatorsToRegister b validators slot).Perm validators := by
  have hpos : (0 : ℤ) < b.slotsPerEpoch := by exact_mod_cast b.slotsPerEpoch_pos
  have hkeys : (slots.flatMap fun slot => validatorsToRegister b validators slot) =
      (slots.map fun slot => slot % (b.slotsPerEpoch : ℤ)).flatMap fun k : ℤ =>
        validators.filter fun v => v.index % (b.slotsPerEpoch : ℤ) = k := by
    rw [List.flatMap_map]
    rfl
  rw [hkeys]
  refine flatMap_filter_perm (fun v : ValidatorIndexPubkey => v.index % (b.slotsPerEpoch : ℤ))
    ?_ ?_
  · rw [(hslots.map _).nodup_iff, List.map_map]
    refine List.Nodup.map_on ?_ List.nodup_range
    intro k hk k' hk' he
    have hk := List.mem_range.mp hk
    have hk' := List.mem_range.mp hk'
    -- two places of the window are less than its length apart
    have hsame : (k : ℤ) % b.slotsPerEpoch = k' % b.slotsPerEpoch := Int.emod_add_cancel_left.mp he
    rw [Int.emod_eq_of_lt (by omega) (by omega), Int.emod_eq_of_lt (by omega) (by omega)] at hsame
    exact_mod_cast hsame
  · intro v hv
    have hnonneg := Int.emod_nonneg (v.index - start) hpos.ne'
    have hlt := Int.emod_lt_of_pos (v.index - start) hpos
    refine List.mem_map.mpr ⟨start + (v.index - start) % b.slotsPerEpoch, ?_, ?_⟩
    · refine hslots.mem_iff.mpr (List.mem_map.mpr
        ⟨((v.index - start) % b.slotsPerEpoch).toNat, List.mem_range.mpr (by omega), ?_⟩)
      rw [Int.toNat_of_nonneg hnonneg]
    · rw [Int.add_emod_emod, add_sub_cancel]

/-- What a window of slots comes to. -/
structure RegisteredOnce (b : BeaconChain) (validators : List ValidatorIndexPubkey)
    (calls : ℤ → RegistrationCall) (slots : List ℤ) : Prop where
  once : (∀ slot ∈ slots, (calls slot).Publishes ∧ (calls slot).Signs validators) → ∃ entries,
    (slots.flatMap fun slot =>
      (registerValidators b validators (calls slot) slot).1.flatten).Perm entries ∧
    List.Forall₂ (fun v entry => ∃ slot ∈ slots, (calls slot).Registers v entry) validators entries
  sizes : ∀ slot, ∀ batch ∈ (registerValidators b validators (calls slot) slot).1,
    1 ≤ batch.length ∧ batch.length ≤ 512
  own : ∀ slot, ∀ batch ∈ (registerValidators b validators (calls slot) slot).1, ∀ entry ∈ batch,
    ∃ v ∈ validators, (calls slot).Registers v entry
  leftOut : ∀ slot, (calls slot).Publishes →
    (registerValidators b validators (calls slot) slot).1 =
      (offsets (validatorsToRegister b validators slot).length batchSize).filterMap fun i =>
        (((calls slot).round i).signBatch (calls slot).timestamp
          (slice (validatorsToRegister b validators slot) i batchSize)).toOption

/-- **Every validator is registered once per epoch.** In a window of consecutive slots of one
epoch's length, with one call in each slot, the published entries are one for each validator as
long as nothing fails. A batch is never empty and never has more than 512 entries, each is of a
validator with its own registration and the signature over it, and where the signing of a batch
fails the other batches are published as they are. -/
theorem registered_once (b : BeaconChain) (validators : List ValidatorIndexPubkey)
    (calls : ℤ → RegistrationCall) {start : ℤ} {slots : List ℤ}
    (hslots : slots.Perm ((List.range b.slotsPerEpoch).map fun k : ℕ => start + k)) :
    RegisteredOnce b validators calls slots := by
  have hsubset : ∀ slot, ∀ v ∈ validatorsToRegister b validators slot, v ∈ validators :=
    fun slot v hv => List.mem_of_mem_filter hv
  have hslice : ∀ slot i, ∀ v ∈ slice (validatorsToRegister b validators slot) i batchSize,
      v ∈ validators := fun slot i v hv =>
    hsubset slot v (List.mem_of_mem_drop (List.mem_of_mem_take hv))
  refine ⟨fun h => ?_, fun slot batch hbatch => ?_, fun slot batch hbatch entry hentry => ?_,
    fun slot hpublish => ?_⟩
  · have hentries : List.Forall₂ (fun v entry => ∃ slot ∈ slots, (calls slot).Registers v entry)
        (slots.flatMap fun slot => validatorsToRegister b validators slot)
        (slots.flatMap fun slot =>
          (registerValidators b validators (calls slot) slot).1.flatten) := by
      refine forall₂_flatMap fun slot hslot => ?_
      obtain ⟨hpublish, hsign⟩ := h slot hslot
      have hbatches := forall₂_registerBatches
        (offsets (validatorsToRegister b validators slot).length batchSize) hpublish
        fun i v hv => hsign i v (hsubset slot v hv)
      rw [flatMap_offsets _ (by decide)] at hbatches
      exact hbatches.imp fun v entry hown => ⟨slot, hslot, hown⟩
    obtain ⟨entries, hown, hperm⟩ := List.perm_comp_forall₂
      (validatorsToRegister_perm hslots).symm hentries
    exact ⟨entries, hperm.symm, hown⟩
  · obtain ⟨i, hi, hsigned⟩ := signBatch_of_mem hbatch
    have hlen := (Round.forall₂_of_signBatch hsigned).length_eq
    rw [length_slice] at hlen
    have hlt := lt_of_mem_offsets (by decide) hi
    have hsize : batchSize = 512 := rfl
    omega
  · obtain ⟨i, -, hsigned⟩ := signBatch_of_mem hbatch
    obtain ⟨v, hv, hown⟩ := exists_left (Round.forall₂_of_signBatch hsigned) hentry
    exact ⟨v, hslice slot i v hv, i, hown⟩
  · exact congrArg Prod.fst (registerBatches_eq hpublish)

/-- A call in which every signature is obtained and every batch is taken. -/
def smoothCall : RegistrationCall where
  timestamp := 1606824023
  round := fun _ =>
    { settings := ⟨⟨"0xfee0000000000000000000000000000000000001", 60000000, []⟩, none⟩
      signatureProvider :=
        ⟨fun message identifier => .ok (message, "0x5a", identifier), fun h => by
          obtain rfl := Except.ok.inj h
          exact ⟨rfl, rfl⟩⟩
      order := .inOrder
      registerValidator := fun _ => .ok () }

/-- Two validators on mainnet, from slot 5 on. -/
theorem registered_once_mainnet :
    let b := (mainnet fun bytes => bytes).beaconChain
    let slots := (List.range b.slotsPerEpoch).map fun k : ℕ => (5 : ℤ) + k
    ∃ entries, (slots.flatMap fun slot =>
        (registerValidators b [⟨7, "0xa"⟩, ⟨40, "0xb"⟩] smoothCall slot).1.flatten).Perm entries ∧
      List.Forall₂ (fun v entry => ∃ slot ∈ slots, smoothCall.Registers v entry)
        [⟨7, "0xa"⟩, ⟨40, "0xb"⟩] entries :=
  (registered_once _ _ (fun _ => smoothCall) (.refl _)).once fun _ _ =>
    ⟨fun _ _ => rfl, fun _ _ _ => ⟨_, rfl⟩⟩

end BlockProposalService

end Vero
