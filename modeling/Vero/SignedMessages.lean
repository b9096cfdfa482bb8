import Vero.SelectionProofs
import Vero.SyncContributions

/-!
`_get_signed_attestations` and `_get_signed_sync_messages`: the signatures as they come back, each
joined to the validator it is of.

A signature comes with the pubkey it was asked for under. The attestations look the duty up in a
dictionary, the sync messages search the members.
-/

namespace Vero

namespace SchemaRemoteSigner

structure AttestationSignableMessage where
  forkInfo : ForkInfo
  attestation : SchemaBeaconAPI.AttestationData
  deriving DecidableEq

structure SyncCommitteeMessage where
  beaconBlockRoot : String
  slot : String
  deriving DecidableEq

structure SyncCommitteeMessageSignableMessage where
  forkInfo : ForkInfo
  syncCommitteeMessage : SyncCommitteeMessage
  deriving DecidableEq

end SchemaRemoteSigner

namespace SchemaBeaconAPI

structure SingleAttestation where
  committeeIndex : String
  attesterIndex : String
  data : AttestationData
  signature : String
  deriving DecidableEq

structure SyncCommitteeSignature where
  slot : String
  beaconBlockRoot : String
  validatorIndex : String
  signature : String
  deriving DecidableEq

end SchemaBeaconAPI

/-! ### Attestations -/

namespace AttestationService

open Lib Lib.Tasks SchemaBeaconAPI SchemaRemoteSigner
open Keymanager (Signed)

/-- What is made of a signature, once it is there. -/
def singleAttestation (attData : AttestationData)
    (pubkeyToDuty : Dict Pubkey AttesterDutyWithSelectionProof)
    (t : Signed AttestationSignableMessage) : Except Exception SingleAttestation :=
  match pubkeyToDuty.get t.2.2 with
  | none => .error (.key t.2.2)
  | some duty => .ok ⟨duty.committeeIndex, duty.validatorIndex, attData, t.2.1⟩

/-- The duties are listed in the order in which their set is iterated over. -/
def getSignedAttestations (genesis : Genesis)
    (signatureProvider : SignatureProvider AttestationSignableMessage) (order : Schedule)
    (slot : ℤ) (attData : AttestationData) (duties : List AttesterDutyWithSelectionProof) :
    Except Exception (List SingleAttestation) :=
  let pubkeyToDuty := Dict.ofList (duties.map fun d => (d.pubkey, d))
  match genesis.getForkInfo slot with
  | .error text => .error (.notImplemented text)
  | .ok forkInfo =>
    order.collect (singleAttestation attData pubkeyToDuty)
      (duties.map fun duty => signatureProvider.sign ⟨forkInfo, attData⟩ duty.pubkey)

/-- The attestation of a duty whose signature is obtained. -/
def ownAttestation (signatureProvider : SignatureProvider AttestationSignableMessage)
    (forkInfo : ForkInfo) (attData : AttestationData) (duty : AttesterDutyWithSelectionProof) :
    Option SingleAttestation :=
  (signatureProvider.sign ⟨forkInfo, attData⟩ duty.pubkey).toOption.map fun t =>
    ⟨duty.committeeIndex, duty.validatorIndex, attData, t.2.1⟩

variable {genesis : Genesis} {forkInfo : ForkInfo} {attData : AttestationData}
variable {duties : List AttesterDutyWithSelectionProof} {slot : ℤ}

lemma get_pubkeyToDuty (h : (duties.map fun d => d.pubkey).Nodup)
    {duty : AttesterDutyWithSelectionProof} (hduty : duty ∈ duties) :
    (Dict.ofList (duties.map fun d => (d.pubkey, d))).get duty.pubkey = some duty := by
  have hkeys : ((duties.map fun d => (d.pubkey, d)).map Prod.fst).Nodup := by
    rwa [List.map_map]
  exact (Dict.get_ofList_iff hkeys).mpr (List.mem_map.mpr ⟨duty, hduty, rfl⟩)

lemma getSignedAttestations_perm
    (signatureProvider : SignatureProvider AttestationSignableMessage) (order : Schedule)
    (hfork : genesis.getForkInfo slot = .ok forkInfo) (attData : AttestationData)
    (h : (duties.map fun d => d.pubkey).Nodup) :
    ∃ signed, getSignedAttestations genesis signatureProvider order slot attData duties =
        .ok signed ∧
      signed.Perm (duties.filterMap (ownAttestation signatureProvider forkInfo attData)) := by
  unfold getSignedAttestations
  rw [hfork]
  refine order.collect_perm fun duty hduty t ht => ?_
  have hpubkey : t.2.2 = duty.pubkey := (signatureProvider.sign_eq ht).2
  unfold singleAttestation
  rw [hpubkey, get_pubkeyToDuty h hduty]

end AttestationService

/-! ### Sync messages -/

namespace SyncCommitteeService

open Lib.Tasks SchemaBeaconAPI SchemaRemoteSigner ValidatorStatusTrackerService
open Keymanager (Signed)

def syncCommitteeSignature (syncCommitteeMembers : List ValidatorIndexPubkey)
    (t : Signed SyncCommitteeMessageSignableMessage) : Except Exception SyncCommitteeSignature :=
  match syncCommitteeMembers.find? fun v => v.pubkey = t.2.2 with
  | none => .error (.raised "coroutine raised StopIteration")
  | some v =>
    .ok ⟨t.1.syncCommitteeMessage.slot, t.1.syncCommitteeMessage.beaconBlockRoot,
      toString v.index, t.2.1⟩

def syncCommitteeMessage (forkInfo : ForkInfo) (dutySlot : ℤ) (beaconBlockRoot : String) :
    SyncCommitteeMessageSignableMessage :=
  ⟨forkInfo, ⟨beaconBlockRoot, toString dutySlot⟩⟩

/-- The members are listed in the order in which their set is iterated over. -/
def getSignedSyncMessages (genesis : Genesis)
    (signatureProvider : SignatureProvider SyncCommitteeMessageSignableMessage) (order : Schedule)
    (dutySlot : ℤ) (syncCommitteeMembers : List ValidatorIndexPubkey) (beaconBlockRoot : String) :
    Except Exception (List SyncCommitteeSignature) :=
  match genesis.getForkInfo dutySlot with
  | .error text => .error (.notImplemented text)
  | .ok forkInfo =>
    order.collect (syncCommitteeSignature syncCommitteeMembers)
      (syncCommitteeMembers.map fun validator => signatureProvider.sign
        (syncCommitteeMessage forkInfo dutySlot beaconBlockRoot) validator.pubkey)

/-- The message of a member whose signature is obtained. -/
def ownSyncMessage (signatureProvider : SignatureProvider SyncCommitteeMessageSignableMessage)
    (forkInfo : ForkInfo) (dutySlot : ℤ) (beaconBlockRoot : String) (v : ValidatorIndexPubkey) :
    Option SyncCommitteeSignature :=
  (signatureProvider.sign (syncCommitteeMessage forkInfo dutySlot beaconBlockRoot)
    v.pubkey).toOption.map fun t =>
      ⟨toString dutySlot, beaconBlockRoot, toString v.index, t.2.1⟩

variable {genesis : Genesis} {forkInfo : ForkInfo} {dutySlot : ℤ} {beaconBlockRoot : String}
variable {syncCommitteeMembers : List ValidatorIndexPubkey}

lemma find?_pubkey (h : (syncCommitteeMembers.map fun v => v.pubkey).Nodup)
    {v : ValidatorIndexPubkey} (hv : v ∈ syncCommitteeMembers) :
    syncCommitteeMembers.find? (fun w => w.pubkey = v.pubkey) = some v := by
  cases hfind : syncCommitteeMembers.find? fun w => w.pubkey = v.pubkey with
  | none => simpa using List.find?_eq_none.mp hfind v hv
  | some w =>
    have hkey : w.pubkey = v.pubkey := by simpa using List.find?_some hfind
    rw [List.inj_on_of_nodup_map h (List.mem_of_find?_eq_some hfind) hv hkey]

lemma getSignedSyncMessages_perm
    (signatureProvider : SignatureProvider SyncCommitteeMessageSignableMessage) (order : Schedule)
    (hfork : genesis.getForkInfo dutySlot = .ok forkInfo) (beaconBlockRoot : String)
    (h : (syncCommitteeMembers.map fun v => v.pubkey).Nodup) :
    ∃ signed, getSignedSyncMessages genesis signatureProvider order dutySlot syncCommitteeMembers
        beaconBlockRoot = .ok signed ∧
      signed.Perm (syncCommitteeMembers.filterMap
        (ownSyncMessage signatureProvider forkInfo dutySlot beaconBlockRoot)) := by
  unfold getSignedSyncMessages
  rw [hfork]
  refine order.collect_perm fun v hv t ht => ?_
  obtain ⟨hmessage, hpubkey⟩ := signatureProvider.sign_eq ht
  unfold syncCommitteeSignature
  rw [hpubkey, find?_pubkey h hv, hmessage]
  rfl

/-- **Signatures are joined to the validators they are of.** Whichever requests fail and whatever
order the others come back in, there is one attestation for each duty whose signature is obtained,
with the data given and the signature of its validator, and likewise one message for each member
of the sync committee. -/
theorem signed_messages_attributed {genesis : Genesis} {slot : ℤ} {forkInfo : ForkInfo}
    (hfork : genesis.getForkInfo slot = .ok forkInfo) :
    (∀ signatureProvider attData (duties : List AttesterDutyWithSelectionProof),
      (duties.map fun d => d.pubkey).Nodup → ∀ order, ∃ signed,
      AttestationService.getSignedAttestations genesis signatureProvider order slot attData duties =
        .ok signed ∧
      signed.Perm (duties.filterMap
        (AttestationService.ownAttestation signatureProvider forkInfo attData))) ∧
    ∀ signatureProvider beaconBlockRoot (members : List ValidatorIndexPubkey),
      (members.map fun v => v.pubkey).Nodup → ∀ order, ∃ signed,
      getSignedSyncMessages genesis signatureProvider order slot members beaconBlockRoot =
        .ok signed ∧
      signed.Perm (members.filterMap
        (ownSyncMessage signatureProvider forkInfo slot beaconBlockRoot)) :=
  ⟨fun signatureProvider attData _ h order =>
      AttestationService.getSignedAttestations_perm signatureProvider order hfork attData h,
    fun signatureProvider beaconBlockRoot _ h order =>
      getSignedSyncMessages_perm signatureProvider order hfork beaconBlockRoot h⟩

/-! ### One of two requests fails -/

def signsOnlyFor {M : Type} (pubkey : String) : SignatureProvider M where
  sign message identifier :=
    if identifier = pubkey then .ok (message, "0x5a", identifier) else .error "no signer"
  sign_eq h := by
    split_ifs at h
    obtain rfl := Except.ok.inj h
    exact ⟨rfl, rfl⟩

def someData : AttestationData := ⟨"32", "0", "0xbb", ⟨"0", "0xc0"⟩, ⟨"1", "0xc1"⟩⟩

/-- A duty in the first slot of epoch 1. -/
def dutyOf (pubkey validatorIndex : String) : AttesterDutyWithSelectionProof where
  pubkey := pubkey
  validatorIndex := validatorIndex
  committeeIndex := "3"
  committeeLength := 128
  committeesAtSlot := "4"
  validatorCommitteeIndex := "11"
  slot := 32
  isAggregator := false
  selectionProof := []

theorem signed_messages_attributed_fulu :
    (∃ signed, AttestationService.getSignedAttestations someGenesis (signsOnlyFor "0xb") .inOrder 32
        someData [dutyOf "0xa" "7", dutyOf "0xb" "8"] = .ok signed ∧
      signed.Perm [⟨"3", "8", someData, "0x5a"⟩]) ∧
    ∃ signed, getSignedSyncMessages someGenesis (signsOnlyFor "0xb") .inOrder 32
        [⟨7, "0xa"⟩, ⟨8, "0xb"⟩] "0xbb" = .ok signed ∧
      signed.Perm [⟨"32", "0xbb", "8", "0x5a"⟩] := by
  have hfork : someGenesis.getForkInfo 32 = .ok fuluInfo := by decide +kernel
  obtain ⟨hattestations, hmessages⟩ := signed_messages_attributed hfork
  exact ⟨hattestations (signsOnlyFor "0xb") someData [dutyOf "0xa" "7", dutyOf "0xb" "8"]
      (by decide) .inOrder,
    hmessages (signsOnlyFor "0xb") "0xbb" [⟨7, "0xa"⟩, ⟨8, "0xb"⟩] (by decide) .inOrder⟩

end SyncCommitteeService

end Vero
