import Vero.BatchedSigning
import Vero.ForkSchedule

/-!
What the duty services hand to a signature provider, and what they get back.

The messages carry the fork of a slot. A signature comes as a text of hexadecimal digits behind
`0x`.
-/

namespace Vero

structure ForkInfo where
  fork : ForkSchedule.Fork
  genesisValidatorsRoot : String
  deriving DecidableEq

/-- The forks of a chain with its genesis. -/
structure Genesis extends ForkSchedule where
  genesisValidatorsRoot : String

def Genesis.getForkInfo (c : Genesis) (slot : ℤ) : Except String ForkInfo :=
  (c.getFork slot).map fun fork => ⟨fork, c.genesisValidatorsRoot⟩

/-- Fulu begins with epoch 1. -/
def someGenesis : Genesis := ⟨ForkSchedule.fuluFromEpoch1, "0x4b"⟩

def fuluInfo : ForkInfo := ⟨someGenesis.fuluFork, "0x4b"⟩

namespace SchemaRemoteSigner

structure Slot where
  slot : String
  deriving DecidableEq

structure AggregationSlotSignableMessage where
  forkInfo : ForkInfo
  aggregationSlot : Slot
  deriving DecidableEq

structure SyncAggregatorSelectionData where
  slot : String
  subcommitteeIndex : String
  deriving DecidableEq

structure SyncCommitteeSelectionProofSignableMessage where
  forkInfo : ForkInfo
  syncAggregatorSelectionData : SyncAggregatorSelectionData
  deriving DecidableEq

end SchemaRemoteSigner

/-! ### Signing -/

namespace Keymanager

variable {M : Type}

def State.sign (remote : Remote M) (s : State) (message : M) (identifier : String) :
    Except String (Signed M) :=
  match s.pubkeyToRemoteSigner.get identifier with
  | none => .error identifier
  | some signer => signer.sign remote message identifier

lemma State.sign_eq {remote : Remote M} {s : State} {message : M} {identifier : String}
    {t : Signed M} (h : s.sign remote message identifier = .ok t) :
    t.1 = message ∧ t.2.2 = identifier := by
  unfold sign at h
  split at h
  · cases h
  · exact RemoteSigner.sign_eq h

end Keymanager

open Keymanager (Signed Remote RemoteSigner)

/-- `sign` of a signer or of the manager. -/
structure SignatureProvider (M : Type) where
  sign : M → String → Except String (Signed M)
  sign_eq : ∀ {message identifier t}, sign message identifier = .ok t →
    t.1 = message ∧ t.2.2 = identifier

def SignatureProvider.ofSigner {M : Type} (remote : Remote M) (signer : RemoteSigner) :
    SignatureProvider M :=
  ⟨signer.sign remote, RemoteSigner.sign_eq⟩

def SignatureProvider.ofManager {M : Type} (remote : Remote M) (s : Keymanager.State) :
    SignatureProvider M :=
  ⟨s.sign remote, Keymanager.State.sign_eq⟩

/-- Messages signed in batches and published with their signatures. -/
def signAndPublish {M P ε : Type}
    (signInBatches : List M → List String → Except ε (List (Signed M))) (payload : M → P)
    (publish : List (P × String) → Except ε Unit) (submission : List (M × String)) :
    Except ε Unit := do
  let signed ← signInBatches (submission.map Prod.fst) (submission.map Prod.snd)
  publish (signed.map fun t => (payload t.1, t.2.1))

/-! ### Signatures as bytes -/

def hexDigit (ch : Char) : Option ℕ :=
  if '0' ≤ ch ∧ ch ≤ '9' then some (ch.toNat - '0'.toNat)
  else if 'a' ≤ ch ∧ ch ≤ 'f' then some (ch.toNat - 'a'.toNat + 10)
  else if 'A' ≤ ch ∧ ch ≤ 'F' then some (ch.toNat - 'A'.toNat + 10)
  else none

def isSpace (ch : Char) : Bool :=
  ch = ' ' ∨ (9 ≤ ch.toNat ∧ ch.toNat ≤ 13)

/-- Blanks are skipped between two bytes. -/
def hexBytes : List Char → Option (List UInt8)
  | [] => some []
  | [ch] => if isSpace ch then some [] else none
  | ch :: ch' :: chs =>
    if isSpace ch then hexBytes (ch' :: chs)
    else (hexDigit ch).bind fun high => (hexDigit ch').bind fun low =>
      (hexBytes chs).map fun bytes => UInt8.ofNat (16 * high + low) :: bytes

/-- `bytes.fromhex` on the signature behind its first two characters. -/
def signatureBytes (sig : String) : Option (List UInt8) := hexBytes (sig.toList.drop 2)

end Vero
