import Vero.AttestationSteps
import Vero.SignatureProvider

/-!
`_get_duties_with_selection_proofs`: the duties with the proofs that the manager's signers make
for their slots.

The manager leaves out the keys without a signer. The loop over the duties then looks each of
them up, and raises for the first one left out.
-/

namespace Vero.AttestationService

open Lib Lib.Tasks SchemaBeaconAPI SchemaRemoteSigner
open Keymanager (Remote Orders Signed Opens signable requestAll)

inductive Exception
  | notImplemented (text : String)
  | signature
  | aggregateAttestationPublish
  | value
  | key (pubkey : Pubkey)
  | index
  | raised (text : String)
  deriving DecidableEq

/-- The chain, the keys and the signers, each of which was built. -/
structure Signing extends Context where
  genesis : Genesis
  remote : Remote AggregationSlotSignableMessage
  keymanager : Keymanager.State
  opens : ∀ pubkey signer, keymanager.pubkeyToRemoteSigner.get pubkey = some signer →
    Opens remote.toHttp signer.url

variable (p : Signing) (orders : Orders)

/-- The default of `batch_size`. -/
def batchSize : ℕ := 100

def aggregationSlotMessage (forkInfo : ForkInfo) (duty : AttesterDuty) :
    AggregationSlotSignableMessage :=
  ⟨forkInfo, ⟨toString duty.slot⟩⟩

def selectionProof (t : Signed AggregationSlotSignableMessage) :
    Except Exception (Pubkey × List UInt8) :=
  match signatureBytes t.2.1 with
  | none => .error .value
  | some bytes => .ok (t.2.2, bytes)

/-- One turn of the loop that joins the proofs to the duties. -/
def withSelectionProof (pubkeyToSelectionProof : Dict Pubkey (List UInt8))
    (duty : AttesterDuty) : Except Exception AttesterDutyWithSelectionProof :=
  match pubkeyToSelectionProof.get duty.pubkey with
  | none => .error (.key duty.pubkey)
  | some proof =>
    .ok (.fromDuty duty
      (State.isAggregatorByCommitteeLength p.toContext duty.committeeLength proof) proof)

/-- The fork is that of the first duty's slot. -/
def getDutiesWithSelectionProofs (duties : List AttesterDuty) :
    Except Exception (List AttesterDutyWithSelectionProof) :=
  match duties with
  | [] => .ok []
  | first :: _ =>
    match p.genesis.getForkInfo first.slot with
    | .error text => .error (.notImplemented text)
    | .ok forkInfo =>
      match p.keymanager.signInBatches p.remote orders
        (duties.map (aggregationSlotMessage forkInfo)) (duties.map fun d => d.pubkey)
        batchSize with
      | .error _ => .error .signature
      | .ok signatures =>
        match signatures.mapM selectionProof with
        | .error e => .error e
        | .ok proofs => duties.mapM (withSelectionProof p (.ofList proofs))

/-- The loop is the one that the run of an update makes with the signatures it is given. -/
lemma withSelectionProofs_eq (duties : List AttesterDuty) (proofs : List (Pubkey × List UInt8)) :
    State.withSelectionProofs p.toContext duties proofs =
      (duties.mapM (withSelectionProof p (.ofList proofs))).toOption := by
  have hturn : ∀ duty, (withSelectionProof p (.ofList proofs) duty).toOption =
      ((Dict.ofList proofs).get duty.pubkey).map fun proof => .fromDuty duty
        (State.isAggregatorByCommitteeLength p.toContext duty.committeeLength proof) proof := by
    intro duty
    unfold withSelectionProof
    cases (Dict.ofList proofs).get duty.pubkey <;> rfl
  rw [toOption_mapM, funext hturn]
  rfl

variable {p orders} {forkInfo : ForkInfo} {duties : List AttesterDuty}
  {signatures : List (Signed AggregationSlotSignableMessage)}

/-- The key of the duty currently has a signer. -/
def hasSigner (p : Signing) (duty : AttesterDuty) : Bool :=
  (p.keymanager.pubkeyToRemoteSigner.get duty.pubkey).isSome

/-- What the signer of the duty's key signs for the slot of the duty. -/
def ownSignature (p : Signing) (forkInfo : ForkInfo) (duty : AttesterDuty) :
    Option (Signed AggregationSlotSignableMessage) :=
  (p.keymanager.pubkeyToRemoteSigner.get duty.pubkey).bind fun signer =>
    (signer.sign p.remote (aggregationSlotMessage forkInfo duty) duty.pubkey).toOption

def ownProof (p : Signing) (forkInfo : ForkInfo) (duty : AttesterDuty) : Option (List UInt8) :=
  (ownSignature p forkInfo duty).bind fun t => signatureBytes t.2.1

/-- Each duty whose key has a signer, once, with the proof of its own signer. -/
structure Keeps (p : Signing) (forkInfo : ForkInfo) (duties : List AttesterDuty)
    (out : List AttesterDutyWithSelectionProof) : Prop where
  duties : (out.map AttesterDutyWithSelectionProof.toAttesterDuty).Perm
    (duties.filter (hasSigner p))
  proof : ∀ x ∈ out, ownProof p forkInfo x.toAttesterDuty = some x.selectionProof
  aggregator : ∀ x ∈ out, x.isAggregator =
    State.isAggregatorByCommitteeLength p.toContext x.committeeLength x.selectionProof

/-! ### The signatures of the manager -/

lemma ownSignature_eq_some {duty : AttesterDuty} {t : Signed AggregationSlotSignableMessage} :
    ownSignature p forkInfo duty = some t ↔
      ∃ signer, p.keymanager.pubkeyToRemoteSigner.get duty.pubkey = some signer ∧
        signer.sign p.remote (aggregationSlotMessage forkInfo duty) duty.pubkey = .ok t := by
  unfold ownSignature
  rw [Option.bind_eq_some_iff]
  refine exists_congr fun signer => and_congr_right fun _ => ?_
  cases signer.sign p.remote (aggregationSlotMessage forkInfo duty) duty.pubkey <;>
    simp [Except.toOption]

/-- The requests of the manager, in the order of the duties. -/
lemma mem_requestAll {r : Except String (Signed AggregationSlotSignableMessage)} :
    r ∈ requestAll p.remote p.keymanager.pubkeyToRemoteSigner
        ((duties.map (aggregationSlotMessage forkInfo)).zip (duties.map fun d => d.pubkey)) ↔
      ∃ duty ∈ duties, ∃ signer,
        p.keymanager.pubkeyToRemoteSigner.get duty.pubkey = some signer ∧
        signer.sign p.remote (aggregationSlotMessage forkInfo duty) duty.pubkey = r := by
  unfold requestAll signable
  rw [List.zip_map']
  simp only [List.mem_map, List.mem_filterMap, Option.map_eq_some_iff]
  constructor
  · rintro ⟨_, ⟨_, ⟨duty, hduty, rfl⟩, signer, hsigner, rfl⟩, hr⟩
    exact ⟨duty, hduty, signer, hsigner, hr⟩
  · rintro ⟨duty, hduty, signer, hsigner, hr⟩
    exact ⟨_, ⟨_, ⟨duty, hduty, rfl⟩, signer, hsigner, rfl⟩, hr⟩

/-- The signatures are those that the signers make for the duties. -/
lemma mem_signatures (h : p.keymanager.signInBatches p.remote orders
    (duties.map (aggregationSlotMessage forkInfo)) (duties.map fun d => d.pubkey) batchSize =
      .ok signatures) {t : Signed AggregationSlotSignableMessage} :
    t ∈ signatures ↔ ∃ duty ∈ duties, ownSignature p forkInfo duty = some t := by
  obtain ⟨tasks, hperm, hdone⟩ := Keymanager.State.signInBatches_allDone
    (duties.map (aggregationSlotMessage forkInfo)) (duties.map fun d => d.pubkey) orders
    p.opens (by decide : 1 ≤ batchSize)
  obtain ⟨out', hrequests, hout⟩ := hdone.perm hperm h
  have hok : t ∈ signatures ↔ Except.ok t ∈ (out'.map Except.ok : List (Except String _)) := by
    rw [hout.mem_iff]
    constructor
    · exact fun ht => List.mem_map_of_mem ht
    · intro ht
      obtain ⟨t', ht', he⟩ := List.mem_map.mp ht
      rwa [← Except.ok.inj he]
  rw [hok, ← hrequests, mem_requestAll]
  exact exists_congr fun duty => and_congr_right fun _ => ownSignature_eq_some.symm

/-- The manager raises only where a signer does. -/
lemma exists_signatures (orders : Orders) (hsigned : ∀ duty ∈ duties, hasSigner p duty →
      ∃ t, ownSignature p forkInfo duty = some t) :
    ∃ signatures, p.keymanager.signInBatches p.remote orders
      (duties.map (aggregationSlotMessage forkInfo)) (duties.map fun d => d.pubkey) batchSize =
        .ok signatures := by
  obtain ⟨tasks, hperm, hdone⟩ := Keymanager.State.signInBatches_allDone
    (duties.map (aggregationSlotMessage forkInfo)) (duties.map fun d => d.pubkey) orders
    p.opens (by decide : 1 ≤ batchSize)
  refine hdone.exists_ok fun r hr => ?_
  obtain ⟨duty, hduty, signer, hsigner, rfl⟩ := mem_requestAll.mp (hperm.mem_iff.mp hr)
  have hhas : hasSigner p duty := by rw [hasSigner, hsigner]; rfl
  obtain ⟨t, ht⟩ := hsigned duty hduty hhas
  obtain ⟨signer', hsigner', hsign⟩ := ownSignature_eq_some.mp ht
  rw [hsigner] at hsigner'
  rw [← Option.some.inj hsigner'] at hsign
  exact ⟨t, hsign⟩

/-! ### Joining them to the duties -/

lemma selectionProof_eq_ok {t : Signed AggregationSlotSignableMessage}
    {x : Pubkey × List UInt8} :
    selectionProof t = .ok x ↔ signatureBytes t.2.1 = some x.2 ∧ t.2.2 = x.1 := by
  unfold selectionProof
  cases signatureBytes t.2.1 with
  | none => simp
  | some bytes =>
    obtain ⟨pubkey, proof⟩ := x
    simp [and_comm]

lemma ownSignature_pubkey {duty : AttesterDuty} {t : Signed AggregationSlotSignableMessage}
    (h : ownSignature p forkInfo duty = some t) : t.2.2 = duty.pubkey := by
  obtain ⟨signer, -, hsign⟩ := ownSignature_eq_some.mp h
  exact (Keymanager.RemoteSigner.sign_eq hsign).2

lemma hasSigner_of_ownSignature {duty : AttesterDuty}
    {t : Signed AggregationSlotSignableMessage} (h : ownSignature p forkInfo duty = some t) :
    hasSigner p duty := by
  obtain ⟨signer, hsigner, -⟩ := ownSignature_eq_some.mp h
  rw [hasSigner, hsigner]
  rfl

lemma withSelectionProof_eq_ok {proofs : Dict Pubkey (List UInt8)} {duty : AttesterDuty}
    {x : AttesterDutyWithSelectionProof} : withSelectionProof p proofs duty = .ok x ↔
      ∃ proof, proofs.get duty.pubkey = some proof ∧ .fromDuty duty
        (State.isAggregatorByCommitteeLength p.toContext duty.committeeLength proof) proof =
          x := by
  unfold withSelectionProof
  cases proofs.get duty.pubkey <;> simp

/-- The call returns only where no duty is left out. -/
lemma hasSigner_of_ok {out : List AttesterDutyWithSelectionProof}
    (h : getDutiesWithSelectionProofs p orders duties = .ok out) :
    ∀ duty ∈ duties, hasSigner p duty := by
  unfold getDutiesWithSelectionProofs at h
  split at h
  · simp
  · split at h
    · cases h
    · next forkInfo hfork =>
      split at h
      · cases h
      · next signatures hsignatures =>
        split at h
        · cases h
        · next proofs hproofs =>
          intro duty hduty
          have hjoined := ((allDone_mapM _ _).ok_iff out).mp h
          obtain ⟨x, -, hx⟩ := exists_value hjoined hduty
          obtain ⟨proof, hget, -⟩ := withSelectionProof_eq_ok.mp hx
          have hread := ((allDone_mapM selectionProof signatures).ok_iff proofs).mp hproofs
          obtain ⟨t, ht, hbytes⟩ := exists_input hread (Dict.get_ofList hget)
          obtain ⟨duty', -, hown⟩ := (mem_signatures hsignatures).mp ht
          have hsame : duty'.pubkey = duty.pubkey :=
            (ownSignature_pubkey hown).symm.trans (selectionProof_eq_ok.mp hbytes).2
          have hhas := hasSigner_of_ownSignature hown
          unfold hasSigner at hhas ⊢
          rwa [← hsame]

lemma exists_proofs (hproof : ∀ duty ∈ duties, hasSigner p duty →
      ∃ proof, ownProof p forkInfo duty = some proof)
    (hsignatures : ∀ t, t ∈ signatures ↔
      ∃ duty ∈ duties, ownSignature p forkInfo duty = some t) :
    ∃ proofs, signatures.mapM selectionProof = .ok proofs := by
  refine (allDone_mapM selectionProof signatures).exists_ok fun r hr => ?_
  obtain ⟨t, ht, rfl⟩ := List.mem_map.mp hr
  obtain ⟨duty, hduty, hown⟩ := (hsignatures t).mp ht
  obtain ⟨proof, hproof⟩ := hproof duty hduty (hasSigner_of_ownSignature hown)
  unfold ownProof at hproof
  rw [hown] at hproof
  exact ⟨(t.2.2, proof), selectionProof_eq_ok.mpr ⟨hproof, rfl⟩⟩

/-- A key with a signer finds the proof of its own signer, as no other duty has the key. -/
lemma get_proofs {proofs : List (Pubkey × List UInt8)} {duty : AttesterDuty}
    (hnodup : (duties.map fun d => d.pubkey).Nodup) (hduty : duty ∈ duties)
    (hsignatures : ∀ t, t ∈ signatures ↔
      ∃ duty ∈ duties, ownSignature p forkInfo duty = some t)
    (hproofs : signatures.mapM selectionProof = .ok proofs)
    (hown : ∃ proof, ownProof p forkInfo duty = some proof) :
    ∃ proof, (Dict.ofList proofs).get duty.pubkey = some proof ∧
      ownProof p forkInfo duty = some proof := by
  have hread := ((allDone_mapM selectionProof signatures).ok_iff proofs).mp hproofs
  obtain ⟨proof, hproof⟩ := hown
  obtain ⟨t, ht, hbytes⟩ := Option.bind_eq_some_iff.mp hproof
  have hmem : t ∈ signatures := (hsignatures t).mpr ⟨duty, hduty, ht⟩
  obtain ⟨x, hx, hread'⟩ := exists_value hread hmem
  have hkey : x.1 = duty.pubkey :=
    (selectionProof_eq_ok.mp hread').2.symm.trans (ownSignature_pubkey ht)
  obtain ⟨found, hfound⟩ := Dict.exists_get_ofList (show (duty.pubkey, x.2) ∈ proofs by
    rwa [← hkey])
  refine ⟨found, hfound, ?_⟩
  -- whatever was found stands there for a duty of the same key
  obtain ⟨t', ht', hread''⟩ := exists_input hread (Dict.get_ofList hfound)
  obtain ⟨duty', hduty', hown'⟩ := (hsignatures t').mp ht'
  have hpubkey : duty'.pubkey = duty.pubkey :=
    (ownSignature_pubkey hown').symm.trans (selectionProof_eq_ok.mp hread'').2
  have hsame : duty' = duty := List.inj_on_of_nodup_map hnodup hduty' hduty hpubkey
  rw [hsame] at hown'
  unfold ownProof
  rw [hown']
  exact (selectionProof_eq_ok.mp hread'').1

lemma getDutiesWithSelectionProofs_eq {first : AttesterDuty}
    {proofs : List (Pubkey × List UInt8)} (hfirst : duties.head? = some first)
    (hfork : p.genesis.getForkInfo first.slot = .ok forkInfo)
    (hsignatures : p.keymanager.signInBatches p.remote orders
      (duties.map (aggregationSlotMessage forkInfo)) (duties.map fun d => d.pubkey) batchSize =
        .ok signatures) (hproofs : signatures.mapM selectionProof = .ok proofs) :
    getDutiesWithSelectionProofs p orders duties =
      duties.mapM (withSelectionProof p (.ofList proofs)) := by
  unfold getDutiesWithSelectionProofs
  cases duties with
  | nil => rfl
  | cons duty rest =>
    rw [← Option.some.inj hfirst] at hfork
    simp only [hfork, hsignatures, hproofs]

/-- The duties joined with their own proofs are kept as they are. -/
lemma keeps_of_joined {proofs : List (Pubkey × List UInt8)}
    {out : List AttesterDutyWithSelectionProof} (hall : ∀ duty ∈ duties, hasSigner p duty)
    (hturn : ∀ duty ∈ duties, ∃ proof, (Dict.ofList proofs).get duty.pubkey = some proof ∧
      ownProof p forkInfo duty = some proof)
    (hjoined : duties.map (withSelectionProof p (.ofList proofs)) = out.map .ok) :
    Keeps p forkInfo duties out := by
  have hfilter : duties.filter (hasSigner p) = duties := List.filter_eq_self.mpr hall
  refine ⟨?_, fun x hx => ?_, fun x hx => ?_⟩
  · have hback := map_of_values (g := AttesterDutyWithSelectionProof.toAttesterDuty) hjoined
      fun duty x hx => by
        obtain ⟨proof, -, rfl⟩ := withSelectionProof_eq_ok.mp hx
        rfl
    rw [hfilter, hback]
  · obtain ⟨duty, hduty, hvalue⟩ := exists_input hjoined hx
    obtain ⟨proof, hget, rfl⟩ := withSelectionProof_eq_ok.mp hvalue
    obtain ⟨proof', hget', hown⟩ := hturn duty hduty
    rw [hget] at hget'
    rwa [← Option.some.inj hget'] at hown
  · obtain ⟨duty, -, hvalue⟩ := exists_input hjoined hx
    obtain ⟨proof, -, rfl⟩ := withSelectionProof_eq_ok.mp hvalue
    rfl

/-- Where every duty has a signer, each gets its proof. -/
lemma keeps_of_hasSigner (orders : Orders) (hnodup : (duties.map fun d => d.pubkey).Nodup)
    (hfork : ∀ duty ∈ duties.head?, p.genesis.getForkInfo duty.slot = .ok forkInfo)
    (hproof : ∀ duty ∈ duties, hasSigner p duty →
      ∃ proof, ownProof p forkInfo duty = some proof)
    (hall : ∀ duty ∈ duties, hasSigner p duty) :
    ∃ out, getDutiesWithSelectionProofs p orders duties = .ok out ∧
      Keeps p forkInfo duties out := by
  cases hfirst : duties.head? with
  | none =>
    rw [List.head?_eq_none_iff.mp hfirst]
    exact ⟨[], rfl, by simp, by simp, by simp⟩
  | some first =>
    have hsigned : ∀ duty ∈ duties, hasSigner p duty →
        ∃ t, ownSignature p forkInfo duty = some t := by
      intro duty hduty hhas
      obtain ⟨proof, hown⟩ := hproof duty hduty hhas
      obtain ⟨t, ht, -⟩ := Option.bind_eq_some_iff.mp hown
      exact ⟨t, ht⟩
    obtain ⟨signatures, hsignatures⟩ := exists_signatures orders hsigned
    have hmem : ∀ t, t ∈ signatures ↔ ∃ duty ∈ duties, ownSignature p forkInfo duty = some t :=
      fun t => mem_signatures hsignatures
    obtain ⟨proofs, hproofs⟩ := exists_proofs hproof hmem
    have hturn : ∀ duty ∈ duties, ∃ proof, (Dict.ofList proofs).get duty.pubkey = some proof ∧
        ownProof p forkInfo duty = some proof := fun duty hduty =>
      get_proofs hnodup hduty hmem hproofs (hproof duty hduty (hall duty hduty))
    have hdone := allDone_mapM (withSelectionProof p (.ofList proofs)) duties
    obtain ⟨out, hout⟩ := hdone.exists_ok fun r hr => by
      obtain ⟨duty, hduty, rfl⟩ := List.mem_map.mp hr
      obtain ⟨proof, hget, -⟩ := hturn duty hduty
      exact ⟨_, withSelectionProof_eq_ok.mpr ⟨proof, hget, rfl⟩⟩
    have heq := getDutiesWithSelectionProofs_eq hfirst (hfork first hfirst) hsignatures hproofs
    exact ⟨out, heq.trans hout, keeps_of_joined hall hturn ((hdone.ok_iff out).mp hout)⟩

/-- **The duties are kept exactly where no key lacks a signer.** One key without a signer takes
the duties of the others down with it. -/
theorem keeps_signable_iff (p : Signing) (orders : Orders)
    (hnodup : (duties.map fun d => d.pubkey).Nodup)
    (hfork : ∀ duty ∈ duties.head?, p.genesis.getForkInfo duty.slot = .ok forkInfo)
    (hproof : ∀ duty ∈ duties, hasSigner p duty →
      ∃ proof, ownProof p forkInfo duty = some proof) :
    (∃ out, getDutiesWithSelectionProofs p orders duties = .ok out ∧
      Keeps p forkInfo duties out) ↔ ∀ duty ∈ duties, hasSigner p duty := by
  constructor
  · rintro ⟨out, hout, -⟩
    exact hasSigner_of_ok hout
  · exact keeps_of_hasSigner orders hnodup hfork hproof

/-- Two signers, each key with a signature of its own. -/
def signsByKey (M : Type) : Remote M where
  toHttp := Keymanager.twoSigners
  post _ _ identifier := .ok ⟨200, .ok (if identifier = "0xa" then "0x5a"
    else if identifier = "0xb" then "0x5b" else "0x5c")⟩

/-- Two keys of one signer and a key of another. -/
def threeKeys : Signing where
  toContext := mainnet id
  genesis := someGenesis
  remote := signsByKey _
  keymanager :=
    { Keymanager.State.init ∅ with
      pubkeyToRemoteSigner := .ofList [("0xa", Keymanager.someSigner),
        ("0xb", Keymanager.someSigner), ("0xc", ⟨1, "http://other:9000", "other"⟩)] }
  opens pubkey signer h := by
    have hmem := Dict.get_ofList h
    simp only [List.mem_cons, List.not_mem_nil, or_false, Prod.mk.injEq] at hmem
    rcases hmem with ⟨-, rfl⟩ | ⟨-, rfl⟩ | ⟨-, rfl⟩
    · exact Keymanager.opens_twoSigners (by decide)
    · exact Keymanager.opens_twoSigners (by decide)
    · exact Keymanager.opens_twoSigners (by decide)

def dutyOf (pubkey : Pubkey) : AttesterDuty := ⟨pubkey, "7", "3", 128, "4", "5", 33⟩

def threeDuties : List AttesterDuty :=
  [{ dutyOf "0xc" with slot := 34 }, dutyOf "0xa", { dutyOf "0xb" with slot := 63 }]

theorem keeps_signable_iff_threeKeys : ∃ out,
    getDutiesWithSelectionProofs threeKeys .inOrder threeDuties = .ok out ∧
      Keeps threeKeys fuluInfo threeDuties out := by
  have hproof : ∀ duty ∈ threeDuties, hasSigner threeKeys duty →
      ∃ proof, ownProof threeKeys fuluInfo duty = some proof := by
    intro duty hduty _
    simp only [threeDuties, List.mem_cons, List.not_mem_nil, or_false] at hduty
    rcases hduty with rfl | rfl | rfl
    · exact ⟨[0x5c], by decide +kernel⟩
    · exact ⟨[0x5a], by decide +kernel⟩
    · exact ⟨[0x5b], by decide +kernel⟩
  exact (keeps_signable_iff threeKeys .inOrder (by decide) (by decide +kernel) hproof).mpr
    (by decide +kernel)

/-- Only the key `0xa` has a signer. -/
def oneKey : Signing where
  toContext := mainnet id
  genesis := someGenesis
  remote := Keymanager.alwaysSigns _
  keymanager :=
    { Keymanager.State.init ∅ with
      pubkeyToRemoteSigner := .ofList [("0xa", Keymanager.someSigner)] }
  opens pubkey signer h := by
    have hmem := Dict.get_ofList h
    obtain ⟨-, rfl⟩ := Prod.mk.inj (List.mem_singleton.mp hmem)
    exact Keymanager.opens_someSigner

/-- The key `0xb` has no signer, and `0xa` gets no proof. -/
theorem keyless_takes_down : ∃ (p : Signing) (orders : Orders) (forkInfo : ForkInfo)
    (duties : List AttesterDuty), (duties.map fun d => d.pubkey).Nodup ∧
    (∀ duty ∈ duties.head?, p.genesis.getForkInfo duty.slot = .ok forkInfo) ∧
    (∀ duty ∈ duties, hasSigner p duty → ∃ proof, ownProof p forkInfo duty = some proof) ∧
    ¬ ∃ out, getDutiesWithSelectionProofs p orders duties = .ok out ∧
      Keeps p forkInfo duties out := by
  refine ⟨oneKey, .inOrder, fuluInfo, [dutyOf "0xa", dutyOf "0xb"], by decide,
    by decide +kernel, fun duty hduty hhas => ?_, ?_⟩
  · rcases List.mem_cons.mp hduty with rfl | hduty
    · exact ⟨[0x5a], by decide +kernel⟩
    · rw [List.mem_singleton.mp hduty] at hhas
      exact absurd hhas (by decide +kernel)
  · rintro ⟨out, hout, -⟩
    have hhas := hasSigner_of_ok hout (dutyOf "0xb") (by decide)
    exact absurd hhas (by decide +kernel)

end Vero.AttestationService
