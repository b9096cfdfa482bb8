import Mathlib.Data.Nat.Notation
import Vero.Lib.Batches
import Vero.Lib.Tasks
import Vero.RemoteSigners

/-!
`sign_in_batches`, of a signer and of the manager.

A signer gathers one request per message, or has another process gather them slice by slice
when there are more messages than one batch takes. The manager hands each signer the messages
of its keys, and leaves out those of keys without a signer.
-/

namespace Vero.Keymanager

open Lib Lib.Batches Lib.Runs Lib.Tasks

variable {M : Type}

/-! ### One signer -/

/-- The body may not decode. -/
structure Response where
  status : ℕ
  body : Except String String

/-- The signers as they are reached over the network: what a request to sign gets from the
URL, unless it raises. -/
structure Remote (M : Type) extends Http where
  post : String → M → String → Except String Response

/-- A message with its signature and identifier. -/
abbrev Signed (M : Type) := M × String × String

def RemoteSigner.sign (remote : Remote M) (signer : RemoteSigner) (message : M)
    (identifier : String) : Except String (Signed M) := do
  let resp ← remote.post signer.url message identifier
  let text ← resp.body
  if 400 ≤ resp.status then
    .error s!"NOK status code received ({resp.status}) from remote signer: {text}"
  else .ok (message, text, identifier)

/-- `zip` where it is strict about the lengths. -/
def zipStrict {α β : Type*} (l : List α) (l' : List β) : Except String (List (α × β)) :=
  if l.length < l'.length then .error "zip() argument 2 is longer than argument 1"
  else if l'.length < l.length then .error "zip() argument 2 is shorter than argument 1"
  else .ok (l.zip l')

/-- The loop over the offsets. Each slice is gathered in an order of its own. -/
def signSlices (remote : Remote M) (order : ℕ → Schedule) (signer : RemoteSigner)
    (messages : List M) (identifiers : List String) (batchSize : ℕ) :
    List ℕ → Except String (List (Signed M))
  | [] => .ok []
  | i :: is => do
    let pairs ← zipStrict (slice messages i batchSize) (slice identifiers i batchSize)
    let batch ← (order i).gather (pairs.map fun p => signer.sign remote p.1 p.2)
    let results ← signSlices remote order signer messages identifiers batchSize is
    return batch ++ results

/-- The other process has its own signer for the URL. -/
def signMessagesInSeparateProcess (remote : Remote M) (order : ℕ → Schedule)
    (remoteSignerUrl : String) (messages : List M) (identifiers : List String)
    (batchSize : ℕ) : Except String (List (Signed M)) := do
  let signer ← RemoteSigner.init remote.toHttp 0 remoteSignerUrl
  if batchSize = 0 then .error "range() arg 3 must not be zero"
  else
    signSlices remote order signer messages identifiers batchSize
      (offsets messages.length batchSize)

/-- Only a signer with a process pool signs in batches. -/
def RemoteSigner.signInBatches (remote : Remote M) (order : ℕ → Schedule)
    (signer : RemoteSigner) (processPoolExecutor : Bool) (messages : List M)
    (identifiers : List String) (batchSize : ℕ) : Except String (List (Signed M)) :=
  if !processPoolExecutor then .error "self.process_pool_executor is None"
  else if messages.length ≠ identifiers.length then
    .error "Number of messages does not match the number of identifiers"
  else if messages.length ≤ batchSize then
    (order 0).gather ((messages.zip identifiers).map fun p => signer.sign remote p.1 p.2)
  else
    signMessagesInSeparateProcess remote order signer.url messages identifiers batchSize

/-! ### The manager -/

/-- The messages and the identifiers of each signer. -/
def signerInput (mapping : Dict String RemoteSigner)
    (inputs : Dict RemoteSigner (List M × List String)) (p : M × String) :
    Dict RemoteSigner (List M × List String) :=
  match mapping.get p.2 with
  | none => inputs
  | some signer =>
    let input := inputs.getD signer ([], [])
    inputs.set signer (input.1 ++ [p.1], input.2 ++ [p.2])

def signerInputs (mapping : Dict String RemoteSigner) (pairs : List (M × String)) :
    Dict RemoteSigner (List M × List String) :=
  pairs.foldl (signerInput mapping) ∅

/-- The orders in which everything asked for at once completes. -/
structure Orders where
  signers : Schedule
  slices : RemoteSigner → ℕ → Schedule

/-- The manager gave each of its signers the process pool. -/
def State.signInBatches (remote : Remote M) (orders : Orders) (s : State) (messages : List M)
    (identifiers : List String) (batchSize : ℕ) : Except String (List (Signed M)) :=
  let tasks := (signerInputs s.pubkeyToRemoteSigner (messages.zip identifiers)).items.map
    fun it => it.1.signInBatches remote (orders.slices it.1) true it.2.1 it.2.2 batchSize
  (orders.signers.gather tasks).map List.flatten

/-! ### A signer signs everything, or raises -/

variable {remote : Remote M} {order : ℕ → Schedule} {signer : RemoteSigner}
variable {messages : List M} {identifiers : List String} {batchSize : ℕ}

/-- What is returned carries what was asked for. -/
lemma RemoteSigner.sign_eq {message : M} {identifier : String} {t : Signed M}
    (h : signer.sign remote message identifier = .ok t) :
    t.1 = message ∧ t.2.2 = identifier := by
  unfold sign at h
  cases hpost : remote.post signer.url message identifier with
  | error e => rw [hpost] at h; cases h
  | ok resp =>
    cases hbody : resp.body with
    | error e => simp [hpost, hbody, bind, Except.bind] at h
    | ok text =>
      simp only [hpost, hbody, bind, Except.bind] at h
      split at h
      · cases h
      · rw [← Except.ok.inj h]
        exact ⟨rfl, rfl⟩

/-- A signature depends on the URL alone. -/
lemma RemoteSigner.sign_congr {signer' : RemoteSigner} (h : signer.url = signer'.url)
    (message : M) (identifier : String) :
    signer.sign remote message identifier = signer'.sign remote message identifier := by
  unfold sign
  rw [h]

/-- One request per pair. -/
def RemoteSigner.requests (remote : Remote M) (signer : RemoteSigner)
    (pairs : List (M × String)) : List (Except String (Signed M)) :=
  pairs.map fun p => signer.sign remote p.1 p.2

lemma signSlices_allDone (remote : Remote M) (order : ℕ → Schedule) (signer : RemoteSigner)
    (batchSize : ℕ) (hlen : messages.length = identifiers.length) (is : List ℕ) :
    AllDone (signer.requests remote (is.flatMap fun i =>
        slice (messages.zip identifiers) i batchSize))
      (signSlices remote order signer messages identifiers batchSize is) := by
  induction is with
  | nil => exact allDone_nil
  | cons i is ih =>
    have hzip : zipStrict (slice messages i batchSize) (slice identifiers i batchSize) =
        .ok (slice (messages.zip identifiers) i batchSize) := by
      have hslices : (slice messages i batchSize).length =
          (slice identifiers i batchSize).length := by
        rw [length_slice, length_slice, hlen]
      rw [zipStrict, if_neg (by omega), if_neg (by omega), zip_slice]
    have hbatch := (order i).allDone_gather
      (signer.requests remote (slice (messages.zip identifiers) i batchSize))
    have hall := hbatch.append ih
    unfold RemoteSigner.requests at hall ⊢
    rw [List.flatMap_cons, List.map_append]
    have hloop : signSlices remote order signer messages identifiers batchSize (i :: is) =
        ((order i).gather ((slice (messages.zip identifiers) i batchSize).map fun p =>
          signer.sign remote p.1 p.2)).bind fun xs =>
        (signSlices remote order signer messages identifiers batchSize is).map fun ys =>
          xs ++ ys := by
      rw [signSlices, hzip]
      rfl
    rw [hloop]
    exact hall

lemma signMessagesInSeparateProcess_allDone (hopens : Opens remote.toHttp signer.url)
    (hlen : messages.length = identifiers.length) (hbatch : 1 ≤ batchSize) :
    AllDone (signer.requests remote (messages.zip identifiers))
      (signMessagesInSeparateProcess remote order signer.url messages identifiers
        batchSize) := by
  obtain ⟨signer', hinit⟩ := RemoteSigner.exists_init hopens 0
  have hurl : signer'.url = signer.url := (RemoteSigner.init_ok_iff.mp hinit).2.2.1
  have hpairs : (messages.zip identifiers).length = messages.length := by
    rw [List.length_zip]
    omega
  have hcover := flatMap_offsets (messages.zip identifiers) hbatch
  rw [hpairs] at hcover
  have hall := signSlices_allDone remote order signer' batchSize hlen
    (offsets messages.length batchSize)
  rw [hcover] at hall
  have hrequests : signer'.requests remote (messages.zip identifiers) =
      signer.requests remote (messages.zip identifiers) :=
    List.map_congr_left fun p _ => RemoteSigner.sign_congr hurl p.1 p.2
  rw [hrequests] at hall
  unfold signMessagesInSeparateProcess
  rw [hinit]
  simp only [bind, Except.bind]
  rw [if_neg (by omega)]
  exact hall

lemma RemoteSigner.signInBatches_allDone (hopens : Opens remote.toHttp signer.url)
    (hlen : messages.length = identifiers.length) (hbatch : 1 ≤ batchSize) :
    AllDone (signer.requests remote (messages.zip identifiers))
      (signer.signInBatches remote order true messages identifiers batchSize) := by
  unfold signInBatches
  rw [if_neg (by simp), if_neg (by simpa using hlen)]
  split
  · exact (order 0).allDone_gather _
  · exact signMessagesInSeparateProcess_allDone hopens hlen hbatch

/-! ### The manager hands every message to its signer -/

variable {mapping : Dict String RemoteSigner} {pairs : List (M × String)}
  {inputs : Dict RemoteSigner (List M × List String)}

/-- The signer of a pair. -/
def signable (mapping : Dict String RemoteSigner) (p : M × String) :
    Option (RemoteSigner × (M × String)) :=
  (mapping.get p.2).map (·, p)

/-- The pairs handed to a signer. -/
def handed (it : RemoteSigner × (List M × List String)) : List (RemoteSigner × (M × String)) :=
  (it.2.1.zip it.2.2).map (it.1, ·)

/-- What the loop has handed to the signers. -/
structure Grouped (mapping : Dict String RemoteSigner) (pairs : List (M × String))
    (inputs : Dict RemoteSigner (List M × List String)) : Prop where
  aligned : ∀ signer input, inputs.get signer = some input → input.1.length = input.2.length
  mapped : ∀ signer input, inputs.get signer = some input →
    ∃ pubkey, mapping.get pubkey = some signer
  perm : (inputs.items.flatMap handed).Perm (pairs.filterMap (signable mapping))

lemma grouped_empty : Grouped mapping ([] : List (M × String)) ∅ :=
  ⟨by simp, by simp, .refl _⟩

/-- **One pair**, which goes to its signer or is left out. -/
lemma Grouped.snoc (h : Grouped mapping pairs inputs) (p : M × String) :
    Grouped mapping (pairs ++ [p]) (signerInput mapping inputs p) := by
  unfold signerInput
  cases hsigner : mapping.get p.2 with
  | none =>
    refine ⟨h.aligned, h.mapped, ?_⟩
    have hskip : signable mapping p = none := by rw [signable, hsigner]; rfl
    rw [List.filterMap_append, List.filterMap_cons_none hskip, List.filterMap_nil,
      List.append_nil]
    exact h.perm
  | some signer =>
    have hlen : (inputs.getD signer ([], [])).1.length =
        (inputs.getD signer ([], [])).2.length := by
      unfold Dict.getD
      cases hget : inputs.get signer with
      | none => rfl
      | some input => exact h.aligned signer input hget
    constructor
    · refine Dict.forall_set.mpr ⟨?_, fun k input _ hk => h.aligned k input hk⟩
      rw [List.length_append, List.length_append, hlen]
      rfl
    · exact Dict.forall_set.mpr ⟨⟨p.2, hsigner⟩, fun k input _ hk => h.mapped k input hk⟩
    · have hsign : signable mapping p = some (signer, p) := by rw [signable, hsigner]; rfl
      rw [List.filterMap_append, List.filterMap_cons_some hsign, List.filterMap_nil]
      refine (Dict.flatMap_set_perm (w := ([], [])) (x := (signer, p)) rfl ?_).trans
        (h.perm.append_right _)
      unfold handed
      rw [List.zip_append hlen, List.map_append]
      rfl

/-- **The loop.** -/
lemma Grouped.foldl (h : Grouped mapping pairs inputs) (pairs' : List (M × String)) :
    Grouped mapping (pairs ++ pairs') (pairs'.foldl (signerInput mapping) inputs) := by
  induction pairs' generalizing pairs inputs with
  | nil => simpa using h
  | cons p pairs' ih =>
    have hnext := ih (h.snoc p)
    rwa [List.append_assoc, List.singleton_append] at hnext

lemma grouped_signerInputs (mapping : Dict String RemoteSigner) (pairs : List (M × String)) :
    Grouped mapping pairs (signerInputs mapping pairs) := by
  have h := (grouped_empty : Grouped mapping ([] : List (M × String)) ∅).foldl pairs
  rwa [List.nil_append] at h

/-- One request per pair, to the signer of the pair. -/
def requestAll (remote : Remote M) (mapping : Dict String RemoteSigner)
    (pairs : List (M × String)) : List (Except String (Signed M)) :=
  (pairs.filterMap (signable mapping)).map fun q => q.1.sign remote q.2.1 q.2.2

variable {s : State}

/-- The manager makes the requests in the order of the signers. -/
lemma State.signInBatches_allDone (messages : List M) (identifiers : List String)
    (orders : Orders)
    (hopens : ∀ pubkey signer, s.pubkeyToRemoteSigner.get pubkey = some signer →
      Opens remote.toHttp signer.url) (hbatch : 1 ≤ batchSize) :
    ∃ tasks, tasks.Perm (requestAll remote s.pubkeyToRemoteSigner (messages.zip identifiers)) ∧
      AllDone tasks (s.signInBatches remote orders messages identifiers batchSize) := by
  have hgroup := grouped_signerInputs s.pubkeyToRemoteSigner (messages.zip identifiers)
  let items := (signerInputs s.pubkeyToRemoteSigner (messages.zip identifiers)).items
  refine ⟨items.flatMap fun it => it.1.requests remote (it.2.1.zip it.2.2), ?_, ?_⟩
  · have hmap : (items.flatMap fun it => it.1.requests remote (it.2.1.zip it.2.2)) =
        (items.flatMap handed).map fun q => q.1.sign remote q.2.1 q.2.2 := by
      rw [List.map_flatMap]
      refine List.flatMap_congr fun it _ => ?_
      rw [handed, List.map_map]
      rfl
    rw [hmap]
    exact hgroup.perm.map _
  · unfold signInBatches
    refine (orders.signers.allDone_gather _).flatten fun it hit => ?_
    have hget := Dict.mem_items_iff.mp hit
    obtain ⟨pubkey, hpubkey⟩ := hgroup.mapped _ _ hget
    exact RemoteSigner.signInBatches_allDone (hopens pubkey _ hpubkey)
      (hgroup.aligned _ _ hget) hbatch

lemma requests_carry {out : List (Signed M)}
    (h : signer.requests remote pairs = out.map .ok) :
    out.map (fun t => (t.1, t.2.2)) = pairs := by
  refine map_of_values h fun p t ht => ?_
  obtain ⟨hmessage, hidentifier⟩ := RemoteSigner.sign_eq ht
  rw [hmessage, hidentifier]

/-- **Signing in batches is signing one by one.** In both of its branches a signer returns
what it signs for each pair, in the order of the pairs, or else raises what one of them
raises. The manager returns, in some order, what the signer of each pair signs for it, and
nothing for a pair without a signer; it raises if and only if one of these signers does. -/
theorem signInBatches_one_by_one (remote : Remote M)
    (hlen : messages.length = identifiers.length) (hbatch : 1 ≤ batchSize) :
    (∀ (signer : RemoteSigner) (order : ℕ → Schedule), Opens remote.toHttp signer.url →
      AllDone (signer.requests remote (messages.zip identifiers))
        ((order 0).gather (signer.requests remote (messages.zip identifiers))) ∧
      AllDone (signer.requests remote (messages.zip identifiers))
        (signMessagesInSeparateProcess remote order signer.url messages identifiers
          batchSize) ∧
      AllDone (signer.requests remote (messages.zip identifiers))
        (signer.signInBatches remote order true messages identifiers batchSize) ∧
      ∀ out : List (Signed M), signer.requests remote (messages.zip identifiers) =
        out.map .ok → out.map (fun t => (t.1, t.2.2)) = messages.zip identifiers) ∧
    ∀ (s : State) (orders : Orders),
      (∀ pubkey signer, s.pubkeyToRemoteSigner.get pubkey = some signer →
        Opens remote.toHttp signer.url) →
      (∀ out, s.signInBatches remote orders messages identifiers batchSize = .ok out →
        ∃ out', requestAll remote s.pubkeyToRemoteSigner (messages.zip identifiers) =
          out'.map .ok ∧ out.Perm out') ∧
      ((∃ e, s.signInBatches remote orders messages identifiers batchSize = .error e) ↔
        ∃ e, .error e ∈
          requestAll remote s.pubkeyToRemoteSigner (messages.zip identifiers)) := by
  constructor
  · intro signer order hopens
    exact ⟨(order 0).allDone_gather _,
      signMessagesInSeparateProcess_allDone hopens hlen hbatch,
      RemoteSigner.signInBatches_allDone hopens hlen hbatch, fun out => requests_carry⟩
  · intro s orders hopens
    obtain ⟨tasks, hperm, hdone⟩ :=
      State.signInBatches_allDone messages identifiers orders hopens hbatch
    refine ⟨fun out hout => hdone.perm hperm hout, hdone.raises_iff.trans ?_⟩
    exact exists_congr fun e => hperm.mem_iff

/-- Every request is signed with one text. -/
def alwaysSigns (M : Type) : Remote M where
  toHttp := oneSigner
  post _ _ _ := .ok ⟨200, .ok "0x5a"⟩

def someSigner : RemoteSigner := ⟨0, "http://signer:9000", "signer"⟩

def Orders.inOrder : Orders := ⟨.inOrder, fun _ _ => .inOrder⟩

lemma opens_someSigner : Opens oneSigner someSigner.url := ⟨"signer", rfl, by decide, rfl⟩

/-- Three messages in two slices. -/
theorem signInBatches_one_by_one_three :
    someSigner.signInBatches (alwaysSigns String) (fun _ => .inOrder) true
      ["a", "b", "c"] ["0x1", "0x2", "0x1"] 2 =
        .ok [("a", "0x5a", "0x1"), ("b", "0x5a", "0x2"), ("c", "0x5a", "0x1")] := by
  have hone := (@signInBatches_one_by_one String ["a", "b", "c"] ["0x1", "0x2", "0x1"] 2
    (alwaysSigns String) rfl (by decide)).1
  exact ((hone someSigner (fun _ => .inOrder) opens_someSigner).2.2.1.ok_iff _).mpr rfl

end Vero.Keymanager
