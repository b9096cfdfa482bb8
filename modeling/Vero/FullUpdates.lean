import Vero.OptimisticResponses
import Vero.ValidatorStatuses

/-!
A full update of the validator statuses against the chain.

Each request leaves out the keys found so far. A beacon node answers a request without ids with
all validators of the chain, which is why none is made once no key is left.
-/

namespace Vero.ValidatorStatuses

open BeaconNode (Client Scored Answer ValidatorInfo makeRequest getValidators
  toValidatorIndexPubkey)
open Lib.Runs SchemaBeaconAPI SchemaValidator

/-- What the chain knows of each public key. -/
structure ChainState where
  validators : List ValidatorIndexPubkey
  nodup : (validators.map fun v => v.pubkey).Nodup

namespace ChainState

variable (chain : ChainState)

/-- What a beacon node answers a request with: of no ids, everything. -/
def requested (ids : List Pubkey) (statuses : List ValidatorStatus) : List ValidatorIndexPubkey :=
  chain.validators.filter fun v => (ids = [] ∨ v.pubkey ∈ ids) ∧ v.status ∈ statuses

/-- The validators of some keys that have one of the statuses. -/
def among (keys : Finset Pubkey) (statuses : List ValidatorStatus) : List ValidatorIndexPubkey :=
  chain.validators.filter fun v => v.pubkey ∈ keys ∧ v.status ∈ statuses

/-- The node tells of the validator, with its index as a text. -/
structure Tells (c : Client) (info : ValidatorInfo) (v : ValidatorIndexPubkey) : Prop where
  index : c.int info.index = some v.index
  status : info.status = v.status
  pubkey : info.pubkey = v.pubkey

/-- A request is answered from the chain. -/
def Responds (c : Client) (ids : List Pubkey) (statuses : List ValidatorStatus) (bn : Scored)
    (answer : Answer) : Prop :=
  ∃ text response listed, (makeRequest bn answer).2 = .ok text ∧
    c.getStateValidatorsResponse text = .ok response ∧
    List.Forall₂ (Tells c) response.data listed ∧ listed.Perm (chain.requested ids statuses)

variable {chain} {c : Client} {bn : Scored} {answer : Answer} {ids : List Pubkey}
variable {statuses : List ValidatorStatus} {vs : List ValidatorIndexPubkey}
variable {keys found : Finset Pubkey} {v w : ValidatorIndexPubkey}

lemma mem_among : v ∈ chain.among keys statuses ↔
    v ∈ chain.validators ∧ v.pubkey ∈ keys ∧ v.status ∈ statuses := by
  unfold among
  rw [List.mem_filter, decide_eq_true_iff]

lemma eq_of_pubkey (hv : v ∈ chain.validators) (hw : w ∈ chain.validators)
    (h : v.pubkey = w.pubkey) : v = w :=
  List.inj_on_of_nodup_map chain.nodup hv hw h

/-- Leaving out keys of validators that have none of the statuses leaves out nothing. -/
lemma among_sdiff (h : ∀ k ∈ found, ∃ w ∈ chain.validators, w.pubkey = k ∧ w.status ∉ statuses) :
    chain.among (keys \ found) statuses = chain.among keys statuses := by
  refine List.filter_congr fun v hv => ?_
  rw [decide_eq_decide, Finset.mem_sdiff, and_assoc]
  refine and_congr_right fun _ => and_iff_right_of_imp fun hstatus hfound => ?_
  obtain ⟨w, hw, hpubkey, hnot⟩ := h _ hfound
  obtain rfl := eq_of_pubkey hw hv hpubkey
  exact hnot hstatus

lemma mapM_of_tells {data : List ValidatorInfo} (h : List.Forall₂ (Tells c) data vs) :
    data.mapM (toValidatorIndexPubkey c) = .ok vs := by
  induction h with
  | nil => rfl
  | cons hfirst _ ih =>
    obtain ⟨hindex, hstatus, hpubkey⟩ := hfirst
    rw [List.mapM_cons, ih]
    unfold toValidatorIndexPubkey
    rw [hindex, hstatus, hpubkey]
    rfl

/-- Whatever is asked for, no validator comes back that was not. -/
lemma getValidators_perm (hresponds : chain.Responds c ids statuses bn answer)
    (h : getValidators c ids bn answer = .ok vs) :
    vs.Perm (chain.among ids.toFinset statuses) := by
  unfold getValidators at h
  split_ifs at h with hids
  · rw [← Except.ok.inj h, hids]
    refine .of_eq (Eq.symm (List.filter_eq_nil_iff.mpr fun v _ => ?_))
    simp
  · obtain ⟨text, response, listed, htext, hresponse, htells, hlisted⟩ := hresponds
    rw [htext] at h
    have hcall : (.ok listed : Except BeaconNode.Error _) = .ok vs := by
      rw [← h, ← mapM_of_tells htells]
      simp [hresponse, Except.mapError, bind, Except.bind]
    rw [← Except.ok.inj hcall]
    refine hlisted.trans (.of_eq ?_)
    refine List.filter_congr fun v _ => ?_
    simp [hids]

end ChainState

/-! ### The four lists -/

inductive Kind
  | active
  | pending
  | exited
  | withdrawal
  deriving DecidableEq

def Kind.statuses : Kind → List ValidatorStatus
  | active => activeStatuses
  | pending => pendingStatuses
  | exited => exitedStatuses
  | withdrawal => withdrawalStatuses

def State.list (s : State) : Kind → List ValidatorIndexPubkey
  | .active => s.activeValidators
  | .pending => s.pendingValidators
  | .exited => s.exitedValidators
  | .withdrawal => s.withdrawalValidators

lemma Kind.exists_statuses (status : ValidatorStatus) : ∃ kind : Kind, status ∈ kind.statuses := by
  cases status with
  | pendingInitialized | pendingQueued => exact ⟨.pending, by decide⟩
  | activeOngoing | activeExiting | activeSlashed => exact ⟨.active, by decide⟩
  | exitedUnslashed | exitedSlashed => exact ⟨.exited, by decide⟩
  | withdrawalPossible | withdrawalDone => exact ⟨.withdrawal, by decide⟩

/-- A status is of one kind only. -/
lemma Kind.eq_of_mem {status : ValidatorStatus} {kind kind' : Kind} (h : status ∈ kind.statuses)
    (h' : status ∈ kind'.statuses) : kind = kind' := by
  have hapart : kind ≠ kind' → ∀ x ∈ kind.statuses, x ∉ kind'.statuses := by
    cases kind <;> cases kind' <;> decide
  by_contra hne
  exact hapart hne status h h'

variable {chain : ChainState} {managed : Finset Pubkey} {int : String → Option ℤ}
variable {s s' s₀ s₁ : State} {a : Action} {as : List Action} {o os o₁ : List Output}
variable {kind kind' : Kind} {vs : List ValidatorIndexPubkey}

/-- The list holds the managed validators of its kind. -/
def Listed (chain : ChainState) (managed : Finset Pubkey) (s : State) (kind : Kind) : Prop :=
  (s.list kind).Perm (chain.among managed kind.statuses)

/-- A managed validator that is slashed has been noticed. -/
def Flagged (chain : ChainState) (managed : Finset Pubkey) (s : State) : Prop :=
  (∃ v ∈ chain.validators, v.pubkey ∈ managed ∧ v.status ∈ slashedStatuses) →
    s.slashingDetected = true

/-- How far an update has come. -/
def Progress (chain : ChainState) (managed : Finset Pubkey) (s : State) : Phase → Prop
  | .publicKeys => True
  | .slashed ids => ids = managed
  | .active ids => ids = managed ∧ Flagged chain managed s
  | .pending ids active => ids = managed ∧ Flagged chain managed s ∧
    Listed chain managed s .active ∧ active = pubkeys s.activeValidators
  | .exited ids active pending => ids = managed ∧ Flagged chain managed s ∧
    (Listed chain managed s .active ∧ active = pubkeys s.activeValidators) ∧
    Listed chain managed s .pending ∧ pending = pubkeys s.pendingValidators
  | .withdrawal ids active pending exited => ids = managed ∧ Flagged chain managed s ∧
    (Listed chain managed s .active ∧ active = pubkeys s.activeValidators) ∧
    (Listed chain managed s .pending ∧ pending = pubkeys s.pendingValidators) ∧
    Listed chain managed s .exited ∧ exited = pubkeys s.exitedValidators

/-- A full update is under way, or it has returned. -/
structure Updating (chain : ChainState) (managed : Finset Pubkey) (s : State) : Prop where
  progress : ∀ u ∈ s.update, u.minimalUpdate = false ∧ Progress chain managed s u.phase
  returned : s.update = none → Flagged chain managed s ∧ ∀ kind, Listed chain managed s kind

lemma Updating.of_update {chain : ChainState} {managed : Finset Pubkey} {s : State} {u : Update}
    (hu : s.update = some u) (hfull : u.minimalUpdate = false)
    (hprogress : Progress chain managed s u.phase) : Updating chain managed s where
  progress u' hu' := by
    obtain rfl := Option.some.inj (hu.symm.trans hu')
    exact ⟨hfull, hprogress⟩
  returned hnone := by
    rw [hu] at hnone
    cases hnone

lemma Updating.of_returned {chain : ChainState} {managed : Finset Pubkey} {s : State}
    (hnone : s.update = none) (hflagged : Flagged chain managed s)
    (hlisted : ∀ kind, Listed chain managed s kind) : Updating chain managed s where
  progress u hu := by
    rw [hnone] at hu
    cases hu
  returned _ := ⟨hflagged, hlisted⟩

/-- The keys are those that are managed, and every request is answered from the chain. Slashing
events may come in between. -/
def Served (c : Client) (chain : ChainState) (managed : Finset Pubkey) :
    Guard State Action Output := fun s _ a =>
  match a with
  | .attesterSlashing _ | .proposerSlashing _ => True
  | .updateValidatorStatuses _ | .failed => False
  | .publicKeys keys => keys.toFinset = managed
  | .validators vs => ∀ u ∈ s.update, ∀ r ∈ u.phase.request, ∃ ids bn answer,
      ids.toFinset = r.1 ∧ chain.Responds c ids r.2 bn answer ∧
      getValidators c ids bn answer = .ok vs

/-- Keys of one kind have no status of another. -/
lemma Listed.among_sdiff (h : Listed chain managed s kind) (hne : kind ≠ kind')
    (keys : Finset Pubkey) : chain.among (keys \ pubkeys (s.list kind)) kind'.statuses =
      chain.among keys kind'.statuses := by
  refine ChainState.among_sdiff fun k hk => ?_
  obtain ⟨w, hw, rfl⟩ := mem_pubkeys.mp hk
  obtain ⟨hchain, -, hstatus⟩ := ChainState.mem_among.mp (h.mem_iff.mp hw)
  exact ⟨w, hchain, rfl, fun hstatus' => hne (Kind.eq_of_mem hstatus hstatus')⟩

lemma slashingDetected_of_step (h : step int s a = some (s', o))
    (hdetected : s.slashingDetected = true) : s'.slashingDetected = true := by
  have htracker : s.tracker.slashingDetected = true := hdetected
  rcases tracker_step h with heq | ⟨b, heq⟩
  · exact (congrArg (·.slashingDetected) heq).trans htracker
  · exact (congrArg (·.slashingDetected) heq).trans
      (ValidatorStatusTrackerService.slashingDetected_step b htracker)

/-- A step that only may detect a slashing takes nothing back. -/
lemma Updating.detect (h : Updating chain managed s) {flag : Bool}
    (hflag : s.slashingDetected = true → flag = true) :
    Updating chain managed { s with slashingDetected := flag } := by
  have hflagged : Flagged chain managed s →
      Flagged chain managed { s with slashingDetected := flag } := fun hf hv => hflag (hf hv)
  refine ⟨fun u hu => ?_, fun hnone => ?_⟩
  · obtain ⟨hfull, hprogress⟩ := h.progress u hu
    refine ⟨hfull, ?_⟩
    cases hphase : u.phase with
    | publicKeys => trivial
    | slashed ids => rw [hphase] at hprogress; exact hprogress
    | active ids => rw [hphase] at hprogress; exact ⟨hprogress.1, hflagged hprogress.2⟩
    | pending ids active =>
      rw [hphase] at hprogress
      exact ⟨hprogress.1, hflagged hprogress.2.1, hprogress.2.2⟩
    | exited ids active pending =>
      rw [hphase] at hprogress
      exact ⟨hprogress.1, hflagged hprogress.2.1, hprogress.2.2⟩
    | withdrawal ids active pending exited =>
      rw [hphase] at hprogress
      exact ⟨hprogress.1, hflagged hprogress.2.1, hprogress.2.2⟩
  · obtain ⟨hf, hlisted⟩ := h.returned hnone
    refine ⟨hflagged hf, fun kind => ?_⟩
    have hlist : ({ s with slashingDetected := flag } : State).list kind = s.list kind := by
      cases kind <;> rfl
    unfold Listed
    rw [hlist]
    exact hlisted kind

/-- **One step.** Each answer overwrites its list with the managed validators of its kind. -/
lemma updating_step {c : Client} (h : Updating chain managed s)
    (hserved : Served c chain managed s os a) (hs : step int s a = some (s', o)) :
    Updating chain managed s' := by
  have hkept := slashingDetected_of_step hs
  cases a with
  | attesterSlashing event =>
    obtain ⟨rfl, -⟩ := Prod.mk.inj (Option.some.inj hs)
    exact h.detect hkept
  | proposerSlashing event =>
    obtain ⟨rfl, -⟩ := Prod.mk.inj (Option.some.inj hs)
    exact h.detect hkept
  | updateValidatorStatuses minimalUpdate => exact absurd hserved id
  | failed => exact absurd hserved id
  | publicKeys keys =>
    obtain ⟨⟨minimal, phase⟩, hu, he⟩ := Option.bind_eq_some_iff.mp hs
    obtain ⟨hfull, -⟩ := h.progress _ hu
    cases phase with
    | publicKeys =>
      obtain ⟨rfl, -⟩ := Prod.ext_iff.mp (Option.some.inj he)
      exact .of_update rfl hfull hserved
    | _ => cases he
  | validators vs =>
    obtain ⟨⟨minimal, phase⟩, hu, he⟩ := Option.bind_eq_some_iff.mp hs
    obtain ⟨hfull, hprogress⟩ := h.progress _ hu
    obtain rfl : minimal = false := hfull
    -- what comes back is what was asked for
    have hanswer : ∀ r ∈ phase.request, vs.Perm (chain.among r.1 r.2) := by
      intro r hr
      obtain ⟨ids, bn, answer, hids, hresponds, hget⟩ := hserved _ hu r hr
      exact hids ▸ ChainState.getValidators_perm hresponds hget
    cases phase with
    | publicKeys => cases he
    | slashed ids =>
      obtain rfl : ids = managed := hprogress
      have hslashed : vs.Perm (chain.among ids slashedStatuses) := hanswer _ rfl
      obtain ⟨rfl, -⟩ := Prod.ext_iff.mp (Option.some.inj he)
      refine .of_update rfl rfl ⟨rfl, ?_⟩
      rintro ⟨v, hv, hmanaged, hstatus⟩
      have hmem : v ∈ vs := hslashed.mem_iff.mpr (ChainState.mem_among.mpr ⟨hv, hmanaged, hstatus⟩)
      have hne : vs ≠ [] := List.ne_nil_of_mem hmem
      simp [State.await, hne]
    | active ids =>
      obtain ⟨rfl, hflagged⟩ := hprogress
      have hlisted : vs.Perm (chain.among ids activeStatuses) := hanswer _ rfl
      obtain ⟨rfl, -⟩ := Prod.ext_iff.mp (Option.some.inj he)
      exact .of_update rfl rfl ⟨rfl, hflagged, hlisted, rfl⟩
    | pending ids active =>
      obtain ⟨rfl, hflagged, hactive, rfl⟩ := hprogress
      have hleft : chain.among (ids \ pubkeys s.activeValidators) pendingStatuses =
          chain.among ids pendingStatuses :=
        hactive.among_sdiff (show Kind.active ≠ .pending by decide) ids
      have hlisted : vs.Perm (chain.among ids pendingStatuses) := hleft ▸ hanswer _ rfl
      obtain ⟨rfl, -⟩ := Prod.ext_iff.mp (Option.some.inj he)
      exact .of_update rfl rfl ⟨rfl, hflagged, ⟨hactive, rfl⟩, hlisted, rfl⟩
    | exited ids active pending =>
      obtain ⟨rfl, hflagged, ⟨hactive, rfl⟩, hpending, rfl⟩ := hprogress
      have hleft : chain.among ((ids \ pubkeys s.activeValidators) \ pubkeys s.pendingValidators)
          exitedStatuses = chain.among ids exitedStatuses :=
        (hpending.among_sdiff (show Kind.pending ≠ .exited by decide) _).trans
          (hactive.among_sdiff (show Kind.active ≠ .exited by decide) ids)
      have hlisted : vs.Perm (chain.among ids exitedStatuses) := hleft ▸ hanswer _ rfl
      obtain ⟨rfl, -⟩ := Prod.ext_iff.mp (Option.some.inj he)
      exact .of_update rfl rfl ⟨rfl, hflagged, ⟨hactive, rfl⟩, ⟨hpending, rfl⟩, hlisted, rfl⟩
    | withdrawal ids active pending exited =>
      obtain ⟨rfl, hflagged, ⟨hactive, rfl⟩, ⟨hpending, rfl⟩, hexited, rfl⟩ := hprogress
      have hleft : chain.among (((ids \ pubkeys s.activeValidators) \
          pubkeys s.pendingValidators) \ pubkeys s.exitedValidators) withdrawalStatuses =
            chain.among ids withdrawalStatuses :=
        (hexited.among_sdiff (show Kind.exited ≠ .withdrawal by decide) _).trans
          ((hpending.among_sdiff (show Kind.pending ≠ .withdrawal by decide) _).trans
            (hactive.among_sdiff (show Kind.active ≠ .withdrawal by decide) ids))
      have hlisted : vs.Perm (chain.among ids withdrawalStatuses) := hleft ▸ hanswer _ rfl
      obtain ⟨rfl, -⟩ := Prod.mk.inj (Option.some.inj he)
      refine .of_returned rfl hflagged fun kind => ?_
      cases kind with
      | active => exact hactive
      | pending => exact hpending
      | exited => exact hexited
      | withdrawal => exact hlisted

/-- What a full update comes to. -/
structure Classified (chain : ChainState) (managed : Finset Pubkey) (s₀ s : State) : Prop where
  list : ∀ v ∈ chain.validators, v.pubkey ∈ managed →
    ∀ kind, v ∈ s.list kind ↔ v.status ∈ kind.statuses
  one : ∀ v ∈ chain.validators, v.pubkey ∈ managed → ∃! kind, v.pubkey ∈ pubkeys (s.list kind)
  once : ∀ kind, ((s.list kind).map fun v => v.pubkey).Nodup
  others : ∀ kind, ∀ v ∈ s.list kind, v ∈ chain.validators ∧ v.pubkey ∈ managed
  slashed : (s₀.slashingDetected = true ∨
      ∃ v ∈ chain.validators, v.pubkey ∈ managed ∧ v.status ∈ slashedStatuses) →
    s.slashingDetected = true

/-- **A full update classifies every managed validator.** Once an update that was not minimal has
returned, with the managed keys and all answers from one state of the chain, each managed
validator that the chain knows is in the one list its status belongs to, no list has any other
validator, and a slashing is detected if it was before or some managed validator is slashed. -/
theorem classified_of_returned {c : Client}
    (hstart : step int s₀ (.updateValidatorStatuses false) = some (s₁, o₁))
    (r : RunIf (step int) (Served c chain managed) s₁ as s os) (hreturned : s.update = none) :
    Classified chain managed s₀ s := by
  have hbegun : s₁ = { s₀ with update := some ⟨false, .publicKeys⟩ } := by
    simp only [step] at hstart
    split_ifs at hstart
    exact (Prod.mk.inj (Option.some.inj hstart)).1.symm
  have hupdating : Updating chain managed s₁ := by
    subst hbegun
    exact .of_update rfl rfl trivial
  have hinvariant : Updating chain managed s ∧
      (s₀.slashingDetected = true → s.slashingDetected = true) := by
    refine r.invariant (I := fun s _ => Updating chain managed s ∧
      (s₀.slashingDetected = true → s.slashingDetected = true)) ⟨hupdating, ?_⟩ ?_
    · subst hbegun
      exact id
    · rintro s os a s' o ⟨hup, hflag⟩ hserved hs
      exact ⟨updating_step hup hserved hs, fun h => slashingDetected_of_step hs (hflag h)⟩
  obtain ⟨hup, hflag⟩ := hinvariant
  obtain ⟨hflagged, hlisted⟩ := hup.returned hreturned
  have hmem : ∀ kind v, v ∈ s.list kind ↔
      v ∈ chain.validators ∧ v.pubkey ∈ managed ∧ v.status ∈ kind.statuses := fun kind v =>
    (hlisted kind).mem_iff.trans ChainState.mem_among
  refine ⟨fun v hv hmanaged kind => ?_, fun v hv hmanaged => ?_, fun kind => ?_,
    fun kind v hv => ?_, fun h => h.elim hflag hflagged⟩
  · rw [hmem]
    exact ⟨fun h => h.2.2, fun h => ⟨hv, hmanaged, h⟩⟩
  · obtain ⟨kind, hkind⟩ := Kind.exists_statuses v.status
    refine ⟨kind, mem_pubkeys.mpr ⟨v, (hmem kind v).mpr ⟨hv, hmanaged, hkind⟩, rfl⟩, ?_⟩
    intro kind' hkind'
    obtain ⟨w, hw, hpubkey⟩ := mem_pubkeys.mp hkind'
    obtain ⟨hchain, -, hstatus⟩ := (hmem kind' w).mp hw
    obtain rfl := ChainState.eq_of_pubkey hchain hv hpubkey
    exact Kind.eq_of_mem hstatus hkind
  · have hperm := (hlisted kind).map fun v => v.pubkey
    rw [hperm.nodup_iff]
    exact chain.nodup.sublist (List.filter_sublist.map _)
  · exact ⟨((hmem kind v).mp hv).1, ((hmem kind v).mp hv).2.1⟩

/-! ### Two managed validators among three -/

def responding (text : String) : Answer :=
  .ok ⟨200, "http://a/eth/v1/beacon/states/head/validators", some "application/json", .ok text⟩

lemma served_of_text {c : Client} {u : Update} (ids : List Pubkey)
    {statuses : List ValidatorStatus} (text : String) {data : List ValidatorInfo}
    {listed : List ValidatorIndexPubkey} (hu : s.update = some u)
    (hrequest : u.phase.request = some (ids.toFinset, statuses))
    (hdecode : c.getStateValidatorsResponse text = .ok ⟨false, data⟩)
    (htells : List.Forall₂ (ChainState.Tells c) data listed)
    (hlisted : listed = chain.requested ids statuses) :
    Served c chain managed s os (.validators (if ids = [] then [] else listed)) := by
  intro u' hu' r hr
  obtain rfl := Option.some.inj (hu.symm.trans hu')
  obtain rfl := Option.some.inj (hrequest.symm.trans hr)
  have htext : (makeRequest MultiBeaconNode.node (responding text)).2 = .ok text := rfl
  refine ⟨ids, MultiBeaconNode.node, responding text, rfl,
    ⟨text, _, listed, htext, hdecode, htells, .of_eq hlisted⟩, ?_⟩
  unfold getValidators
  split_ifs
  · rfl
  · rw [htext]
    simp [hdecode, ChainState.mapM_of_tells htells, Except.mapError, bind, Except.bind]

def slashedValidator : ValidatorIndexPubkey := ⟨⟨7, "0xa"⟩, .activeSlashed⟩

def exitedValidator : ValidatorIndexPubkey := ⟨⟨8, "0xb"⟩, .exitedUnslashed⟩

/-- The validator of somebody else. -/
def foreignValidator : ValidatorIndexPubkey := ⟨⟨9, "0xf"⟩, .withdrawalDone⟩

def threeValidators : ChainState where
  validators := [slashedValidator, exitedValidator, foreignValidator]
  nodup := by decide

def responseText (data : String) : String :=
  "\x7b\"execution_optimistic\":false,\"data\":[" ++ data ++ "]\x7d"

def slashedText : String := responseText ("\x7b\"index\":\"7\"," ++
  "\"status\":\"active_slashed\",\"validator\":\x7b\"pubkey\":\"0xa\"\x7d\x7d")

def exitedText : String := responseText ("\x7b\"index\":\"8\"," ++
  "\"status\":\"exited_unslashed\",\"validator\":\x7b\"pubkey\":\"0xb\"\x7d\x7d")

def foreignText : String := responseText ("\x7b\"index\":\"9\"," ++
  "\"status\":\"withdrawal_done\",\"validator\":\x7b\"pubkey\":\"0xf\"\x7d\x7d")

def readResponse (text : String) :
    Except String (BeaconNode.ExecutionOptimisticResponse (List ValidatorInfo)) :=
  if text = slashedText then .ok ⟨false, [⟨"7", .activeSlashed, "0xa"⟩]⟩
  else if text = exitedText then .ok ⟨false, [⟨"8", .exitedUnslashed, "0xb"⟩]⟩
  else if text = foreignText then .ok ⟨false, [⟨"9", .withdrawalDone, "0xf"⟩]⟩
  else if text = responseText "" then .ok ⟨false, []⟩
  else .error ""

/-- A client that can read a response about one of them, and the empty one. -/
def anyOfThree : Client :=
  { MultiBeaconNode.oneValidator with getStateValidatorsResponse := readResponse }

lemma readResponse_slashed :
    readResponse slashedText = .ok ⟨false, [⟨"7", .activeSlashed, "0xa"⟩]⟩ := if_pos rfl

lemma readResponse_exited :
    readResponse exitedText = .ok ⟨false, [⟨"8", .exitedUnslashed, "0xb"⟩]⟩ := by
  have hslashed : exitedText ≠ slashedText := by decide +kernel
  unfold readResponse
  rw [if_neg hslashed, if_pos rfl]

lemma readResponse_foreign :
    readResponse foreignText = .ok ⟨false, [⟨"9", .withdrawalDone, "0xf"⟩]⟩ := by
  have hslashed : foreignText ≠ slashedText := by decide +kernel
  have hexited : foreignText ≠ exitedText := by decide +kernel
  unfold readResponse
  rw [if_neg hslashed, if_neg hexited, if_pos rfl]

lemma readResponse_none : readResponse (responseText "") = .ok ⟨false, []⟩ := by
  have hslashed : responseText "" ≠ slashedText := by decide +kernel
  have hexited : responseText "" ≠ exitedText := by decide +kernel
  have hforeign : responseText "" ≠ foreignText := by decide +kernel
  unfold readResponse
  rw [if_neg hslashed, if_neg hexited, if_neg hforeign, if_pos rfl]

/-- The last request has no ids left, and adopts nobody. -/
theorem classified_of_returned_three : ∃ s, Classified threeValidators {"0xa", "0xb"} .init s ∧
    s.slashingDetected = true ∧ s.activeValidators = [slashedValidator] ∧
    s.exitedValidators = [exitedValidator] ∧ s.withdrawalValidators = [] := by
  have hslashed : List.Forall₂ (ChainState.Tells anyOfThree) [⟨"7", .activeSlashed, "0xa"⟩]
      [slashedValidator] := .cons ⟨by decide, rfl, rfl⟩ .nil
  have hexited : List.Forall₂ (ChainState.Tells anyOfThree) [⟨"8", .exitedUnslashed, "0xb"⟩]
      [exitedValidator] := .cons ⟨by decide, rfl, rfl⟩ .nil
  have hforeign : List.Forall₂ (ChainState.Tells anyOfThree) [⟨"9", .withdrawalDone, "0xf"⟩]
      [foreignValidator] := .cons ⟨by decide, rfl, rfl⟩ .nil
  have hstart : step decimal .init (.updateValidatorStatuses false) =
      some ({ State.init with update := some ⟨false, .publicKeys⟩ }, [.getPublicKeys]) := rfl
  have hkeys : RunIf (step decimal) (Served anyOfThree threeValidators {"0xa", "0xb"})
      { State.init with update := some ⟨false, .publicKeys⟩ } [.publicKeys ["0xa", "0xb"]] _ _ :=
    .snoc .nil rfl rfl
  have hflag := hkeys.snoc
    (served_of_text ["0xa", "0xb"] slashedText rfl rfl readResponse_slashed hslashed rfl) rfl
  have hactive := hflag.snoc
    (served_of_text ["0xa", "0xb"] slashedText rfl rfl readResponse_slashed hslashed rfl) rfl
  have hpending := hactive.snoc
    (served_of_text ["0xb"] (responseText "") rfl rfl readResponse_none .nil rfl) rfl
  have hexits := hpending.snoc
    (served_of_text ["0xb"] exitedText rfl rfl readResponse_exited hexited rfl) rfl
  have hreturned := hexits.snoc
    (served_of_text [] foreignText rfl rfl readResponse_foreign hforeign rfl) rfl
  exact ⟨_, classified_of_returned hstart hreturned rfl, rfl, rfl, rfl, rfl⟩

end Vero.ValidatorStatuses
