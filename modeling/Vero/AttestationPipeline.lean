import Vero.AttestationSlots
import Vero.SignedMessages

/-!
`_attest` with its signatures: `_get_signed_attestations` and `_publish_attestations` beside the
service.

A run signs one attestation data for all duties of its slot, each in a task of its own. The tasks
come back in any order, among those of other runs, and what came back is published once all have.
-/

namespace Vero.AttestationService

open Lib Lib.Runs SchemaBeaconAPI SchemaRemoteSigner
open Keymanager (Signed)

/-- What happens to the attestations of a slot. -/
inductive Custody
  | started
  | produced (attData : AttestationData)
  | aggregationScheduled (aggregatorDuties : List AttesterDutyWithSelectionProof)
  | signatureRequested (duty : AttesterDutyWithSelectionProof) (attData : AttestationData)
  | signatureCompleted (duty : AttesterDutyWithSelectionProof)
      (answer : Except String (Signed AttestationSignableMessage))
  | published (signedAttestations : List SingleAttestation)
  deriving DecidableEq

/-! ### The service with its signatures -/

/-- The loop over the tasks that have come back: the duties in the order in which their set is
iterated over, those whose task was seen, and what was collected. -/
structure Collection where
  duties : List AttesterDutyWithSelectionProof
  completed : List AttesterDutyWithSelectionProof
  signedAttestations : List SingleAttestation

def pubkeyToDuty (duties : List AttesterDutyWithSelectionProof) :
    Dict Pubkey AttesterDutyWithSelectionProof :=
  Dict.ofList (duties.map fun d => (d.pubkey, d))

/-- One turn of the loop. A signature that failed is passed over. -/
def Collection.add (k : Collection) (attData : AttestationData)
    (duty : AttesterDutyWithSelectionProof) :
    Except String (Signed AttestationSignableMessage) → Except Exception Collection
  | .error _ => .ok { k with completed := k.completed ++ [duty] }
  | .ok t => (singleAttestation attData (pubkeyToDuty k.duties) t).map fun a =>
    { k with
      completed := k.completed ++ [duty]
      signedAttestations := k.signedAttestations ++ [a] }

structure Pipeline where
  service : State
  collections : Dict ℕ Collection

inductive PipelineAction
  | service (a : Action)
  | attestationData (id : ℕ) (attData : AttestationData)
      (duties : List AttesterDutyWithSelectionProof)
  | signatureCompleted (id : ℕ) (duty : AttesterDutyWithSelectionProof)
      (answer : Except String (Signed AttestationSignableMessage))

/-- A signature comes back with the message and the pubkey it was asked for. -/
def Returns (attData : AttestationData) (duty : AttesterDutyWithSelectionProof) :
    Except String (Signed AttestationSignableMessage) → Prop
  | .error _ => True
  | .ok t => t.1.attestation = attData ∧ t.2.2 = duty.pubkey

instance (attData : AttestationData) (duty : AttesterDutyWithSelectionProof) :
    (answer : Except String (Signed AttestationSignableMessage)) →
      Decidable (Returns attData duty answer)
  | .error _ => instDecidableTrue
  | .ok t => inferInstanceAs (Decidable (t.1.attestation = attData ∧ t.2.2 = duty.pubkey))

def begun : Output → Option (ℤ × Custody)
  | .attestStarted slot => some (slot, .started)
  | _ => none

def asked (s : State) : Action → Option (ℤ × Custody)
  | .requestSignature id duty => (s.attestRuns.get id).bind fun r =>
    r.attData.map fun attData => (r.slot, .signatureRequested duty attData)
  | _ => none

/-- The tasks that sign are created with the data, after the one that schedules the
aggregation. -/
def dataProduced (c : Context) (now : Moment) (p : Pipeline) (id : ℕ) (attData : AttestationData)
    (duties : List AttesterDutyWithSelectionProof) (r : AttestRun) :
    Option (Pipeline × List (ℤ × Custody)) :=
  if duties.Nodup ∧ duties.toFinset = r.duties then
    (step c now p.service (.attestationData id attData)).map fun (s, _) =>
      if State.checkpointsInPast c now attData then
        (⟨s, p.collections.set id ⟨duties, [], []⟩⟩, [(r.slot, .produced attData),
          (r.slot, .aggregationScheduled (duties.filter fun d => d.isAggregator))])
      else ({ p with service := s }, [])
  else none

/-- After the last task the attestations are published. -/
def collected (p : Pipeline) (id : ℕ) (duty : AttesterDutyWithSelectionProof)
    (answer : Except String (Signed AttestationSignableMessage)) (r : AttestRun) (k : Collection)
    (attData : AttestationData) : Option (Pipeline × List (ℤ × Custody)) :=
  if r.phase = .signing ∧ duty ∈ k.duties ∧ duty ∉ r.unsigned ∧ duty ∉ k.completed ∧
      Returns attData duty answer then
    match k.add attData duty answer with
    | .error _ => some ({ p with service := p.service.endAttest id r },
        [(r.slot, .signatureCompleted duty answer)])
    | .ok k => some ({ p with collections := p.collections.set id k },
        (r.slot, .signatureCompleted duty answer) ::
          if k.completed.length = k.duties.length then [(r.slot, .published k.signedAttestations)]
          else [])
  else none

def pipelineStep (c : Context) (now : Moment) (p : Pipeline) :
    PipelineAction → Option (Pipeline × List (ℤ × Custody))
  | .service (.attestationData _ _) => none
  | .service a => (step c now p.service a).map fun (s, o) =>
    ({ p with service := s }, (asked p.service a).toList ++ o.filterMap begun)
  | .attestationData id attData duties =>
    (p.service.attestRuns.get id).bind (dataProduced c now p id attData duties)
  | .signatureCompleted id duty answer =>
    (p.service.attestRuns.get id).bind fun r => (p.collections.get id).bind fun k =>
      r.attData.bind (collected p id duty answer r k)

/-- Each step at a moment of its own. -/
def traced (c : Context) : Machine Pipeline (Moment × PipelineAction) (ℤ × Custody) :=
  fun p a => pipelineStep c a.1 p a.2

def Pipeline.init (duties : Dict ℤ Duties) (roots : Dict ℤ Root) : Pipeline :=
  ⟨.init duties roots, ∅⟩

/-- The attestations of these answers, in their order. -/
def attestations (attData : AttestationData) (duties : List AttesterDutyWithSelectionProof)
    (completed : List (AttesterDutyWithSelectionProof ×
      Except String (Signed AttestationSignableMessage))) : List SingleAttestation :=
  completed.filterMap fun x => x.2.toOption.bind fun t =>
    (singleAttestation attData (pubkeyToDuty duties) t).toOption

variable {c : Context} {now : Moment} {s s' : State} {a : Action} {o os : List Output}
variable {p p' : Pipeline} {es new : List (ℤ × Custody)}
variable {attData : AttestationData} {duties : List AttesterDutyWithSelectionProof}
variable {duty : AttesterDutyWithSelectionProof} {id : ℕ} {r : AttestRun} {k : Collection}
variable {answer : Except String (Signed AttestationSignableMessage)}

/-! ### What a step does -/

/-- A duty is found under its pubkey, so the lookup does not raise. -/
lemma exists_singleAttestation {t : Signed AttestationSignableMessage} (hmem : duty ∈ duties)
    (hpubkey : t.2.2 = duty.pubkey) :
    ∃ a, singleAttestation attData (pubkeyToDuty duties) t = .ok a := by
  have hitem : (duty.pubkey, duty) ∈ duties.map fun d => (d.pubkey, d) :=
    List.mem_map.mpr ⟨duty, hmem, rfl⟩
  obtain ⟨d, hd⟩ := Dict.exists_get_ofList hitem
  unfold singleAttestation pubkeyToDuty
  rw [hpubkey, hd]
  exact ⟨_, rfl⟩

/-- **One turn of the loop** adds what comes back. -/
lemma add_eq (hmem : duty ∈ k.duties) (hreturns : Returns attData duty answer) :
    k.add attData duty answer = .ok { k with
      completed := k.completed ++ [duty]
      signedAttestations :=
        k.signedAttestations ++ attestations attData k.duties [(duty, answer)] } := by
  cases answer with
  | error e => simp [Collection.add, attestations, Except.toOption]
  | ok t =>
    obtain ⟨a, ha⟩ : ∃ a, singleAttestation attData (pubkeyToDuty k.duties) t = .ok a :=
      exists_singleAttestation hmem hreturns.2
    simp [Collection.add, attestations, ha, Except.toOption, Except.map]

/-- **What data leads to.** The run ends, or the tasks that sign it are there. -/
lemma eq_of_dataProduced (get : p.service.attestRuns.get id = some r)
    (hs : dataProduced c now p id attData duties r = some (p', new)) :
    r.phase = .producing ∧ duties.Nodup ∧ duties.toFinset = r.duties ∧
      step c now p.service (.attestationData id attData) = some (p'.service, []) ∧
      (p' = { p with service := p.service.endAttest id r } ∧ new = [] ∨
        p' = ⟨{ p.service with
            attestRuns := p.service.attestRuns.set id
              { r with phase := .signing, attData := some attData, unsigned := r.duties } },
          p.collections.set id ⟨duties, [], []⟩⟩ ∧
        new = [(r.slot, .produced attData),
          (r.slot, .aggregationScheduled (duties.filter fun d => d.isAggregator))]) := by
  unfold dataProduced at hs
  by_cases horder : duties.Nodup ∧ duties.toFinset = r.duties
  swap
  · rw [if_neg horder] at hs
    cases hs
  rw [if_pos horder] at hs
  obtain ⟨⟨s', o⟩, hstep, he⟩ := Option.map_eq_some_iff.mp hs
  obtain ⟨r₁, hr₁, hdata⟩ := Option.map_eq_some_iff.mp hstep
  obtain ⟨hget, hphase⟩ := Option.filter_eq_some_iff.mp hr₁
  obtain rfl := Option.some.inj (get.symm.trans hget)
  obtain ⟨rfl, rfl⟩ := Prod.mk.inj hdata
  refine ⟨of_decide_eq_true hphase, horder.1, horder.2, ?_⟩
  by_cases hpast : State.checkpointsInPast c now attData
  · simp only [hpast, if_true, Prod.mk.injEq] at he
    obtain ⟨rfl, rfl⟩ := he
    refine ⟨hstep, .inr ⟨?_, rfl⟩⟩
    rw [State.attestationData, if_pos hpast]
  · simp only [hpast, if_false, Prod.mk.injEq] at he
    obtain ⟨rfl, rfl⟩ := he
    refine ⟨hstep, .inl ⟨?_, rfl⟩⟩
    rw [State.attestationData, if_neg hpast]

/-- **What a task that comes back leads to.** Its pubkey is found, so the loop goes on. -/
lemma eq_of_collected (hs : collected p id duty answer r k attData = some (p', new)) :
    duty ∈ k.duties ∧ duty ∉ r.unsigned ∧ duty ∉ k.completed ∧ Returns attData duty answer ∧
      ∃ k', k.add attData duty answer = .ok k' ∧
        p' = { p with collections := p.collections.set id k' } ∧
        new = (r.slot, .signatureCompleted duty answer) ::
          if k'.completed.length = k'.duties.length then
            [(r.slot, .published k'.signedAttestations)]
          else [] := by
  unfold collected at hs
  split_ifs at hs with hcond
  obtain ⟨-, hmem, hasked, hnew, hreturns⟩ := hcond
  obtain ⟨k', hadd⟩ : ∃ k', k.add attData duty answer = .ok k' := ⟨_, add_eq hmem hreturns⟩
  rw [hadd] at hs
  obtain ⟨rfl, rfl⟩ := Prod.mk.inj (Option.some.inj hs)
  exact ⟨hmem, hasked, hnew, hreturns, k', hadd, rfl, rfl⟩

lemma eq_of_service (ha : ∀ id attData, a ≠ .attestationData id attData)
    (hs : pipelineStep c now p (.service a) = some (p', new)) :
    ∃ s' o, step c now p.service a = some (s', o) ∧ { p with service := s' } = p' ∧
      (asked p.service a).toList ++ o.filterMap begun = new := by
  have hstep : (step c now p.service a).map (fun (s, o) =>
      (({ p with service := s } : Pipeline),
        (asked p.service a).toList ++ o.filterMap begun)) = some (p', new) := by
    cases a with
    | attestationData id attData => exact absurd rfl (ha id attData)
    | _ => exact hs
  obtain ⟨⟨s', o⟩, hservice, he⟩ := Option.map_eq_some_iff.mp hstep
  exact ⟨s', o, hservice, Prod.mk.inj he⟩

/-! ### The service below -/

/-- The signature a task asked for, as the service tells it. -/
def requested : ℤ × Custody → Option (Pubkey × ℤ)
  | (slot, .signatureRequested duty _) => some (duty.pubkey, slot)
  | _ => none

lemma filterMap_begun (o : List Output) :
    o.filterMap begun = (starts o).map fun slot => (slot, .started) := by
  unfold starts
  rw [List.map_filterMap]
  congr
  ext1 x
  cases x <;> rfl

lemma requested_begun (o : List Output) : (o.filterMap begun).filterMap requested = [] := by
  rw [filterMap_begun, List.filterMap_map, List.filterMap_eq_nil_iff]
  exact fun _ _ => rfl

lemma asked_of_updates (ha : a.updates) : asked s a = none := by
  cases a with
  | updateDuties | dutiesResponse | selectionProofs | updateFailed => rfl
  | _ => exact absurd ha id

lemma signed_of_step (ha : ∀ id attData, a ≠ .attestationData id attData)
    (hs : step c now s a = some (s', o)) :
    signed o = (asked s a).toList.filterMap requested := by
  by_cases hu : a.updates
  · rw [asked_of_updates hu]
    exact (update_frame hu hs).2.2.2.2
  have hattempt : ∀ id slot, Attempt c now s id slot s' o → signed o = [] := by
    intro id slot h
    cases h with
    | refused => rfl
    | idle _ _ _ hsigned | started _ _ _ _ hsigned => exact hsigned
  cases transition_of_step hu hs with
  | onNewSlot | lateHeadEvent | attestEnded => rfl
  | handleHeadEvent id event => exact hattempt id event.slot (attempt_of_eq rfl rfl)
  | deadlineJob id slot => exact hattempt id slot (attempt_of_eq rfl rfl)
  | produced id _ attData | refused id _ attData => exact absurd rfl (ha id attData)
  | requestSignature id r duty _ get mem =>
    obtain ⟨attData, hdata⟩ : ∃ attData, r.attData = some attData := by
      refine Option.ne_none_iff_exists'.mp fun hnone => ?_
      simp [step, get, State.requestSignature, hnone] at hs
    simp [asked, get, hdata, signed, requested]

/-- A step is one of the service, or one in which the service does nothing. -/
lemma service_of_step {a : PipelineAction} (hs : pipelineStep c now p a = some (p', new)) :
    p'.service = p.service ∧ new.filterMap requested = [] ∨
      ∃ a' o, step c now p.service a' = some (p'.service, o) ∧
        signed o = new.filterMap requested := by
  cases a with
  | service a =>
    by_cases ha : ∀ id attData, a ≠ .attestationData id attData
    · obtain ⟨s', o, hservice, rfl, rfl⟩ := eq_of_service ha hs
      refine .inr ⟨a, o, hservice, ?_⟩
      rw [List.filterMap_append, requested_begun, List.append_nil]
      exact signed_of_step ha hservice
    · push Not at ha
      obtain ⟨id, attData, rfl⟩ := ha
      cases hs
  | attestationData id attData duties =>
    obtain ⟨r, get, hs⟩ := Option.bind_eq_some_iff.mp hs
    obtain ⟨-, -, -, hstep, hnew⟩ := eq_of_dataProduced get hs
    refine .inr ⟨_, [], hstep, ?_⟩
    rcases hnew with ⟨-, rfl⟩ | ⟨-, rfl⟩
    · rfl
    · rfl
  | signatureCompleted id duty answer =>
    obtain ⟨r, get, hs⟩ := Option.bind_eq_some_iff.mp hs
    obtain ⟨k, hk, hs⟩ := Option.bind_eq_some_iff.mp hs
    obtain ⟨attData, hdata, hs⟩ := Option.bind_eq_some_iff.mp hs
    obtain ⟨-, -, -, -, k', -, rfl, rfl⟩ := eq_of_collected hs
    refine .inl ⟨rfl, ?_⟩
    split_ifs
    · rfl
    · rfl

/-- The service by itself, each step at a moment of its own. -/
def moved (c : Context) : Machine State (Moment × Action) Output := fun s a => step c a.1 s a.2

/-- **The pipeline runs on the service**, which asks for the signatures that are requested. -/
lemma service_of_run {duties : Dict ℤ Duties} {roots : Dict ℤ Root}
    {as : List (Moment × PipelineAction)} (r : Run (traced c) (.init duties roots) as p es) :
    ∃ as' os, Run (moved c) (.init duties roots) as' p.service os ∧
      signed os = es.filterMap requested := by
  refine r.invariant (I := fun p es => ∃ as' os,
    Run (moved c) (.init duties roots) as' p.service os ∧ signed os = es.filterMap requested)
    ⟨[], [], .nil, rfl⟩ ?_
  rintro p es a p' new ⟨as', os, hrun, hsigned⟩ - hs
  rw [List.filterMap_append]
  rcases service_of_step hs with ⟨hservice, hnone⟩ | ⟨a', o, hstep, ho⟩
  · rw [hservice, hnone, List.append_nil]
    exact ⟨as', os, hrun, hsigned⟩
  · refine ⟨as' ++ [(a.1, a')], os ++ o, .snoc hrun trivial hstep, ?_⟩
    rw [signed_append, hsigned, ho]

end Vero.AttestationService
