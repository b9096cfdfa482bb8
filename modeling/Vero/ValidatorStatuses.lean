import Mathlib.Data.Finset.Card
import Mathlib.Data.List.Nodup
import Vero.Context
import Vero.Lib.Runs
import Vero.SchemaValidator

/-!
`_update_validator_statuses`: the lists of validators by status, which an update overwrites one
after the other.

An update asks for the validators of one status at a time, leaving out those it has found
already. The lists it has not come to are those of earlier updates.

An assumption: updates follow one another. The source starts each in a task of its own and has no
lock to keep one that retries for an epoch from overlapping with the next.
-/

namespace Vero.ValidatorStatuses

open Lib.Runs SchemaBeaconAPI SchemaValidator

/-- The public keys of some validators, as a set. -/
def pubkeys (validators : List ValidatorIndexPubkey) : Finset Pubkey :=
  (validators.map fun v => v.pubkey).toFinset

/-- What an update awaits: the managed keys, then the validators of one status after the other,
with the keys found so far. -/
inductive Phase
  | publicKeys
  | slashed (managed : Finset Pubkey)
  | active (managed : Finset Pubkey)
  | pending (managed active : Finset Pubkey)
  | exited (managed active pending : Finset Pubkey)
  | withdrawal (managed active pending exited : Finset Pubkey)

/-- The ids and statuses that are asked for. -/
def Phase.request : Phase → Option (Finset Pubkey × List ValidatorStatus)
  | publicKeys => none
  | slashed ids => some (ids, slashedStatuses)
  | active ids => some (ids, activeStatuses)
  | pending ids activeKeys => some (ids \ activeKeys, pendingStatuses)
  | exited ids activeKeys pendingKeys => some ((ids \ activeKeys) \ pendingKeys, exitedStatuses)
  | withdrawal ids activeKeys pendingKeys exitedKeys =>
    some (((ids \ activeKeys) \ pendingKeys) \ exitedKeys, withdrawalStatuses)

structure Update where
  minimalUpdate : Bool
  phase : Phase

structure State where
  slashingDetected : Bool
  activeValidators : List ValidatorIndexPubkey
  pendingValidators : List ValidatorIndexPubkey
  exitedValidators : List ValidatorIndexPubkey
  withdrawalValidators : List ValidatorIndexPubkey
  update : Option Update

inductive Action
  | attesterSlashing (event : AttesterSlashingEvent)
  | proposerSlashing (event : ProposerSlashingEvent)
  | updateValidatorStatuses (minimalUpdate : Bool)
  | publicKeys (pubkeys : List Pubkey)
  | validators (validators : List ValidatorIndexPubkey)
  | failed

inductive Output
  | getPublicKeys
  | getValidators (ids : Finset Pubkey) (statuses : List ValidatorStatus)
  | validatorStatus (unknown pending active exited withdrawal : ℕ)

def State.init : State := ⟨false, [], [], [], [], none⟩

namespace State

variable (s : State)

def activeOrPendingIndices : List ℤ :=
  (s.activeValidators ++ s.pendingValidators).map fun v => v.index

def exitedOrWithdrawalIndices : List ℤ :=
  (s.exitedValidators ++ s.withdrawalValidators).map fun v => v.index

/-- The tracker as the duty services see it. -/
def tracker : ValidatorStatusTrackerService.State :=
  ⟨s.slashingDetected, s.activeValidators.map (·.toValidatorIndexPubkey),
    s.pendingValidators.map (·.toValidatorIndexPubkey)⟩

def await (u : Update) : State × List Output :=
  ({ s with update := some u }, match u.phase.request with
    | some (ids, statuses) => [.getValidators ids statuses]
    | none => [.getPublicKeys])

/-- An update with the validators it awaited. -/
def receive (u : Update) (validators : List ValidatorIndexPubkey) : Option (State × List Output) :=
  match u.phase with
  | .publicKeys => none
  | .slashed managed => some <|
    { s with slashingDetected := s.slashingDetected || validators ≠ [] }.await
      { u with phase := .active managed }
  | .active managed => some <|
    { s with activeValidators := validators }.await
      { u with phase := .pending managed (pubkeys validators) }
  | .pending managed active =>
    let s := { s with pendingValidators := validators }
    if u.minimalUpdate then some ({ s with update := none }, [])
    else some (s.await { u with phase := .exited managed active (pubkeys validators) })
  | .exited managed active pending => some <|
    { s with exitedValidators := validators }.await
      { u with phase := .withdrawal managed active pending (pubkeys validators) }
  | .withdrawal managed active pending exited =>
    let withdrawal := pubkeys validators
    let known := active ∪ pending ∪ exited ∪ withdrawal
    some ({ s with withdrawalValidators := validators, update := none },
      [.validatorStatus (managed \ known).card pending.card active.card exited.card
        withdrawal.card])

end State

/-- An update begins where none is under way, which is assumed. A failed request ends its
update. -/
def step (int : String → Option ℤ) : Machine State Action Output
  | s, .attesterSlashing event => some
    ({ s with slashingDetected := (s.tracker.handleAttesterSlashing int event).slashingDetected },
      [])
  | s, .proposerSlashing event => some
    ({ s with slashingDetected := (s.tracker.handleProposerSlashing int event).slashingDetected },
      [])
  | s, .updateValidatorStatuses minimalUpdate =>
    if s.update.isNone then some (s.await ⟨minimalUpdate, .publicKeys⟩) else none
  | s, .publicKeys pubkeys => s.update.bind fun u =>
    match u.phase with
    | .publicKeys => some (s.await { u with phase := .slashed pubkeys.toFinset })
    | _ => none
  | s, .validators validators => s.update.bind fun u => s.receive u validators
  | s, .failed => s.update.map fun _ => ({ s with update := none }, [])

/-! ### What the beacon nodes answer -/

/-- The validators of the chain: an index and a public key belong to one validator. -/
structure Registry where
  mem : ValidatorStatusTrackerService.ValidatorIndexPubkey → Prop
  unique : ∀ v w, mem v → mem w → v.index = w.index → v.pubkey = w.pubkey

/-- Validators of the registry, each at most once. -/
structure Registered (reg : Registry) (validators : List ValidatorIndexPubkey) : Prop where
  nodup : (validators.map fun v => v.pubkey).Nodup
  mem : ∀ v ∈ validators, reg.mem v.toValidatorIndexPubkey

/-- An answer has validators that were asked for and had one of the statuses. -/
structure Answers (reg : Registry) (ids : Finset Pubkey) (statuses : List ValidatorStatus)
    (validators : List ValidatorIndexPubkey) : Prop extends Registered reg validators where
  ids : ∀ v ∈ validators, v.pubkey ∈ ids
  statuses : ∀ v ∈ validators, v.status ∈ statuses

def Answered (reg : Registry) : Guard State Action Output := fun s _ a =>
  ∀ validators, a = .validators validators → ∀ u ∈ s.update, ∀ r ∈ u.phase.request,
    Answers reg r.1 r.2 validators

/-- The lists that an update has still to overwrite when it receives an answer, or that it leaves
alone. -/
def State.laterLists (s : State) : Phase → List ValidatorIndexPubkey
  | .active _ => s.pendingValidators ++ s.exitedValidators ++ s.withdrawalValidators
  | .pending _ _ => s.exitedValidators ++ s.withdrawalValidators
  | .exited _ _ _ => s.withdrawalValidators
  | .publicKeys | .slashed _ | .withdrawal _ _ _ _ => []

/-- No validator that is found stands in a list the update comes to later. -/
def Settled (s : State) (a : Action) : Prop :=
  ∀ validators, a = .validators validators → ∀ u ∈ s.update, ∀ v ∈ validators,
    v.pubkey ∉ pubkeys (s.laterLists u.phase)

def State.PairwiseDisjoint (s : State) : Prop :=
  [s.activeValidators, s.pendingValidators, s.exitedValidators, s.withdrawalValidators].Pairwise
    fun l l' => Disjoint (pubkeys l) (pubkeys l')

variable {int : String → Option ℤ} {reg : Registry} {s s' : State} {a : Action}
variable {as : List Action} {o os : List Output} {l l' vs : List ValidatorIndexPubkey}

/-! ### Public keys -/

@[simp] lemma pubkeys_nil : pubkeys [] = ∅ := rfl

lemma mem_pubkeys {k : Pubkey} : k ∈ pubkeys l ↔ ∃ v ∈ l, v.pubkey = k := by simp [pubkeys]

lemma pubkeys_append : pubkeys (l ++ l') = pubkeys l ∪ pubkeys l' := by simp [pubkeys]

lemma disjoint_pubkeys_iff {k : Finset Pubkey} :
    Disjoint (pubkeys vs) k ↔ ∀ v ∈ vs, v.pubkey ∉ k := by
  rw [Finset.disjoint_left]
  constructor
  · intro h v hv
    exact h (mem_pubkeys.mpr ⟨v, hv, rfl⟩)
  · intro h k hk
    obtain ⟨v, hv, rfl⟩ := mem_pubkeys.mp hk
    exact h v hv

lemma pairwiseDisjoint_iff : s.PairwiseDisjoint ↔
    Disjoint (pubkeys s.activeValidators)
      (pubkeys (s.pendingValidators ++ s.exitedValidators ++ s.withdrawalValidators)) ∧
    Disjoint (pubkeys s.pendingValidators)
      (pubkeys (s.exitedValidators ++ s.withdrawalValidators)) ∧
    Disjoint (pubkeys s.exitedValidators) (pubkeys s.withdrawalValidators) := by
  simp [State.PairwiseDisjoint, pubkeys_append, Finset.disjoint_union_right, and_assoc]

/-- Two lists of the registry without a common validator have each index once. -/
lemma nodup_indices (h : Registered reg l) (h' : Registered reg l')
    (hd : Disjoint (pubkeys l) (pubkeys l')) : ((l ++ l').map fun v => v.index).Nodup := by
  have hkeys : ((l ++ l').map fun v => v.pubkey).Nodup := by
    rw [List.map_append, List.nodup_append']
    refine ⟨h.nodup, h'.nodup, fun k hk hk' => ?_⟩
    exact Finset.disjoint_left.mp hd (List.mem_toFinset.mpr hk) (List.mem_toFinset.mpr hk')
  have hmem : ∀ v ∈ l ++ l', reg.mem v.toValidatorIndexPubkey := fun v hv =>
    (List.mem_append.mp hv).elim (h.mem v) (h'.mem v)
  unfold List.Nodup at hkeys ⊢
  rw [List.pairwise_map] at hkeys ⊢
  refine hkeys.imp_of_mem fun hv hw hne he => hne ?_
  exact reg.unique _ _ (hmem _ hv) (hmem _ hw) he

/-! ### What an update keeps to -/

/-- An update has the keys of the lists it has overwritten. -/
def State.Found (s : State) : Phase → Prop
  | .publicKeys | .slashed _ | .active _ => True
  | .pending _ active => active = pubkeys s.activeValidators
  | .exited _ active pending =>
    active = pubkeys s.activeValidators ∧ pending = pubkeys s.pendingValidators
  | .withdrawal _ active pending exited => active = pubkeys s.activeValidators ∧
    pending = pubkeys s.pendingValidators ∧ exited = pubkeys s.exitedValidators

structure Kept (reg : Registry) (s : State) : Prop where
  active : Registered reg s.activeValidators
  pending : Registered reg s.pendingValidators
  exited : Registered reg s.exitedValidators
  withdrawal : Registered reg s.withdrawalValidators
  found : ∀ u ∈ s.update, s.Found u.phase

lemma registered_nil : Registered reg [] := ⟨.nil, by simp⟩

lemma kept_init : Kept reg .init :=
  ⟨registered_nil, registered_nil, registered_nil, registered_nil, by simp [State.init]⟩

/-- What a step does to the lists: nothing, or it overwrites one of them. -/
inductive Effect (s : State) (a : Action) (s' : State) : Prop
  | frame (active : s'.activeValidators = s.activeValidators)
      (pending : s'.pendingValidators = s.pendingValidators)
      (exited : s'.exitedValidators = s.exitedValidators)
      (withdrawal : s'.withdrawalValidators = s.withdrawalValidators)
      (found : (∀ u ∈ s.update, s.Found u.phase) → ∀ u ∈ s'.update, s'.Found u.phase)
      (later : Settled s a)
  | received (u : Update) (vs : List ValidatorIndexPubkey) (update : s.update = some u)
      (action : a = .validators vs) (o : List Output) (next : s.receive u vs = some (s', o))

lemma effect_of_step (h : step int s a = some (s', o)) : Effect s a s' := by
  have hsettled : (∀ vs, a ≠ .validators vs) → Settled s a := fun hne vs he => absurd he (hne vs)
  cases a with
  | attesterSlashing event =>
    obtain ⟨rfl, rfl⟩ := Prod.mk.inj (Option.some.inj h)
    exact .frame rfl rfl rfl rfl id (hsettled (by simp))
  | proposerSlashing event =>
    obtain ⟨rfl, rfl⟩ := Prod.mk.inj (Option.some.inj h)
    exact .frame rfl rfl rfl rfl id (hsettled (by simp))
  | updateValidatorStatuses minimalUpdate =>
    simp only [step] at h
    split_ifs at h
    obtain ⟨rfl, rfl⟩ := Prod.mk.inj (Option.some.inj h)
    refine .frame rfl rfl rfl rfl (fun _ u hu => ?_) (hsettled (by simp))
    obtain rfl := Option.some.inj hu
    trivial
  | publicKeys pubkeys =>
    obtain ⟨u, -, he⟩ := Option.bind_eq_some_iff.mp h
    split at he
    · obtain ⟨rfl, rfl⟩ := Prod.mk.inj (Option.some.inj he)
      refine .frame rfl rfl rfl rfl (fun _ u hu => ?_) (hsettled (by simp))
      obtain rfl := Option.some.inj hu
      trivial
    · simp at he
  | validators vs =>
    obtain ⟨u, hu, he⟩ := Option.bind_eq_some_iff.mp h
    exact .received u vs hu rfl o he
  | failed =>
    obtain ⟨u, -, he⟩ := Option.map_eq_some_iff.mp h
    obtain ⟨rfl, rfl⟩ := Prod.mk.inj he
    exact .frame rfl rfl rfl rfl (by simp) (hsettled (by simp))

/-- The keys that were left out of a request are not in its answer. -/
lemma disjoint_of_answers {ids found : Finset Pubkey} {statuses : List ValidatorStatus}
    (h : Answers reg ids statuses vs) (hd : Disjoint found ids) : Disjoint found (pubkeys vs) := by
  rw [disjoint_comm, disjoint_pubkeys_iff]
  intro v hv
  exact Finset.disjoint_right.mp hd (h.ids v hv)

lemma settled_iff {u : Update} (h : s.update = some u) :
    Settled s (.validators vs) ↔ Disjoint (pubkeys vs) (pubkeys (s.laterLists u.phase)) := by
  rw [disjoint_pubkeys_iff]
  simp [Settled, h]

/-- **One step.** What is kept stays so, and the lists stay disjoint exactly where no validator
that is found stands in a list the update comes to later. -/
lemma kept_step (h : Kept reg s) (hC : Answered reg s os a) (hs : step int s a = some (s', o)) :
    Kept reg s' ∧ (s.PairwiseDisjoint → (s'.PairwiseDisjoint ↔ Settled s a)) := by
  cases effect_of_step hs with
  | frame active pending exited withdrawal found later =>
    refine ⟨⟨active ▸ h.active, pending ▸ h.pending, exited ▸ h.exited, withdrawal ▸ h.withdrawal,
      found h.found⟩, fun hd => iff_of_true ?_ later⟩
    rwa [State.PairwiseDisjoint, active, pending, exited, withdrawal]
  | received u vs update action o next =>
    subst action
    have hfound := h.found u update
    rw [settled_iff update]
    obtain ⟨minimal, phase⟩ := u
    cases phase with
    | publicKeys => simp [State.receive] at next
    | slashed managed =>
      obtain ⟨rfl, -⟩ := Prod.ext_iff.mp (Option.some.inj next)
      refine ⟨⟨h.active, h.pending, h.exited, h.withdrawal, by simp [State.await, State.Found]⟩,
        fun hd => iff_of_true hd (by simp [State.laterLists])⟩
    | active managed =>
      have hvs : Answers reg managed activeStatuses vs := hC vs rfl _ update _ rfl
      obtain ⟨rfl, -⟩ := Prod.ext_iff.mp (Option.some.inj next)
      refine ⟨⟨hvs.toRegistered, h.pending, h.exited, h.withdrawal,
        by simp [State.await, State.Found]⟩, fun hd => ?_⟩
      obtain ⟨-, hp, he⟩ := pairwiseDisjoint_iff.mp hd
      rw [pairwiseDisjoint_iff]
      exact ⟨fun hd' => hd'.1, fun hd' => ⟨hd', hp, he⟩⟩
    | pending managed active =>
      have hvs : Answers reg (managed \ active) pendingStatuses vs := hC vs rfl _ update _ rfl
      obtain rfl : active = pubkeys s.activeValidators := hfound
      have hactive := disjoint_of_answers hvs Finset.disjoint_sdiff
      have hlists : s'.activeValidators = s.activeValidators ∧ s'.pendingValidators = vs ∧
          s'.exitedValidators = s.exitedValidators ∧
          s'.withdrawalValidators = s.withdrawalValidators ∧ ∀ u ∈ s'.update, s'.Found u.phase := by
        simp only [State.receive] at next
        split_ifs at next
        · obtain ⟨rfl, -⟩ := Prod.mk.inj (Option.some.inj next)
          exact ⟨rfl, rfl, rfl, rfl, by simp⟩
        · obtain ⟨rfl, -⟩ := Prod.ext_iff.mp (Option.some.inj next)
          exact ⟨rfl, rfl, rfl, rfl, by simp [State.await, State.Found]⟩
      obtain ⟨ha, hp, he, hw, hf⟩ := hlists
      refine ⟨⟨ha ▸ h.active, hp ▸ hvs.toRegistered, he ▸ h.exited, hw ▸ h.withdrawal, hf⟩,
        fun hd => ?_⟩
      obtain ⟨hd, -, he'⟩ := pairwiseDisjoint_iff.mp hd
      rw [pairwiseDisjoint_iff, ha, hp, he, hw]
      simp only [pubkeys_append, Finset.disjoint_union_right, State.laterLists] at hd ⊢
      exact ⟨fun hd' => hd'.2.1, fun hd' => ⟨⟨⟨hactive, hd.1.2⟩, hd.2⟩, hd', he'⟩⟩
    | exited managed active pending =>
      have hvs : Answers reg ((managed \ active) \ pending) exitedStatuses vs :=
        hC vs rfl _ update _ rfl
      obtain ⟨rfl, rfl⟩ := hfound
      have hpending := disjoint_of_answers hvs Finset.disjoint_sdiff
      have hactive := disjoint_of_answers hvs (Finset.disjoint_sdiff.mono_right Finset.sdiff_subset)
      obtain ⟨rfl, -⟩ := Prod.ext_iff.mp (Option.some.inj next)
      refine ⟨⟨h.active, h.pending, hvs.toRegistered, h.withdrawal,
        by simp [State.await, State.Found]⟩, fun hd => ?_⟩
      obtain ⟨hd, hd', -⟩ := pairwiseDisjoint_iff.mp hd
      rw [pairwiseDisjoint_iff]
      simp only [pubkeys_append, Finset.disjoint_union_right, State.await, State.laterLists]
        at hd hd' ⊢
      exact ⟨fun h' => h'.2.2, fun h' => ⟨⟨⟨hd.1.1, hactive⟩, hd.2⟩, ⟨hpending, hd'.2⟩, h'⟩⟩
    | withdrawal managed active pending exited =>
      have hvs : Answers reg (((managed \ active) \ pending) \ exited) withdrawalStatuses vs :=
        hC vs rfl _ update _ rfl
      obtain ⟨rfl, rfl, rfl⟩ := hfound
      have hexited := disjoint_of_answers hvs Finset.disjoint_sdiff
      have hpending := disjoint_of_answers hvs
        (Finset.disjoint_sdiff.mono_right Finset.sdiff_subset)
      have hactive := disjoint_of_answers hvs
        (Finset.disjoint_sdiff.mono_right (Finset.sdiff_subset.trans Finset.sdiff_subset))
      obtain ⟨rfl, -⟩ := Prod.ext_iff.mp (Option.some.inj next)
      refine ⟨⟨h.active, h.pending, h.exited, hvs.toRegistered, by simp⟩,
        fun hd => iff_of_true ?_ (by simp [State.laterLists])⟩
      obtain ⟨hd, hd', -⟩ := pairwiseDisjoint_iff.mp hd
      rw [pairwiseDisjoint_iff]
      simp only [pubkeys_append, Finset.disjoint_union_right] at hd hd' ⊢
      exact ⟨⟨hd.1, hactive⟩, ⟨hd'.1, hpending⟩, hexited⟩

/-! ### Main result -/

/-- **When no validator is in two lists.** In every sequence of updates in which no validator is
found while it stands in a list its update comes to later, the lists are disjoint in every
state, and no index is active or pending twice; the next step keeps them disjoint exactly where
it does not find such a validator. -/
theorem disjoint_of_run (r : RunIf (step int) (fun s os a => Answered reg s os a ∧ Settled s a)
    .init as s os) : s.PairwiseDisjoint ∧ s.activeOrPendingIndices.Nodup ∧
      ∀ a s' o, Answered reg s os a → step int s a = some (s', o) →
        (s'.PairwiseDisjoint ↔ Settled s a) := by
  have h : Kept reg s ∧ s.PairwiseDisjoint := by
    refine r.invariant (I := fun s _ => Kept reg s ∧ s.PairwiseDisjoint)
      ⟨kept_init, by simp [State.PairwiseDisjoint, State.init]⟩ ?_
    rintro s os a s' o ⟨hk, hd⟩ ⟨hC, hsettled⟩ hs
    obtain ⟨hk', hiff⟩ := kept_step hk hC hs
    exact ⟨hk', (hiff hd).mpr hsettled⟩
  obtain ⟨hk, hd⟩ := h
  refine ⟨hd, ?_, fun a s' o hC hs => (kept_step hk hC hs).2 hd⟩
  have hactive := (pairwiseDisjoint_iff.mp hd).1
  simp only [pubkeys_append, Finset.disjoint_union_right] at hactive
  exact nodup_indices hk.active hk.pending hactive.1.1

/-- The duty services see the active and pending validators of the lists. -/
lemma activeOrPendingIndices_tracker (s : State) :
    s.tracker.activeOrPendingIndices = s.activeOrPendingIndices := by
  simp [State.tracker, State.activeOrPendingIndices,
    ValidatorStatusTrackerService.State.activeOrPendingIndices, Function.comp_def]

/-- Detecting a slashing changes the flag only. -/
lemma detect_eq (t : ValidatorStatusTrackerService.State) (slashed : List ℤ) :
    t.detect slashed = { t with slashingDetected := (t.detect slashed).slashingDetected } := by
  unfold ValidatorStatusTrackerService.State.detect
  split_ifs
  · rfl
  · rfl

lemma handleAttesterSlashing_eq (t : ValidatorStatusTrackerService.State)
    (event : AttesterSlashingEvent) : t.handleAttesterSlashing int event =
      { t with slashingDetected := (t.handleAttesterSlashing int event).slashingDetected } := by
  unfold ValidatorStatusTrackerService.State.handleAttesterSlashing
  split
  · exact detect_eq t _
  · rfl

lemma handleProposerSlashing_eq (t : ValidatorStatusTrackerService.State)
    (event : ProposerSlashingEvent) : t.handleProposerSlashing int event =
      { t with slashingDetected := (t.handleProposerSlashing int event).slashingDetected } := by
  unfold ValidatorStatusTrackerService.State.handleProposerSlashing
  split
  · exact detect_eq t _
  · rfl

/-- **Refinement.** A step is one of the tracker the duty services see, or is not seen. -/
theorem tracker_step (h : step int s a = some (s', o)) : s'.tracker = s.tracker ∨
    ∃ b, s'.tracker = ValidatorStatusTrackerService.step int s.tracker b := by
  cases a with
  | attesterSlashing event =>
    obtain ⟨rfl, rfl⟩ := Prod.mk.inj (Option.some.inj h)
    exact .inr ⟨.attesterSlashing event, (handleAttesterSlashing_eq s.tracker event).symm⟩
  | proposerSlashing event =>
    obtain ⟨rfl, rfl⟩ := Prod.mk.inj (Option.some.inj h)
    exact .inr ⟨.proposerSlashing event, (handleProposerSlashing_eq s.tracker event).symm⟩
  | updateValidatorStatuses minimalUpdate =>
    simp only [step] at h
    split_ifs at h
    obtain ⟨rfl, rfl⟩ := Prod.mk.inj (Option.some.inj h)
    exact .inl rfl
  | publicKeys pubkeys =>
    obtain ⟨u, -, he⟩ := Option.bind_eq_some_iff.mp h
    split at he
    · obtain ⟨rfl, rfl⟩ := Prod.mk.inj (Option.some.inj he)
      exact .inl rfl
    · simp at he
  | validators vs =>
    obtain ⟨⟨minimal, phase⟩, -, he⟩ := Option.bind_eq_some_iff.mp h
    cases phase with
    | publicKeys => simp [State.receive] at he
    | slashed managed =>
      obtain ⟨rfl, -⟩ := Prod.ext_iff.mp (Option.some.inj he)
      refine .inr ⟨.slashedValidators (vs.map (·.toValidatorIndexPubkey)), ?_⟩
      by_cases hvs : vs = []
      · simp [State.await, State.tracker, ValidatorStatusTrackerService.step, hvs]
      · simp [State.await, State.tracker, ValidatorStatusTrackerService.step, hvs]
    | active managed =>
      obtain ⟨rfl, -⟩ := Prod.ext_iff.mp (Option.some.inj he)
      exact .inr ⟨.activeValidators (vs.map (·.toValidatorIndexPubkey)), rfl⟩
    | pending managed active =>
      refine .inr ⟨.pendingValidators (vs.map (·.toValidatorIndexPubkey)), ?_⟩
      simp only [State.receive] at he
      split_ifs at he
      · obtain ⟨rfl, -⟩ := Prod.mk.inj (Option.some.inj he)
        rfl
      · obtain ⟨rfl, -⟩ := Prod.ext_iff.mp (Option.some.inj he)
        rfl
    | exited managed active pending =>
      obtain ⟨rfl, -⟩ := Prod.ext_iff.mp (Option.some.inj he)
      exact .inl rfl
    | withdrawal managed active pending exited =>
      obtain ⟨rfl, -⟩ := Prod.ext_iff.mp (Option.some.inj he)
      exact .inl rfl
  | failed =>
    obtain ⟨u, -, he⟩ := Option.map_eq_some_iff.mp h
    obtain ⟨rfl, rfl⟩ := Prod.mk.inj he
    exact .inl rfl

/-! ### A validator that is activated -/

instance {ids : Finset Pubkey} {statuses : List ValidatorStatus} [DecidablePred reg.mem] :
    Decidable (Answers reg ids statuses vs) :=
  decidable_of_iff ((vs.map fun v => v.pubkey).Nodup ∧
      (∀ v ∈ vs, reg.mem v.toValidatorIndexPubkey) ∧ (∀ v ∈ vs, v.pubkey ∈ ids) ∧
      ∀ v ∈ vs, v.status ∈ statuses)
    ⟨fun h => ⟨⟨h.1, h.2.1⟩, h.2.2.1, h.2.2.2⟩, fun h => ⟨h.nodup, h.mem, h.ids, h.statuses⟩⟩

instance [DecidablePred reg.mem] : Decidable (Answered reg s os a) :=
  match a with
  | .validators vs => decidable_of_iff
      (∀ u ∈ s.update, ∀ r ∈ u.phase.request, Answers reg r.1 r.2 vs) (by simp [Answered])
  | .attesterSlashing _ | .proposerSlashing _ | .updateValidatorStatuses _ | .publicKeys _
  | .failed => isTrue (by simp [Answered])

instance : Decidable (Settled s a) :=
  match a with
  | .validators vs => decidable_of_iff
      (∀ u ∈ s.update, ∀ v ∈ vs, v.pubkey ∉ pubkeys (s.laterLists u.phase)) (by simp [Settled])
  | .attesterSlashing _ | .proposerSlashing _ | .updateValidatorStatuses _ | .publicKeys _
  | .failed => isTrue (by simp [Settled])

instance : Decidable s.PairwiseDisjoint := inferInstanceAs (Decidable (List.Pairwise _ _))

/-- The chain with one validator. -/
def oneValidator : Registry where
  mem := fun v => v = ⟨7, "0xa"⟩
  unique := by
    rintro v w rfl rfl -
    rfl

instance : DecidablePred oneValidator.mem := fun v => inferInstanceAs (Decidable (v = ⟨7, "0xa"⟩))

def validatorIn (status : ValidatorStatus) : ValidatorIndexPubkey := ⟨⟨7, "0xa"⟩, status⟩

/-- A full update that finds the validator in a status. -/
def found (status : ValidatorStatus) : List Action :=
  [.updateValidatorStatuses false, .publicKeys ["0xa"], .validators [],
    .validators (if status ∈ activeStatuses then [validatorIn status] else []),
    .validators (if status ∈ pendingStatuses then [validatorIn status] else []),
    .validators (if status ∈ exitedStatuses then [validatorIn status] else []),
    .validators (if status ∈ withdrawalStatuses then [validatorIn status] else [])]

/-- The validator is active, then exits. -/
theorem disjoint_of_run_exit : ∃ s os, Run (step decimal) .init
    (found .activeOngoing ++ found .exitedUnslashed) s os ∧
    s.exitedOrWithdrawalIndices = [7] ∧ s.PairwiseDisjoint := by
  obtain ⟨s, os, r, hp⟩ := @exec_any _ _ _ (step decimal)
    (fun s os a => Answered oneValidator s os a ∧ Settled s a) .init
    (found .activeOngoing ++ found .exitedUnslashed) _
    (fun s _ => s.exitedOrWithdrawalIndices = [7]) (by decide +kernel)
  exact ⟨s, os, r.run, of_decide_eq_true hp, (disjoint_of_run r).1⟩

/-- The validator is pending, then becomes active: until the second update has asked for the
pending validators, it is in both lists. -/
theorem activated_in_two_lists : ∃ s os, RunIf (step decimal) (Answered oneValidator) .init
    (found .pendingQueued ++ (found .activeOngoing).take 4) s os ∧
    s.activeOrPendingIndices = [7, 7] ∧ ¬ s.PairwiseDisjoint := by
  obtain ⟨s, os, r, hp⟩ := @exec_any _ _ _ (step decimal) (Answered oneValidator) .init
    (found .pendingQueued ++ (found .activeOngoing).take 4) _
    (fun s _ => s.activeOrPendingIndices = [7, 7] ∧ ¬ s.PairwiseDisjoint) (by decide +kernel)
  obtain ⟨hindices, hd⟩ := of_decide_eq_true hp
  exact ⟨s, os, r, hindices, hd⟩

end Vero.ValidatorStatuses
