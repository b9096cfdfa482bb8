import Vero.Lib.Marks
import Vero.Services
import Vero.Shutdown
import Vero.SyncDutyLookups

/-!
The three duty services, as their base class sees them: runs of a duty, and the last slots one
was started and completed for.

A run is in flight from the moment it is counted as started to the moment it is counted as
completed, however it ends. A call that begins no run leaves the counters alone.
-/

namespace Vero.DutyRuns

open Lib Lib.Runs

/-- What a step does to the runs of a duty: a call for the current slot begins one, nothing
happens to them, or one ends. The duties stay the same unless they are updated. -/
inductive RunsEffect (m m' : Marks ℕ) (currentSlot : ℤ) (attempt : Option (ℕ × ℤ))
    (performs kept : Prop) : Prop
  | starts (id : ℕ) (attempt : attempt = some (id, currentSlot)) (performs : performs)
      (new : m.inFlight id = none) (marks : m' = m.start id currentSlot)
  | stays (idle : ∀ id, attempt = some (id, currentSlot) → ¬ performs) (marks : m' = m)
      (kept : kept)
  | finishes (id : ℕ) (p : ℤ) (idle : attempt = none) (get : m.inFlight id = some p)
      (marks : m' = m.finish id p) (kept : kept)

lemma RunsEffect.imp {m m' : Marks ℕ} {currentSlot : ℤ} {attempt : Option (ℕ × ℤ)}
    {performs kept kept' : Prop} (h : RunsEffect m m' currentSlot attempt performs kept)
    (himp : kept → kept') : RunsEffect m m' currentSlot attempt performs kept' := by
  cases h with
  | starts id attempt performs new marks => exact .starts id attempt performs new marks
  | stays idle marks kept => exact .stays idle marks (himp kept)
  | finishes id p idle get marks kept => exact .finishes id p idle get marks (himp kept)

/-- The slots of the runs in flight, from a dictionary of all runs. -/
def flights {ν : Type*} (flight : ν → Option ℤ) (runs : Dict ℕ ν) (id : ℕ) : Option ℤ :=
  (runs.get id).bind flight

@[simp] lemma flights_empty {ν : Type*} (flight : ν → Option ℤ) :
    flights flight ∅ = fun _ => none := by
  funext i
  simp [flights]

lemma flights_set {ν : Type*} (flight : ν → Option ℤ) (runs : Dict ℕ ν) (id : ℕ) (r : ν) :
    flights flight (runs.set id r) = Function.update (flights flight runs) id (flight r) := by
  funext i
  rw [Function.update_apply, flights, Dict.get_set]
  split
  · rfl
  · rfl

lemma flights_eq_none {ν : Type*} {flight : ν → Option ℤ} {runs : Dict ℕ ν}
    (h : ∀ r ∈ runs.values, flight r = none) (id : ℕ) : flights flight runs id = none := by
  refine Option.bind_eq_none_iff.mpr fun r hr => ?_
  exact h r (Dict.mem_values_iff.mpr ⟨id, hr⟩)

/-- Where the run is in flight as before, so are all runs. -/
lemma flights_set_of_eq {ν : Type*} {flight : ν → Option ℤ} {runs : Dict ℕ ν} {id : ℕ} {r : ν}
    (h : flight r = flights flight runs id) : flights flight (runs.set id r) =
      flights flight runs := by
  rw [flights_set, h, Function.update_eq_self]

end Vero.DutyRuns

namespace Vero.AttestationService

open Lib DutyRuns SchemaBeaconAPI

variable {c : Context} {now : Moment} {s s' : State} {a : Action} {o : List Output}

def AttestRun.flight (r : AttestRun) : Option ℤ := if r.phase = .ended then none else some r.slot

def State.marks (s : State) : Marks ℕ :=
  ⟨s.lastSlotDutyStartedFor, s.lastSlotDutyCompletedFor, flights AttestRun.flight s.attestRuns⟩

lemma marks_init (duties : Dict ℤ Duties) (roots : Dict ℤ Root) :
    (State.init duties roots).marks = .idle := by
  simp [State.init, State.marks, Marks.idle]

/-- The call of `attest_if_not_yet_attested` a step makes, with its slot. -/
def Action.attempt : Action → Option (ℕ × ℤ)
  | .handleHeadEvent id event => some (id, event.slot)
  | .deadlineJob id slot => some (id, slot)
  | _ => none

/-- An update makes no call. -/
lemma attempt_of_updates (ha : a.updates) : a.attempt = none := by
  cases a with
  | updateDuties | dutiesResponse | selectionProofs | updateFailed => rfl
  | _ => exact absurd ha id

/-- A call for the current slot passes its guards and finds duties. -/
def State.Performs (c : Context) (now : Moment) (s : State) (slot : ℤ) : Prop :=
  ¬ c.refuses now ∧ s.lastSlotDutyStartedFor < slot ∧ (s.dutiesForSlot c slot).Nonempty

lemma dutiesForSlot_pop_of_empty {slot : ℤ} (h : s.dutiesForSlot c slot = ∅) (p : ℤ) :
    (s.popDutiesForSlot c slot).dutiesForSlot c p = s.dutiesForSlot c p := by
  unfold State.dutiesForSlot
  rw [dutiesOf_pop, h]
  simp

lemma runsEffect_attest {id : ℕ} {slot : ℤ} (ev : Option HeadEvent)
    (hnew : s.attestRuns.get id = none) :
    RunsEffect s.marks (s.attestIfNotYetAttested c now id slot ev).1.marks (c.currentSlot now)
      (some (id, slot)) (s.Performs c now (c.currentSlot now)) (∀ p,
        (s.attestIfNotYetAttested c now id slot ev).1.dutiesForSlot c p =
          s.dutiesForSlot c p) := by
  -- without its job the service has the same runs and duties
  obtain ⟨s₁, hs₁, hruns, hstore, hlast⟩ : ∃ s₁ : State,
      (if ev.isSome then { s with jobs := s.jobs.erase slot } else s) = s₁ ∧ s₁.marks = s.marks ∧
        s₁.attesterDuties = s.attesterDuties ∧
        s₁.lastSlotDutyStartedFor = s.lastSlotDutyStartedFor := by
    split
    · exact ⟨_, rfl, rfl, rfl, rfl⟩
    · exact ⟨_, rfl, rfl, rfl, rfl⟩
  have hduties : ∀ p, s₁.dutiesForSlot c p = s.dutiesForSlot c p := fun p => by
    unfold State.dutiesForSlot State.dutiesOf
    rw [hstore]
  simp only [State.attestIfNotYetAttested, hs₁]
  split_ifs with hrefuses hlate hslot
  · exact .stays (fun i _ hp => hp.1 hrefuses) hruns hduties
  · refine .stays (fun i hi hp => ?_) hruns hduties
    obtain ⟨-, rfl⟩ := Prod.mk.inj (Option.some.inj hi)
    exact absurd hp.2.1 (not_lt.mpr (hlast ▸ hlate))
  · refine .stays (fun i hi hp => hslot ?_) hruns hduties
    exact (Prod.mk.inj (Option.some.inj hi)).2
  · have hslot := not_not.mp hslot
    subst hslot
    unfold State.attest
    dsimp only
    by_cases hduty : (s₁.dutiesForSlot c (c.currentSlot now)).Nonempty
    · rw [if_pos hduty]
      refine .starts id rfl ⟨hrefuses, hlast ▸ not_le.mp hlate, hduties _ ▸ hduty⟩
        (by simp [State.marks, flights, hnew]) ?_
      rw [← hruns]
      simp only [State.marks, Marks.start, State.startAttest, flights_set]
      rfl
    · rw [if_neg hduty]
      have hkept : ∀ p, (s₁.popDutiesForSlot c (c.currentSlot now)).dutiesForSlot c p =
          s.dutiesForSlot c p := fun p => by
        rw [dutiesForSlot_pop_of_empty (Finset.not_nonempty_iff_eq_empty.mp hduty), hduties]
      have hidle : ∀ i, some (id, c.currentSlot now) = some (i, c.currentSlot now) →
          ¬ s.Performs c now (c.currentSlot now) := fun _ _ hp => hduty (hduties _ ▸ hp.2.2)
      split
      · exact .stays hidle hruns hkept
      · exact .stays hidle hruns hkept

/-- Setting a run that moves on leaves all runs in flight. -/
lemma marks_setRun {id : ℕ} {r r' : AttestRun} (hget : s.attestRuns.get id = some r)
    (hflight : r'.flight = r.flight) :
    ({ s with attestRuns := s.attestRuns.set id r' } : State).marks = s.marks := by
  simp only [State.marks]
  rw [flights_set_of_eq (by rw [hflight, flights, hget]; rfl)]

lemma marks_endAttest (s : State) (id : ℕ) (r : AttestRun) :
    (s.endAttest id r).marks = s.marks.finish id r.slot := by
  simp only [State.marks, Marks.finish, State.endAttest, flights_set]
  rfl

lemma runsEffect_endAttest {id : ℕ} {r : AttestRun} {slot : ℤ} {performs kept : Prop}
    (hget : s.attestRuns.get id = some r) (hphase : r.phase ≠ .ended) (hkept : kept) :
    RunsEffect s.marks (s.endAttest id r).marks slot none performs kept :=
  .finishes id r.slot rfl (by simp [State.marks, flights, hget, AttestRun.flight, hphase])
    (marks_endAttest s id r) hkept

lemma completed_nextEpoch (u : UpdateRun) :
    (s.nextEpoch c now u).1.lastSlotDutyCompletedFor = s.lastSlotDutyCompletedFor := by
  unfold State.nextEpoch
  split
  · rfl
  · rfl

lemma completed_prove (u : UpdateRun) (root : Root) (batches : List (List AttesterDuty)) :
    (s.prove c now u root batches).1.lastSlotDutyCompletedFor = s.lastSlotDutyCompletedFor := by
  rcases s.prove_cases c now u root batches with ⟨-, he⟩ | ⟨batch, rest, -, -, he⟩
  · rw [he, completed_nextEpoch]
  · rw [he]

lemma marks_of_update (ha : a.updates) (h : step c now s a = some (s', o)) :
    s'.marks = s.marks := by
  obtain ⟨hlast, -, hruns, -⟩ := update_frame ha h
  have hcompleted : s'.lastSlotDutyCompletedFor = s.lastSlotDutyCompletedFor := by
    cases updateEffect_of_step ha h with
    | skipped | failed => rfl
    | began u | repeated _ u => exact completed_nextEpoch u
    | replaced _ _ _ _ _ _ _ _ hs₁ | proved _ _ _ _ _ _ _ _ _ _ hs₁ =>
      subst hs₁
      exact completed_prove _ _ _
  simp only [State.marks, hlast, hcompleted, hruns]

/-- **The runs of `_attest`.** -/
lemma runsEffect_of_step (h : step c now s a = some (s', o)) :
    RunsEffect s.marks s'.marks (c.currentSlot now) a.attempt (s.Performs c now (c.currentSlot now))
      (¬ a.updates → ∀ p, s'.dutiesForSlot c p = s.dutiesForSlot c p) := by
  by_cases ha : a.updates
  · exact .stays (by simp [attempt_of_updates ha]) (marks_of_update ha h) fun hno => absurd ha hno
  · cases transition_of_step ha h with
    | onNewSlot => exact .stays (by simp [Action.attempt]) rfl fun _ p => rfl
    | lateHeadEvent id event late =>
      refine .stays (fun i hi hp => ?_) rfl fun _ p => rfl
      obtain ⟨-, hslot⟩ := Prod.mk.inj (Option.some.inj hi)
      exact absurd hp.2.1 (not_lt.mpr (hslot ▸ late))
    | handleHeadEvent id event new =>
      exact (runsEffect_attest (some event) new).imp fun kept _ => kept
    | deadlineJob id slot new =>
      exact (runsEffect_attest (s := { s with jobs := s.jobs.erase slot }) none new).imp
        fun kept _ => kept
    | produced id r attData get producing =>
      refine .stays (by simp [Action.attempt]) (marks_setRun get ?_) fun _ p => rfl
      simp [AttestRun.flight, producing]
    | refused id r attData get producing =>
      exact runsEffect_endAttest get (by simp [producing]) fun _ p => rfl
    | requestSignature id r duty attData get =>
      exact .stays (by simp [Action.attempt]) (marks_setRun get rfl) fun _ p => rfl
    | attestEnded id r get running => exact runsEffect_endAttest get running fun _ p => rfl

/-- A call is a new one. -/
lemma new_of_attempt {id : ℕ} {slot : ℤ} (ha : a.attempt = some (id, slot))
    (h : step c now s a = some (s', o)) : s.attestRuns.get id = none := by
  have hno : ¬ a.updates := fun hu => by simp [attempt_of_updates hu] at ha
  cases transition_of_step hno h with
  | lateHeadEvent i event late new | handleHeadEvent i event new | deadlineJob i p new =>
    obtain ⟨rfl, -⟩ := Prod.mk.inj (Option.some.inj ha)
    exact new
  | _ => simp [Action.attempt] at ha

/-- A run in flight may end at any time. -/
lemma attestEnded_of_flight (c : Context) (now : Moment) {id : ℕ} {p : ℤ}
    (hget : s.marks.inFlight id = some p) :
    ∃ s', step c now s (.attestEnded id) = some (s', []) ∧ s'.marks = s.marks.finish id p := by
  obtain ⟨r, hr, hflight⟩ := Option.bind_eq_some_iff.mp hget
  obtain ⟨hphase, rfl⟩ : r.phase ≠ .ended ∧ r.slot = p := by simpa [AttestRun.flight] using hflight
  exact ⟨s.endAttest id r, by simp [step, hr, hphase], marks_endAttest s id r⟩

end Vero.AttestationService

namespace Vero.BlockProposalService

open Lib DutyRuns SchemaBeaconAPI

variable {c : Context} {now : Moment} {s s' : State} {a : Action} {o : List Output}

def SlotTask.flight (t : SlotTask) : Option ℤ := if t.phase.proposing then some t.slot else none

def State.marks (s : State) : Marks ℕ :=
  ⟨s.lastSlotDutyStartedFor, s.lastSlotDutyCompletedFor, flights SlotTask.flight s.slotTasks⟩

lemma marks_init (duties : Dict ℤ Duties) (roots : Dict ℤ Root) :
    (State.init duties roots).marks = .idle := by
  simp [State.init, State.marks, Marks.idle]

/-- The call of `propose_block` a step makes, with its slot. -/
def Action.attempt : Action → Option (ℕ × ℤ)
  | .onNewSlot id slot => some (id, slot)
  | _ => none

/-- The actions of `_update_duties`. -/
def Action.updates : Action → Prop
  | .updateDuties | .dutiesResponse _ _ | .updateFailed => True
  | _ => False

/-- A call for the current slot passes its guards and finds a duty. -/
def State.Performs (c : Context) (now : Moment) (s : State) (slot : ℤ) : Prop :=
  ¬ c.refuses now ∧ s.lastSlotDutyStartedFor < slot ∧
    ∃ duty, s.dutyForSlot c slot = .ok (some duty)

/-- The duties of the slot, of which there should be one at most. -/
def State.slotDuties (c : Context) (s : State) (slot : ℤ) : Duties :=
  (s.dutiesOf (c.beaconChain.epoch slot)).filter fun duty => duty.slot = slot

lemma dutyForSlot_congr {slot : ℤ} (h : s'.slotDuties c slot = s.slotDuties c slot) :
    s'.dutyForSlot c slot = s.dutyForSlot c slot := by
  unfold State.slotDuties at h
  unfold State.dutyForSlot
  rw [h]

lemma hasDutyForSlot_congr {slot : ℤ} (h : s'.slotDuties c slot = s.slotDuties c slot) :
    s'.hasDutyForSlot c slot = s.hasDutyForSlot c slot := by
  unfold State.hasDutyForSlot
  rw [dutyForSlot_congr h]

/-- Once its duty was taken out, the slot has none. -/
lemma hasDutyForSlot_removeDuty {slot : ℤ} {duty : ProposerDuty}
    (h : s.dutyForSlot c slot = .ok (some duty)) :
    (s.removeDuty c slot duty).hasDutyForSlot c slot = some false := by
  have hduties : s.slotDuties c slot = [duty] := by
    unfold State.dutyForSlot at h
    unfold State.slotDuties
    split at h
    · simp at h
    · next d hd =>
      obtain rfl := Option.some.inj (Except.ok.inj h)
      exact hd
    · simp at h
  have hnone : (s.removeDuty c slot duty).slotDuties c slot = [] := by
    unfold State.slotDuties at hduties ⊢
    unfold State.removeDuty State.dutiesOf
    rw [Dict.getD_set, if_pos rfl, ← List.erase_filter]
    unfold State.dutiesOf at hduties
    rw [hduties]
    simp
  unfold State.slotDuties at hnone
  unfold State.hasDutyForSlot State.dutyForSlot
  rw [hnone]
  rfl

lemma flight_of_not_proposing {t : SlotTask} (h : t.phase.proposing = false) : t.flight = none := by
  simp [SlotTask.flight, h]

/-- A task that is in flight as before. -/
lemma marks_setPhase {id : ℕ} {t : SlotTask} {phase : Phase}
    (h : SlotTask.flight ⟨t.slot, phase⟩ = flights SlotTask.flight s.slotTasks id) :
    (s.setPhase id t phase).marks = s.marks := by
  simp only [State.marks, State.setPhase]
  rw [flights_set_of_eq h]

lemma marks_setPhase_of_get {id : ℕ} {t : SlotTask} {phase : Phase}
    (hget : s.slotTasks.get id = some t) (hphase : phase.proposing = t.phase.proposing) :
    (s.setPhase id t phase).marks = s.marks :=
  marks_setPhase (by simp [flights, hget, SlotTask.flight, hphase])

/-- A proposal that ends, whatever its task does then. -/
lemma marks_ended {id : ℕ} {t : SlotTask} {phase : Phase} (hphase : phase.proposing = false) :
    ({ s with lastSlotDutyCompletedFor := t.slot }.setPhase id t phase).marks =
      s.marks.finish id t.slot := by
  simp only [State.marks, State.setPhase, Marks.finish, flights_set]
  rw [flight_of_not_proposing hphase]

lemma runsEffect_startPropose {id : ℕ} {duty : ProposerDuty} {s₁ : State} {kept : Prop}
    (hnew : s.slotTasks.get id = none) (hperforms : s.Performs c now (c.currentSlot now))
    (hs₁ : s₁.marks = s.marks) :
    RunsEffect s.marks (s₁.startPropose c id ⟨c.currentSlot now, .ended⟩ duty).1.marks
      (c.currentSlot now) (some (id, c.currentSlot now)) (s.Performs c now (c.currentSlot now))
      kept := by
  refine .starts id rfl hperforms (by simp [State.marks, flights, hnew]) ?_
  rw [← hs₁]
  unfold State.startPropose
  dsimp only
  split
  · simp only [State.marks, State.setPhase, Marks.start, flights_set]
    rfl
  · simp only [State.marks, State.setPhase, Marks.start, flights_set]
    rfl

lemma runsEffect_onNewSlot {id : ℕ} {slot : ℤ} (hnew : s.slotTasks.get id = none) :
    RunsEffect s.marks (s.onNewSlot c now id slot).1.marks (c.currentSlot now) (some (id, slot))
      (s.Performs c now (c.currentSlot now))
      (∀ p, (s.onNewSlot c now id slot).1.slotDuties c p = s.slotDuties c p) := by
  -- a new task in which nothing is proposed
  have hidle : ∀ phase : Phase, phase.proposing = false →
      (s.setPhase id ⟨slot, .ended⟩ phase).marks = s.marks := fun phase hphase =>
    marks_setPhase (by simp [flights, hnew, SlotTask.flight, hphase])
  unfold State.onNewSlot
  dsimp only
  split_ifs with hrefuses hlate hslot
  · exact .stays (fun _ _ hp => hp.1 hrefuses) (hidle _ rfl) fun p => rfl
  · refine .stays (fun i hi hp => ?_) (hidle _ rfl) fun p => rfl
    obtain ⟨-, rfl⟩ := Prod.mk.inj (Option.some.inj hi)
    exact absurd hp.2.1 (not_lt.mpr hlate)
  · refine .stays (fun i hi hp => hslot ?_) (hidle _ rfl) fun p => rfl
    exact (Prod.mk.inj (Option.some.inj hi)).2
  · have hslot := not_not.mp hslot
    subst hslot
    split
    · next hduty =>
      refine .stays (fun _ _ hp => ?_) (hidle _ rfl) fun p => rfl
      obtain ⟨-, -, d, hd⟩ := hp
      simp [hduty] at hd
    · next hduty =>
      obtain ⟨phase, hphase, hs, -⟩ :=
        prepareNextSlot_idle (c := c) s id ⟨c.currentSlot now, .ended⟩
      rw [hs]
      refine .stays (fun _ _ hp => ?_) (hidle _ hphase) fun p => rfl
      obtain ⟨-, -, d, hd⟩ := hp
      simp [hduty] at hd
    · next duty hduty =>
      exact runsEffect_startPropose hnew ⟨hrefuses, not_le.mp hlate, duty, hduty⟩ rfl

lemma marks_nextEpoch (u : UpdateRun) : (s.nextEpoch c now u).1.marks = s.marks := by
  unfold State.nextEpoch
  split
  · rfl
  · rfl

/-- **The runs of `_propose_block`.** -/
lemma runsEffect_of_step (h : step c now s a = some (s', o)) :
    RunsEffect s.marks s'.marks (c.currentSlot now) a.attempt (s.Performs c now (c.currentSlot now))
      (¬ a.updates → ∀ p, s'.slotDuties c p = s.slotDuties c p) := by
  have hmoved : ∀ {id : ℕ} {t : SlotTask} {phase : Phase} (cache : Dict ℤ String),
      s.slotTasks.get id = some t → phase.proposing = t.phase.proposing → a.attempt = none →
      RunsEffect s.marks ({ s with randaoRevealCache := cache }.setPhase id t phase).marks
        (c.currentSlot now) a.attempt (s.Performs c now (c.currentSlot now))
        (¬ a.updates → ∀ p, ({ s with randaoRevealCache := cache }.setPhase id t phase).slotDuties c
          p = s.slotDuties c p) := by
    intro id t phase cache hget hphase ha
    exact .stays (by simp [ha]) (marks_setPhase_of_get hget hphase) fun _ p => rfl
  have hfinish : ∀ {id : ℕ} {t : SlotTask} {phase : Phase}, s.slotTasks.get id = some t →
      t.phase.proposing = true → phase.proposing = false → a.attempt = none →
      RunsEffect s.marks ({ s with lastSlotDutyCompletedFor := t.slot }.setPhase id t phase).marks
        (c.currentSlot now) a.attempt (s.Performs c now (c.currentSlot now))
        (¬ a.updates → ∀ p, ({ s with lastSlotDutyCompletedFor := t.slot }.setPhase id t
          phase).slotDuties c p = s.slotDuties c p) := by
    intro id t phase hget hphase hphase' ha
    exact .finishes id t.slot ha (by simp [State.marks, flights, hget, SlotTask.flight, hphase])
      (marks_ended hphase') fun _ p => rfl
  cases transition_of_step h with
  | onNewSlot id slot new => exact (runsEffect_onNewSlot new).imp fun kept _ => kept
  | fetched id t duty reveal get phase =>
    exact hmoved _ get (by simp [phase, Phase.proposing]) rfl
  | prefetched id t duty reveal get phase =>
    exact hmoved _ get (by simp [phase, Phase.proposing]) rfl
  | produced id t duty reveal block get phase =>
    exact hmoved s.randaoRevealCache get (by simp [phase, Phase.proposing]) rfl
  | signed id t duty block signature get phase =>
    exact hmoved s.randaoRevealCache get (by simp [phase, Phase.proposing]) rfl
  | published id t duty get phase =>
    obtain ⟨phase', hidle, hs, -⟩ :=
      prepareNextSlot_idle (c := c) { s with lastSlotDutyCompletedFor := t.slot } id t
    rw [hs]
    exact hfinish get (by simp [phase, Phase.proposing]) hidle rfl
  | prepared id t get phase =>
    exact hmoved s.randaoRevealCache get (by simp [phase, Phase.proposing]) rfl
  | proposalFailed id t get proposing => exact hfinish get proposing rfl rfl
  | failed id t get idle => exact hmoved s.randaoRevealCache get (by rw [idle]; rfl) rfl
  | noValidators => exact .stays (by simp [Action.attempt]) rfl fun hno => absurd trivial hno
  | updateDuties _ u =>
    exact .stays (by simp [Action.attempt]) (marks_nextEpoch u) fun hno => absurd trivial hno
  | dutiesResponse u =>
    exact .stays (by simp [Action.attempt]) (marks_nextEpoch u) fun hno => absurd trivial hno
  | updateFailed => exact .stays (by simp [Action.attempt]) rfl fun hno => absurd trivial hno

/-- A call is a new one. -/
lemma new_of_attempt {id : ℕ} {slot : ℤ} (ha : a.attempt = some (id, slot))
    (h : step c now s a = some (s', o)) : s.slotTasks.get id = none := by
  cases transition_of_step h with
  | onNewSlot i p new =>
    obtain ⟨rfl, -⟩ := Prod.mk.inj (Option.some.inj ha)
    exact new
  | _ => simp [Action.attempt] at ha

/-- A call that begins a run takes out the duty of the slot. -/
lemma hasDutyForSlot_of_performs {id : ℕ} (ha : a.attempt = some (id, c.currentSlot now))
    (h : step c now s a = some (s', o)) (hp : s.Performs c now (c.currentSlot now)) :
    s'.hasDutyForSlot c (c.currentSlot now) = some false := by
  cases transition_of_step h with
  | onNewSlot i p =>
    obtain ⟨rfl, rfl⟩ := Prod.mk.inj (Option.some.inj ha)
    obtain ⟨hrefuses, hlate, duty, hduty⟩ := hp
    unfold State.onNewSlot
    dsimp only
    rw [if_neg hrefuses, if_neg (not_le.mpr hlate), if_neg (not_not.mpr rfl), hduty]
    refine (hasDutyForSlot_congr ?_).trans (hasDutyForSlot_removeDuty hduty)
    unfold State.startPropose
    dsimp only
    split
    · rfl
    · rfl
  | _ => simp [Action.attempt] at ha

/-- A run in flight may fail at any time. -/
lemma failed_of_flight (c : Context) (now : Moment) {id : ℕ} {p : ℤ}
    (hget : s.marks.inFlight id = some p) :
    ∃ s', step c now s (.failed id) = some (s', []) ∧ s'.marks = s.marks.finish id p := by
  obtain ⟨t, ht, hflight⟩ := Option.bind_eq_some_iff.mp hget
  obtain ⟨hphase, rfl⟩ : t.phase.proposing = true ∧ t.slot = p := by
    simpa [SlotTask.flight] using hflight
  refine ⟨s.failed id t, by simp [step, ht], ?_⟩
  unfold State.failed
  rw [if_pos hphase]
  exact marks_ended rfl

end Vero.BlockProposalService

namespace Vero.SyncCommitteeService

open Lib DutyRuns SchemaBeaconAPI

variable {b : SyncBeaconChain} {s s' : State} {a : Action} {o : List Output}

/-- A run is in flight while it awaits the head block root, the signatures or their
publication. -/
def ProduceRun.flight (r : ProduceRun) : Option ℤ :=
  match r.phase with
  | .gettingRoot _ | .signing => some r.slot
  | .alreadyLater | .invalidSlot | .noDuties | .failed | .ended => none

def State.marks (s : State) : Marks ℕ :=
  ⟨s.lastSlotDutyStartedFor, s.lastSlotDutyCompletedFor, flights ProduceRun.flight s.produceRuns⟩

lemma marks_init (time : ℚ) (duties : Dict ℤ (List SyncDuty)) :
    (State.init time duties).marks = .idle := by
  simp [State.init, State.marks, Marks.idle]

/-- The call of `produce_sync_message` a step makes, with its slot. -/
def Action.attempt : Action → Option (ℕ × ℤ)
  | .handleHeadEvent id event => some (id, event.slot)
  | .deadlineJob id slot => some (id, slot)
  | _ => none

/-- The actions of `_update_duties`. -/
def Action.updates : Action → Prop
  | .updateDuties _ | .dutiesResponse _ | .updateFailed => True
  | _ => False

/-- A call for the current slot is not refused and finds members. -/
def State.Performs (b : SyncBeaconChain) (s : State) (slot : ℤ) : Prop :=
  s.lastSlotDutyStartedFor ≤ slot ∧ (s.syncCommitteeMembers b slot).Nonempty

/-- A run that is in flight as before. -/
lemma marks_setRun {s₁ : State} {id : ℕ} {r : ProduceRun} (hs₁ : s₁.marks = s.marks)
    (h : r.flight = flights ProduceRun.flight s.produceRuns id) :
    (s₁.setRun id r).marks = s.marks := by
  have hflights : flights ProduceRun.flight s₁.produceRuns =
      flights ProduceRun.flight s.produceRuns := congrArg Marks.inFlight hs₁
  rw [← hs₁]
  simp only [State.marks, State.setRun]
  rw [flights_set_of_eq (by rw [h, hflights])]

lemma marks_endRun {id : ℕ} {r : ProduceRun} {phase : Phase}
    (h : ProduceRun.flight { r with phase } = none) :
    (s.endRun id r phase).marks = s.marks.finish id r.slot := by
  simp only [State.marks, State.endRun, State.setRun, Marks.finish, flights_set, h]

lemma runsEffect_produce {id : ℕ} {slot : ℤ} (ev : Option HeadEvent)
    (hnew : s.produceRuns.get id = none) :
    RunsEffect s.marks (s.produceSyncMessage b id slot ev).1.marks (b.currentSlot s.time)
      (some (id, slot)) (s.Performs b (b.currentSlot s.time))
      ((s.produceSyncMessage b id slot ev).1.syncDuties = s.syncDuties) := by
  have hidle : none = flights ProduceRun.flight s.produceRuns id := by simp [flights, hnew]
  unfold State.produceSyncMessage
  dsimp only
  by_cases h1 : slot < s.lastSlotDutyStartedFor
  · rw [if_pos h1]
    refine .stays (fun i hi hp => ?_) (marks_setRun rfl hidle) rfl
    obtain ⟨-, rfl⟩ := Prod.mk.inj (Option.some.inj hi)
    exact absurd hp.1 (not_le.mpr h1)
  · rw [if_neg h1]
    by_cases h2 : slot = b.currentSlot s.time
    · rw [if_neg (not_not.mpr h2)]
      subst h2
      by_cases h3 : validators (s.dutiesOf
          (b.computeSyncPeriodForSlot (b.currentSlot s.time + 1))) = ∅
      · rw [if_pos h3]
        refine .stays (fun i _ hp => ?_) (marks_setRun ?_ hidle) ?_
        · exact Finset.nonempty_iff_ne_empty.mp hp.2 h3
        · split <;> rfl
        · change (if _ then _ else s).syncDuties = _
          split <;> rfl
      · rw [if_neg h3]
        have hperforms : s.Performs b (b.currentSlot s.time) :=
          ⟨not_lt.mp h1, Finset.nonempty_iff_ne_empty.mpr h3⟩
        cases ev with
        | some event =>
          refine .starts id rfl hperforms hidle.symm ?_
          simp only [State.marks, Marks.start, State.signMessages, State.setRun, flights_set]
          rfl
        | none =>
          refine .starts id rfl hperforms hidle.symm ?_
          simp only [State.marks, Marks.start, State.setRun, flights_set]
          rfl
    · rw [if_pos h2]
      refine .stays (fun i hi hp => h2 ?_) (marks_setRun rfl hidle) rfl
      exact (Prod.mk.inj (Option.some.inj hi)).2

/-- **The runs of `_produce_sync_message`.** -/
lemma runsEffect_of_step (h : step b s a = some (s', o)) :
    RunsEffect s.marks s'.marks (b.currentSlot s.time) a.attempt
      (s.Performs b (b.currentSlot s.time)) (¬ a.updates → s'.syncDuties = s.syncDuties) := by
  cases transition_of_step h with
  | clock | onNewSlot => exact .stays (by simp [Action.attempt]) rfl fun _ => rfl
  | handleHeadEvent id event new =>
    exact (runsEffect_produce (some event) new).imp fun kept _ => kept
  | deadlineJob id slot new =>
    exact (runsEffect_produce (s := { s with jobs := s.jobs.erase slot }) none new).imp
      fun kept _ => kept
  | rooted id r p root get phase =>
    refine .stays (by simp [Action.attempt]) (marks_setRun rfl ?_) fun _ => rfl
    simp [flights, get, ProduceRun.flight, phase]
  | rootFailed id r p get phase =>
    exact .finishes id r.slot rfl (by simp [State.marks, flights, get, ProduceRun.flight, phase])
      (marks_endRun rfl) fun _ => rfl
  | signingFailed id r get phase | published id r get phase =>
    exact .finishes id r.slot rfl (by simp [State.marks, flights, get, ProduceRun.flight, phase])
      (marks_endRun rfl) fun _ => rfl
  | noValidators | updateDuties | updateFailed =>
    exact .stays (by simp [Action.attempt]) rfl fun hno => absurd trivial hno
  | dutiesResponse data epoch =>
    refine .stays (by simp [Action.attempt]) ?_ fun hno => absurd trivial hno
    unfold State.dutiesResponse
    dsimp only
    split_ifs <;> rfl

/-- A call is a new one. -/
lemma new_of_attempt {id : ℕ} {slot : ℤ} (ha : a.attempt = some (id, slot))
    (h : step b s a = some (s', o)) : s.produceRuns.get id = none := by
  cases transition_of_step h with
  | handleHeadEvent i event new | deadlineJob i p new =>
    obtain ⟨rfl, -⟩ := Prod.mk.inj (Option.some.inj ha)
    exact new
  | _ => simp [Action.attempt] at ha

/-- A run in flight may fail at any time. -/
lemma produceFailed_of_flight {id : ℕ} {p : ℤ} (hget : s.marks.inFlight id = some p) :
    ∃ s', step b s (.produceFailed id) = some (s', []) ∧ s'.marks = s.marks.finish id p := by
  obtain ⟨r, hr, hflight⟩ := Option.bind_eq_some_iff.mp hget
  unfold ProduceRun.flight at hflight
  split at hflight
  · next hphase =>
    obtain rfl := Option.some.inj hflight
    exact ⟨s.endRun id r .failed, by simp [step, hr, hphase], marks_endRun rfl⟩
  · next hphase =>
    obtain rfl := Option.some.inj hflight
    exact ⟨s.endRun id r .ended, by simp [step, hr, hphase], marks_endRun rfl⟩
  all_goals simp at hflight

/-- Only the clock moves on, and then nothing else does. -/
lemma time_of_step (h : step b s a = some (s', o)) (hne : s'.marks ≠ s.marks) :
    s'.time = s.time := by
  cases effect_of_step h with
  | frame time =>
    rcases time with ht | rfl
    · exact ht
    · obtain ⟨he, -⟩ := Prod.mk.inj (Option.some.inj h)
      exact absurd (congrArg State.marks he).symm hne
  | began | failed => rfl
  | answered data epoch => exact (response_frame s epoch data).1

lemma time_of_attempt {x : ℕ × ℤ} (ha : a.attempt = some x) (h : step b s a = some (s', o)) :
    s'.time = s.time := by
  cases effect_of_step h with
  | frame time =>
    rcases time with ht | rfl
    · exact ht
    · simp [Action.attempt] at ha
  | began | failed => rfl
  | answered data epoch => exact (response_frame s epoch data).1

lemma hasDutyForSlot_congr {slot : ℤ} (h : s'.dutiesOf (b.computeSyncPeriodForSlot slot) =
    s.dutiesOf (b.computeSyncPeriodForSlot slot)) :
    s'.hasDutyForSlot b slot = s.hasDutyForSlot b slot := by
  rw [Bool.eq_iff_iff, hasDutyForSlot_iff, hasDutyForSlot_iff, h]

lemma syncCommitteeMembers_congr {slot : ℤ}
    (h : s'.dutiesOf (b.computeSyncPeriodForSlot (slot + 1)) =
      s.dutiesOf (b.computeSyncPeriodForSlot (slot + 1))) :
    s'.syncCommitteeMembers b slot = s.syncCommitteeMembers b slot :=
  congrArg validators h

end Vero.SyncCommitteeService

namespace Vero.DutyRuns

open Lib Lib.Runs

/-- A duty service with all that moves around it. Its test for a duty may raise; the duties of a
slot are all that the test and an attempt look up. -/
structure Service where
  State : Type
  Action : Type
  Output : Type
  step : Machine State Action Output
  currentSlot : State → ℤ
  marks : State → Marks ℕ
  hasDutyForSlot : State → ℤ → Option Bool
  Duties : Type
  duties : State → ℤ → Duties
  updates : Action → Prop
  attempt : Action → Option (ℕ × ℤ)
  Performs : State → ℤ → Prop

namespace Service

variable (d : Service)

def hasOngoingDuty (s : d.State) : Prop := (d.marks s).Ongoing (d.currentSlot s)

/-- `wait_for_duty_completion` up to its first await. -/
def waitForDutyCompletion (s : d.State) : Shutdown.Wait :=
  Shutdown.DutyService.waitForDutyCompletion
    ⟨(d.marks s).started, (d.marks s).finished, d.hasDutyForSlot s⟩ (d.currentSlot s)

/-- What the steps of a duty service have in common. -/
structure Lawful : Prop where
  nonneg : ∀ s, 0 ≤ d.currentSlot s
  effect : ∀ {s a s' o}, d.step s a = some (s', o) →
    RunsEffect (d.marks s) (d.marks s') (d.currentSlot s) (d.attempt a)
      (d.Performs s (d.currentSlot s)) (¬ d.updates a → ∀ p, d.duties s' p = d.duties s p)
  sameSlot : ∀ {s a s' o}, d.step s a = some (s', o) → d.marks s' ≠ d.marks s →
    d.currentSlot s' = d.currentSlot s
  fresh : ∀ {s a s' o id p}, d.step s a = some (s', o) → d.attempt a = some (id, p) →
    (d.marks s).inFlight id = none ∧ d.currentSlot s' = d.currentSlot s
  calls : ∀ {a x}, d.attempt a = some x → ¬ d.updates a
  fails : ∀ {s id p}, (d.marks s).inFlight id = some p → ∃ a s' o, d.step s a = some (s', o) ∧
    d.attempt a = none ∧ ¬ d.updates a ∧ d.marks s' = (d.marks s).finish id p
  hasDuty_congr : ∀ {s s' p}, d.duties s' p = d.duties s p →
    d.hasDutyForSlot s' p = d.hasDutyForSlot s p
  performs_of_step : ∀ {s a s' o p}, d.step s a = some (s', o) →
    (d.marks s').started = (d.marks s).started → d.duties s' p = d.duties s p →
    d.Performs s' p → d.Performs s p
  tested : ∀ {s a s' o id}, d.step s a = some (s', o) →
    d.attempt a = some (id, d.currentSlot s) → d.Performs s (d.currentSlot s) →
    d.hasDutyForSlot s' (d.currentSlot s) ≠ none

end Service

section Lawful

variable {d : Service} {s s' : d.State} {a : d.Action} {o : List d.Output} {id : ℕ}

namespace Service.Lawful

lemma move (hd : d.Lawful) (h : d.step s a = some (s', o)) :
    (d.marks s).Move (d.currentSlot s) (d.marks s') := by
  rcases hd.effect h with ⟨id, -, -, new, he⟩ | ⟨-, he, -⟩ | ⟨id, p, -, get, he, -⟩
  · exact he ▸ .start id new
  · exact he ▸ .stay
  · exact he ▸ .finish id p get

/-- A call that finds something to do begins a run. -/
lemma starts (hd : d.Lawful) (h : d.step s a = some (s', o))
    (ha : d.attempt a = some (id, d.currentSlot s)) (hp : d.Performs s (d.currentSlot s)) :
    d.marks s' = (d.marks s).start id (d.currentSlot s) := by
  rcases hd.effect h with ⟨i, hi, -, -, he⟩ | ⟨hidle, -, -⟩ | ⟨i, p, hi, -⟩
  · obtain ⟨rfl, -⟩ := Prod.mk.inj (Option.some.inj (ha.symm.trans hi))
    exact he
  · exact absurd hp (hidle id ha)
  · simp [ha] at hi

/-- Any other call ends at once and leaves the counters, the runs and the duties alone. -/
lemma stays (hd : d.Lawful) (h : d.step s a = some (s', o))
    (ha : d.attempt a = some (id, d.currentSlot s)) (hp : ¬ d.Performs s (d.currentSlot s)) :
    d.marks s' = d.marks s ∧ ∀ p, d.duties s' p = d.duties s p := by
  rcases hd.effect h with ⟨i, -, hperforms, -⟩ | ⟨-, he, hkept⟩ | ⟨i, p, hi, -⟩
  · exact absurd hperforms hp
  · exact ⟨he, hkept (hd.calls ha)⟩
  · simp [ha] at hi

/-- A run in flight may fail at any time, which ends it in the slot that is current. -/
lemma fails_next (hd : d.Lawful) {p : ℤ} (hget : (d.marks s).inFlight id = some p) :
    ∃ a s' o, d.step s a = some (s', o) ∧ ¬ d.updates a ∧ d.currentSlot s' = d.currentSlot s ∧
      d.marks s' = (d.marks s).finish id p ∧ ∀ q, d.duties s' q = d.duties s q := by
  obtain ⟨a, s', o, h, hattempt, hno, hmarks⟩ := hd.fails hget
  refine ⟨a, s', o, h, hno, hd.sameSlot h fun he => ?_, hmarks, ?_⟩
  · have hsame := congrFun (congrArg Marks.inFlight (hmarks.symm.trans he)) id
    rw [Marks.inFlight_finish, if_pos rfl, hget] at hsame
    exact Option.some_ne_none p hsame.symm
  · rcases hd.effect h with ⟨i, hi, -⟩ | ⟨-, -, hkept⟩ | ⟨i, q, -, -, -, hkept⟩
    · simp [hattempt] at hi
    · exact hkept hno
    · exact hkept hno

end Service.Lawful

end Lawful

/-- The attestation service in its process. -/
def attestation (c : Context) : Service where
  State := Services.State
  Action := Services.Action
  Output := Services.Output
  step := Services.step c
  currentSlot s := c.currentSlot s.now
  marks s := s.attestation.marks
  hasDutyForSlot s slot := some (decide (s.attestation.hasDutyForSlot c slot))
  Duties := AttestationService.Duties
  duties s slot := s.attestation.dutiesForSlot c slot
  updates a := ∃ b ∈ a.ofAttestation, b.updates
  attempt a := a.ofAttestation.bind AttestationService.Action.attempt
  Performs s slot := s.attestation.Performs c s.now slot

/-- The block proposal service in its process. -/
def blockProposal (c : Context) : Service where
  State := Services.State
  Action := Services.Action
  Output := Services.Output
  step := Services.step c
  currentSlot s := c.currentSlot s.now
  marks s := s.blockProposal.marks
  hasDutyForSlot s slot := s.blockProposal.hasDutyForSlot c slot
  Duties := BlockProposalService.Duties
  duties s slot := s.blockProposal.slotDuties c slot
  updates a := ∃ b, a = .blockProposal b ∧ b.updates
  attempt
    | .blockProposal b => b.attempt
    | _ => none
  Performs s slot := s.blockProposal.Performs c s.now slot

def syncCommittee (b : SyncBeaconChain) : Service where
  State := SyncCommitteeService.State
  Action := SyncCommitteeService.Action
  Output := SyncCommitteeService.Output
  step := SyncCommitteeService.step b
  currentSlot s := b.currentSlot s.time
  marks s := s.marks
  hasDutyForSlot s slot := some (s.hasDutyForSlot b slot)
  Duties := List SyncCommitteeService.SyncDuty × List SyncCommitteeService.SyncDuty
  duties s slot := (s.dutiesOf (b.computeSyncPeriodForSlot slot),
    s.dutiesOf (b.computeSyncPeriodForSlot (slot + 1)))
  updates a := a.updates
  attempt a := a.attempt
  Performs s slot := s.Performs b slot

/-- A refusal outlasts every step. -/
lemma refuses_stays {c : Context} {s s' : Services.State} {a : Services.Action}
    {o : List Services.Output} (h : Services.step c s a = some (s', o))
    (hrefuses : c.refuses s.now) : c.refuses s'.now :=
  ⟨Services.slashingDetected_stays h hrefuses.1, hrefuses.2⟩

lemma attestation_lawful (c : Context) : (attestation c).Lawful where
  nonneg s := c.beaconChain.currentSlot_nonneg s.time
  effect {s a s' o} h := by
    cases a with
    | attestation b =>
      obtain ⟨p, hb, he⟩ := Option.map_eq_some_iff.mp h
      obtain ⟨rfl, -⟩ := Prod.mk.inj he
      exact (AttestationService.runsEffect_of_step hb).imp fun kept hno =>
        kept fun hb => hno ⟨b, rfl, hb⟩
    | clock | tracker =>
      obtain ⟨rfl, -⟩ := Prod.mk.inj (Option.some.inj h)
      exact .stays (by simp [attestation, Services.Action.ofAttestation]) rfl fun _ p => rfl
    | blockProposal b =>
      obtain ⟨p, -, he⟩ := Option.map_eq_some_iff.mp h
      obtain ⟨rfl, -⟩ := Prod.mk.inj he
      exact .stays (by simp [attestation, Services.Action.ofAttestation]) rfl fun _ p => rfl
  sameSlot {s a s' o} h hne := by
    rcases Services.attestation_of_step h with ⟨b, o', rfl, hb, -, hnow⟩ | ⟨he, -, -⟩
    · exact congrArg c.currentSlot hnow
    · exact absurd (congrArg AttestationService.State.marks he) hne
  fresh {s a s' o id p} h ha := by
    obtain ⟨b, hb, hattempt⟩ := Option.bind_eq_some_iff.mp ha
    obtain rfl := Services.eq_of_ofAttestation hb
    obtain ⟨q, hq, he⟩ := Option.map_eq_some_iff.mp h
    obtain ⟨rfl, -⟩ := Prod.mk.inj he
    have hnew := AttestationService.new_of_attempt hattempt hq
    exact ⟨by simp [attestation, AttestationService.State.marks, flights, hnew], rfl⟩
  calls {a x} ha hno := by
    obtain ⟨b, hb, hattempt⟩ := Option.bind_eq_some_iff.mp ha
    obtain ⟨b', hb', hupdates⟩ := hno
    obtain rfl := Option.some.inj (hb.symm.trans hb')
    simp [AttestationService.attempt_of_updates hupdates] at hattempt
  fails {s id p} hget := by
    obtain ⟨t, ht, hmarks⟩ := AttestationService.attestEnded_of_flight c s.now hget
    refine ⟨.attestation (.attestEnded id), { s with attestation := t }, [], ?_, rfl, ?_, hmarks⟩
    · simp [attestation, Services.step, ht]
    · rintro ⟨b, hb, hupdates⟩
      obtain rfl := Option.some.inj hb
      exact hupdates
  hasDuty_congr {s s' p} he := by
    have he : s'.attestation.dutiesForSlot c p = s.attestation.dutiesForSlot c p := he
    refine congrArg some (decide_eq_decide.mpr ?_)
    unfold AttestationService.State.hasDutyForSlot
    rw [he]
  performs_of_step {s a s' o p} h hstarted hduties hp := by
    have hduties : s'.attestation.dutiesForSlot c p = s.attestation.dutiesForSlot c p := hduties
    obtain ⟨hrefuses, hlate, hduty⟩ := hp
    exact ⟨fun hr => hrefuses (refuses_stays h hr), lt_of_eq_of_lt hstarted.symm hlate,
      hduties ▸ hduty⟩
  tested _ _ _ := by simp [attestation]

lemma blockProposal_lawful (c : Context) : (blockProposal c).Lawful where
  nonneg s := c.beaconChain.currentSlot_nonneg s.time
  effect {s a s' o} h := by
    cases a with
    | blockProposal b =>
      obtain ⟨p, hb, he⟩ := Option.map_eq_some_iff.mp h
      obtain ⟨rfl, -⟩ := Prod.mk.inj he
      exact (BlockProposalService.runsEffect_of_step hb).imp fun kept hno =>
        kept fun hb => hno ⟨b, rfl, hb⟩
    | clock | tracker =>
      obtain ⟨rfl, -⟩ := Prod.mk.inj (Option.some.inj h)
      exact .stays (by simp [blockProposal]) rfl fun _ p => rfl
    | attestation b =>
      obtain ⟨p, -, he⟩ := Option.map_eq_some_iff.mp h
      obtain ⟨rfl, -⟩ := Prod.mk.inj he
      exact .stays (by simp [blockProposal]) rfl fun _ p => rfl
  sameSlot {s a s' o} h hne := by
    rcases Services.blockProposal_of_step h with ⟨b, o', rfl, hb, -, hnow⟩ | ⟨he, -⟩
    · exact congrArg c.currentSlot hnow
    · exact absurd (congrArg BlockProposalService.State.marks he) hne
  fresh {s a s' o id p} h ha := by
    cases a with
    | blockProposal b =>
      obtain ⟨q, hq, he⟩ := Option.map_eq_some_iff.mp h
      obtain ⟨rfl, -⟩ := Prod.mk.inj he
      have hnew := BlockProposalService.new_of_attempt ha hq
      exact ⟨by simp [blockProposal, BlockProposalService.State.marks, flights, hnew], rfl⟩
    | _ => simp [blockProposal] at ha
  calls {a x} ha hno := by
    obtain ⟨b, rfl, hupdates⟩ := hno
    cases b with
    | updateDuties | dutiesResponse | updateFailed =>
      simp [blockProposal, BlockProposalService.Action.attempt] at ha
    | _ => exact hupdates
  fails {s id p} hget := by
    obtain ⟨t, ht, hmarks⟩ := BlockProposalService.failed_of_flight c s.now hget
    refine ⟨.blockProposal (.failed id), { s with blockProposal := t }, [], ?_, rfl, ?_, hmarks⟩
    · simp [blockProposal, Services.step, ht]
    · rintro ⟨b, hb, hupdates⟩
      obtain rfl := Services.Action.blockProposal.inj hb
      exact hupdates
  hasDuty_congr he := BlockProposalService.hasDutyForSlot_congr he
  performs_of_step {s a s' o p} h hstarted hduties hp := by
    obtain ⟨hrefuses, hlate, duty, hduty⟩ := hp
    exact ⟨fun hr => hrefuses (refuses_stays h hr), lt_of_eq_of_lt hstarted.symm hlate, duty,
      (BlockProposalService.dutyForSlot_congr hduties).symm.trans hduty⟩
  tested {s a s' o id} h ha hp := by
    cases a with
    | blockProposal b =>
      obtain ⟨q, hq, he⟩ := Option.map_eq_some_iff.mp h
      obtain ⟨rfl, -⟩ := Prod.mk.inj he
      have hfalse := BlockProposalService.hasDutyForSlot_of_performs ha hq hp
      exact fun hnone => Option.some_ne_none false (hfalse.symm.trans hnone)
    | _ => simp [blockProposal] at ha

lemma syncCommittee_lawful (b : SyncBeaconChain) : (syncCommittee b).Lawful where
  nonneg s := b.currentSlot_nonneg s.time
  effect {s a s' o} h := (SyncCommitteeService.runsEffect_of_step h).imp fun kept hno p => by
    have he := kept hno
    simp [syncCommittee, SyncCommitteeService.State.dutiesOf, he]
  sameSlot {s a s' o} h hne := congrArg b.currentSlot (SyncCommitteeService.time_of_step h hne)
  fresh {s a s' o id p} h ha := by
    have hnew := SyncCommitteeService.new_of_attempt ha h
    refine ⟨by simp [syncCommittee, SyncCommitteeService.State.marks, flights, hnew], ?_⟩
    exact congrArg b.currentSlot (SyncCommitteeService.time_of_attempt ha h)
  calls {a x} ha hno := by
    cases a with
    | updateDuties | dutiesResponse | updateFailed =>
      simp [syncCommittee, SyncCommitteeService.Action.attempt] at ha
    | _ => exact hno
  fails {s id p} hget := by
    obtain ⟨t, ht, hmarks⟩ := SyncCommitteeService.produceFailed_of_flight (b := b) hget
    exact ⟨.produceFailed id, t, [], ht, rfl, not_false, hmarks⟩
  hasDuty_congr {s s' p} he := by
    obtain ⟨hduties, -⟩ := Prod.mk.inj he
    exact congrArg some (SyncCommitteeService.hasDutyForSlot_congr hduties)
  performs_of_step {s a s' o p} h hstarted he hp := by
    obtain ⟨-, hduties⟩ := Prod.mk.inj he
    obtain ⟨hlate, hmembers⟩ := hp
    have hsame := SyncCommitteeService.syncCommitteeMembers_congr hduties
    exact ⟨hstarted.symm.le.trans hlate, hsame ▸ hmembers⟩
  tested _ _ _ := by simp [syncCommittee]

/-- The services a shutdown waits for. -/
def dutyServices (c : Context) (b : SyncBeaconChain) : List Service :=
  [attestation c, blockProposal c, syncCommittee b]

lemma lawful_of_mem {c : Context} {b : SyncBeaconChain} {d : Service}
    (hd : d ∈ dutyServices c b) : d.Lawful := by
  obtain rfl | rfl | rfl : d = attestation c ∨ d = blockProposal c ∨ d = syncCommittee b := by
    simpa [dutyServices] using hd
  · exact attestation_lawful c
  · exact blockProposal_lawful c
  · exact syncCommittee_lawful b

end Vero.DutyRuns
