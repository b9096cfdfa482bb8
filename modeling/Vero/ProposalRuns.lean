import Vero.BlockProposalSteps

/-!
The runs of `_propose_block` that are in flight, and what the service knows of them.

A run may outlast its slot, so there may be several. The service keeps the last slot one was
started for and the last slot one ended for.
-/

namespace Vero.BlockProposalService

open Lib SchemaBeaconAPI

variable {c : Context} {now : Moment} {s s' : State} {a : Action} {o : List Output}

/-- Some run of `_propose_block` has not ended. -/
def InFlight (s : State) : Prop := ∃ t ∈ s.slotTasks.values, t.phase.proposing

instance : Decidable (InFlight s) := inferInstanceAs (Decidable (∃ t ∈ _, _))

/-- The runs in flight are of different slots that were started, none of which is the last one
that ended. -/
structure Tracked (s : State) : Prop where
  completed : s.lastSlotDutyCompletedFor ≤ s.lastSlotDutyStartedFor
  started : ∀ id t, s.slotTasks.get id = some t → t.phase.proposing →
    t.slot ≤ s.lastSlotDutyStartedFor
  running : ∀ id t, s.slotTasks.get id = some t → t.phase.proposing →
    t.slot ≠ s.lastSlotDutyCompletedFor
  distinct : s.slotTasks.Distinct (fun t => t.phase.proposing) SlotTask.slot

lemma tracked_init (duties : Dict ℤ Duties) (roots : Dict ℤ Root) :
    Tracked (.init duties roots) :=
  ⟨le_rfl, by simp [State.init], by simp [State.init], by simp [State.init, Dict.Distinct]⟩

/-- A task that proposes no block, or goes on with the slot it proposed for. -/
lemma Tracked.set (h : Tracked s) {id : ℕ} (t' : SlotTask)
    (hfrom : t'.phase.proposing → ∃ t, s.slotTasks.get id = some t ∧ t.slot = t'.slot ∧
      t.phase.proposing)
    (started : s'.lastSlotDutyStartedFor = s.lastSlotDutyStartedFor)
    (completed : s'.lastSlotDutyCompletedFor = s.lastSlotDutyCompletedFor)
    (tasks : s'.slotTasks = s.slotTasks.set id t') : Tracked s' := by
  refine ⟨by rw [started, completed]; exact h.completed, ?_, ?_, ?_⟩
  all_goals rw [tasks]
  · rw [started]
    refine Dict.forall_set.mpr ⟨fun hp => ?_, fun i q _ => h.started i q⟩
    obtain ⟨t, ht, hslot, hp⟩ := hfrom hp
    exact hslot ▸ h.started id t ht hp
  · rw [completed]
    refine Dict.forall_set.mpr ⟨fun hp => ?_, fun i q _ => h.running i q⟩
    obtain ⟨t, ht, hslot, hp⟩ := hfrom hp
    exact hslot ▸ h.running id t ht hp
  · refine h.distinct.set fun hp i q hi hq hp' he => hi ?_
    obtain ⟨t, ht, hslot, hp⟩ := hfrom hp
    exact h.distinct i id q t hq ht hp' hp (he.trans hslot.symm)

lemma tracked_step (h : Tracked s) (hs : step c now s a = some (s', o)) : Tracked s' := by
  cases taskEffect_of_step hs with
  | frame started completed tasks =>
    refine ⟨by rw [started, completed]; exact h.completed, ?_, ?_, tasks ▸ h.distinct⟩
    · rw [tasks, started]
      exact h.started
    · rw [tasks, completed]
      exact h.running
  | idle id t' phase started completed tasks =>
    exact h.set t' (fun hp => by simp [phase] at hp) started completed tasks
  | moved id t phase' get proposing _ started completed tasks =>
    exact h.set { t with phase := phase' } (fun _ => ⟨t, get, rfl, proposing⟩) started completed
      tasks
  | signature id t phase' get unsigned _ started completed tasks =>
    have proposing := Phase.proposing_of_unsigned unsigned
    exact h.set { t with phase := phase' } (fun _ => ⟨t, get, rfl, proposing⟩) started completed
      tasks
  | ended id t phase' get proposing phase started completed tasks =>
    have hidle : ¬ phase'.proposing := by simp [phase]
    refine ⟨by rw [started, completed]; exact h.started id t get proposing, ?_, ?_, ?_⟩
    all_goals rw [tasks]
    · rw [started]
      exact Dict.forall_set.mpr ⟨fun hp => absurd hp hidle, fun i q _ => h.started i q⟩
    · rw [completed]
      refine Dict.forall_set.mpr ⟨fun hp => absurd hp hidle, fun i q hi hq hp he => hi ?_⟩
      exact h.distinct i id q t hq get hp proposing he
    · exact h.distinct.set fun hp => absurd hp hidle
  | started id t _ proposing later _ started completed tasks =>
    have hcompleted := h.completed
    refine ⟨by rw [started, completed]; omega, ?_, ?_, ?_⟩
    all_goals rw [tasks]
    · rw [started]
      refine Dict.forall_set.mpr ⟨fun _ => le_rfl, fun i q _ hq hp => ?_⟩
      exact (h.started i q hq hp).trans later.le
    · rw [completed]
      refine Dict.forall_set.mpr ⟨fun _ => by omega, fun i q _ => h.running i q⟩
    · refine h.distinct.set fun _ i q _ hq hp he => ?_
      have hle := h.started i q hq hp
      omega

/-- Where nothing is in flight, something is after a step exactly where the step starts a run. -/
lemma inFlight_step (h : ¬ InFlight s) (hs : step c now s a = some (s', o)) :
    InFlight s' ↔ starts o ≠ [] := by
  have hnone : ∀ id t, s.slotTasks.get id = some t → ¬ t.phase.proposing := fun id t hget hp =>
    h ⟨t, Dict.mem_values_iff.mpr ⟨id, hget⟩, hp⟩
  have hset : ∀ id t', s'.slotTasks = s.slotTasks.set id t' →
      (InFlight s' ↔ t'.phase.proposing) := by
    intro id t' htasks
    unfold InFlight
    simp only [Dict.mem_values_iff, htasks, Dict.get_set]
    constructor
    · rintro ⟨t, ⟨i, hi⟩, hp⟩
      split_ifs at hi
      · exact Option.some.inj hi ▸ hp
      · exact absurd hp (hnone i t hi)
    · exact fun hp => ⟨t', ⟨id, by simp⟩, hp⟩
  cases taskEffect_of_step hs with
  | frame _ _ tasks hstarts =>
    have hsame : ¬ InFlight s' := by
      unfold InFlight
      rw [tasks]
      exact h
    simp [hstarts, hsame]
  | idle id t' phase _ _ tasks hstarts => simp [hset id t' tasks, phase, hstarts]
  | started id t _ proposing _ _ _ _ tasks hstarts => simp [hset id t tasks, proposing, hstarts]
  | moved id t _ get proposing => exact absurd proposing (hnone id t get)
  | signature id t _ get unsigned =>
    exact absurd (Phase.proposing_of_unsigned unsigned) (hnone id t get)
  | ended id t _ get proposing => exact absurd proposing (hnone id t get)

end Vero.BlockProposalService
