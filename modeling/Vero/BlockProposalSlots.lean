import Mathlib.Data.Int.ConditionallyCompleteOrder
import Vero.BlockProposalSteps

/-!
The slots `BlockProposalService` proposes in, and the blocks it signs for them.
-/

namespace Vero.BlockProposalService

open Lib Lib.Runs SchemaBeaconAPI

variable {c : Context} {now : Moment} {s s' : State} {a : Action} {o os : List Output}

/-- The slots of the starts rise, and a task with a block to sign is the only one of a slot
that was started and not signed for. -/
structure Orderly (s : State) (os : List Output) : Prop where
  rising : Rising (starts os) s.lastSlotDutyStartedFor
  nodup : (signed os).Nodup
  started : ∀ slot ∈ signed os, slot ∈ starts os
  tasks : ∀ id t, s.slotTasks.get id = some t → t.phase.unsigned →
    t.slot ∈ starts os ∧ t.slot ∉ signed os
  distinct : s.slotTasks.Distinct (fun t => t.phase.unsigned) SlotTask.slot

lemma orderly_init (duties : Dict ℤ Duties) (roots : Dict ℤ Root) :
    Orderly (.init duties roots) [] where
  rising := .nil _
  nodup := by simp
  started := by simp
  tasks := by simp [State.init]
  distinct := by simp [State.init, Dict.Distinct]

lemma orderly_step (h : Orderly s os) (hs : step c now s a = some (s', o)) :
    Orderly s' (os ++ o) := by
  cases effect_of_step hs with
  | frame last tasks hstarts hsigned =>
    refine ⟨?_, ?_, ?_, ?_, ?_⟩
    · simpa [hstarts, last] using h.rising
    · simpa [hsigned] using h.nodup
    · simpa [hstarts, hsigned] using h.started
    · simpa [hstarts, hsigned, tasks] using h.tasks
    · exact tasks ▸ h.distinct
  | moved id t' unsigned last tasks hstarts hsigned =>
    refine ⟨by simpa [hstarts, last] using h.rising, by simpa [hsigned] using h.nodup,
      by simpa [hstarts, hsigned] using h.started, ?_, ?_⟩
    all_goals rw [tasks]
    · rw [starts_append, signed_append, hstarts, hsigned, List.append_nil, List.append_nil]
      refine Dict.forall_set.mpr ⟨fun hphase => ?_, fun i q _ => h.tasks i q⟩
      obtain ⟨t, ht, hslot, ht'⟩ := unsigned hphase
      exact hslot ▸ h.tasks id t ht ht'
    · refine h.distinct.set fun hphase i q hi hq hphase' he => hi ?_
      obtain ⟨t, ht, hslot, ht'⟩ := unsigned hphase
      exact h.distinct i id q t hq ht hphase' ht' (he.trans hslot.symm)
  | signature id t t' get unsigned unsigned' last tasks hstarts hsigned =>
    obtain ⟨hstarted, hnew⟩ := h.tasks id t get unsigned
    -- the task signed for is no longer one that has a block to sign
    have haway : ¬ t'.phase.unsigned := by simp [unsigned']
    refine ⟨by simpa [hstarts, last] using h.rising, ?_, ?_, ?_, ?_⟩
    · rw [signed_append, hsigned]
      exact h.nodup.append (List.nodup_singleton _) (List.disjoint_singleton.mpr hnew)
    · intro slot hslot
      rw [starts_append, hstarts, List.append_nil]
      rw [signed_append, hsigned] at hslot
      rcases List.mem_append.mp hslot with hslot | hslot
      · exact h.started slot hslot
      · exact List.mem_singleton.mp hslot ▸ hstarted
    all_goals rw [tasks]
    · rw [starts_append, signed_append, hstarts, hsigned, List.append_nil]
      refine Dict.forall_set.mpr ⟨fun hphase => absurd hphase haway, fun i q hi hq hphase => ?_⟩
      obtain ⟨hin, hout⟩ := h.tasks i q hq hphase
      refine ⟨hin, fun hm => ?_⟩
      rcases List.mem_append.mp hm with hm | hm
      · exact hout hm
      · exact hi (h.distinct i id q t hq get hphase unsigned (List.mem_singleton.mp hm))
    · exact h.distinct.set fun hphase => absurd hphase haway
  | started id t _ later _ last tasks hstarts hsigned =>
    -- the slot is beyond every slot started before
    have hnew := h.rising.notMem later
    refine ⟨?_, by simpa [hsigned] using h.nodup, ?_, ?_, ?_⟩
    · rw [starts_append, hstarts, last]
      exact h.rising.snoc later
    · intro slot hslot
      rw [signed_append, hsigned, List.append_nil] at hslot
      simp [h.started slot hslot]
    all_goals rw [tasks]
    · rw [starts_append, signed_append, hstarts, hsigned, List.append_nil]
      refine Dict.forall_set.mpr ⟨fun _ => ⟨by simp, fun hm => hnew (h.started _ hm)⟩, ?_⟩
      intro i q _ hq hphase
      obtain ⟨hin, hout⟩ := h.tasks i q hq hphase
      exact ⟨List.mem_append_left _ hin, hout⟩
    · exact h.distinct.set fun _ i q _ hq hphase he => hnew (he ▸ (h.tasks i q hq hphase).1)

/-- `_propose_block` starts behind its guards only. -/
lemma start_guarded (hs : step c now s a = some (s', o)) {slot : ℤ} (h : slot ∈ starts o) :
    ¬ c.refuses now ∧ slot = c.currentSlot now := by
  cases effect_of_step hs with
  | frame _ _ hstarts | moved _ _ _ _ _ hstarts | signature _ _ _ _ _ _ _ _ hstarts =>
    simp [hstarts] at h
  | started id t accepts _ current _ _ hstarts =>
    rw [hstarts, List.mem_singleton] at h
    exact ⟨accepts, h.trans current⟩

/-- A signature is asked for by a task, so its slot was started. -/
lemma signed_started (ho : Orderly s os) (hs : step c now s a = some (s', o)) {slot : ℤ}
    (hslot : slot ∈ signed o) : slot ∈ starts os := by
  cases effect_of_step hs with
  | frame _ _ _ hsigned | moved _ _ _ _ _ _ hsigned | started _ _ _ _ _ _ _ _ hsigned =>
    simp [hsigned] at hslot
  | signature id t t' get unsigned _ _ _ _ hsigned =>
    rw [hsigned, List.mem_singleton] at hslot
    exact hslot ▸ (ho.tasks id t get unsigned).1

end Vero.BlockProposalService
