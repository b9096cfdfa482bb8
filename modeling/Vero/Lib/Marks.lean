import Mathlib.Data.Int.Notation
import Mathlib.Logic.Function.Basic
import Mathlib.Order.Lattice

/-!
Overlapping runs, each of a position, and the two marks that are kept of them: the position of
the last run that started and that of the last one that finished.

The marks stand for the runs in flight as long as the runs come to their ends in turn.
-/

namespace Vero.Lib

structure Marks (ι : Type*) where
  started : ℤ
  finished : ℤ
  inFlight : ι → Option ℤ

namespace Marks

variable {ι : Type*} [DecidableEq ι] {m m' : Marks ι} {now now' : ℤ}

def start (m : Marks ι) (i : ι) (p : ℤ) : Marks ι :=
  { m with started := p, inFlight := Function.update m.inFlight i (some p) }

def finish (m : Marks ι) (i : ι) (p : ℤ) : Marks ι :=
  { m with finished := p, inFlight := Function.update m.inFlight i none }

lemma inFlight_start {i j : ι} {p : ℤ} :
    (m.start i p).inFlight j = if j = i then some p else m.inFlight j :=
  Function.update_apply _ _ _ _

lemma inFlight_finish {i j : ι} {p : ℤ} :
    (m.finish i p).inFlight j = if j = i then none else m.inFlight j :=
  Function.update_apply _ _ _ _

/-- Nothing happens to the runs, one starts at the position that is current, or one finishes. -/
inductive Move (m : Marks ι) (now : ℤ) : Marks ι → Prop
  | stay : Move m now m
  | start (i : ι) (new : m.inFlight i = none) : Move m now (m.start i now)
  | finish (i : ι) (p : ℤ) (get : m.inFlight i = some p) : Move m now (m.finish i p)

omit [DecidableEq ι]

/-- What the marks say: the last run that started is of the current position and goes on. -/
def Ongoing (m : Marks ι) (now : ℤ) : Prop := m.finished < m.started ∧ m.started = now

/-- A run of the position is in flight. -/
def Running (m : Marks ι) (p : ℤ) : Prop := ∃ i, m.inFlight i = some p

/-- A run starts at a position none has finished at yet. One finishes at a position no later
one has finished at, and if that is the current one, no other run of it is left. -/
structure InTurn (m : Marks ι) (now : ℤ) (m' : Marks ι) : Prop where
  starts : ∀ i p, m.inFlight i = none → m'.inFlight i = some p → m.finished < p
  finishes : ∀ i p, m.inFlight i = some p → m'.inFlight i = none →
    m.finished ≤ p ∧ (p = now → ∀ j, m.inFlight j = some p → j = i)

/-- The marks tell whether a run of the current position is in flight. -/
structure Exact (m : Marks ι) (now : ℤ) : Prop where
  finished_le : m.finished ≤ m.started
  started_le : m.started ≤ now
  inFlight_le : ∀ i p, m.inFlight i = some p → p ≤ m.started
  ongoing_iff : m.Ongoing now ↔ m.Running now

/-- Nothing was started, nothing is in flight. -/
def idle : Marks ι := ⟨-1, -1, fun _ => none⟩

lemma exact_idle (h : 0 ≤ now) : Exact (idle : Marks ι) now := by
  refine ⟨le_rfl, by change -1 ≤ now; omega, fun i p hi => by simp [idle] at hi, ?_⟩
  exact iff_of_false (fun ho => lt_irrefl _ ho.1) fun ⟨i, hi⟩ => by simp [idle] at hi

lemma Exact.later (h : Exact m now) (hle : now ≤ now') : Exact m now' := by
  have hstarted := h.started_le
  refine ⟨h.finished_le, hstarted.trans hle, h.inFlight_le, ?_⟩
  rcases hle.eq_or_lt with rfl | hlt
  · exact h.ongoing_iff
  · -- nothing is started at a later position
    refine iff_of_false (fun ho => ?_) fun ⟨i, hi⟩ => ?_
    · have heq := ho.2
      omega
    · have hp := h.inFlight_le i now' hi
      omega

lemma inTurn_stay (m : Marks ι) (now : ℤ) : InTurn m now m := by
  refine ⟨fun i p hi hi' => ?_, fun i p hi hi' => ?_⟩
  · simp [hi] at hi'
  · simp [hi] at hi'

variable [DecidableEq ι]

lemma inTurn_start_iff {i : ι} {p : ℤ} (new : m.inFlight i = none) :
    InTurn m now (m.start i p) ↔ m.finished < p := by
  refine ⟨fun h => h.starts i p new (by simp [inFlight_start]), fun h =>
    ⟨fun j q hj hj' => ?_, fun j q hj hj' => ?_⟩⟩
  · rw [inFlight_start] at hj'
    split_ifs at hj'
    · exact Option.some.inj hj' ▸ h
    · simp [hj] at hj'
  · rw [inFlight_start] at hj'
    split_ifs at hj'
    simp [hj] at hj'

lemma inTurn_finish_iff {i : ι} {p : ℤ} (get : m.inFlight i = some p) :
    InTurn m now (m.finish i p) ↔
      m.finished ≤ p ∧ (p = now → ∀ j, m.inFlight j = some p → j = i) := by
  refine ⟨fun h => h.finishes i p get (by simp [inFlight_finish]), fun h =>
    ⟨fun j q hj hj' => ?_, fun j q hj hj' => ?_⟩⟩
  · rw [inFlight_finish] at hj'
    split_ifs at hj'
    simp [hj] at hj'
  · rw [inFlight_finish] at hj'
    split_ifs at hj' with hji
    · subst hji
      obtain rfl : p = q := Option.some.inj (get.symm.trans hj)
      exact h
    · simp [hj] at hj'

/-- **One move.** The marks stay exact, and the finished mark does not fall, exactly where the
run that moves is in turn. -/
lemma Exact.move_iff (h : Exact m now) (hm : Move m now m') :
    (m'.Ongoing now ↔ m'.Running now) ∧ m.finished ≤ m'.finished ↔ InTurn m now m' := by
  cases hm with
  | stay => exact iff_of_true ⟨h.ongoing_iff, le_rfl⟩ (inTurn_stay m now)
  | start i new =>
    have hrunning : (m.start i now).Running now := ⟨i, by simp [inFlight_start]⟩
    rw [inTurn_start_iff new, iff_true_right hrunning]
    simp [Ongoing, start]
  | finish i p get =>
    have hp := h.inFlight_le i p get
    have hstarted := h.started_le
    rw [inTurn_finish_iff get]
    constructor
    · rintro ⟨hiff, hle⟩
      refine ⟨hle, ?_⟩
      rintro rfl k hk
      by_contra hne
      have hongoing := hiff.mpr ⟨k, by rw [inFlight_finish, if_neg hne, hk]⟩
      exact absurd hongoing.1 (not_lt.mpr hongoing.2.le)
    · rintro ⟨hle, honly⟩
      refine ⟨?_, hle⟩
      constructor
      · -- the last run started is not this one, so it was in flight and is
        rintro ⟨hlt, heq⟩
        have hlt : p < m.started := hlt
        have heq : m.started = now := heq
        obtain ⟨k, hk⟩ := h.ongoing_iff.mp ⟨by omega, heq⟩
        have hne : k ≠ i := by
          rintro rfl
          have hpk := Option.some.inj (get.symm.trans hk)
          omega
        exact ⟨k, by rw [inFlight_finish, if_neg hne, hk]⟩
      · rintro ⟨k, hk⟩
        rw [inFlight_finish] at hk
        split_ifs at hk with hki
        have hkle := h.inFlight_le k now hk
        have hne : p ≠ now := by
          rintro rfl
          exact hki (honly rfl k hk)
        exact ⟨by change p < m.started; omega, by change m.started = now; omega⟩

lemma Exact.move (h : Exact m now) (hm : Move m now m') (hturn : InTurn m now m') :
    Exact m' now := by
  obtain ⟨hiff, -⟩ := (h.move_iff hm).mpr hturn
  cases hm with
  | stay => exact h
  | start i new =>
    refine ⟨((inTurn_start_iff new).mp hturn).le, le_rfl, fun j q hj => ?_, hiff⟩
    rw [inFlight_start] at hj
    split_ifs at hj
    · exact (Option.some.inj hj).ge
    · exact (h.inFlight_le j q hj).trans h.started_le
  | finish i p get =>
    refine ⟨h.inFlight_le i p get, h.started_le, fun j q hj => ?_, hiff⟩
    rw [inFlight_finish] at hj
    split_ifs at hj
    exact h.inFlight_le j q hj

end Marks

end Vero.Lib
