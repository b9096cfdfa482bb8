import Mathlib.Algebra.Order.Floor.Ring
import Mathlib.Data.Int.ConditionallyCompleteOrder
import Mathlib.Order.GaloisConnection.Defs

/-!
Time cut into periods of one length, numbered from 0 on.

Before the origin the clock is taken to stand in period 0. From there on the start of a period
and the period of a time are the two sides of a Galois connection.
-/

namespace Vero.Lib.Periods

variable (origin : ℤ) (length : ℕ) {R : Type*} [Ring R] [LinearOrder R] [FloorRing R]

def start (k : ℤ) : ℤ := origin + k * length

/-- The period of a time. -/
def index (t : R) : ℤ := max 0 (⌊t⌋ - origin) / length

variable {origin length} {k : ℤ} {t t' : R}

lemma origin_le_start (h : 0 ≤ k) : origin ≤ start origin length k := by
  have hmul : 0 ≤ k * length := Int.mul_nonneg h (Int.natCast_nonneg _)
  unfold start
  omega

lemma index_nonneg (t : R) : 0 ≤ index origin length t :=
  Int.ediv_nonneg (le_max_left _ _) (Int.natCast_nonneg _)

section

variable (hlength : 0 < length)
include hlength

lemma index_mono (h : t ≤ t') : index origin length t ≤ index origin length t' := by
  have hpos : (0 : ℤ) < length := by exact_mod_cast hlength
  have hfloor : ⌊t⌋ ≤ ⌊t'⌋ := Int.le_floor.mpr ((Int.floor_le t).trans h)
  exact Int.ediv_le_ediv hpos (by omega)

/-- A period that has started is not ahead of the clock, also before the origin. -/
lemma le_index (h : start origin length k ≤ t) : k ≤ index origin length t := by
  have hpos : (0 : ℤ) < length := by exact_mod_cast hlength
  have hfloor : start origin length k ≤ ⌊t⌋ := Int.le_floor.mpr h
  unfold start at hfloor
  unfold index
  rw [Int.le_ediv_iff_mul_le hpos]
  omega

lemma le_index_iff (ht : origin ≤ t) :
    k ≤ index origin length t ↔ start origin length k ≤ t := by
  refine ⟨fun h => ?_, le_index hlength⟩
  have hpos : (0 : ℤ) < length := by exact_mod_cast hlength
  have horigin : origin ≤ ⌊t⌋ := Int.le_floor.mpr ht
  unfold index at h
  rw [Int.le_ediv_iff_mul_le hpos] at h
  apply Int.le_floor.mp
  unfold start
  omega

/-- When the next period has started, the clock has gone on to a later one. -/
lemma index_lt_of_start_succ_le (h : start origin length (index origin length t + 1) ≤ t') :
    index origin length t < index origin length t' := by
  have hle := le_index hlength h
  omega

/-- **The connection.** -/
lemma gc [IsStrictOrderedRing R] : GaloisConnection
    (fun k : Set.Ici (0 : ℤ) =>
      (⟨start origin length k, Int.cast_le.mpr (origin_le_start k.2)⟩ : Set.Ici (origin : R)))
    (fun t => ⟨index origin length t.1, index_nonneg _⟩) :=
  fun _ t => (le_index_iff hlength t.2).symm

lemma start_index_le [IsStrictOrderedRing R] (ht : origin ≤ t) :
    start origin length (index origin length t) ≤ t :=
  (gc hlength).l_u_le ⟨t, ht⟩

end

end Vero.Lib.Periods
