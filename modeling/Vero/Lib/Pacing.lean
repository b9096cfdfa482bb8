import Mathlib.Algebra.Order.Group.Basic
import Mathlib.Algebra.Order.Monoid.Unbundled.Basic
import Mathlib.Data.List.Pairwise
import Mathlib.Tactic.Abel

/-!
Times with a gap between each and the next, and how many of them a span of time has room for.
-/

namespace Vero.Lib.Pacing

variable {K : Type*} [AddCommGroup K] [LinearOrder K] [IsOrderedAddMonoid K]
variable {gap a b t : K} {times : List K}

/-- Each time comes at least the gap after the one before it. -/
def Spaced (gap : K) (times : List K) : Prop := times.IsChain fun t t' => t + gap ≤ t'

/-- Not only neighbours are apart. -/
lemma Spaced.pairwise (h : Spaced gap times) (hgap : 0 ≤ gap) :
    times.Pairwise fun t t' => t + gap ≤ t' := by
  have htrans : IsTrans K fun t t' => t + gap ≤ t' := by
    refine ⟨fun t t' t'' h h' => ?_⟩
    calc t + gap ≤ t' := h
      _ ≤ t' + gap := le_add_of_nonneg_right hgap
      _ ≤ t'' := h'
  exact List.isChain_iff_pairwise.mp h

/-- As many gaps as there are times, but for one, fit between the first and the last. -/
lemma length_nsmul_le (h : times.Pairwise fun t t' => t + gap ≤ t') (hgap : 0 ≤ gap)
    (hab : a ≤ b) (hmem : ∀ t ∈ times, a ≤ t ∧ t ≤ b) : times.length • gap ≤ b - a + gap := by
  induction times generalizing a with
  | nil =>
    rw [List.length_nil, zero_nsmul]
    exact add_nonneg (sub_nonneg.mpr hab) hgap
  | cons t times ih =>
    obtain ⟨hhead, htail⟩ := List.pairwise_cons.mp h
    obtain ⟨hat, htb⟩ := hmem t List.mem_cons_self
    rw [List.length_cons, succ_nsmul]
    refine add_le_add_left ?_ gap
    cases times with
    | nil =>
      rw [List.length_nil, zero_nsmul]
      exact sub_nonneg.mpr hab
    | cons t' times =>
      -- the rest lies between the second time and `b`
      have hb : t + gap ≤ b :=
        (hhead t' List.mem_cons_self).trans (hmem t' (by simp)).2
      have hrest := ih htail hb fun u hu =>
        ⟨hhead u hu, (hmem u (List.mem_cons_of_mem _ hu)).2⟩
      calc (t' :: times).length • gap ≤ b - (t + gap) + gap := hrest
        _ = b - t := by abel
        _ ≤ b - a := sub_le_sub_left hat b

/-- **How many times a span has room for.** -/
theorem Spaced.count_le (h : Spaced gap times) (hgap : 0 ≤ gap) (hab : a ≤ b) :
    (times.filter fun t => a ≤ t ∧ t ≤ b).length • gap ≤ b - a + gap := by
  refine length_nsmul_le ((h.pairwise hgap).sublist List.filter_sublist) hgap hab fun t ht => ?_
  exact of_decide_eq_true (List.mem_filter.mp ht).2

end Vero.Lib.Pacing
